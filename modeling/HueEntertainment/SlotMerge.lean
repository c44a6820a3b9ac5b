import HueEntertainment.LightCommand

/-! A light behind a slot that merges the commands it has not sent yet. What the merging of commands
can change in the light, and what it cannot, whenever the slot is sent. -/

namespace HueEntertainment.SlotMerge
open LightCommand PyValue

inductive Color where
  | xy (x y : PyFloat)
  | hs (hue sat : PyFloat)
  | rgb (r g b : Nat)
  | kelvin (kelvin : ℤ)
  deriving DecidableEq, Repr

inductive ColorKind where
  | xy | hs | rgb | kelvin
  deriving DecidableEq, Repr

def Color.kind : Color → ColorKind
  | .xy _ _ => .xy
  | .hs _ _ => .hs
  | .rgb _ _ _ => .rgb
  | .kelvin _ => .kelvin

/-- What a call can see and change of a light; a value Home Assistant does not report is `none`. -/
structure Light where
  on : Bool
  brightness : Option ℤ
  color : Option Color
  deriving DecidableEq, Repr

/-- The colours that service data name. -/
def colors (data : ServiceData) : List Color :=
  (data.xyColor.map (fun color => Color.xy color.1 color.2)).toList ++
    (data.hsColor.map (fun color => Color.hs color.1 color.2)).toList ++
    (data.rgbColor.map (fun color => Color.rgb color.1 color.2.1 color.2.2)).toList ++
    (data.colorTempKelvin.map Color.kelvin).toList

-- what a call that names several colours makes of them is Home Assistant's own rule
variable (mixed : List Color → Color)

def colorNamed (data : ServiceData) : Option Color :=
  match colors data with
  | [] => none
  | [color] => some color
  | several => some (mixed several)

/-- A `light.turn_off` call sets off; a `light.turn_on` call sets on and what it names. -/
def Light.call (light : Light) (service : Service) (data : ServiceData) : Light :=
  match service with
  | .turnOff => { light with on := false }
  | .turnOn =>
      { on := true
        brightness := data.brightness <|> light.brightness
        color := colorNamed mixed data <|> light.color }

/-- The call that the drain loop makes of data with its service key. -/
def Light.sent (light : Light) (data : ServiceData) : Light :=
  light.call mixed (data.service.getD .turnOn) data

/-- A translated body that queues something; `explicit` when the body says `"on": true`. -/
structure Command where
  data : ServiceData
  explicit : Bool

def isOff (data : ServiceData) : Bool := data.service == some .turnOff

/-- The merge rule of `handle_light_command` on a slot that frames leave alone. -/
def put (slot : Option ServiceData) (command : Command) : Option ServiceData :=
  if isOff command.data then some command.data
  else match slot with
    | none => some command.data
    | some pending =>
        if isOff pending then (if command.explicit then some command.data else some pending)
        else some (pending.update command.data)

/-- The light once its slot has been sent too. -/
def Light.after (light : Light) (slot : Option ServiceData) : Light := slot.elim light (light.sent mixed)

/-- The light after each command, the newest first, was sent on its own. -/
def Light.oneByOne (light : Light) (commands : List Command) : Light :=
  commands.foldr (fun command light => light.sent mixed command.data) light

/-- The newest off may still be queued, since nothing newer says on. -/
def muted : List Command → Bool
  | [] => false
  | command :: older => isOff command.data || (!command.explicit && muted older)

/-- The commands that reach the light however they are merged: those after the newest off, from the
first one that says on; without an off all of them. -/
def lasting : List Command → List Command
  | [] => []
  | command :: older => if muted (command :: older) then [] else command :: lasting older

/-- Whether the light is on is certain, whatever was merged. -/
def onCertain : List Command → Bool
  | [] => true
  | command :: older => isOff command.data || !muted (command :: older)

/-- An attribute is certain when a lasting command names it, or no command at all does. -/
def Certain {α : Type} (named : ServiceData → Option α) (commands : List Command) : Prop :=
  (∃ command ∈ lasting commands, named command.data ≠ none) ∨ ∀ command ∈ commands, named command.data = none

def sinceOff (commands : List Command) : List Command :=
  commands.takeWhile (fun command => !isOff command.data)

/-- The colours that the commands after the newest off name are of one kind. -/
def OneKind (commands : List Command) : Prop :=
  ∃ kind, ∀ command ∈ sinceOff commands, ∀ color ∈ colors command.data, color.kind = kind

/-- The two lights agree on everything that the merging of these commands cannot change. -/
structure Agree (commands : List Command) (left right : Light) : Prop where
  on : onCertain commands = true → left.on = right.on
  brightness : Certain ServiceData.brightness commands → left.brightness = right.brightness
  color : OneKind commands → Certain (colorNamed mixed) commands → left.color = right.color

theorem Agree.common {commands : List Command} {left right middle : Light} (first : Agree mixed commands left middle)
    (second : Agree mixed commands right middle) : Agree mixed commands left right where
  on := fun certain => (first.on certain).trans (second.on certain).symm
  brightness := fun certain => (first.brightness certain).trans (second.brightness certain).symm
  color := fun one certain => (first.color one certain).trans (second.color one certain).symm

/-- What a command does to the slot. -/
inductive Puts (slot : Option ServiceData) (command : Command) : Option ServiceData → Prop where
  | off (off : isOff command.data = true) : Puts slot command (some command.data)
  | fresh (on : isOff command.data = false) (unmerged : ∀ pending, slot = some pending → isOff pending = true) :
      Puts slot command (some command.data)
  | dropped {pending : ServiceData} (on : isOff command.data = false) (queued : slot = some pending)
      (off : isOff pending = true) (implicit : command.explicit = false) : Puts slot command slot
  | merged {pending : ServiceData} (on : isOff command.data = false) (queued : slot = some pending)
      (wasOn : isOff pending = false) : Puts slot command (some (pending.update command.data))

theorem put_puts (slot : Option ServiceData) (command : Command) : Puts slot command (put slot command) := by
  unfold put
  cases off : isOff command.data with
  | true => exact .off off
  | false =>
    cases slot with
    | none => exact .fresh off (by simp)
    | some pending =>
      cases wasOff : isOff pending with
      | false => simpa [wasOff] using Puts.merged off rfl wasOff
      | true =>
        cases explicit : command.explicit with
        | true => simpa [wasOff] using Puts.fresh off (by simp [wasOff])
        | false => simpa [wasOff] using Puts.dropped off rfl wasOff explicit

theorem muted_lasting {commands : List Command} (loud : muted commands = true) : lasting commands = [] := by
  cases commands with
  | nil => rfl
  | cons command older => exact if_pos loud

/-- A command that does not name the attribute takes no certainty away from an older one. -/
theorem Certain.older {α : Type} {named : ServiceData → Option α} {command : Command} {older : List Command}
    (certain : Certain named (command :: older)) (unnamed : named command.data = none) : Certain named older := by
  rcases certain with ⟨lasts, member, names⟩ | none
  · unfold lasting at member
    by_cases loud : muted (command :: older) = true
    · rw [if_pos loud] at member
      cases member
    · rw [if_neg loud] at member
      rcases List.mem_cons.mp member with rfl | member
      · exact absurd unnamed names
      · exact .inl ⟨lasts, member, names⟩
  · exact .inr (fun command member => none command (List.mem_cons_of_mem _ member))

/-- Under a muting off only what no command names is certain. -/
theorem Certain.unnamed {α : Type} {named : ServiceData → Option α} {commands : List Command}
    (certain : Certain named commands) (loud : muted commands = true) :
    ∀ command ∈ commands, named command.data = none := by
  rcases certain with ⟨lasts, member, _⟩ | none
  · rw [muted_lasting loud] at member
    cases member
  · exact none

theorem sinceOff_on {command : Command} (on : isOff command.data = false) (older : List Command) :
    sinceOff (command :: older) = command :: sinceOff older := by
  unfold sinceOff
  rw [List.takeWhile_cons_of_pos (by simp [on])]

theorem OneKind.older {command : Command} {older : List Command} (one : OneKind (command :: older))
    (on : isOff command.data = false) : OneKind older := by
  obtain ⟨kind, same⟩ := one
  rw [sinceOff_on on] at same
  exact ⟨kind, fun command member => same command (List.mem_cons_of_mem _ member)⟩

theorem isOff_update {pending data : ServiceData} (on : isOff pending = false) (on' : isOff data = false) :
    isOff (pending.update data) = false := by
  unfold isOff ServiceData.update at *
  cases named : data.service with
  | none => simpa [named] using on
  | some service => simpa [named] using on'

/-- A merge names no colour that neither part names. -/
theorem colors_update {pending data : ServiceData} {color : Color} (member : color ∈ colors (pending.update data)) :
    color ∈ colors pending ∨ color ∈ colors data := by
  unfold colors ServiceData.update at *
  simp only [List.mem_append, Option.mem_toList, Option.map_eq_some_iff, Option.orElse_eq_some]
    at member ⊢
  grind

theorem colors_nil {data : ServiceData} : colorNamed mixed data = none ↔ colors data = [] := by
  unfold colorNamed
  rcases colors data with _ | ⟨first, _ | ⟨second, rest⟩⟩ <;> simp

/-- Data whose colours are of one kind has no other colour key. -/
theorem keys_ofKind {data : ServiceData} {kind : ColorKind} (same : ∀ color ∈ colors data, color.kind = kind) :
    (kind ≠ .xy → data.xyColor = none) ∧ (kind ≠ .hs → data.hsColor = none) ∧
      (kind ≠ .rgb → data.rgbColor = none) ∧ (kind ≠ .kelvin → data.colorTempKelvin = none) := by
  unfold colors at same
  have absent : ∀ {α : Type} (value : Option α) (color : α → Color),
      (∀ found, value = some found → (color found).kind = kind) →
      (∀ found, (color found).kind ≠ kind) → value = none := by
    intro α value color here elsewhere
    cases value with
    | none => rfl
    | some found => exact absurd (here found rfl) (elsewhere found)
  refine ⟨fun different => ?_, fun different => ?_, fun different => ?_, fun different => ?_⟩
  · exact absent _ (fun color => .xy color.1 color.2) (fun _ found => same _ (by simp [found])) (fun _ => different.symm)
  · exact absent _ (fun color => .hs color.1 color.2) (fun _ found => same _ (by simp [found])) (fun _ => different.symm)
  · exact absent _ (fun color => .rgb color.1 color.2.1 color.2.2) (fun _ found => same _ (by simp [found]))
      (fun _ => different.symm)
  · exact absent _ .kelvin (fun _ found => same _ (by simp [found])) (fun _ => different.symm)

/-- Where everything named is of one kind, a merge has the colour named last. -/
theorem colorNamed_update {pending data : ServiceData} {kind : ColorKind}
    (before : ∀ color ∈ colors pending, color.kind = kind) (now : ∀ color ∈ colors data, color.kind = kind) :
    colorNamed mixed (pending.update data) = (colorNamed mixed data <|> colorNamed mixed pending) := by
  obtain ⟨xy, hs, rgb, kelvin⟩ := keys_ofKind before
  obtain ⟨xy', hs', rgb', kelvin'⟩ := keys_ofKind now
  unfold colorNamed colors ServiceData.update
  cases kind with
  | xy =>
    simp only [hs (by simp), rgb (by simp), kelvin (by simp), hs' (by simp), rgb' (by simp), kelvin' (by simp)]
    cases pending.xyColor <;> cases data.xyColor <;> rfl
  | hs =>
    simp only [xy (by simp), rgb (by simp), kelvin (by simp), xy' (by simp), rgb' (by simp), kelvin' (by simp)]
    cases pending.hsColor <;> cases data.hsColor <;> rfl
  | rgb =>
    simp only [xy (by simp), hs (by simp), kelvin (by simp), xy' (by simp), hs' (by simp), kelvin' (by simp)]
    cases pending.rgbColor <;> cases data.rgbColor <;> rfl
  | kelvin =>
    simp only [xy (by simp), hs (by simp), rgb (by simp), xy' (by simp), hs' (by simp), rgb' (by simp)]
    cases pending.colorTempKelvin <;> cases data.colorTempKelvin <;> rfl

theorem sent_off {light : Light} {data : ServiceData} (off : isOff data = true) :
    light.sent mixed data = { light with on := false } := by
  have service : data.service = some .turnOff := by simpa [isOff] using off
  unfold Light.sent
  rw [service]
  rfl

theorem sent_on {light : Light} {data : ServiceData} (on : isOff data = false) :
    light.sent mixed data = { on := true
                              brightness := data.brightness <|> light.brightness
                              color := colorNamed mixed data <|> light.color } := by
  unfold Light.sent
  unfold isOff at on
  cases named : data.service with
  | none => rfl
  | some service =>
    cases service with
    | turnOn => rfl
    | turnOff => simp [named] at on

section Aspect
variable {α : Type} (value : Light → Option α) (named : ServiceData → Option α)

/-- An aspect of a light: a turn_on call overwrites it when it names it, a turn_off call never. -/
structure Aspect : Prop where
  on : ∀ light data, isOff data = false → value (light.sent mixed data) = (named data <|> value light)
  off : ∀ light data, isOff data = true → value (light.sent mixed data) = value light
  merged : ∀ pending data, named pending = none → named data = none → named (pending.update data) = none

/-- What no command named is as it was. -/
def Untouched (light : Light) (commands : List Command) (lit : Light) (slot : Option ServiceData) : Prop :=
  (∀ command ∈ commands, named command.data = none) →
    value lit = value light ∧ ∀ data, slot = some data → named data = none

variable {mixed value named} {light lit : Light} {commands : List Command} {slot : Option ServiceData}

theorem Aspect.after (aspect : Aspect mixed value named)
    (none : ∀ data, slot = some data → named data = none) : value (lit.after mixed slot) = value lit := by
  cases slot with
  | none => rfl
  | some data =>
    change value (lit.sent mixed data) = _
    cases off : isOff data with
    | true => exact aspect.off lit data off
    | false =>
      rw [aspect.on lit data off, none data rfl]
      rfl

theorem Aspect.oneByOne (aspect : Aspect mixed value named)
    (none : ∀ command ∈ commands, named command.data = none) : value (light.oneByOne mixed commands) = value light := by
  induction commands with
  | nil => rfl
  | cons command older ih =>
    have before := ih (fun command member => none command (List.mem_cons_of_mem _ member))
    have unnamed : ∀ data, some command.data = some data → named data = Option.none :=
      fun data same => Option.some.inj same ▸ none command List.mem_cons_self
    exact (aspect.after unnamed).trans before

theorem Untouched.put (aspect : Aspect mixed value named)
    (untouched : Untouched value named light commands lit slot) (command : Command) :
    Untouched value named light (command :: commands) lit (put slot command) := by
  intro none
  obtain ⟨same, unnamed⟩ := untouched (fun command member => none command (List.mem_cons_of_mem _ member))
  have now := none command List.mem_cons_self
  refine ⟨same, ?_⟩
  intro data left
  have puts := put_puts slot command
  rw [left] at puts
  cases puts with
  | off off => exact now
  | fresh on unmerged => exact now
  | dropped on queued off implicit => exact unnamed data rfl
  | merged on queued wasOn => exact aspect.merged _ _ (unnamed _ queued) now

theorem Untouched.send (aspect : Aspect mixed value named)
    (untouched : Untouched value named light commands lit slot) :
    Untouched value named light commands (lit.after mixed slot) none := by
  intro none
  obtain ⟨same, unnamed⟩ := untouched none
  refine ⟨(aspect.after unnamed).trans same, ?_⟩
  intro data left
  cases left

/-- A certain attribute stays what sending each command on its own makes of it. -/
theorem Aspect.put (aspect : Aspect mixed value named) (command : Command)
    (untouched : Untouched value named light commands lit slot)
    (queuedOff : ∀ data, slot = some data → isOff data = true → muted commands = true)
    (merges : ∀ pending, slot = some pending → isOff pending = false → isOff command.data = false →
      named (pending.update command.data) = (named command.data <|> named pending))
    (agree : isOff command.data = false → Certain named commands →
      value (lit.after mixed slot) = value (light.oneByOne mixed commands))
    (certain : Certain named (command :: commands)) :
    value (lit.after mixed (SlotMerge.put slot command)) = value (light.oneByOne mixed (command :: commands)) := by
  have last : light.oneByOne mixed (command :: commands) = (light.oneByOne mixed commands).sent mixed command.data := rfl
  rw [last]
  -- what the command does not name is as certain as before, and was the same
  have kept : isOff command.data = false → named command.data = none →
      value ((light.oneByOne mixed commands).sent mixed command.data) = value (lit.after mixed slot) := by
    intro on unnamed
    rw [aspect.on _ _ on, unnamed, agree on (certain.older unnamed)]
    rfl
  have named_over : isOff command.data = false → ∀ left, left = (named command.data <|> value (lit.after mixed slot)) →
      left = value ((light.oneByOne mixed commands).sent mixed command.data) := by
    rintro on left rfl
    cases names : named command.data with
    | none => exact (kept on names).symm
    | some new =>
      rw [aspect.on _ _ on, names]
      rfl
  have puts := put_puts slot command
  generalize SlotMerge.put slot command = left at puts
  cases puts with
  | off off =>
    have all := certain.unnamed (by simp [muted, off])
    have none : ∀ command ∈ commands, named command.data = none :=
      fun command member => all command (List.mem_cons_of_mem _ member)
    calc value (lit.sent mixed command.data)
      _ = value lit := aspect.off _ _ off
      _ = value light := (untouched none).1
      _ = value (light.oneByOne mixed commands) := (aspect.oneByOne none).symm
      _ = _ := (aspect.off _ _ off).symm
  | fresh on unmerged =>
    have before : value (lit.after mixed slot) = value lit := by
      cases slot with
      | none => rfl
      | some pending => exact aspect.off lit pending (unmerged pending rfl)
    apply named_over on
    rw [before]
    exact aspect.on lit command.data on
  | dropped on queued off implicit =>
    have loud : muted (command :: commands) = true := by
      simp [muted, implicit, queuedOff _ queued off]
    exact (kept on (certain.unnamed loud command List.mem_cons_self)).symm
  | @merged pending on queued wasOn =>
    have before : value (lit.after mixed slot) = (named pending <|> value lit) := by
      rw [queued]
      exact aspect.on lit pending wasOn
    apply named_over on
    rw [before]
    refine (aspect.on lit _ (isOff_update wasOn on)).trans ?_
    rw [merges pending queued wasOn on]
    cases named command.data <;> rfl

end Aspect

theorem brightness_aspect : Aspect mixed Light.brightness ServiceData.brightness where
  on := fun light data on => by rw [sent_on mixed on]
  off := fun light data off => by rw [sent_off mixed off]
  merged := fun pending data before now => by simp [ServiceData.update, before, now]

theorem color_aspect : Aspect mixed Light.color (colorNamed mixed) where
  on := fun light data on => by rw [sent_on mixed on]
  off := fun light data off => by rw [sent_off mixed off]
  merged := by
    intro pending data before now
    rw [colors_nil] at before now ⊢
    apply List.eq_nil_iff_forall_not_mem.mpr
    intro color member
    rcases colors_update member with old | new
    · rw [before] at old
      cases old
    · rw [now] at new
      cases new

/-- The light and the slot that commands have left, from a light and an empty slot. -/
structure Tracks (light : Light) (commands : List Command) (lit : Light) (slot : Option ServiceData) : Prop where
  queuedOff : ∀ data, slot = some data → isOff data = true → muted commands = true
  recent : ∀ data, slot = some data → isOff data = false →
    ∀ color ∈ colors data, ∃ command ∈ sinceOff commands, color ∈ colors command.data
  brightness : Untouched Light.brightness ServiceData.brightness light commands lit slot
  color : Untouched Light.color (colorNamed mixed) light commands lit slot
  agree : Agree mixed commands (lit.after mixed slot) (light.oneByOne mixed commands)

variable {mixed} {light lit : Light} {commands : List Command} {slot : Option ServiceData}

theorem Tracks.start (light : Light) : Tracks mixed light [] light none where
  queuedOff := fun data left => by cases left
  recent := fun data left => by cases left
  brightness := fun _ => ⟨rfl, fun data left => by cases left⟩
  color := fun _ => ⟨rfl, fun data left => by cases left⟩
  agree := ⟨fun _ => rfl, fun _ => rfl, fun _ _ => rfl⟩

theorem Tracks.send (tracks : Tracks mixed light commands lit slot) :
    Tracks mixed light commands (lit.after mixed slot) none where
  queuedOff := fun data left => by cases left
  recent := fun data left => by cases left
  brightness := tracks.brightness.send (brightness_aspect mixed)
  color := tracks.color.send (color_aspect mixed)
  agree := tracks.agree

theorem Tracks.put (tracks : Tracks mixed light commands lit slot) (command : Command) :
    Tracks mixed light (command :: commands) lit (put slot command) where
  queuedOff := by
    intro data left off
    have puts := put_puts slot command
    rw [left] at puts
    cases puts with
    | off off => simp [muted, off]
    | fresh on unmerged =>
      rw [on] at off
      cases off
    | dropped on queued off' implicit => simp [muted, implicit, tracks.queuedOff data rfl off]
    | merged on queued wasOn =>
      rw [isOff_update wasOn on] at off
      cases off
  recent := by
    intro data left on color member
    have puts := put_puts slot command
    rw [left] at puts
    cases puts with
    | off off =>
      rw [on] at off
      cases off
    | fresh _ unmerged =>
      rw [sinceOff_on on]
      exact ⟨command, List.mem_cons_self, member⟩
    | dropped _ queued off implicit =>
      obtain rfl := Option.some.inj queued
      rw [on] at off
      cases off
    | merged on' queued wasOn =>
      rw [sinceOff_on on']
      rcases colors_update member with old | new
      · obtain ⟨older, among, names⟩ := tracks.recent _ queued wasOn color old
        exact ⟨older, List.mem_cons_of_mem _ among, names⟩
      · exact ⟨command, List.mem_cons_self, new⟩
  brightness := tracks.brightness.put (brightness_aspect mixed) command
  color := tracks.color.put (color_aspect mixed) command
  agree := by
    constructor
    · intro certain
      have last : light.oneByOne mixed (command :: commands) = (light.oneByOne mixed commands).sent mixed command.data :=
        rfl
      rw [last]
      have puts := put_puts slot command
      generalize SlotMerge.put slot command = left at puts
      cases puts with
      | off off =>
        rw [sent_off mixed off]
        change (lit.sent mixed command.data).on = false
        rw [sent_off mixed off]
      | fresh on unmerged =>
        rw [sent_on mixed on]
        change (lit.sent mixed command.data).on = true
        rw [sent_on mixed on]
      | dropped on queued off implicit =>
        simp [onCertain, muted, on, implicit, tracks.queuedOff _ queued off] at certain
      | @merged pending on queued wasOn =>
        rw [sent_on mixed on]
        change (lit.sent mixed (pending.update command.data)).on = true
        rw [sent_on mixed (isOff_update wasOn on)]
    · intro certain
      refine (brightness_aspect mixed).put command tracks.brightness tracks.queuedOff ?_ ?_ certain
      · exact fun _ _ _ _ => rfl
      · exact fun _ certain => tracks.agree.brightness certain
    · intro one certain
      refine (color_aspect mixed).put command tracks.color tracks.queuedOff ?_ ?_ certain
      · intro pending queued wasOn on
        obtain ⟨kind, same⟩ := one
        rw [sinceOff_on on] at same
        refine @colorNamed_update mixed pending command.data kind ?_ ?_
        · intro color member
          obtain ⟨older, among, names⟩ := tracks.recent pending queued wasOn color member
          exact same older (List.mem_cons_of_mem _ among) color names
        · exact same command List.mem_cons_self
      · exact fun on certain => tracks.agree.color (one.older on) certain

/-- An xy colour and a colour temperature merge into the same call in either order, so no rule for
such a call can keep both orders. -/
example (x y : PyFloat) (kelvin : ℤ) :
    put (put none ⟨{ service := some .turnOn, xyColor := some (x, y) }, false⟩)
        ⟨{ service := some .turnOn, colorTempKelvin := some kelvin }, false⟩ =
      put (put none ⟨{ service := some .turnOn, colorTempKelvin := some kelvin }, false⟩)
        ⟨{ service := some .turnOn, xyColor := some (x, y) }, false⟩ := rfl

end HueEntertainment.SlotMerge
