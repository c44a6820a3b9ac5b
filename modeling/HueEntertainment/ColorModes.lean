import HueEntertainment.EngineSlots
import HueEntertainment.SlotMerge

/-! The colour modes in one light service call. Each v1 body and each channel of a frame names at most one
colour, but the data of several v1 bodies meet in one slot, where no key of one colour mode removes those
of another. -/

namespace HueEntertainment.ColorModes
open HueStream LightCommand PyValue Entertainment EngineSteps EngineFrames DrainSteps EngineMoves EngineHistory
  EngineSlots SlotMerge Runs

/-- The data has at most one colour key, and an off has neither a colour nor a brightness. -/
structure Consistent (data : ServiceData) : Prop where
  single : (colors data).length ≤ 1
  off : data.service = some .turnOff → colors data = [] ∧ data.brightness = none

/-- The call has at most one colour key, and a `turn_off` call neither a colour nor a brightness. -/
structure CallConsistent (call : Call) : Prop where
  single : (colors call.data).length ≤ 1
  off : call.service = .turnOff → colors call.data = [] ∧ call.data.brightness = none

/-- The step is a body, for a light that can take it now, that names a colour of another kind than the
queued data it merges into. -/
def MixesModes (s : Engine) : Event → Prop
  | .command lightId body => s.suppressed = false ∧ lightId ∈ s.channels ∧
      match v1StateToServiceData body with
      | .ok data => ∃ color ∈ colors data, ∃ before ∈ colors (s.mapping lightId).queued.1, color.kind ≠ before.kind
      | .error _ => False
  | _ => False

def KeepsModes (s : Engine) (event : Event) : Prop := ¬MixesModes s event

instance (s : Engine) : (event : Event) → Decidable (MixesModes s event)
  | .command lightId body =>
      have : Decidable (match v1StateToServiceData body with
          | .ok data => ∃ color ∈ colors data, ∃ before ∈ colors (s.mapping lightId).queued.1, color.kind ≠ before.kind
          | .error _ => False) :=
        match v1StateToServiceData body with
        | .ok data => inferInstanceAs (Decidable (∃ color ∈ colors data,
            ∃ before ∈ colors (s.mapping lightId).queued.1, color.kind ≠ before.kind))
        | .error _ => .isFalse not_false
      inferInstanceAs (Decidable (_ ∧ _ ∧ _))
  | .frame _ | .snapshot | .restore | .pause _ | .resume | .release _ | .fire _ | .drain .. | .drained _
  | .reproduced .. | .tick _ | .setState .. => .isFalse not_false

instance (s : Engine) (event : Event) : Decidable (KeepsModes s event) :=
  inferInstanceAs (Decidable ¬MixesModes s event)

theorem colors_single {data : ServiceData} (kind : ColorKind) (same : ∀ color ∈ colors data, color.kind = kind) :
    (colors data).length ≤ 1 := by
  obtain ⟨xy, hs, rgb, kelvin⟩ := keys_ofKind same
  unfold colors
  cases kind with
  | xy =>
    rw [hs (by simp), rgb (by simp), kelvin (by simp)]
    cases data.xyColor <;> simp
  | hs =>
    rw [xy (by simp), rgb (by simp), kelvin (by simp)]
    cases data.hsColor <;> simp
  | rgb =>
    rw [xy (by simp), hs (by simp), kelvin (by simp)]
    cases data.rgbColor <;> simp
  | kelvin =>
    rw [xy (by simp), hs (by simp), rgb (by simp)]
    cases data.colorTempKelvin <;> simp

theorem kind_of_single {data : ServiceData} (single : (colors data).length ≤ 1) {color other : Color}
    (member : color ∈ colors data) (member' : other ∈ colors data) : color = other := by
  rcases found : colors data with _ | ⟨first, _ | ⟨second, rest⟩⟩
  · rw [found] at member
    cases member
  · rw [found] at member member'
    rw [List.mem_singleton.mp member, List.mem_singleton.mp member']
  · rw [found] at single
    simp at single

/-- Data of one colour each, of the same kind if both have one, merge to data of one colour. -/
theorem colors_update_single {pending data : ServiceData} (before : (colors pending).length ≤ 1)
    (now : (colors data).length ≤ 1)
    (same : ∀ color ∈ colors data, ∀ queued ∈ colors pending, color.kind = queued.kind) :
    (colors (pending.update data)).length ≤ 1 := by
  rcases found : colors (pending.update data) with _ | ⟨first, rest⟩
  · simp
  · rw [← found]
    have member : first ∈ colors (pending.update data) := by rw [found]; exact List.mem_cons_self
    apply colors_single first.kind
    intro color later
    rcases colors_update member with old | new <;> rcases colors_update later with old' | new'
    · rw [kind_of_single before old old']
    · exact same color new' first old
    · exact (same first new color old').symm
    · rw [kind_of_single now new new']

theorem colors_nil_iff {data : ServiceData} : colors data = [] ↔
    data.xyColor = none ∧ data.hsColor = none ∧ data.rgbColor = none ∧ data.colorTempKelvin = none := by
  unfold colors
  simp only [List.append_eq_nil_iff, Option.toList_eq_nil_iff, Option.map_eq_none_iff]
  exact ⟨fun ⟨⟨⟨xy, hs⟩, rgb⟩, kelvin⟩ => ⟨xy, hs, rgb, kelvin⟩, fun ⟨xy, hs, rgb, kelvin⟩ => ⟨⟨⟨xy, hs⟩, rgb⟩, kelvin⟩⟩

/-- The colour keys of a body are looked at in order, up to the first that is there. -/
theorem colorOf_single {body : Json} {data result : ServiceData} (named : colorOf body data = .ok result)
    (colorless : colors data = []) : (colors result).length ≤ 1 ∧ result.service = data.service := by
  obtain ⟨xy, hs, rgb, kelvin⟩ := colors_nil_iff.mp colorless
  unfold colorOf at named
  split at named
  next x y _ =>
    cases first : floatOf x with
    | error error => simp [first, bind, Except.bind] at named
    | ok x =>
      cases second : floatOf y with
      | error error => simp [first, second, bind, Except.bind] at named
      | ok y =>
        simp only [first, second, bind, Except.bind, pure, Except.pure, Except.ok.injEq] at named
        rw [← named]
        exact ⟨by simp [colors, hs, rgb, kelvin], rfl⟩
  next =>
    split at named
    next =>
      cases first : floatOf ((field body "hue").getD (.int 0)) with
      | error error => simp [first, bind, Except.bind] at named
      | ok hue =>
        cases second : floatOf ((field body "sat").getD (.int 254)) with
        | error error => simp [first, second, bind, Except.bind] at named
        | ok sat =>
          simp only [first, second, bind, Except.bind, pure, Except.pure, Except.ok.injEq] at named
          rw [← named]
          exact ⟨by simp [colors, xy, rgb, kelvin], rfl⟩
    next =>
      split at named
      next ct _ =>
        cases read : kelvinOf ct with
        | error error => simp [read, bind, Except.bind] at named
        | ok found =>
          simp only [read, bind, Except.bind, pure, Except.pure, Except.ok.injEq] at named
          rw [← named]
          cases found with
          | none => exact ⟨by simp [colors, xy, hs, rgb], rfl⟩
          | some found => exact ⟨by simp [colors, xy, hs, rgb], rfl⟩
      next =>
        simp only [pure, Except.pure, Except.ok.injEq] at named
        rw [← named, colorless]
        exact ⟨Nat.zero_le 1, rfl⟩

/-- What a translated body is: an off, nothing, or an on with the colour it names. -/
theorem v1_cases {body : Json} {data : ServiceData} (translated : v1StateToServiceData body = .ok data) :
    (∃ transition, data = { transition := transition, service := some .turnOff }) ∨ data = {} ∨
      ∃ transition brightness colored,
        colorOf body { transition := transition, brightness := brightness } = .ok colored ∧
          data = { colored with service := some .turnOn } := by
  -- the three parts of a body that are read one after the other, each of which can raise
  have parts : v1StateToServiceData body = (do
      requireObject body
      let transition ← (field body "transitiontime").elim (.ok none) transitionOf
      if isBool (field body "on") false then return { transition := transition, service := some .turnOff }
      let brightness ← (field body "bri").elim (.ok none) (fun value => (brightnessOf value).map some)
      let colored ← colorOf body { transition := transition, brightness := brightness }
      if colored = {} ∧ isBool (field body "on") true = false then return {}
      return { colored with service := some .turnOn }) := by
    unfold v1StateToServiceData
    cases field body "transitiontime" <;> cases field body "bri" <;> rfl
  rw [parts] at translated
  cases object : requireObject body with
  | error error => simp [object, bind, Except.bind] at translated
  | ok _ =>
    cases first : (field body "transitiontime").elim (.ok none) transitionOf with
    | error error => simp [object, first, bind, Except.bind] at translated
    | ok transition =>
      simp only [object, first, bind, Except.bind] at translated
      split at translated
      next =>
        simp only [pure, Except.pure, Except.ok.injEq] at translated
        exact .inl ⟨transition, translated.symm⟩
      next =>
        cases second : (field body "bri").elim (.ok none) (fun value => (brightnessOf value).map some) with
        | error error => simp [second] at translated
        | ok brightness =>
          cases third : colorOf body { transition := transition, brightness := brightness } with
          | error error => simp [second, third] at translated
          | ok colored =>
            simp only [second, third] at translated
            split at translated
            next =>
              simp only [pure, Except.pure, Except.ok.injEq] at translated
              exact .inr (.inl translated.symm)
            next =>
              simp only [pure, Except.pure, Except.ok.injEq] at translated
              exact .inr (.inr ⟨transition, brightness, colored, third, translated.symm⟩)

/-- A body is translated to data of at most one colour, and an off to data of none. -/
theorem v1_consistent {body : Json} {data : ServiceData} (translated : v1StateToServiceData body = .ok data) :
    Consistent data := by
  rcases v1_cases translated with ⟨transition, rfl⟩ | rfl | ⟨transition, brightness, colored, named, rfl⟩
  · exact ⟨Nat.zero_le 1, fun _ => ⟨rfl, rfl⟩⟩
  · exact ⟨Nat.zero_le 1, fun _ => ⟨rfl, rfl⟩⟩
  · exact ⟨(colorOf_single named rfl).1, fun off => by cases off⟩

theorem frameData_consistent (entityId : String) (channel : ChannelColor) (colorSpace : Nat) :
    Consistent (frameData entityId channel colorSpace) := by
  unfold frameData
  split
  · exact ⟨Nat.le_refl 1, fun off => by cases off⟩
  · exact ⟨Nat.le_refl 1, fun off => by cases off⟩

/-- The data waiting in a slot is consistent. -/
def SlotConsistent (mapping : LightMapping) : Prop := ∀ data, mapping.pendingData = some data → Consistent data

theorem queued_consistent {mapping : LightMapping} (held : SlotConsistent mapping) : Consistent mapping.queued.1 := by
  rcases queued_cases mapping with fresh | ⟨_, _, pending, _⟩
  · rw [fresh]
    exact ⟨Nat.zero_le 1, fun off => by cases off⟩
  · exact held _ pending

theorem SlotConsistent.queue {s : Engine} {lightId : Nat} {body : Json} {slot : ServiceData × List Write}
    (held : SlotConsistent (s.mapping lightId)) (keeps : KeepsModes s (.command lightId body))
    (accepted : Accepts s lightId body slot) : SlotConsistent ((s.mapping lightId).queue slot) := by
  obtain ⟨data, translated, _, alone | ⟨merged, on, on'⟩⟩ := commandSlot_cases accepted.2.2
  · intro found waiting
    rw [← Option.some.inj waiting, alone]
    have own := v1_consistent translated
    exact ⟨own.single, own.off⟩
  · intro found waiting
    rw [← Option.some.inj waiting, merged]
    constructor
    · refine colors_update_single (queued_consistent held).single (v1_consistent translated).single ?_
      intro color member queued member'
      by_contra different
      refine keeps ⟨accepted.1, accepted.2.1, ?_⟩
      rw [translated]
      exact ⟨color, member, queued, member', different⟩
    · intro off
      have queuedOn : isOff (s.mapping lightId).queued.1 = false := by simpa [isOff] using on'
      have bodyOn : isOff data = false := by simpa [isOff] using on
      have kept := isOff_update queuedOn bodyOn
      simp [isOff] at kept
      exact absurd off kept

theorem slots_consistent {s : Engine} (reached : Reachable machine KeepsModes s) (channelId : ChannelId) :
    SlotConsistent (s.mapping channelId) := by
  refine reached.invariant (fun x => ∀ channelId, SlotConsistent (x.mapping channelId)) ?_ ?_ channelId
  · rintro s ⟨lights, states, now, rfl⟩ channelId data waiting
    obtain ⟨other, entityId, same⟩ := fresh_mapping lights states now channelId
    rw [same] at waiting
    cases waiting
  · intro x event y held keeps step
    refine slot_kept (fun _ mapping => SlotConsistent mapping) ?_ ?_ ?_ (step_move step) ?_ held
    · intro _ mapping _ data waiting
      cases waiting
    · intro mapping channel colorSpace _ data waiting
      rw [← Option.some.inj waiting]
      exact frameData_consistent _ _ _
    · rintro _ mapping _ _ ⟨logged, sent, rfl⟩ data waiting
      cases waiting
    · intro channelId body slot same accepted before
      exact before.queue (same ▸ keeps) accepted

theorem callOf_consistent {s : Engine} {channelId : ChannelId} {mapping : LightMapping} {data : ServiceData}
    (consistent : Consistent data) : CallConsistent (s.callOf channelId mapping data) := by
  have colored : colors (s.callOf channelId mapping data).data = colors data := by
    unfold Engine.callOf
    simp only []
    split <;> rfl
  have bright : (s.callOf channelId mapping data).data.brightness = data.brightness := by
    unfold Engine.callOf
    simp only []
    split <;> rfl
  constructor
  · rw [colored]
    exact consistent.single
  · intro off
    have service : data.service.getD .turnOn = .turnOff := off
    rw [colored, bright]
    cases named : data.service with
    | none =>
      rw [named] at service
      cases service
    | some service' =>
      rw [named] at service
      exact consistent.off (named.trans (congrArg some service))

/-- As long as no body joins queued data of another colour mode, no call ever names two colours, and none
that turns a light off names a colour or a brightness. -/
theorem calls_consistent {s : Engine} (reached : Reachable machine KeepsModes s) :
    ∀ drain call begun, .callBegun drain call begun ∈ s.log → CallConsistent call := by
  obtain ⟨first, events, start, run⟩ := reached
  obtain ⟨new, logged, emitted⟩ := run_adds run
  intro drain call begun member
  have empty : first.log = [] := by
    obtain ⟨lights, states, now, rfl⟩ := start
    rfl
  rw [logged, empty, List.append_nil] at member
  obtain ⟨before, mid, event, run, _, emits⟩ := emitted _ member
  cases emits with
  | callBegun outcome found live dirty pending same =>
    rw [same]
    exact callOf_consistent (slots_consistent ⟨first, before, start, run⟩ _ _ pending)

/-- A colour, then another brightness for it, sent in one call. -/
def dimmedColor : List Event :=
  [.command 1 (.object [("xy", .array [.float (.finite (1 / 2)), .float (.finite (2 / 5))])]),
    .command 1 (.object [("bri", .int 100)]), .drain 0 .returned]

theorem calls_consistent_dimmedColor : ∃ s drain call begun, Reachable machine KeepsModes s ∧
    .callBegun drain call begun ∈ s.log ∧ call.data.xyColor.isSome ∧ call.data.brightness.isSome ∧
      CallConsistent call := by
  have played : (play machine KeepsModes oneLight dimmedColor).any (fun s => s.log.any (begins (fun call =>
      call.data.xyColor.isSome && call.data.brightness.isSome))) = true := by decide +kernel
  obtain ⟨s, run, found⟩ := (Option.any_eq_true _ _).mp played
  obtain ⟨entry, member, sent⟩ := List.any_eq_true.mp found
  obtain ⟨drain, call, begun, rfl, both⟩ := begins_iff.mp sent
  simp only [Bool.and_eq_true] at both
  have reached : Reachable machine KeepsModes s := reachable_of_play ⟨_, _, _, rfl⟩ run
  exact ⟨s, drain, call, begun, reached, member, both.1, both.2, calls_consistent reached drain call begun member⟩

/-- A colour, then a colour temperature, sent in one call. -/
def mixedColors : List Event :=
  [.command 1 (.object [("xy", .array [.float (.finite (1 / 2)), .float (.finite (2 / 5))])]),
    .command 1 (.object [("ct", .int 300)]), .drain 0 .returned]

theorem mixedColors_sent : ∃ s drain call begun, Reachable machine Always s ∧ .callBegun drain call begun ∈ s.log ∧
    call.data.xyColor.isSome ∧ call.data.colorTempKelvin.isSome ∧ ¬CallConsistent call := by
  have played : (play machine Always oneLight mixedColors).any (fun s => s.log.any (begins (fun call =>
      call.data.xyColor.isSome && call.data.colorTempKelvin.isSome && decide (1 < (colors call.data).length)))) =
        true := by decide +kernel
  obtain ⟨s, run, found⟩ := (Option.any_eq_true _ _).mp played
  obtain ⟨entry, member, sent⟩ := List.any_eq_true.mp found
  obtain ⟨drain, call, begun, rfl, both⟩ := begins_iff.mp sent
  simp only [Bool.and_eq_true, decide_eq_true_eq] at both
  have reached : Reachable machine Always s := reachable_of_play ⟨_, _, _, rfl⟩ run
  exact ⟨s, drain, call, begun, reached, member, both.1.1, both.1.2,
    fun consistent => absurd consistent.single (Nat.not_le_of_lt both.2)⟩

end HueEntertainment.ColorModes
