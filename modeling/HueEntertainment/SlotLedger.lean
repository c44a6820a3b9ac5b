import HueEntertainment.ClassicCalls
import HueEntertainment.DrainWake
import HueEntertainment.SlotHistory
import HueEntertainment.SlotRegister

/-! What the drain loop makes of the writes to a light. The slot is a register whose history is the ledger
of the light: the writes of frames and of classic commands, the grabs of drain loops and the flushes, in the
order of a run. -/

namespace HueEntertainment.SlotLedger
open HueStream LightCommand PyValue Entertainment EngineSteps EngineFrames DrainSteps EngineMoves EngineSlots
  SlotHistory SlotRegister DrainTask DrainWake ClassicCalls Runs

/-- What an entry, added by an event, says of the slot of a light. -/
def actOf (channelId : ChannelId) (event : Event) : Obs → List (Act Write Call)
  | .frameWrote channel colorSpace => if channel.channelId = channelId then [.write (.frame channel colorSpace)] else []
  | .putWrote lightId =>
      match event with
      | .command _ body => if lightId = channelId then [.write (.put lightId body)] else []
      | _ => []
  | .dropped other => if other = channelId then [.take none] else []
  | .callBegun _ call _ => if call.channelId = channelId then [.take (some call)] else []
  | .flushed => [.clear]
  | _ => []

def actsOf (channelId : ChannelId) (event : Event) (entries : List Obs) : List (Act Write Call) :=
  entries.flatMap (actOf channelId event)

/-- The entries of `t` that are not in `s` yet, for `t` after `s`. -/
def newEntries (s t : Engine) : List Obs := t.log.take (t.log.length - s.log.length)

/-- What the events do to the slot of a light, the newest first. -/
def ledger (channelId : ChannelId) : Engine → List Event → List (Act Write Call)
  | _, [] => []
  | s, event :: events =>
      match machine.step s event with
      | some t => ledger channelId t events ++ actsOf channelId event (newEntries s t)
      | none => []

/-- A slot with one more write, made as its writer makes it. -/
def overwrite (mapping : LightMapping) : Write → LightMapping
  | .frame channel colorSpace => mapping.schedule channel colorSpace
  | .put lightId body =>
      match mapping.commandSlot lightId body with
      | .ok (some slot) => mapping.queue slot
      | _ => mapping

/-- A slot with several more writes, given the newest first. -/
def written (mapping : LightMapping) (writes : List Write) : LightMapping :=
  writes.foldr (fun write mapping => overwrite mapping write) mapping

/-- The slot that a history leaves behind. -/
def slotAfter (first : LightMapping) : List (Act Write Call) → LightMapping
  | [] => first
  | .write write :: older => overwrite (slotAfter first older) write
  | .take _ :: older => (slotAfter first older).grab
  | .clear :: older => (slotAfter first older).forget

/-- The slot itself, without what a light keeps of its last colour and of its last call. -/
def view (mapping : LightMapping) :=
  (mapping.entityId, mapping.pendingData, mapping.dirty, mapping.explicitTransition, mapping.pendingFrom)

def Empty (mapping : LightMapping) : Prop :=
  mapping.dirty = false ∧ mapping.pendingData = none ∧ mapping.pendingFrom = []

/-- The call is made of this slot; only a transition that the slot does not bring is the drain loop's own. -/
structure Carried (call : Call) (mapping : LightMapping) : Prop where
  dirty : mapping.dirty = true
  source : call.source = mapping.pendingFrom
  data : ∃ data transition, mapping.pendingData = some data ∧ call.service = data.service.getD .turnOn ∧
    call.data = { data with service := none, transition := transition } ∧
    (mapping.explicitTransition = true → transition = data.transition)

/-- The data that a write brings on its own. -/
def brought (entityId : String) (write : Write) : ServiceData := replay entityId [write]

/-- The value of a key in the newest of the writes, newest first, that names it. -/
def latest {α : Type} (key : ServiceData → Option α) (entityId : String) (writes : List Write) : Option α :=
  writes.findSome? (fun write => key (brought entityId write))

/-- The newest value of each key. -/
def newestKeys (entityId : String) (writes : List Write) : ServiceData where
  entityId := latest ServiceData.entityId entityId writes
  transition := latest ServiceData.transition entityId writes
  service := latest ServiceData.service entityId writes
  brightness := latest ServiceData.brightness entityId writes
  xyColor := latest ServiceData.xyColor entityId writes
  hsColor := latest ServiceData.hsColor entityId writes
  rgbColor := latest ServiceData.rgbColor entityId writes
  colorTempKelvin := latest ServiceData.colorTempKelvin entityId writes

/-- Each key of a slot has the value of the newest of its writes that names the key. -/
def Newest (mapping : LightMapping) : Prop :=
  ∀ data, mapping.pendingData = some data → data = newestKeys mapping.entityId mapping.pendingFrom

/-- The write fills the slot, in front of what it keeps of the writes before it. -/
structure GoesIn (mapping : LightMapping) (write : Write) : Prop where
  dirty : (overwrite mapping write).dirty = true
  full : (overwrite mapping write).pendingData ≠ none
  source : ∃ older, (overwrite mapping write).pendingFrom = write :: older ∧ older.Sublist mapping.pendingFrom
  newest : Newest mapping → Newest (overwrite mapping write)

/-- Every write of the history went in, and every call carries what the slot held. -/
def Lawful (first : LightMapping) : List (Act Write Call) → Prop
  | [] => True
  | .write write :: older => GoesIn (slotAfter first older) write ∧ Lawful first older
  | .take (some call) :: older => Carried call (slotAfter first older) ∧ Lawful first older
  | .take none :: older => Lawful first older
  | .clear :: older => Lawful first older

theorem newEntries_eq {s t : Engine} {new : List Obs} (logged : t.log = new ++ s.log) : newEntries s t = new := by
  unfold newEntries
  rw [logged, List.length_append, Nat.add_sub_cancel]
  exact List.take_left

theorem slotAfter_eq (first : LightMapping) (acts : List (Act Write Call)) :
    slotAfter first acts = written (slotAfter first (settled acts)) (pending acts) := by
  induction acts with
  | nil => rfl
  | cons act older ih =>
    cases act with
    | write write => exact congrArg (fun mapping => overwrite mapping write) ih
    | take taken => rfl
    | clear => rfl

/-- A take or a clear leaves nothing in the slot. -/
theorem settled_empty {first : LightMapping} (empty : Empty first) (acts : List (Act Write Call)) :
    Empty (slotAfter first (settled acts)) := by
  induction acts with
  | nil => exact empty
  | cons act older ih =>
    cases act with
    | write write => exact ih
    | take taken => exact ⟨rfl, rfl, rfl⟩
    | clear => exact ⟨rfl, rfl, rfl⟩

theorem latest_cons {α : Type} (key : ServiceData → Option α) (entityId : String) (write : Write) (older : List Write) :
    latest key entityId (write :: older) = (key (brought entityId write) <|> latest key entityId older) := by
  unfold latest
  rw [List.findSome?_cons]
  cases key (brought entityId write) <;> rfl

/-- The newest values after one more write: its own, and the older ones of the keys that it does not name. -/
theorem newestKeys_cons (entityId : String) (write : Write) (older : List Write) :
    newestKeys entityId (write :: older) = (newestKeys entityId older).update (brought entityId write) := by
  unfold newestKeys ServiceData.update
  simp only [latest_cons]

theorem newestKeys_one (entityId : String) (write : Write) : newestKeys entityId [write] = brought entityId write := by
  have nothing : newestKeys entityId [] = {} := rfl
  rw [newestKeys_cons, nothing, ServiceData.empty_update]

theorem Empty.newest {mapping : LightMapping} (empty : Empty mapping) : Newest mapping := by
  intro data found
  rw [empty.2.1] at found
  cases found

theorem schedule_newest (mapping : LightMapping) (channel : ChannelColor) (colorSpace : Nat) :
    Newest (mapping.schedule channel colorSpace) := by
  intro data found
  obtain rfl : frameData mapping.entityId channel colorSpace = data := Option.some.inj found
  exact (newestKeys_one mapping.entityId (.frame channel colorSpace)).symm

theorem schedule_goesIn (mapping : LightMapping) (channel : ChannelColor) (colorSpace : Nat) :
    GoesIn mapping (.frame channel colorSpace) :=
  ⟨rfl, by simp [overwrite, LightMapping.schedule], ⟨[], rfl, List.nil_sublist _⟩,
    fun _ => schedule_newest mapping channel colorSpace⟩

theorem overwrite_put {mapping : LightMapping} {lightId : Nat} {body : Json} {slot : ServiceData × List Write}
    (accepted : mapping.commandSlot lightId body = .ok (some slot)) :
    overwrite mapping (.put lightId body) = mapping.queue slot := by
  simp only [overwrite, accepted]

theorem queue_newest {mapping : LightMapping} {lightId : Nat} {body : Json} {slot : ServiceData × List Write}
    (newest : Newest mapping) (accepted : mapping.commandSlot lightId body = .ok (some slot)) :
    Newest (mapping.queue slot) := by
  obtain ⟨data, pending, older, translated, _, same, merged⟩ := commandSlot_eq accepted
  have before : pending = newestKeys mapping.entityId older := by
    rcases merged with ⟨rfl, rfl⟩ | ⟨_, found, rfl⟩
    · rfl
    · exact newest pending found
  have brings : brought mapping.entityId (.put lightId body) = { data with entityId := some mapping.entityId } := by
    simp only [brought, replay, translated, ServiceData.empty_update]
  intro slotData found
  obtain rfl : slot.1 = slotData := Option.some.inj found
  change slot.1 = newestKeys mapping.entityId slot.2
  rw [same, newestKeys_cons, brings, ← before]
  rfl

theorem queue_goesIn {mapping : LightMapping} {lightId : Nat} {body : Json} {slot : ServiceData × List Write}
    (accepted : mapping.commandSlot lightId body = .ok (some slot)) : GoesIn mapping (.put lightId body) := by
  obtain ⟨data, pending, older, _, _, same, merged⟩ := commandSlot_eq accepted
  have filled := overwrite_put accepted
  refine ⟨by rw [filled]; rfl, by rw [filled]; simp [LightMapping.queue], ⟨older, ?_, ?_⟩, ?_⟩
  · rw [filled, same]
    rfl
  · rcases merged with ⟨_, rfl⟩ | ⟨_, _, rfl⟩
    · exact List.nil_sublist _
    · exact List.Sublist.refl _
  · intro newest
    rw [filled]
    exact queue_newest newest accepted

theorem Lawful.newest {first : LightMapping} (empty : Empty first) {acts : List (Act Write Call)}
    (lawful : Lawful first acts) : Newest (slotAfter first acts) := by
  induction acts with
  | nil => exact empty.newest
  | cons act older ih =>
    cases act with
    | write write => exact lawful.1.newest (ih lawful.2)
    | take taken => exact Empty.newest ⟨rfl, rfl, rfl⟩
    | clear => exact Empty.newest ⟨rfl, rfl, rfl⟩

/-- What a slot holds comes of the pending writes, the newest one first. -/
theorem Lawful.source {first : LightMapping} (empty : Empty first) {acts : List (Act Write Call)}
    (lawful : Lawful first acts) : (slotAfter first acts).pendingFrom.Sublist (pending acts) ∧
      (slotAfter first acts).pendingFrom.head? = (pending acts).head? ∧
      ((slotAfter first acts).dirty = true ↔ pending acts ≠ []) ∧
      ((slotAfter first acts).dirty = true → (slotAfter first acts).pendingData ≠ none) := by
  have nothing : ∀ mapping : LightMapping, Empty mapping → mapping.pendingFrom.Sublist ([] : List Write) ∧
      mapping.pendingFrom.head? = ([] : List Write).head? ∧ (mapping.dirty = true ↔ ([] : List Write) ≠ []) ∧
      (mapping.dirty = true → mapping.pendingData ≠ none) := by
    rintro mapping ⟨clean, _, none⟩
    rw [none, clean]
    exact ⟨List.Sublist.refl _, rfl, by simp, by simp⟩
  induction acts with
  | nil => exact nothing first empty
  | cons act older ih =>
    cases act with
    | write write =>
      obtain ⟨⟨dirty, full, ⟨rest, source, kept⟩, _⟩, lawful⟩ := lawful
      obtain ⟨before, _⟩ := ih lawful
      change (overwrite (slotAfter first older) write).pendingFrom.Sublist (write :: pending older) ∧ _
      rw [slotAfter, source]
      exact ⟨(kept.trans before).cons_cons write, rfl, ⟨fun _ => List.cons_ne_nil _ _, fun _ => dirty⟩, fun _ => full⟩
    | take taken => exact nothing _ ⟨rfl, rfl, rfl⟩
    | clear => exact nothing _ ⟨rfl, rfl, rfl⟩

theorem Lawful.older {first : LightMapping} {newer older : List (Act Write Call)}
    (lawful : Lawful first (newer ++ older)) : Lawful first older := by
  induction newer with
  | nil => exact lawful
  | cons act rest ih =>
    cases act with
    | write write => exact ih lawful.2
    | clear => exact ih lawful
    | take taken =>
      cases taken with
      | none => exact ih lawful
      | some call => exact ih lawful.2

/-- Every call carries what the slot held, and so what is drawn from the writes pending then. -/
theorem Lawful.drawn {first : LightMapping} (empty : Empty first) {acts : List (Act Write Call)}
    (lawful : Lawful first acts) : Drawn Call.source acts := by
  intro newer call older split
  rw [split] at lawful
  obtain ⟨carried, before⟩ := lawful.older
  obtain ⟨kept, newest, full, _⟩ := before.source empty
  have some := full.mp carried.dirty
  rw [carried.source]
  refine ⟨kept, newest.trans (pending_newest some), ?_⟩
  intro none
  rw [none] at newest
  exact some (List.head?_eq_none_iff.mp newest.symm)

/-- The slot is the one its history leaves behind, and the history is lawful. -/
structure Recorded (first : LightMapping) (acts : List (Act Write Call)) (mapping : LightMapping) : Prop where
  slot : view mapping = view (slotAfter first acts)
  lawful : Lawful first acts

theorem view_schedule {mapping other : LightMapping} (same : view mapping = view other) (channel : ChannelColor)
    (colorSpace : Nat) : view (mapping.schedule channel colorSpace) = view (other.schedule channel colorSpace) := by
  simp only [view, Prod.mk.injEq] at same
  obtain ⟨entityId, _, _, flag, _⟩ := same
  simp only [view, LightMapping.schedule, entityId, flag]

theorem view_grab {mapping other : LightMapping} (same : view mapping = view other) : view mapping.grab = view other.grab := by
  simp only [view, Prod.mk.injEq] at same
  simp only [view, LightMapping.grab, same.1]

theorem view_forget {mapping other : LightMapping} (same : view mapping = view other) :
    view mapping.forget = view other.forget := by
  simp only [view, Prod.mk.injEq] at same
  simp only [view, LightMapping.forget, same.1, same.2.2.2.1]

theorem view_queue {mapping other : LightMapping} (same : view mapping = view other) (slot : ServiceData × List Write) :
    view (mapping.queue slot) = view (other.queue slot) := by
  simp only [view, Prod.mk.injEq] at same
  simp only [view, LightMapping.queue, same.1]

/-- What a body does to a slot depends on the slot alone. -/
theorem commandSlot_view {mapping other : LightMapping} (same : view mapping = view other) (lightId : Nat) (body : Json) :
    mapping.commandSlot lightId body = other.commandSlot lightId body := by
  simp only [view, Prod.mk.injEq] at same
  obtain ⟨entityId, pending, dirty, flag, source⟩ := same
  unfold LightMapping.commandSlot LightMapping.queued
  rw [entityId, pending, dirty, flag, source]

/-- A call made of the slot that a history leaves behind. -/
theorem Recorded.call {first : LightMapping} {acts : List (Act Write Call)} {mapping : LightMapping}
    (recorded : Recorded first acts mapping) {s : Engine} {channelId : ChannelId} {data : ServiceData}
    (dirty : mapping.dirty = true) (pending : mapping.pendingData = some data) :
    Carried (s.callOf channelId mapping data) (slotAfter first acts) := by
  have same := recorded.slot
  simp only [view, Prod.mk.injEq] at same
  obtain ⟨_, pendings, dirties, flags, sources⟩ := same
  refine ⟨dirties ▸ dirty, sources, data, (s.callOf channelId mapping data).data.transition, pendings ▸ pending, rfl, ?_, ?_⟩
  · unfold Engine.callOf
    simp only []
    split <;> rfl
  · intro flag
    rw [← flags] at flag
    unfold Engine.callOf
    simp only [if_pos flag]

theorem Recorded.grabbed {first : LightMapping} {acts : List (Act Write Call)} {mapping : LightMapping}
    (recorded : Recorded first acts mapping) (logged : Bool) (sent : ℚ) : view ((mapping.grab.noted logged).sentAt sent) =
      view (slotAfter first acts).grab := by
  have same : view ((mapping.grab.noted logged).sentAt sent) = view mapping.grab := rfl
  exact same.trans (view_grab recorded.slot)

/-- The other lights' slots, where one light's slot changes. -/
theorem Recorded.other {first : LightMapping} {acts : List (Act Write Call)} {mapping : ChannelId → LightMapping}
    {channelId other : ChannelId} (recorded : Recorded first acts (mapping channelId)) (different : other ≠ channelId)
    (changed : LightMapping) : Recorded first acts (Function.update mapping other changed channelId) := by
  rw [Function.update_of_ne (Ne.symm different)]
  exact recorded

/-- One change of the slots, with the act that its entry is for the light. -/
theorem Recorded.change {channelId : ChannelId} {first : LightMapping} (empty : Empty first) {acts : List (Act Write Call)}
    {s : Engine} {event : Event} (before : Recorded first acts (s.mapping channelId)) {x y : Slots}
    (held : ∃ new, x.log = new ++ s.log ∧ Recorded first (actsOf channelId event new ++ acts) (x.mapping channelId))
    (change : Change s event x y) :
    ∃ new, y.log = new ++ s.log ∧ Recorded first (actsOf channelId event new ++ acts) (y.mapping channelId) := by
  obtain ⟨new, logged, recorded⟩ := held
  cases change with
  | noted entry quiet =>
    have none : actOf channelId event entry = [] := by
      cases entry with
      | flushed => cases quiet
      | frameWrote channel colorSpace => cases quiet
      | putWrote lightId => cases quiet
      | dropped other => cases quiet
      | callBegun drain call begun => cases quiet
      | _ => rfl
    refine ⟨entry :: new, congrArg (entry :: ·) logged, ?_⟩
    rw [actsOf, List.flatMap_cons, none]
    exact recorded
  | flushed unframed => exact ⟨.flushed :: new, congrArg (.flushed :: ·) logged, view_forget recorded.slot, recorded.lawful⟩
  | @wrote _ data frame channel same parsed member free mapped outside =>
    refine ⟨.frameWrote channel frame.colorSpace :: new, congrArg (_ :: ·) logged, ?_⟩
    rw [actsOf, List.flatMap_cons]
    by_cases here : channel.channelId = channelId
    · subst channelId
      simp only [actOf, if_true]
      refine ⟨?_, schedule_goesIn _ _ _, recorded.lawful⟩
      rw [Function.update_self]
      exact view_schedule recorded.slot channel frame.colorSpace
    · simp only [actOf, if_neg here]
      exact recorded.other here _
  | @queued lightId body slot same accepted =>
    refine ⟨[.putWrote lightId], rfl, ?_⟩
    simp only [actsOf, List.flatMap_cons, List.flatMap_nil, List.append_nil, same, actOf]
    by_cases here : lightId = channelId
    · subst channelId
      have agrees := accepted.2.2
      rw [commandSlot_view before.slot] at agrees
      simp only [if_true]
      refine ⟨?_, queue_goesIn agrees, before.lawful⟩
      rw [Function.update_self]
      change _ = view (overwrite (slotAfter first acts) (.put lightId body))
      rw [overwrite_put agrees]
      exact view_queue before.slot slot
    · simp only [if_neg here]
      exact before.other here _
  | @discarded _ drain outcome other same dirty none =>
    refine ⟨new, logged, ?_⟩
    by_cases here : other = channelId
    · subst channelId
      have told := recorded.slot
      simp only [view, Prod.mk.injEq] at told
      have full := (recorded.lawful.source empty).2.2.2 (told.2.2.1 ▸ dirty)
      rw [← told.2.1, none] at full
      exact absurd rfl full
    · exact recorded.other here _
  | @dropped _ drain outcome other same dirty gone =>
    refine ⟨.dropped other :: new, congrArg (_ :: ·) logged, ?_⟩
    rw [actsOf, List.flatMap_cons]
    by_cases here : other = channelId
    · subst channelId
      simp only [actOf, if_true]
      refine ⟨?_, recorded.lawful⟩
      rw [Function.update_self]
      exact recorded.grabbed gone (x.mapping other).lastSent
    · simp only [actOf, if_neg here]
      exact recorded.other here _
  | @begun _ drain outcome other data same dirty pending gone =>
    refine ⟨.callBegun drain (s.callOf other (x.mapping other) data) s.now :: new, congrArg (_ :: ·) logged, ?_⟩
    rw [actsOf, List.flatMap_cons]
    have channel : (s.callOf other (x.mapping other) data).channelId = other := rfl
    by_cases here : other = channelId
    · subst channelId
      simp only [actOf, channel, if_true]
      refine ⟨?_, recorded.call dirty pending, recorded.lawful⟩
      rw [Function.update_self]
      exact recorded.grabbed gone s.now
    · simp only [actOf, channel, if_neg here]
      exact recorded.other here _

theorem Recorded.step {channelId : ChannelId} {first : LightMapping} (empty : Empty first) {acts : List (Act Write Call)}
    {s t : Engine} {event : Event} (before : Recorded first acts (s.mapping channelId))
    (step : machine.step s event = some t) :
    Recorded first (actsOf channelId event (newEntries s t) ++ acts) (t.mapping channelId) := by
  have grown := (step_changes step).invariant (fun y => ∃ new, y.log = new ++ s.log ∧
      Recorded first (actsOf channelId event new ++ acts) (y.mapping channelId)) ?_ ⟨[], rfl, before⟩
  · obtain ⟨new, logged, recorded⟩ := grown
    rw [newEntries_eq logged]
    exact recorded
  · exact fun x y held change => Recorded.change empty before held change

theorem Recorded.run {channelId : ChannelId} {first : LightMapping} (empty : Empty first) {ok : Engine → Event → Prop}
    {s t : Engine} {events : List Event} (run : Run machine ok s events t) {acts : List (Act Write Call)}
    (before : Recorded first acts (s.mapping channelId)) :
    Recorded first (ledger channelId s events ++ acts) (t.mapping channelId) := by
  induction run generalizing acts with
  | nil s => exact before
  | cons _ step _ ih =>
    have next := ih (before.step empty step)
    unfold ledger
    rw [step, List.append_assoc]
    exact next

/-- The slot as the last grab or flush left it. -/
def emptied (first : LightMapping) (acts : List (Act Write Call)) : LightMapping := slotAfter first (settled acts)

/-- The slot of a light is the register that its history describes: what it holds, and what every call was
made of, is the result of the writes since the last grab or flush, with the newest value of each key. The
calls follow the order of the writes, the newest write always in front, and carry no write twice. -/
structure IsRegister (first : LightMapping) (acts : List (Act Write Call)) (mapping : LightMapping) : Prop where
  empty : ∀ older, Empty (emptied first older)
  holds : view mapping = view (written (emptied first acts) (pending acts))
  newest : ∀ newer older, acts = newer ++ older → Newest (written (emptied first older) (pending older))
  sends : ∀ newer call older, acts = newer ++ .take (some call) :: older →
    Carried call (written (emptied first older) (pending older)) ∧ call.source.head? = (writes older).head?
  once : ((passed acts).flatMap Call.source).Sublist (writes acts)

theorem Recorded.isRegister {first : LightMapping} (empty : Empty first) {acts : List (Act Write Call)}
    {mapping : LightMapping} (recorded : Recorded first acts mapping) : IsRegister first acts mapping where
  empty := settled_empty empty
  holds := by
    rw [recorded.slot, slotAfter_eq first acts]
    rfl
  newest := by
    intro newer older split
    have lawful := recorded.lawful
    rw [split] at lawful
    have newest := lawful.older.newest empty
    rw [slotAfter_eq first older] at newest
    exact newest
  sends := by
    intro newer call older split
    refine ⟨?_, (recorded.lawful.drawn empty newer call older split).2.1⟩
    have lawful := recorded.lawful
    rw [split] at lawful
    have carried := lawful.older.1
    rw [slotAfter_eq first older] at carried
    exact carried
  once := (recorded.lawful.drawn empty).passed

/-- No write is lost: with one loop at a time a loop waits only with every slot clean; a loop that leaves for
idleness leaves every slot clean, and until another loop is created the next accepted command creates
one; and at any time the slot of each light is the register of the writes to it. -/
theorem no_write_lost {s t : Engine} {events : List Event} (start : machine.Start s)
    (run : Run machine Always s events t) :
    (Run machine OneLoop s events t → ∀ drain idleSince cancelling,
      t.drains drain = some ⟨.waiting idleSince, cancelling⟩ → t.wake = false →
        ∀ channelId, (t.mapping channelId).dirty = false) ∧
    (∀ drain outcome u, IdleExit t drain outcome u → (∀ channelId, (u.mapping channelId).dirty = false) ∧
      ∀ later v, Run machine Always u later v → v.nextDrain = u.nextDrain →
        ∀ lightId body slot w, Accepts v lightId body slot → machine.step v (.command lightId body) = some w →
          w.drainRunning = true ∧ w.drainTask = some v.nextDrain ∧ w.drains v.nextDrain = some ⟨.created, false⟩) ∧
    ∀ channelId, IsRegister (s.mapping channelId) (ledger channelId s events) (t.mapping channelId) := by
  have reached : Reachable machine Always t := ⟨s, events, start, run⟩
  refine ⟨?_, ?_, ?_⟩
  · intro one
    exact awake ⟨s, events, start, one⟩
  · intro drain outcome u exit
    obtain ⟨down, clean⟩ := exit.clean (dirtyMapped reached)
    refine ⟨clean, ?_⟩
    intro later v run' same lightId body slot w accepted step
    exact command_starts accepted ((stopped_run run' down).2 same) step
  · intro channelId
    have empty : Empty (s.mapping channelId) := by
      obtain ⟨lights, states, now, rfl⟩ := start
      obtain ⟨other, entityId, same⟩ := fresh_mapping lights states now channelId
      rw [same]
      exact ⟨rfl, rfl, rfl⟩
    have recorded : Recorded (s.mapping channelId) (ledger channelId s events ++ []) (t.mapping channelId) :=
      Recorded.run empty run ⟨rfl, trivial⟩
    rw [List.append_nil] at recorded
    exact recorded.isRegister empty

/-- Two commands and a frame in between, all sent by one loop, which then waits. -/
def sentWrites : List Event :=
  [brighten 2, .drain 0 .returned, .frame redFrame, brighten 1, .drain 0 .returned, .drain 0 .returned, .drain 0 .returned]

theorem no_write_lost_sentWrites : ∃ t, play machine Always twoLights sentWrites = some t ∧
    (∃ idleSince, t.drains 0 = some ⟨.waiting idleSince, false⟩) ∧ t.wake = false ∧
    (∀ channelId, (t.mapping channelId).dirty = false) ∧
    ∀ channelId, IsRegister (twoLights.mapping channelId) (ledger channelId twoLights sentWrites) (t.mapping channelId) := by
  have played : (play machine Always twoLights sentWrites).any (fun t => !t.wake &&
      (t.drains 0).any (fun task => (task.pc matches .waiting _) && !task.cancelling)) = true := by decide +kernel
  obtain ⟨t, found, checked⟩ := (Option.any_eq_true _ _).mp played
  simp only [Bool.and_eq_true, Bool.not_eq_true'] at checked
  obtain ⟨unset, task⟩ := checked
  obtain ⟨⟨pc, cancelling⟩, here, waits⟩ := (Option.any_eq_true _ _).mp task
  have run := run_of_play _ _ _ found
  have start : machine.Start twoLights := ⟨_, _, _, rfl⟩
  have quiet : Run machine QuietWait twoLights sentWrites t :=
    quietWait_of_unstopped run (new_unawaited _ _ _) (by simp [sentWrites, brighten])
  obtain ⟨wakes, _, registers⟩ := no_write_lost start run
  cases pc with
  | waiting idleSince =>
    simp only [Bool.and_eq_true, Bool.not_eq_true', true_and] at waits
    subst waits
    have one := oneLoop_run ⟨_, [], start, .nil _⟩ quiet
    exact ⟨t, found, ⟨idleSince, here⟩, unset, wakes one 0 idleSince false here unset, registers⟩
  | _ => simp at waits

end HueEntertainment.SlotLedger
