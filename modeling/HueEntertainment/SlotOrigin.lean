import HueEntertainment.ClassicCalls
import HueEntertainment.SlotHistory

/-! Who wrote a slot last, a frame or a classic command, and the transition its call is sent with.
`explicit_transition` is to tell the two apart. A command sets it and the drain loop clears it, but a frame
leaves it, and so does a flush. -/

namespace HueEntertainment.SlotOrigin
open HueStream LightCommand PyValue Entertainment EngineSteps EngineFrames DrainSteps EngineMoves EngineHistory
  EngineSlots SlotHistory ClassicCalls Runs

/-- The pending data was last written by `handle_light_command`. -/
def LastPut (mapping : LightMapping) : Prop := ∃ lightId body older, mapping.pendingFrom = .put lightId body :: older

/-- The flag of every dirty slot says whether a classic command wrote it last. -/
def OriginExact (s : Engine) : Prop :=
  ∀ channelId, (s.mapping channelId).dirty = true →
    ((s.mapping channelId).explicitTransition = true ↔ LastPut (s.mapping channelId))

/-- No frame overwrites the slot of a light whose flag is still set. -/
def SparesPuts (s : Engine) : Event → Prop
  | .frame data => ∀ channelId ∈ s.channels, (s.mapping channelId).explicitTransition = true →
      ¬FrameWritesSlot s data channelId
  | _ => True

instance (s : Engine) : (event : Event) → Decidable (SparesPuts s event)
  | .frame data => inferInstanceAs (Decidable (∀ channelId ∈ s.channels,
      (s.mapping channelId).explicitTransition = true → ¬FrameWritesSlot s data channelId))
  | .command .. | .snapshot | .restore | .pause _ | .resume | .release _ | .fire _ | .drain .. | .drained _
  | .reproduced .. | .tick _ | .setState .. => .isTrue trivial

/-- A drain loop reads a clock that is past zero, which `last_sent` keeps for "never". -/
def ClockStarted (s : Engine) : Event → Prop
  | .drain _ _ => 0 < s.now
  | _ => True

instance (s : Engine) : (event : Event) → Decidable (ClockStarted s event)
  | .drain .. => inferInstanceAs (Decidable (0 < s.now))
  | .frame _ | .command .. | .snapshot | .restore | .pause _ | .resume | .release _ | .fire _ | .drained _
  | .reproduced .. | .tick _ | .setState .. => .isTrue trivial

/-- When the newest call for the light since the newest flush began; a session starts with a flush. -/
def previousCall (channelId : ChannelId) : List Obs → Option ℚ
  | [] => none
  | .flushed :: _ => none
  | .callBegun _ call begun :: older => if call.channelId = channelId then some begun else previousCall channelId older
  | _ :: older => previousCall channelId older

/-- The transition of a call that carries a frame: none at first, then the time since the previous call. -/
def fade (begun : ℚ) : Option ℚ → ℚ
  | none => 0
  | some earlier => min (max (roundDigits (begun - earlier) 1) (1 / 10)) 2

/-- The transition that bodies gave, the newest body first. -/
def givenTransition : List Write → Option ℚ
  | .put _ body :: older =>
      match v1StateToServiceData body with
      | .ok data => data.transition <|> givenTransition older
      | .error _ => givenTransition older
  | _ => none

/-- What a call is sent with: a frame's colour and the fade since the previous call for the light, or else
what classic commands to the light gave. -/
inductive CallExact (call : Call) (begun : ℚ) (previous : Option ℚ) : Prop where
  | frame {channel : ChannelColor} {colorSpace : Nat} (entityId : String) (source : call.source = [.frame channel colorSpace])
      (data : call.data = { frameData entityId channel colorSpace with transition := some (fade begun previous) })
  | puts (entityId : String) (source : FromPuts call.channelId call.source)
      (data : call.data = { replay entityId call.source with service := none })
      (transition : call.data.transition = givenTransition call.source)

/-- Every call in the history was sent with what it should be. -/
def CallsExact (log : List Obs) : Prop :=
  ∀ newer older drain call begun, log = newer ++ .callBegun drain call begun :: older →
    CallExact call begun (previousCall call.channelId older)

theorem CallsExact.cons {log : List Obs} (exact : CallsExact log) {entry : Obs}
    (here : ∀ drain call begun, entry = .callBegun drain call begun →
      CallExact call begun (previousCall call.channelId log)) : CallsExact (entry :: log) := by
  intro newer older drain call begun split
  cases newer with
  | nil =>
    obtain ⟨first, rest⟩ := List.cons.inj split
    rw [← rest]
    exact here drain call begun first
  | cons first rest => exact exact rest older drain call begun (List.cons.inj split).2

theorem schedule_frame {mapping : LightMapping} {channel : ChannelColor} {colorSpace : Nat} :
    ¬LastPut (mapping.schedule channel colorSpace) := by
  rintro ⟨lightId, body, older, put⟩
  cases put

/-- A step keeps the flags exact unless it is a frame over a slot with its flag set. -/
theorem originExact_step {s t : Engine} {event : Event} (exact : OriginExact s)
    (step : machine.step s event = some t) : OriginExact t ↔ SparesPuts s event := by
  by_cases framed : ∃ data, event = .frame data
  · obtain ⟨data, rfl⟩ := framed
    cases step
    constructor
    · intro after channelId _ flag writes
      rcases handleFrame_slot s data channelId with ⟨kept, _⟩ | ⟨_, channel, colorSpace, wrote⟩
      · exact kept writes
      · have told := after channelId
        rw [wrote] at told
        exact schedule_frame ((told rfl).mp flag)
    · intro spares channelId dirty
      rcases handleFrame_slot s data channelId with ⟨_, same⟩ | ⟨writes, channel, colorSpace, wrote⟩
      · rw [same] at dirty ⊢
        exact exact channelId dirty
      · rw [wrote]
        constructor
        · intro flag
          exact absurd writes (spares channelId writes.2.1 flag)
        · exact fun put => absurd put schedule_frame
  · have spares : SparesPuts s event := by
      cases event with
      | frame data => exact absurd ⟨data, rfl⟩ framed
      | _ => trivial
    refine ⟨fun _ => spares, ?_⟩
    intro _ channelId dirty
    rcases slot_step (step_move step) channelId with ⟨data, same, _⟩ | slot
    · exact absurd ⟨data, same⟩ framed
    · generalize t.mapping channelId = mapping at slot dirty
      cases slot with
      | kept => exact exact channelId dirty
      | flushed => cases dirty
      | queued same accepted =>
        obtain ⟨data, pending, older, _, _, rfl, _⟩ := commandSlot_eq accepted.2.2
        exact ⟨fun _ => ⟨_, _, older, rfl⟩, fun _ => rfl⟩
      | taken was taken =>
        rw [taken.clean] at dirty
        cases dirty

/-- An accepted body joins only classic data. -/
theorem commandSlot_source {mapping : LightMapping} {lightId : Nat} {body : Json} {slot : ServiceData × List Write}
    (accepted : mapping.commandSlot lightId body = .ok (some slot)) :
    ∃ older, slot.2 = .put lightId body :: older ∧ (older = [] ∨
      (mapping.dirty = true ∧ mapping.explicitTransition = true ∧ older = mapping.pendingFrom)) := by
  obtain ⟨data, _, _, rfl | ⟨rfl, _⟩⟩ := commandSlot_cases accepted
  · exact ⟨[], rfl, .inl rfl⟩
  · refine ⟨mapping.queued.2, rfl, ?_⟩
    rcases queued_cases mapping with fresh | ⟨dirty, flag, _, older⟩
    · exact .inl (by rw [fresh])
    · exact .inr ⟨dirty, flag, older⟩

theorem replay_transition {entityId : String} {writes : List Write}
    (puts : ∀ write ∈ writes, ∃ lightId body, write = .put lightId body) :
    (replay entityId writes).transition = givenTransition writes := by
  induction writes with
  | nil => rfl
  | cons write older ih =>
    have before := ih (fun write member => puts write (List.mem_cons_of_mem _ member))
    obtain ⟨lightId, body, rfl⟩ := puts write List.mem_cons_self
    unfold replay givenTransition
    cases v1StateToServiceData body with
    | error error => exact before
    | ok data =>
      simp only [ServiceData.update]
      rw [before]

/-- A slot tells its origin: one channel of a frame with the flag down, or classic commands with it up. -/
def KnownOrigin (channelId : ChannelId) (mapping : LightMapping) : Prop :=
  mapping.dirty = true →
    (mapping.explicitTransition = false ∧ ∃ channel colorSpace, mapping.pendingFrom = [.frame channel colorSpace]) ∨
    (mapping.explicitTransition = true ∧ FromPuts channelId mapping.pendingFrom)

theorem KnownOrigin.clean {channelId : ChannelId} {mapping : LightMapping} (clean : mapping.dirty = false) :
    KnownOrigin channelId mapping := by
  intro dirty
  rw [clean] at dirty
  cases dirty

theorem KnownOrigin.queue {channelId : ChannelId} {mapping : LightMapping} (known : KnownOrigin channelId mapping)
    {body : Json} {slot : ServiceData × List Write}
    (accepted : mapping.commandSlot channelId body = .ok (some slot)) : KnownOrigin channelId (mapping.queue slot) := by
  intro _
  obtain ⟨older, source, merged⟩ := commandSlot_source accepted
  refine .inr ⟨rfl, ?_, ?_⟩
  · change slot.2 ≠ []
    rw [source]
    exact List.cons_ne_nil _ _
  · intro write member
    change write ∈ slot.2 at member
    rw [source] at member
    rcases List.mem_cons.mp member with rfl | before
    · exact ⟨body, rfl⟩
    · rcases merged with rfl | ⟨dirty, flag, rfl⟩
      · cases before
      · rcases known dirty with ⟨down, _⟩ | ⟨_, puts⟩
        · rw [flag] at down
          cases down
        · exact puts.2 write before

/-- Slots that tell their origin, send times that the history tells, and calls that were as they should be. -/
structure Accounted (x : Slots) : Prop where
  known : ∀ channelId, KnownOrigin channelId (x.mapping channelId)
  truthful : ∀ channelId, (x.mapping channelId).Truthful
  stamped : ∀ channelId, (x.mapping channelId).lastSent = (previousCall channelId x.log).getD 0
  positive : ∀ channelId earlier, previousCall channelId x.log = some earlier → 0 < earlier
  calls : CallsExact x.log

theorem dynamicTransition_fade {now lastSent : ℚ} {previous : Option ℚ} (stamped : lastSent = previous.getD 0)
    (positive : ∀ earlier, previous = some earlier → 0 < earlier) : dynamicTransition now lastSent = fade now previous := by
  unfold dynamicTransition
  rw [stamped]
  cases previous with
  | none => rfl
  | some earlier => exact if_pos (positive earlier rfl)

/-- The call that a drain loop makes of an accounted slot. -/
theorem Accounted.call {x : Slots} (accounted : Accounted x) {s : Engine} {channelId : ChannelId} {data : ServiceData}
    (dirty : (x.mapping channelId).dirty = true) (pending : (x.mapping channelId).pendingData = some data) :
    CallExact (s.callOf channelId (x.mapping channelId) data) s.now (previousCall channelId x.log) := by
  have told := accounted.truthful channelId dirty
  rw [pending] at told
  have same : data = replay (x.mapping channelId).entityId (x.mapping channelId).pendingFrom := Option.some.inj told
  rcases accounted.known channelId dirty with ⟨down, channel, colorSpace, source⟩ | ⟨up, puts⟩
  · have framed : data = frameData (x.mapping channelId).entityId channel colorSpace := by
      rw [same, source]
      rfl
    have serviceless : (frameData (x.mapping channelId).entityId channel colorSpace).service = none := by
      unfold frameData
      split <;> rfl
    have faded : dynamicTransition s.now (x.mapping channelId).lastSent = fade s.now (previousCall channelId x.log) :=
      dynamicTransition_fade (accounted.stamped channelId) (accounted.positive channelId)
    refine .frame (x.mapping channelId).entityId source ?_
    unfold Engine.callOf
    simp only [down, faded, framed, serviceless, Bool.false_eq_true, if_false]
  · have whole : (s.callOf channelId (x.mapping channelId) data).data = { data with service := none } := by
      unfold Engine.callOf
      simp only [up, if_true]
    refine .puts (x.mapping channelId).entityId puts (whole.trans (by rw [same]; rfl)) ?_
    rw [whole]
    have transitions : ∀ write ∈ (x.mapping channelId).pendingFrom, ∃ lightId body, write = .put lightId body := by
      intro write member
      obtain ⟨body, put⟩ := puts.2 write member
      exact ⟨channelId, body, put⟩
    change data.transition = _
    rw [same]
    exact replay_transition transitions

/-- An entry that is neither a flush nor a call leaves the accounts as they are. -/
theorem Accounted.noted {x : Slots} (accounted : Accounted x) {mapping : ChannelId → LightMapping} {entry : Obs}
    (uncounted : ∀ log channelId, previousCall channelId (entry :: log) = previousCall channelId log)
    (uncalled : ∀ drain call begun, entry ≠ .callBegun drain call begun)
    (known : ∀ channelId, KnownOrigin channelId (mapping channelId)) (truthful : ∀ channelId, (mapping channelId).Truthful)
    (sent : ∀ channelId, (mapping channelId).lastSent = (x.mapping channelId).lastSent) :
    Accounted ⟨mapping, entry :: x.log⟩ where
  known := known
  truthful := truthful
  stamped := fun channelId => by
    rw [uncounted, sent]
    exact accounted.stamped channelId
  positive := fun channelId earlier found => accounted.positive channelId earlier (uncounted x.log channelId ▸ found)
  calls := accounted.calls.cons (fun drain call begun same => absurd same (uncalled drain call begun))

/-- A light's slot replaced by another one. -/
theorem update_kept {mapping : ChannelId → LightMapping} {changed : LightMapping} (channelId : ChannelId)
    (inv : ChannelId → LightMapping → Prop) (here : inv channelId changed) (held : ∀ other, inv other (mapping other))
    (other : ChannelId) : inv other (Function.update mapping channelId changed other) := by
  by_cases same : other = channelId
  · subst other
    rw [Function.update_self]
    exact here
  · rw [Function.update_of_ne same]
    exact held other

theorem update_lastSent {mapping : ChannelId → LightMapping} {changed : LightMapping} {channelId : ChannelId}
    (sent : changed.lastSent = (mapping channelId).lastSent) (other : ChannelId) :
    (Function.update mapping channelId changed other).lastSent = (mapping other).lastSent :=
  update_kept channelId (fun other changed => changed.lastSent = (mapping other).lastSent) sent (fun _ => rfl) other

/-- Every change other than one of a frame keeps the accounts. -/
theorem Accounted.change {s : Engine} {event : Event} (started : ClockStarted s event)
    (unframed : ∀ data, event ≠ .frame data) {x y : Slots} (accounted : Accounted x) (change : Change s event x y) :
    Accounted y := by
  cases change with
  | noted entry quiet =>
    refine accounted.noted ?_ ?_ accounted.known accounted.truthful (fun _ => rfl)
    · intro log channelId
      cases entry with
      | flushed => cases quiet
      | callBegun drain call begun => cases quiet
      | _ => rfl
    · rintro drain call begun rfl
      cases quiet
  | flushed _ =>
    exact {
      known := fun _ => .clean rfl
      truthful := fun _ => .clean rfl
      stamped := fun _ => rfl
      positive := fun _ _ found => by cases found
      calls := accounted.calls.cons (fun _ _ _ same => by cases same) }
  | wrote same parsed member free mapped outside => exact absurd same (unframed _)
  | @queued channelId body slot same accepted =>
    refine accounted.noted (fun _ _ => rfl) (fun _ _ _ same => by cases same) ?_ ?_ ?_
    · exact update_kept channelId KnownOrigin ((accounted.known channelId).queue accepted.2.2) accounted.known
    · exact update_kept channelId (fun _ mapping => mapping.Truthful)
        ((accounted.truthful channelId).queue accepted.2.2) accounted.truthful
    · exact update_lastSent rfl
  | @discarded _ drain outcome channelId same dirty empty =>
    have sent : (x.mapping channelId).grab.lastSent = (x.mapping channelId).lastSent := rfl
    exact {
      known := update_kept channelId KnownOrigin (.clean rfl) accounted.known
      truthful := update_kept channelId (fun _ mapping => mapping.Truthful) (.clean rfl) accounted.truthful
      stamped := fun other => (update_lastSent sent other).trans (accounted.stamped other)
      positive := accounted.positive
      calls := accounted.calls }
  | @dropped _ drain outcome channelId same dirty logged =>
    refine accounted.noted (fun _ _ => rfl) (fun _ _ _ same => by cases same) ?_ ?_ ?_
    · exact update_kept channelId KnownOrigin (.clean rfl) accounted.known
    · exact update_kept channelId (fun _ mapping => mapping.Truthful) (.clean rfl) accounted.truthful
    · exact update_lastSent rfl
  | @begun _ drain outcome channelId data same dirty pending logged =>
    have positive : 0 < s.now := by
      rw [same] at started
      exact started
    have exact := accounted.call (s := s) dirty pending
    have newest : ∀ other, previousCall other (.callBegun drain (s.callOf channelId (x.mapping channelId) data) s.now :: x.log) =
        if channelId = other then some s.now else previousCall other x.log := fun _ => rfl
    refine ⟨?_, ?_, ?_, ?_, ?_⟩
    · exact update_kept channelId KnownOrigin (.clean rfl) accounted.known
    · exact update_kept channelId (fun _ mapping => mapping.Truthful) (.clean rfl) accounted.truthful
    · intro other
      rw [newest]
      change (Function.update x.mapping channelId _ other).lastSent = _
      by_cases here : channelId = other
      · rw [if_pos here, ← here, Function.update_self]
        rfl
      · rw [if_neg here, Function.update_of_ne (Ne.symm here)]
        exact accounted.stamped other
    · intro other earlier found
      rw [newest] at found
      by_cases here : channelId = other
      · rw [if_pos here] at found
        exact Option.some.inj found ▸ positive
      · rw [if_neg here] at found
        exact accounted.positive other earlier found
    · apply accounted.calls.cons
      intro drain' call begun same'
      cases same'
      exact exact

theorem FrameEntries.uncounted {entries : List Obs} (wrote : FrameEntries entries) (channelId : ChannelId) (log : List Obs) :
    previousCall channelId (entries ++ log) = previousCall channelId log := by
  induction entries with
  | nil => rfl
  | cons entry rest ih =>
    have later := ih (fun entry member => wrote entry (List.mem_cons_of_mem _ member))
    rcases wrote entry List.mem_cons_self with ⟨channel, colorSpace, rfl⟩ | ⟨channel, colorSpace, against, rfl⟩
    · exact later
    · exact later

theorem FrameEntries.callsExact {entries : List Obs} (wrote : FrameEntries entries) {log : List Obs}
    (exact : CallsExact log) : CallsExact (entries ++ log) := by
  induction entries with
  | nil => exact exact
  | cons entry rest ih =>
    have later := ih (fun entry member => wrote entry (List.mem_cons_of_mem _ member))
    apply later.cons
    intro drain call begun same
    rcases wrote entry List.mem_cons_self with ⟨channel, colorSpace, rfl⟩ | ⟨channel, colorSpace, against, rfl⟩
    · cases same
    · cases same

/-- A frame over slots whose flags are down. -/
theorem Accounted.frame {s : Engine} (accounted : Accounted (slotsOf s)) {data : Bytes}
    (spares : SparesPuts s (.frame data)) : Accounted (slotsOf (s.handleFrame data)) := by
  obtain ⟨mapping, wake, stats, last, entries, wrote, same, _⟩ := handleFrame_eq s data
  have logged : (slotsOf (s.handleFrame data)).log = entries ++ s.log := by rw [same]; rfl
  have slots : ∀ channelId, (s.handleFrame data).mapping channelId = s.mapping channelId ∨
      ((s.mapping channelId).explicitTransition = false ∧ ∃ channel colorSpace,
        (s.handleFrame data).mapping channelId = (s.mapping channelId).schedule channel colorSpace) := by
    intro channelId
    rcases handleFrame_slot s data channelId with ⟨_, kept⟩ | ⟨writes, scheduled⟩
    · exact .inl kept
    · exact .inr ⟨eq_false_of_ne_true (fun flag => spares channelId writes.2.1 flag writes), scheduled⟩
  constructor
  · intro channelId
    change KnownOrigin channelId ((s.handleFrame data).mapping channelId)
    rcases slots channelId with kept | ⟨down, channel, colorSpace, scheduled⟩
    · rw [kept]
      exact accounted.known channelId
    · rw [scheduled]
      exact fun _ => .inl ⟨down, channel, colorSpace, rfl⟩
  · intro channelId
    change ((s.handleFrame data).mapping channelId).Truthful
    rcases slots channelId with kept | ⟨_, channel, colorSpace, scheduled⟩
    · rw [kept]
      exact accounted.truthful channelId
    · rw [scheduled]
      exact LightMapping.schedule_truthful _ _ _
  · intro channelId
    rw [logged, FrameEntries.uncounted wrote]
    refine Eq.trans ?_ (accounted.stamped channelId)
    change ((s.handleFrame data).mapping channelId).lastSent = (s.mapping channelId).lastSent
    rcases slots channelId with kept | ⟨_, channel, colorSpace, scheduled⟩
    · rw [kept]
    · rw [scheduled]
      rfl
  · intro channelId
    rw [logged, FrameEntries.uncounted wrote]
    exact accounted.positive channelId
  · rw [logged]
    exact FrameEntries.callsExact wrote accounted.calls

theorem Accounted.step {s t : Engine} {event : Event} (accounted : Accounted (slotsOf s)) (spares : SparesPuts s event)
    (started : ClockStarted s event) (step : machine.step s event = some t) : Accounted (slotsOf t) := by
  by_cases framed : ∃ data, event = .frame data
  · obtain ⟨data, rfl⟩ := framed
    cases step
    exact accounted.frame spares
  · refine (step_changes step).invariant Accounted ?_ accounted
    intro x y held change
    exact held.change started (fun data same => framed ⟨data, same⟩) change

theorem Accounted.start {s : Engine} (start : machine.Start s) : Accounted (slotsOf s) := by
  obtain ⟨lights, states, now, rfl⟩ := start
  have fresh : ∀ channelId, ∃ other entityId,
      (slotsOf (engineOf lights states now)).mapping channelId = { channelId := other, entityId := entityId } :=
    fresh_mapping lights states now
  constructor
  · intro channelId
    obtain ⟨other, entityId, same⟩ := fresh channelId
    rw [same]
    exact .clean rfl
  · intro channelId
    obtain ⟨other, entityId, same⟩ := fresh channelId
    rw [same]
    exact .clean rfl
  · intro channelId
    obtain ⟨other, entityId, same⟩ := fresh channelId
    rw [same]
    rfl
  · intro channelId earlier found
    cases found
  · intro newer older drain call begun split
    exact absurd split (by simp [slotsOf, engineOf, Engine.new])

/-- The flags are exact in every state of a run exactly when no frame overwrites a slot whose flag is still
set. In such a run every call is sent with the fade of its frame or with what its commands gave. -/
theorem origins_exact {s t : Engine} {events : List Event} (start : machine.Start s)
    (run : Run machine Always s events t) :
    (Throughout machine OriginExact s events ↔ Run machine SparesPuts s events t) ∧
    (Run machine (fun x event => SparesPuts x event ∧ ClockStarted x event) s events t → CallsExact t.log) := by
  constructor
  · refine run.throughout_iff (fun x event y _ exact step => originExact_step exact step)
      ⟨s, [], start, .nil s⟩ ?_
    obtain ⟨lights, states, now, rfl⟩ := start
    intro channelId dirty
    obtain ⟨other, entityId, same⟩ := fresh_mapping lights states now channelId
    rw [same] at dirty
    cases dirty
  · intro guarded
    have accounted : Accounted (slotsOf t) := guarded.invariant (fun x => Accounted (slotsOf x))
      (fun x event y held guard step => held.step guard.1 guard.2 step) (.start start)
    exact accounted.calls

instance (mapping : LightMapping) : Decidable (LastPut mapping) :=
  match same : mapping.pendingFrom with
  | [] => isFalse (by rintro ⟨lightId, body, older, put⟩; rw [same] at put; cases put)
  | .frame channel colorSpace :: _ => isFalse (by rintro ⟨lightId, body, older, put⟩; rw [same] at put; cases put)
  | .put lightId body :: older => isTrue ⟨lightId, body, older, same⟩

/-- A command that is sent, and a frame after it. -/
def commandThenFrame : List Event :=
  [.tick 1, brighten 2, .drain 0 .returned, .drain 0 .returned, .frame redFrame, .drain 0 .returned]

theorem origins_exact_commandThenFrame : ∃ t, Throughout machine OriginExact twoLights commandThenFrame ∧
    CallsExact t.log ∧ Run machine Always twoLights commandThenFrame t := by
  have played : (play machine (fun x event => SparesPuts x event ∧ ClockStarted x event) twoLights
      commandThenFrame).isSome = true := by decide +kernel
  obtain ⟨t, found⟩ := Option.isSome_iff_exists.mp played
  have guarded := run_of_play twoLights t commandThenFrame found
  have run : Run machine Always twoLights commandThenFrame t := guarded.mono (fun _ _ _ => trivial)
  obtain ⟨exact, calls⟩ := origins_exact ⟨_, _, _, rfl⟩ run
  exact ⟨t, exact.mpr (guarded.mono (fun _ _ both => both.1)), calls guarded, run⟩

/-- A command whose slot a session's start flushes before it is sent, and the session's first frame. -/
def flushedCommand : List Event := [.tick 1, brighten 2, .snapshot, .frame redFrame]

/-- The frame's slot is taken for a command's, and its call is sent without a transition. -/
theorem flushedCommand_misread : ∃ s t drain call begun, Run machine Always twoLights flushedCommand s ∧
    (s.mapping 2).dirty = true ∧ (s.mapping 2).explicitTransition = true ∧ ¬LastPut (s.mapping 2) ∧
    machine.step s (.drain 0 .returned) = some t ∧ t.log.head? = some (.callBegun drain call begun) ∧
    call.source.any (fun write => write matches .frame _ _) = true ∧ call.data.transition = none := by
  have played : (play machine Always twoLights flushedCommand).any (fun s => (s.mapping 2).dirty &&
      (s.mapping 2).explicitTransition && !decide (LastPut (s.mapping 2)) &&
      (machine.step s (.drain 0 .returned)).any (fun t => t.log.head?.any (begins (fun call =>
        call.source.any (fun write => write matches .frame _ _) && call.data.transition.isNone)))) = true := by decide +kernel
  obtain ⟨s, run, found⟩ := (Option.any_eq_true _ _).mp played
  simp only [Bool.and_eq_true, Bool.not_eq_true', decide_eq_false_iff_not] at found
  obtain ⟨⟨⟨dirty, flag⟩, unput⟩, later⟩ := found
  obtain ⟨t, step, sent⟩ := (Option.any_eq_true _ _).mp later
  obtain ⟨entry, newest, frame⟩ := (Option.any_eq_true _ _).mp sent
  obtain ⟨drain, call, begun, rfl, carried⟩ := begins_iff.mp frame
  simp only [Bool.and_eq_true, Option.isNone_iff_eq_none] at carried
  exact ⟨s, t, drain, call, begun, run_of_play _ _ _ run, dirty, flag, unput, step, newest, carried.1, carried.2⟩

end HueEntertainment.SlotOrigin
