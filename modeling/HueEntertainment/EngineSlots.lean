import HueEntertainment.EngineHistory

/-! What a step does to the slot of one light. -/

namespace HueEntertainment.EngineSlots
open HueStream LightCommand PyValue Entertainment EngineSteps EngineFrames DrainSteps EngineMoves
  EngineHistory Runs

/-- The ways a step other than a frame leaves the mapping of a light. -/
inductive SlotMove (s : Engine) (event : Event) (channelId : ChannelId) : LightMapping → Prop where
  | kept : SlotMove s event channelId (s.mapping channelId)
  | flushed : SlotMove s event channelId (s.mapping channelId).forget
  | queued {body : Json} {slot : ServiceData × List Write} (same : event = .command channelId body)
      (accepted : Accepts s channelId body slot) :
      SlotMove s event channelId ((s.mapping channelId).queue slot)
  | taken {mapping : LightMapping} (dirty : (s.mapping channelId).dirty = true)
      (taken : Taken (s.mapping channelId) mapping) : SlotMove s event channelId mapping

theorem queued_slot {s : Engine} {lightId : Nat} {body : Json} {slot : ServiceData × List Write}
    (accepted : Accepts s lightId body slot) (channelId : ChannelId) :
    SlotMove s (.command lightId body) channelId ((queued s lightId slot).mapping channelId) := by
  change SlotMove s _ channelId (Function.update s.mapping lightId _ channelId)
  by_cases here : channelId = lightId
  · subst channelId
    rw [Function.update_self]
    exact .queued rfl accepted
  · rw [Function.update_of_ne here]
    exact .kept

theorem slot_step {s t : Engine} {event : Event} (move : Move s event t) (channelId : ChannelId) :
    (∃ data, event = .frame data ∧ t = s.handleFrame data) ∨ SlotMove s event channelId (t.mapping channelId) := by
  cases move with
  | @frame data mapping wake stats last entries wrote held same => exact .inl ⟨data, rfl, same.symm⟩
  | commandKept rejected => exact .inr .kept
  | commandJoined accepted running => exact .inr (queued_slot accepted channelId)
  | commandStarted accepted idle notices => exact .inr (queued_slot accepted channelId)
  | snapshotKept closed => exact .inr .kept
  | snapshotJoined unholds notices running => exact .inr .flushed
  | snapshotStarted unholds notices idle notices' => exact .inr .flushed
  | restoreKept inactive => exact .inr .kept
  | restoreSuspended active waits notices => exact .inr .kept
  | restoreTook active free notices notices' => exact .inr .flushed
  | pauseKept releasing => exact .inr .kept
  | paused unreleased notices => exact .inr .flushed
  | resumeKept => exact .inr .kept
  | resumed unreleased notices => exact .inr .kept
  | released notices => exact .inr .flushed
  | pauseExpired pending notices => exact .inr .kept
  | graceStale pending unreleased => exact .inr .kept
  | graceEnded pending releasing inactive notices => exact .inr .kept
  | graceForced pending releasing active notices => exact .inr .kept
  | drain move =>
    cases move with
    | neverEntered found => exact .inr .kept
    | unwound found live entries notices => exact .inr .kept
    | @ran pc after mapping stats wake running begun drops entries found live ended sweep leaves =>
      right
      change SlotMove s _ channelId (mapping channelId)
      rcases sweep.light channelId with same | ⟨dirty, taken, _⟩
      · rw [same]
        exact .kept
      · exact .taken dirty taken
  | drained found finished notices => exact .inr .flushed
  | reproduced found => exact .inr .kept
  | tick forward => exact .inr .kept
  | setState => exact .inr .kept

theorem fresh_mapping (lights : List (ChannelId × String)) (states : String → Option LightState) (now : ℚ)
    (channelId : ChannelId) : ∃ other entityId, (engineOf lights states now).mapping channelId =
      { channelId := other, entityId := entityId } := by
  unfold engineOf Engine.new
  simp only []
  rw [← List.map_reverse, List.find?_map]
  cases lights.reverse.find? _ with
  | none => exact ⟨channelId, "", rfl⟩
  | some light => exact ⟨light.1, light.2, rfl⟩

theorem channels_step {s t : Engine} {event : Event} (move : Move s event t) : t.channels = s.channels := by
  cases move with
  | drain move => cases move <;> rfl
  | _ => rfl

theorem channels_run {ok : Engine → Event → Prop} {s t : Engine} {events : List Event} (run : Run machine ok s events t) :
    t.channels = s.channels := by
  refine run.invariant (fun x => x.channels = s.channels) ?_ rfl
  intro x event y same _ step
  exact (channels_step (step_move step)).trans same

/-- What a step does to every light's mapping keeps a property of it, if each writer of slots does. -/
theorem slot_kept (inv : ChannelId → LightMapping → Prop)
    (flush : ∀ channelId mapping, inv channelId mapping → inv channelId mapping.forget)
    (schedule : ∀ mapping channel colorSpace, inv channel.channelId mapping →
      inv channel.channelId (mapping.schedule channel colorSpace))
    (take : ∀ channelId mapping after, inv channelId mapping → Taken mapping after → inv channelId after)
    {s t : Engine} {event : Event} (move : Move s event t)
    (queue : ∀ channelId body slot, event = .command channelId body → Accepts s channelId body slot →
      inv channelId (s.mapping channelId) → inv channelId ((s.mapping channelId).queue slot))
    (held : ∀ channelId, inv channelId (s.mapping channelId)) (channelId : ChannelId) :
    inv channelId (t.mapping channelId) := by
  rcases slot_step move channelId with ⟨data, rfl, rfl⟩ | slot
  · apply handleFrame_induct (motive := fun z => inv channelId (z.mapping channelId)) s data
    · exact held channelId
    · exact held channelId
    · intro z channel colorSpace _ _ before
      rcases scheduleUpdate_cases z channel colorSpace with ⟨_, same⟩ | ⟨_, _, same⟩ | ⟨_, _, same⟩
      · rw [same]
        exact before
      · rw [same]
        exact before
      · rw [same, scheduled_mapping]
        by_cases here : channelId = channel.channelId
        · subst channelId
          rw [Function.update_self]
          exact schedule _ channel colorSpace before
        · rw [Function.update_of_ne here]
          exact before
  · generalize after : t.mapping channelId = mapping at slot
    cases slot with
    | kept => exact held channelId
    | flushed => exact flush channelId _ (held channelId)
    | queued same accepted => exact queue channelId _ _ same accepted (held channelId)
    | taken dirty taken => exact take channelId _ _ (held channelId) taken

/-- A property of one light's mapping that every writer of slots and every flush keeps. -/
theorem slot_invariant {ok : Engine → Event → Prop} (inv : ChannelId → LightMapping → Prop)
    (fresh : ∀ channelId other entityId, inv channelId { channelId := other, entityId := entityId })
    (flush : ∀ channelId mapping, inv channelId mapping → inv channelId mapping.forget)
    (schedule : ∀ mapping channel colorSpace, inv channel.channelId mapping →
      inv channel.channelId (mapping.schedule channel colorSpace))
    (queue : ∀ channelId mapping body slot, inv channelId mapping →
      mapping.commandSlot channelId body = .ok (some slot) → inv channelId (mapping.queue slot))
    (take : ∀ channelId mapping after, inv channelId mapping → Taken mapping after → inv channelId after)
    {s : Engine} (reached : Reachable machine ok s) (channelId : ChannelId) :
    inv channelId (s.mapping channelId) := by
  refine reached.invariant (fun x => ∀ channelId, inv channelId (x.mapping channelId)) ?_ ?_ channelId
  · rintro s ⟨lights, states, now, rfl⟩
    intro channelId
    obtain ⟨other, entityId, same⟩ := fresh_mapping lights states now channelId
    rw [same]
    exact fresh channelId other entityId
  · intro x event y held _ step
    refine slot_kept inv flush schedule take (step_move step) ?_ held
    intro channelId body slot _ accepted before
    exact queue channelId _ body slot before accepted.2.2

/-- A channel of the frame overwrites the light's slot. -/
def FrameWritesSlot (s : Engine) (data : Bytes) (channelId : ChannelId) : Prop :=
  s.suppressed = false ∧ channelId ∈ s.channels ∧ ∃ frame channel, parseHuestreamFrame data = .ok (some frame) ∧
    channel ∈ frame.channels ∧ channel.channelId = channelId ∧
    (s.mapping channelId).withinTolerance channel frame.colorSpace = false

theorem frameWritesSlot_iff (s : Engine) (data : Bytes) (channelId : ChannelId) : FrameWritesSlot s data channelId ↔
    s.suppressed = false ∧ channelId ∈ s.channels ∧
      match parseHuestreamFrame data with
      | .ok (some frame) => ∃ channel ∈ frame.channels, channel.channelId = channelId ∧
          (s.mapping channelId).withinTolerance channel frame.colorSpace = false
      | _ => False := by
  unfold FrameWritesSlot
  rcases parseHuestreamFrame data with error | frame | frame <;> simp

instance (s : Engine) (data : Bytes) (channelId : ChannelId) : Decidable (FrameWritesSlot s data channelId) := by
  rw [frameWritesSlot_iff]
  split <;> infer_instance

/-- Whatever the channels of a frame do to a light, the last one that writes its slot decides. -/
theorem scheduleAll_slot (colorSpace : Nat) (channelId : ChannelId) (channels : List ChannelColor) (s : Engine)
    (mapped : channelId ∈ s.channels) :
    ((∀ channel ∈ channels, channel.channelId = channelId →
        (s.mapping channelId).withinTolerance channel colorSpace = true) ∧
      (channels.foldl (fun s channel => s.scheduleUpdate channel colorSpace) s).mapping channelId =
        s.mapping channelId) ∨
    ((∃ channel ∈ channels, channel.channelId = channelId ∧
        (s.mapping channelId).withinTolerance channel colorSpace = false) ∧
      ∃ last ∈ channels, last.channelId = channelId ∧
        (channels.foldl (fun s channel => s.scheduleUpdate channel colorSpace) s).mapping channelId =
          (s.mapping channelId).schedule last colorSpace) := by
  induction channels generalizing s with
  | nil => exact .inl ⟨by simp, rfl⟩
  | cons channel rest ih =>
    obtain ⟨mapping, wake, entries, _, after⟩ := scheduleUpdate_eq s channel colorSpace
    have mapped' : channelId ∈ (s.scheduleUpdate channel colorSpace).channels := by
      rw [after]
      exact mapped
    have later := ih (s.scheduleUpdate channel colorSpace) mapped'
    rw [List.foldl_cons]
    by_cases here : channel.channelId = channelId
    · rcases scheduleUpdate_cases s channel colorSpace with
        ⟨unmapped, _⟩ | ⟨_, within, same⟩ | ⟨_, outside, same⟩
      · exact absurd (here ▸ mapped) unmapped
      · have kept : (s.scheduleUpdate channel colorSpace).mapping channelId = s.mapping channelId := by
          rw [same]
          rfl
        rw [kept] at later
        rw [here] at within
        rcases later with ⟨all, ends⟩ | ⟨⟨writer, member, writes⟩, ends⟩
        · refine .inl ⟨?_, ends⟩
          intro other member named
          rcases List.mem_cons.mp member with rfl | member
          · exact within
          · exact all other member named
        · obtain ⟨last, among, ends⟩ := ends
          exact .inr ⟨⟨writer, List.mem_cons_of_mem _ member, writes⟩, last, List.mem_cons_of_mem _ among, ends⟩
      · have wrote : (s.scheduleUpdate channel colorSpace).mapping channelId =
            (s.mapping channelId).schedule channel colorSpace := by
          rw [same, scheduled_mapping, ← here]
          exact Function.update_self _ _ _
        rw [wrote] at later
        rw [here] at outside
        refine .inr ⟨⟨channel, List.mem_cons_self, here, outside⟩, ?_⟩
        rcases later with ⟨_, ends⟩ | ⟨_, last, among, id, ends⟩
        · exact ⟨channel, List.mem_cons_self, here, ends⟩
        · exact ⟨last, List.mem_cons_of_mem _ among, id, ends⟩
    · have kept : (s.scheduleUpdate channel colorSpace).mapping channelId = s.mapping channelId := by
        rcases scheduleUpdate_cases s channel colorSpace with ⟨_, same⟩ | ⟨_, _, same⟩ | ⟨_, _, same⟩
        · rw [same]
        · rw [same]
          rfl
        · rw [same, scheduled_mapping]
          exact Function.update_of_ne (Ne.symm here) _ _
      rw [kept] at later
      rcases later with ⟨all, ends⟩ | ⟨⟨writer, member, writes⟩, ends⟩
      · refine .inl ⟨?_, ends⟩
        intro other member named
        rcases List.mem_cons.mp member with rfl | member
        · exact absurd named here
        · exact all other member named
      · obtain ⟨last, among, ends⟩ := ends
        exact .inr ⟨⟨writer, List.mem_cons_of_mem _ member, writes⟩, last, List.mem_cons_of_mem _ among, ends⟩

/-- A light that is not mapped has no slot to write. -/
theorem scheduleAll_unmapped (colorSpace : Nat) {channelId : ChannelId} (channels : List ChannelColor) {s : Engine}
    (unmapped : channelId ∉ s.channels) :
    (channels.foldl (fun s channel => s.scheduleUpdate channel colorSpace) s).mapping channelId =
      s.mapping channelId := by
  induction channels generalizing s with
  | nil => rfl
  | cons channel rest ih =>
    obtain ⟨mapping, wake, entries, _, after⟩ := scheduleUpdate_eq s channel colorSpace
    have still : channelId ∉ (s.scheduleUpdate channel colorSpace).channels := by
      rw [after]
      exact unmapped
    rw [List.foldl_cons, ih still]
    rcases scheduleUpdate_cases s channel colorSpace with ⟨_, same⟩ | ⟨_, _, same⟩ | ⟨mapped, _, same⟩
    · rw [same]
    · rw [same]
      rfl
    · have other : channelId ≠ channel.channelId := fun here => unmapped (here ▸ mapped)
      rw [same, scheduled_mapping]
      exact Function.update_of_ne other _ _

/-- A frame leaves a light's mapping as it is, or as one of its channels schedules it. -/
theorem handleFrame_slot (s : Engine) (data : Bytes) (channelId : ChannelId) :
    (¬FrameWritesSlot s data channelId ∧ (s.handleFrame data).mapping channelId = s.mapping channelId) ∨
    (FrameWritesSlot s data channelId ∧ ∃ channel colorSpace,
      (s.handleFrame data).mapping channelId = (s.mapping channelId).schedule channel colorSpace) := by
  unfold Engine.handleFrame FrameWritesSlot
  rcases parseHuestreamFrame data with error | frame | frame
  · exact .inl ⟨by simp, rfl⟩
  · exact .inl ⟨by simp, rfl⟩
  · have counted : s.countFrame.suppressed = s.suppressed := rfl
    by_cases suppressed : s.suppressed = true
    · simp only [counted, if_pos suppressed]
      exact .inl ⟨by simp [suppressed], rfl⟩
    · simp only [counted, if_neg suppressed]
      have free : s.suppressed = false := eq_false_of_ne_true suppressed
      by_cases mapped : channelId ∈ s.channels
      · rcases scheduleAll_slot frame.colorSpace channelId frame.channels s.countFrame mapped with
          ⟨all, ends⟩ | ⟨⟨channel, member, named, outside⟩, last, _, _, ends⟩
        · refine .inl ⟨?_, ends⟩
          rintro ⟨_, _, found, channel, same, member, named, outside⟩
          obtain rfl := Option.some.inj (Except.ok.inj same)
          have within := all channel member named
          change (s.mapping channelId).withinTolerance channel _ = true at within
          rw [outside] at within
          cases within
        · exact .inr ⟨⟨free, mapped, frame, channel, rfl, member, named, outside⟩, last, _, ends⟩
      · refine .inl ⟨fun writes => mapped writes.2.1, ?_⟩
        apply scheduleAll_unmapped
        exact mapped

/-- All the dirty slots are of mapped lights. -/
def DirtyMapped (s : Engine) : Prop := ∀ channelId, (s.mapping channelId).dirty = true → channelId ∈ s.channels

theorem DirtyMapped.step {s t : Engine} {event : Event} (held : DirtyMapped s) (step : machine.step s event = some t) :
    DirtyMapped t := by
  intro channelId dirty
  have move := step_move step
  rw [channels_step move]
  by_cases framed : ∃ data, event = .frame data
  · obtain ⟨data, rfl⟩ := framed
    cases step
    rcases handleFrame_slot s data channelId with ⟨_, kept⟩ | ⟨writes, _⟩
    · rw [kept] at dirty
      exact held channelId dirty
    · exact writes.2.1
  · rcases slot_step move channelId with ⟨data, same, _⟩ | slot
    · exact absurd ⟨data, same⟩ framed
    · generalize t.mapping channelId = mapping at slot dirty
      cases slot with
      | kept => exact held channelId dirty
      | flushed => cases dirty
      | queued same accepted => exact accepted.2.1
      | taken was taken => exact held channelId was

/-- Only a mapped light has a slot to write. -/
theorem dirtyMapped {ok : Engine → Event → Prop} {s : Engine} (reached : Reachable machine ok s) : DirtyMapped s := by
  refine reached.invariant DirtyMapped ?_ (fun x event y held _ step => held.step step)
  rintro s ⟨lights, states, now, rfl⟩ channelId dirty
  obtain ⟨other, entityId, same⟩ := fresh_mapping lights states now channelId
  rw [same] at dirty
  cases dirty

/-- What a dirty slot holds is what its ghost writes leave. -/
theorem truthful {ok : Engine → Event → Prop} {s : Engine} (reached : Reachable machine ok s)
    (channelId : ChannelId) : (s.mapping channelId).Truthful := by
  refine slot_invariant (fun _ mapping => mapping.Truthful) ?_ ?_ ?_ ?_ ?_ reached channelId
  · exact fun _ _ _ => .clean rfl
  · exact fun _ _ _ => .clean rfl
  · exact fun mapping channel colorSpace _ => mapping.schedule_truthful channel colorSpace
  · exact fun _ _ _ _ truthful accepted => truthful.queue accepted
  · exact fun _ _ _ _ taken => .clean taken.clean

end HueEntertainment.EngineSlots
