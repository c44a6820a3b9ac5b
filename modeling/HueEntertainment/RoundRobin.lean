import HueEntertainment.SlotLedger
import HueEntertainment.Unload

/-! The order in which one drain loop serves the lights. A pass visits them in a fixed order and the next
one starts over, so a light that waits is passed at most once by every other light. -/

namespace HueEntertainment.RoundRobin
open HueEntertainment.Const HueStream LightCommand PyValue Entertainment EngineSteps EngineFrames DrainSteps
  EngineMoves EngineHistory EngineSlots SlotHistory SlotLedger TaskTable Unload Runs

section Order
variable {α : Type} [DecidableEq α]

/-- What comes before the first occurrence of an element. -/
def before (waiting : α) (order : List α) : List α := order.takeWhile (· ≠ waiting)

theorem before_append_of_mem {waiting : α} {first : List α} (member : waiting ∈ first) (second : List α) :
    before waiting (first ++ second) = before waiting first := by
  induction first with
  | nil => cases member
  | cons head rest ih =>
    by_cases here : head = waiting
    · simp [before, here]
    · have later : waiting ∈ rest := by
        rcases List.mem_cons.mp member with same | later
        · exact absurd same.symm here
        · exact later
      simpa [before, here] using ih later

theorem before_append_of_notMem {waiting : α} {first : List α} (absent : waiting ∉ first) (second : List α) :
    before waiting (first ++ second) = first ++ before waiting second := by
  unfold before
  rw [List.takeWhile_append_of_pos]
  intro element member
  simp only [decide_eq_true_eq]
  intro same
  exact absent (same ▸ member)

theorem before_subset (waiting : α) (order : List α) : before waiting order ⊆ order :=
  (List.takeWhile_prefix _).subset

/-- Of what comes before the waiting element once another element was served, the served one is no part, and
the rest was there already. -/
theorem before_served {waiting served : α} {passed rest back order init : List α} (distinct : order.Nodup)
    (split : order = init ++ served :: rest) (mapped : waiting ∈ order) (other : served ≠ waiting)
    (skipped : waiting ∉ passed) (again : back = order ∨ back = [] ∧ waiting ∈ rest) :
    served ∈ before waiting (passed ++ served :: (rest ++ back)) ∧
      served ∉ before waiting (rest ++ order) ∧
      before waiting (rest ++ order) ⊆ before waiting (passed ++ served :: (rest ++ back)) := by
  have shape : before waiting (passed ++ served :: (rest ++ back)) =
      passed ++ served :: before waiting (rest ++ back) := by
    rw [before_append_of_notMem skipped]
    simp [before, other]
  have same : before waiting (rest ++ order) = before waiting (rest ++ back) := by
    rcases again with rfl | ⟨rfl, later⟩
    · rfl
    · rw [before_append_of_mem later, before_append_of_mem later]
  rw [shape]
  refine ⟨by simp, ?_, ?_⟩
  · rw [split] at distinct mapped
    have parts := List.nodup_append.mp distinct
    have unserved : served ∉ rest := (List.nodup_cons.mp parts.2.1).1
    intro member
    by_cases later : waiting ∈ rest
    · rw [before_append_of_mem later] at member
      exact unserved (before_subset _ _ member)
    · have early : waiting ∈ init := by
        simpa [Ne.symm other, later] using mapped
      rw [before_append_of_notMem later, split, before_append_of_mem early] at member
      rcases List.mem_append.mp member with member | member
      · exact unserved member
      · exact parts.2.2 served (before_subset _ _ member) served List.mem_cons_self rfl
  · rw [same]
    exact List.subset_append_of_subset_right _ (List.subset_cons_self _ _)

end Order

/-- A scan that comes to the light does not send it. -/
def Skipped (s : Engine) (channelId : ChannelId) : Prop :=
  (s.mapping channelId).dirty = true → (s.mapping channelId).pendingData = none ∨ available s channelId = false

/-- The light's slot holds something that a scan that comes to it sends. -/
def Ready (s : Engine) (channelId : ChannelId) : Prop :=
  (s.mapping channelId).dirty = true ∧ (s.mapping channelId).pendingData ≠ none ∧ available s channelId = true

theorem Ready.unskipped {s : Engine} {channelId : ChannelId} (ready : Ready s channelId) : ¬Skipped s channelId := by
  intro skipped
  rcases skipped ready.1 with empty | gone
  · exact ready.2.1 empty
  · rw [ready.2.2] at gone
    cases gone

/-- What a scan skips after it took one slot, it skips before. -/
theorem Skipped.of_taken {s t : Engine} {taken channelId : ChannelId} (skipped : Skipped t channelId)
    (mapping : t.mapping = Function.update s.mapping taken (t.mapping taken)) (states : t.states = s.states)
    (here : Skipped s taken) : Skipped s channelId := by
  by_cases same : channelId = taken
  · rw [same]
    exact here
  · have kept : t.mapping channelId = s.mapping channelId := by
      rw [mapping, Function.update_of_ne same]
    intro dirty
    simpa only [kept, available, Engine.reportedUnavailable, states] using skipped (kept ▸ dirty)

/-- A scan skips the lights up to the one it begins a call for, or all of them. -/
theorem scan_splits (drain : DrainId) (channels : List ChannelId) (s : Engine) :
    match (s.scan drain channels).2 with
    | some (call, rest) => ∃ passed, channels = passed ++ call.channelId :: rest ∧
        ∀ channelId ∈ passed, Skipped s channelId
    | none => ∀ channelId ∈ channels, Skipped s channelId := by
  induction channels generalizing s with
  | nil => simp [Engine.scan]
  | cons first rest ih =>
    -- a slot that is taken without a call comes first among those skipped
    have later : ∀ t : Engine, t.mapping = Function.update s.mapping first (t.mapping first) → t.states = s.states →
        Skipped s first → match (t.scan drain rest).2 with
          | some (call, rest') => ∃ passed, first :: rest = passed ++ call.channelId :: rest' ∧
              ∀ channelId ∈ passed, Skipped s channelId
          | none => ∀ channelId ∈ first :: rest, Skipped s channelId := by
      intro t mapping states here
      have below := ih t
      split at below
      next call rest' found =>
        obtain ⟨passed, split, skipped⟩ := below
        refine ⟨first :: passed, by rw [split]; rfl, ?_⟩
        intro channelId member
        rcases List.mem_cons.mp member with rfl | member
        · exact here
        · exact (skipped channelId member).of_taken mapping states here
      next found =>
        intro channelId member
        rcases List.mem_cons.mp member with rfl | member
        · exact here
        · exact (below channelId member).of_taken mapping states here
    unfold Engine.scan
    by_cases dirty : (s.mapping first).dirty = true
    · simp only [if_pos dirty]
      cases pending : (s.mapping first).pendingData with
      | none =>
        refine later _ ?_ rfl (fun _ => .inl pending)
        rw [Engine.setMapping_mapping, Function.update_self]
        rfl
      | some data =>
        simp only []
        obtain ⟨answer, _⟩ := lightAvailable_grab s (s.mapping first)
        by_cases gone : (s.lightAvailable (s.mapping first).grab).1 = true
        · simp only [if_pos gone]
          exact ⟨[], rfl, by simp⟩
        · simp only [if_neg gone]
          refine later _ ?_ rfl (fun _ => .inr ?_)
          · rw [Engine.observe_mapping, Engine.setMapping_mapping, Function.update_self]
            rfl
          · simpa [available, answer] using gone
    · simp only [if_neg dirty]
      exact later s (Function.update_eq_self _ _).symm rfl (fun here => absurd here dirty)

/-- The lights in the order in which a loop comes to them: the rest of its pass, then all of them. -/
def ahead (s : Engine) : DrainPc → List ChannelId
  | .calling _ rest => rest ++ s.channels
  | _ => s.channels

/-- The light of a call that a loop awaits, and the rest of its pass, are the end of a pass. -/
def InPass (s : Engine) : DrainPc → Prop
  | .calling call rest => ∃ passed, s.channels = passed ++ call.channelId :: rest
  | _ => True

/-- A loop goes to the first light ahead of it that it sends, past lights that it skips. -/
structure Serves (s : Engine) (pc : DrainPc) (t : Engine) (drain : DrainId) (call : Call)
    (rest passed back : List ChannelId) : Prop where
  task : t.drains drain = some ⟨.calling call rest, false⟩
  order : ahead s pc = passed ++ call.channelId :: (rest ++ back)
  skipped : ∀ channelId ∈ passed, Skipped s channelId
  inPass : InPass s (.calling call rest)
  again : back = s.channels ∨ back = []

/-- The loop has not begun a call. -/
def Idle (t : Engine) (drain : DrainId) : Prop :=
  ∃ pc, t.drains drain = some ⟨pc, false⟩ ∧ ∀ call rest, pc ≠ .calling call rest

/-- What a step of a loop does with the lights: it serves one, or skips them all. -/
def Visits (s : Engine) (pc : DrainPc) (t : Engine) (drain : DrainId) : Prop :=
  (∃ call rest passed back, Serves s pc t drain call rest passed back) ∨
    (Idle t drain ∧ ∀ channelId ∈ s.channels, Skipped s channelId)

theorem scan_frame (drain : DrainId) (channels : List ChannelId) (s : Engine) :
    (s.scan drain channels).1.drains = s.drains ∧ (s.scan drain channels).1.channels = s.channels := by
  obtain ⟨mapping, stats, drops, _, same⟩ := scan_eq drain channels s
  rw [same]
  exact ⟨rfl, rfl⟩

/-- What is skipped after a scan that began no call was skipped before it. -/
theorem Skipped.of_scan {drain : DrainId} {channels : List ChannelId} {s : Engine} {channelId : ChannelId}
    (unsent : (s.scan drain channels).2 = none) (skipped : Skipped (s.scan drain channels).1 channelId) :
    Skipped s channelId := by
  obtain ⟨mapping, stats, drops, sweep, same⟩ := scan_eq drain channels s
  rw [unsent] at sweep same
  rw [same] at skipped
  rcases sweep.light channelId with kept | ⟨dirty, taken, why⟩
  · intro dirty
    rw [← kept] at dirty
    have after := skipped dirty
    simpa only [kept, available, Engine.reportedUnavailable] using after
  · intro _
    rcases why with dropped | ⟨call, none, _⟩ | empty
    · obtain ⟨other, here, gone⟩ := sweep.absent _ dropped
      cases here
      exact .inr gone
    · cases none
    · exact .inl empty

/-- A new pass goes to the first light that it sends, or skips them all. -/
theorem drainPass_visits {s : Engine} {drain : DrainId} {pc : DrainPc} (found : s.drains drain = some ⟨pc, false⟩)
    (idleSince : Option ℚ) :
    (∃ call rest passed, (s.drainPass drain idleSince).drains drain = some ⟨.calling call rest, false⟩ ∧
      s.channels = passed ++ call.channelId :: rest ∧ ∀ channelId ∈ passed, Skipped s channelId) ∨
    (Idle (s.drainPass drain idleSince) drain ∧ ∀ channelId ∈ s.channels, Skipped s channelId) := by
  have splits := scan_splits drain s.channels { s with wake := false }
  have frame := scan_frame drain s.channels { s with wake := false }
  unfold Engine.drainPass
  rcases scanned : Engine.scan { s with wake := false } drain s.channels with ⟨next, _ | ⟨call, rest⟩⟩
  · rw [scanned] at splits frame
    have kept : next.drains drain = some ⟨pc, false⟩ := (congrFun frame.1 drain).trans found
    have waits : ∀ idle, Idle (next.setDrain drain (.waiting idle)) drain := by
      intro idle
      refine ⟨.waiting idle, ?_, by simp⟩
      rw [setDrain_of_task kept, Function.update_self]
    have ends : Idle (next.drainFinally drain) drain := by
      refine ⟨.done, ?_, by simp⟩
      change (next.setDrain drain .done).drains drain = _
      rw [setDrain_of_task kept, Function.update_self]
    refine .inr ⟨?_, splits⟩
    simp only []
    split
    · exact waits _
    · split
      · exact waits _
      · split
        · exact ends
        · exact waits _
  · rw [scanned] at splits frame
    obtain ⟨passed, split, skipped⟩ := splits
    have kept : next.drains drain = some ⟨pc, false⟩ := (congrFun frame.1 drain).trans found
    refine .inl ⟨call, rest, passed, ?_, split, skipped⟩
    rw [setDrain_of_task kept, Function.update_self]

theorem drainPass_fresh {s : Engine} {drain : DrainId} {pc : DrainPc} (found : s.drains drain = some ⟨pc, false⟩)
    (fresh : ahead s pc = s.channels) (idleSince : Option ℚ) : Visits s pc (s.drainPass drain idleSince) drain := by
  rcases drainPass_visits found idleSince with ⟨call, rest, passed, task, split, skipped⟩ | none
  · exact .inl ⟨call, rest, passed, [], task, by rw [fresh, split, List.append_nil], skipped, ⟨passed, split⟩, .inr rfl⟩
  · exact .inr none

theorem drainAfterCall_visits {s : Engine} {drain : DrainId} {call : Call} {rest : List ChannelId}
    (found : s.drains drain = some ⟨.calling call rest, false⟩) (inPass : InPass s (.calling call rest)) :
    Visits s (.calling call rest) (s.drainAfterCall drain rest) drain := by
  have splits := scan_splits drain rest s
  have frame := scan_frame drain rest s
  unfold Engine.drainAfterCall
  rcases scanned : s.scan drain rest with ⟨next, _ | ⟨begun, later⟩⟩
  · rw [scanned] at splits frame
    have earlier : ∀ channelId, Skipped next channelId → Skipped s channelId := by
      intro channelId skipped
      have unsent : (s.scan drain rest).2 = none := by rw [scanned]
      refine .of_scan unsent ?_
      rw [scanned]
      exact skipped
    have kept : next.drains drain = some ⟨.calling call rest, false⟩ := (congrFun frame.1 drain).trans found
    have channels : next.channels = s.channels := frame.2
    rcases drainPass_visits kept none with ⟨begun, later, passed, task, split, skipped⟩ | none
    · rw [channels] at split
      refine .inl ⟨begun, later, rest ++ passed, [], task, ?_, ?_, ⟨passed, split⟩, .inr rfl⟩
      · simp [ahead, split]
      · intro channelId member
        rcases List.mem_append.mp member with member | member
        · exact splits channelId member
        · exact earlier channelId (skipped channelId member)
    · refine .inr ⟨none.1, fun channelId member => ?_⟩
      exact earlier channelId (none.2 channelId (channels ▸ member))
  · rw [scanned] at splits frame
    obtain ⟨passed, split, skipped⟩ := splits
    have kept : next.drains drain = some ⟨.calling call rest, false⟩ := (congrFun frame.1 drain).trans found
    obtain ⟨init, whole⟩ := inPass
    refine .inl ⟨begun, later, passed, s.channels, ?_, ?_, skipped, ⟨init ++ call.channelId :: passed, ?_⟩, .inl rfl⟩
    · rw [setDrain_of_task kept, Function.update_self]
    · simp [ahead, split]
    · rw [whole, split]
      simp

theorem drainStep_visits {s t : Engine} {drain : DrainId} {outcome : Outcome} {pc : DrainPc}
    (found : s.drains drain = some ⟨pc, false⟩) (inPass : InPass s pc) (step : s.drainStep drain outcome = some t) :
    Visits s pc t drain := by
  unfold Engine.drainStep at step
  cases pc with
  | created =>
    simp only [found, Option.some.injEq] at step
    exact step ▸ drainPass_fresh found rfl none
  | calling call rest =>
    by_cases finished : outcome = .returned ∨ outcome = .raised
    · simp only [found, if_pos finished, Option.some.injEq] at step
      rw [← step]
      rcases drainAfterCall_visits (s := s.observe (.callEnded drain call outcome)) found inPass with
        ⟨_, _, _, _, task, order, skipped, passing, again⟩ | none
      · exact .inl ⟨_, _, _, _, task, order, skipped, passing, again⟩
      · exact .inr none
    · simp [found, if_neg finished] at step
  | waiting idleSince =>
    simp only [found, Option.some.injEq] at step
    exact step ▸ drainPass_fresh found rfl idleSince
  | done => simp [found] at step

/-- What a step other than a loop's own leaves of its task: the task, the task being cancelled, or a new one. -/
theorem task_step {s t : Engine} {event : Event} (move : Move s event t) (drain : DrainId) :
    (∃ outcome, event = .drain drain outcome) ∨ t.drains drain = s.drains drain ∨
      (∃ pc, t.drains drain = some ⟨pc, true⟩ ∧ ∃ cancelling, s.drains drain = some ⟨pc, cancelling⟩) ∨
      (drain = s.nextDrain ∧ t.drains drain = some ⟨.created, false⟩) := by
  have created : ∀ (u : Engine) (entries : List Obs), u.drains = s.drains → u.nextDrain = s.nextDrain →
      (started u entries).drains drain = s.drains drain ∨
        (drain = s.nextDrain ∧ (started u entries).drains drain = some ⟨.created, false⟩) := by
    intro u entries drains next
    rw [started_drains drains next]
    by_cases here : drain = s.nextDrain
    · rw [here, Function.update_self]
      exact .inr ⟨rfl, rfl⟩
    · rw [Function.update_of_ne here]
      exact .inl rfl
  cases move with
  | @commandStarted lightId body slot entries accepted idle notices =>
    exact .inr ((created (queued s lightId slot) entries rfl rfl).imp_right .inr)
  | @snapshotStarted forcing cancel timers first entries more unholds notices idle notices' =>
    have opened := created (sessionOpened (unheld s forcing cancel timers first) entries) more rfl rfl
    exact .inr (opened.imp_right .inr)
  | @restoreSuspended waited entries active waits notices =>
    by_cases here : drain = waited
    · subst drain
      right
      have after : (((sessionClosed s entries).cancelDrain waited).setTeardown s.nextTeardown (.awaitingDrain waited)).drains
          waited = (s.drains waited).map ({ · with cancelling := true }) := Function.update_self _ _ _
      rw [after]
      cases s.drains waited with
      | none => exact .inl rfl
      | some task => exact .inr (.inl ⟨task.pc, rfl, task.cancelling, rfl⟩)
    · exact .inr (.inl (Function.update_of_ne here _ _))
  | @drain other outcome u move =>
    by_cases here : drain = other
    · exact .inl ⟨outcome, by rw [here]⟩
    · right
      left
      cases move with
      | neverEntered found => exact Function.update_of_ne here _ _
      | unwound found live entries notices => exact Function.update_of_ne here _ _
      | ran found live ended sweep leaves => exact Function.update_of_ne here _ _
  | _ => exact .inr (.inl rfl)

/-- Every loop that awaits a call is in a pass over the lights. -/
def Passing (s : Engine) : Prop :=
  ∀ drain pc cancelling, s.drains drain = some ⟨pc, cancelling⟩ → InPass s pc

theorem InPass.of_channels {s t : Engine} {pc : DrainPc} (inPass : InPass s pc) (same : t.channels = s.channels) :
    InPass t pc := by
  cases pc with
  | calling call rest =>
    obtain ⟨passed, split⟩ := inPass
    exact ⟨passed, same.trans split⟩
  | created => trivial
  | waiting idleSince => trivial
  | done => trivial

/-- A loop's step that is not the end of a cancelled loop. -/
theorem drain_cases {s t : Engine} {drain : DrainId} {outcome : Outcome}
    (step : machine.step s (.drain drain outcome) = some t) :
    (∃ pc, s.drains drain = some ⟨pc, false⟩ ∧ (InPass s pc → Visits s pc t drain)) ∨
      ∃ pc, s.drains drain = some ⟨pc, true⟩ ∧ t.drains drain = some ⟨.done, true⟩ := by
  have stepped : s.drainStep drain outcome = some t := step
  cases drainStep_move stepped with
  | neverEntered found =>
    refine .inr ⟨_, found, ?_⟩
    rw [setDrain_of_task found, Function.update_self]
  | unwound found live entries notices =>
    refine .inr ⟨_, found, ?_⟩
    change (s.setDrain drain .done).drains drain = _
    rw [setDrain_of_task found, Function.update_self]
  | ran found live ended sweep leaves =>
    exact .inl ⟨_, found, fun inPass => drainStep_visits found inPass stepped⟩

theorem Passing.step {s t : Engine} {event : Event} (passing : Passing s) (step : machine.step s event = some t) :
    Passing t := by
  intro drain pc cancelling found
  have channels := channels_step (step_move step)
  rcases task_step (step_move step) drain with ⟨outcome, rfl⟩ | same | ⟨pc', marked, old, before⟩ | ⟨_, created⟩
  · rcases drain_cases step with ⟨pc', before, visits⟩ | ⟨pc', before, ended⟩
    · rcases visits (passing drain pc' false before) with ⟨call, rest, passed, back, serves⟩ | ⟨⟨after, idle, uncalled⟩, _⟩
      · rw [serves.task] at found
        cases found
        exact serves.inPass.of_channels channels
      · rw [idle] at found
        cases found
        cases pc with
        | calling call rest => exact absurd rfl (uncalled call rest)
        | created => trivial
        | waiting idleSince => trivial
        | done => trivial
    · rw [ended] at found
      cases found
      trivial
  · rw [same] at found
    exact (passing drain pc cancelling found).of_channels channels
  · rw [marked] at found
    cases found
    exact (passing drain pc old before).of_channels channels
  · rw [created] at found
    cases found
    trivial

theorem passing {ok : Engine → Event → Prop} {s : Engine} (reached : Reachable machine ok s) : Passing s := by
  refine reached.invariant Passing ?_ (fun x event y held _ step => held.step step)
  intro s start drain pc cancelling found
  obtain ⟨lights, states, now, rfl⟩ := start
  cases found

theorem nodup_eraseDups (list : List ChannelId) : list.eraseDups.Nodup := by
  induction bounded : list.length using Nat.strong_induction_on generalizing list with
  | _ length ih =>
    cases list with
    | nil => simp
    | cons first rest =>
      rw [List.eraseDups_cons, List.nodup_cons]
      constructor
      · simp [List.mem_eraseDups]
      · refine ih _ ?_ _ rfl
        rw [← bounded]
        exact Nat.lt_succ_of_le (List.length_filter_le _ _)

/-- No light is mapped twice. -/
theorem channels_nodup {ok : Engine → Event → Prop} {s : Engine} (reached : Reachable machine ok s) :
    s.channels.Nodup := by
  refine reached.invariant (fun x => x.channels.Nodup) ?_ ?_
  · intro s start
    obtain ⟨lights, states, now, rfl⟩ := start
    exact nodup_eraseDups _
  · intro x event y held _ step
    rw [channels_step (step_move step)]
    exact held

/-- The light whose call this entry begins, for the calls of one loop. -/
def sentBy (drain : DrainId) : Obs → Option ChannelId
  | .callBegun loop call _ => if loop = drain then some call.channelId else none
  | _ => none

/-- The lights a loop sent to, the last one first. -/
def sends (drain : DrainId) (entries : List Obs) : List ChannelId := entries.filterMap (sentBy drain)

theorem mem_sends {drain : DrainId} {channelId : ChannelId} {entries : List Obs} :
    channelId ∈ sends drain entries ↔ ∃ call now, Obs.callBegun drain call now ∈ entries ∧ call.channelId = channelId := by
  unfold sends
  rw [List.mem_filterMap]
  constructor
  · intro ⟨entry, member, sent⟩
    unfold sentBy at sent
    split at sent
    next loop call now =>
      split at sent
      next same => exact ⟨call, now, same ▸ member, Option.some.inj sent⟩
      next => cases sent
    next => cases sent
  · intro ⟨call, now, member, sent⟩
    exact ⟨_, member, by rw [← sent]; exact if_pos rfl⟩

/-- The light keeps what its slot holds: the slots are not flushed, and no loop sends to the light or drops it. -/
structure Undisturbed (channelId : ChannelId) (entries : List Obs) : Prop where
  unflushed : Obs.flushed ∉ entries
  unsent : ∀ drain, channelId ∉ sends drain entries
  undropped : Obs.dropped channelId ∉ entries

theorem Undisturbed.older {channelId : ChannelId} {new old : List Obs} (undisturbed : Undisturbed channelId (new ++ old)) :
    Undisturbed channelId old := by
  constructor
  · exact fun member => undisturbed.unflushed (List.mem_append_right _ member)
  · intro drain member
    apply undisturbed.unsent drain
    rw [sends, List.filterMap_append]
    exact List.mem_append_right _ member
  · exact fun member => undisturbed.undropped (List.mem_append_right _ member)

theorem Undisturbed.tail {channelId : ChannelId} {entry : Obs} {old : List Obs}
    (undisturbed : Undisturbed channelId (entry :: old)) : Undisturbed channelId old :=
  Undisturbed.older (show Undisturbed channelId ([entry] ++ old) from undisturbed)

/-- The slot holds something. -/
def Full (mapping : LightMapping) : Prop := mapping.dirty = true ∧ mapping.pendingData ≠ none

/-- The slot of an undisturbed light stays full. -/
theorem full_step {s t : Engine} {event : Event} (step : machine.step s event = some t) {channelId : ChannelId}
    (full : Full (s.mapping channelId)) {new : List Obs} (grown : t.log = new ++ s.log)
    (undisturbed : Undisturbed channelId new) : Full (t.mapping channelId) := by
  have kept := (step_changes step).invariant
    (fun x => ∃ new, x.log = new ++ s.log ∧ (Undisturbed channelId new → Full (x.mapping channelId))) ?_
    ⟨[], rfl, fun _ => full⟩
  · obtain ⟨new', grown', held⟩ := kept
    have same : new' = new := List.append_cancel_right (grown'.symm.trans grown)
    exact held (same ▸ undisturbed)
  · have other : ∀ (mapping : ChannelId → LightMapping) (written : ChannelId) (slot : LightMapping),
        Full (mapping channelId) → (channelId = written → Full slot) →
          Full (Function.update mapping written slot channelId) := by
      intro mapping written slot before here
      by_cases same : channelId = written
      · rw [same, Function.update_self]
        exact here same
      · rw [Function.update_of_ne same]
        exact before
    intro x y held change
    cases change with
    | noted entry quiet =>
      obtain ⟨new, grown, held⟩ := held
      exact ⟨entry :: new, by rw [grown]; rfl, fun fine => held fine.tail⟩
    | flushed unframed =>
      obtain ⟨new, grown, held⟩ := held
      exact ⟨.flushed :: new, by rw [grown]; rfl, fun fine => absurd List.mem_cons_self fine.unflushed⟩
    | wrote same parsed member free mapped outside =>
      obtain ⟨new, grown, held⟩ := held
      refine ⟨_ :: new, by rw [grown]; rfl, fun fine => ?_⟩
      exact other _ _ _ (held fine.tail) (fun _ => ⟨rfl, Option.some_ne_none _⟩)
    | queued same accepted =>
      refine ⟨[_], rfl, fun fine => ?_⟩
      exact other _ _ _ full (fun _ => ⟨rfl, Option.some_ne_none _⟩)
    | discarded same dirty empty =>
      obtain ⟨new, grown, held⟩ := held
      refine ⟨new, grown, fun fine => other _ _ _ (held fine) (fun here => ?_)⟩
      rw [← here] at empty
      exact absurd empty (held fine).2
    | dropped same dirty logged =>
      obtain ⟨new, grown, held⟩ := held
      refine ⟨_ :: new, by rw [grown]; rfl, fun fine => other _ _ _ (held fine.tail) (fun here => ?_)⟩
      exact absurd (here ▸ List.mem_cons_self) fine.undropped
    | @begun x drain outcome called data same dirty pending logged =>
      obtain ⟨new, grown, held⟩ := held
      refine ⟨_ :: new, by rw [grown]; rfl, fun fine => other _ _ _ (held fine.tail) (fun here => ?_)⟩
      exact absurd (mem_sends.mpr ⟨_, _, List.mem_cons_self, here.symm⟩) (fine.unsent drain)

theorem sends_of_none {drain : DrainId} {entries : List Obs} (quiet : ∀ entry ∈ entries, sentBy drain entry = none) :
    sends drain entries = [] :=
  List.filterMap_eq_nil_iff.mpr quiet

/-- Only a loop's own steps send for it. -/
theorem sends_other {s t : Engine} {event : Event} {drain : DrainId} (other : ∀ outcome, event ≠ .drain drain outcome)
    (move : Move s event t) {new : List Obs} (grown : t.log = new ++ s.log) : sends drain new = [] := by
  obtain ⟨new', grown', emits⟩ := move_adds move
  obtain rfl : new' = new := List.append_cancel_right (grown'.symm.trans grown)
  refine sends_of_none (fun entry member => ?_)
  cases emits entry member with
  | callBegun outcome found live dirty pending same =>
    refine if_neg (fun here => ?_)
    exact other outcome (by rw [here])
  | _ => rfl

/-- What a step of a loop that ends in a call adds to the history. -/
structure ServedEntries (s : Engine) (drain : DrainId) (call : Call) (entries : List Obs) : Prop where
  sends : sends drain entries = [call.channelId]
  others : ∀ loop, loop ≠ drain → RoundRobin.sends loop entries = []
  unflushed : Obs.flushed ∉ entries
  drops : ∀ channelId, Obs.dropped channelId ∈ entries → available s channelId = false

theorem servedEntries_of {s : Engine} {drain : DrainId} {call : Call} {notices drops ended : List Obs}
    (noticed : Notices notices) (gone : ∀ entry ∈ drops, ∃ channelId, entry = .dropped channelId ∧ available s channelId = false)
    (endings : ∀ entry ∈ ended, ∃ call outcome, entry = .callEnded drain call outcome) :
    ServedEntries s drain call (notices ++ .callBegun drain call s.now :: (drops ++ ended)) := by
  have quiet : ∀ loop, sends loop notices = [] ∧ sends loop drops = [] ∧ sends loop ended = [] := by
    intro loop
    refine ⟨sends_of_none ?_, sends_of_none ?_, sends_of_none ?_⟩
    · intro entry member
      obtain ⟨status, driving, rfl⟩ := noticed entry member
      rfl
    · intro entry member
      obtain ⟨dropped, rfl, _⟩ := gone entry member
      rfl
    · intro entry member
      obtain ⟨call, outcome, rfl⟩ := endings entry member
      rfl
  have sent : ∀ loop, sends loop (notices ++ .callBegun drain call s.now :: (drops ++ ended)) =
      (if drain = loop then some call.channelId else none).toList := by
    intro loop
    obtain ⟨noNotice, noDrop, noEnd⟩ := quiet loop
    simp only [sends] at noNotice noDrop noEnd ⊢
    rw [List.filterMap_append, List.filterMap_cons, List.filterMap_append, noNotice, noDrop, noEnd]
    by_cases here : drain = loop <;> simp [sentBy, here]
  constructor
  · rw [sent, if_pos rfl]
    rfl
  · intro loop other
    rw [sent, if_neg (Ne.symm other)]
    rfl
  · intro member
    simp only [List.mem_append, List.mem_cons, reduceCtorEq, false_or] at member
    rcases member with member | member | member
    · obtain ⟨status, driving, same⟩ := noticed _ member
      cases same
    · obtain ⟨dropped, same, _⟩ := gone _ member
      cases same
    · obtain ⟨call, outcome, same⟩ := endings _ member
      cases same
  · intro channelId member
    simp only [List.mem_append, List.mem_cons, reduceCtorEq, false_or] at member
    rcases member with member | member | member
    · obtain ⟨status, driving, same⟩ := noticed _ member
      cases same
    · obtain ⟨dropped, same, unavailable⟩ := gone _ member
      cases same
      exact unavailable
    · obtain ⟨call, outcome, same⟩ := endings _ member
      cases same

/-- A step of a loop that ends in a call sends to the light of that call, and to no other. -/
theorem served_entries {s t : Engine} {drain : DrainId} {outcome : Outcome} {call : Call} {rest : List ChannelId}
    (move : DrainMove s drain outcome t) (task : t.drains drain = some ⟨.calling call rest, false⟩) {new : List Obs}
    (grown : t.log = new ++ s.log) : ServedEntries s drain call new := by
  cases move with
  | neverEntered found =>
    rw [setDrain_of_task found, Function.update_self] at task
    cases task
  | unwound found live entries notices =>
    change (s.setDrain drain .done).drains drain = _ at task
    rw [setDrain_of_task found, Function.update_self] at task
    cases task
  | @ran pc after mapping stats wake running begun drops entries found live ended sweep leaves =>
    change Function.update s.drains drain (some ⟨after, false⟩) drain = _ at task
    rw [Function.update_self] at task
    cases task
    have begins : begun = some call := by
      cases begun with
      | none =>
        rcases leaves with ⟨⟨idleSince, waits⟩, _⟩ | ⟨finished, _⟩
        · cases waits
        · cases finished
      | some other =>
        obtain ⟨⟨rest', same⟩, _⟩ := leaves
        cases same
        rfl
    subst begins
    have shape : new = entries ++ .callBegun drain call s.now :: (drops ++ endedEntries drain pc outcome) := by
      refine List.append_cancel_right (grown.symm.trans ?_)
      simp [swept, begunEntries]
    rw [shape]
    refine servedEntries_of (Leaves.notices leaves) sweep.absent ?_
    intro entry member
    cases pc with
    | calling call rest => exact ⟨call, outcome, List.mem_singleton.mp member⟩
    | created => cases member
    | waiting idleSince => cases member
    | done => cases member

/-- A loop that is cancelled sends nothing more. -/
theorem sends_cancelled {s t : Engine} {drain : DrainId} {outcome : Outcome} (move : DrainMove s drain outcome t)
    {pc : DrainPc} (found : s.drains drain = some ⟨pc, true⟩) {new : List Obs} (grown : t.log = new ++ s.log) :
    sends drain new = [] := by
  obtain ⟨new', grown', emits⟩ := drain_adds move
  obtain rfl : new' = new := List.append_cancel_right (grown'.symm.trans grown)
  refine sends_of_none (fun entry member => ?_)
  cases emits entry member with
  | callBegun outcome found' live dirty pending same =>
    rw [found] at found'
    cases found'
  | _ => rfl

/-- While the light waits the loop sends to others only, to each of them once, and it comes to the light before
it comes to one of them again. -/
structure Waiting (drain : DrainId) (waiting : ChannelId) (s : Engine) (sent : List ChannelId) : Prop where
  full : Full (s.mapping waiting)
  distinct : sent.Nodup
  others : ∀ channelId ∈ sent, channelId ∈ s.channels ∧ channelId ≠ waiting
  behind : ∀ pc, s.drains drain = some ⟨pc, false⟩ → ∀ channelId ∈ sent, channelId ∉ before waiting (ahead s pc)
  unborn : s.drains drain = none → sent = []

theorem ahead_congr {s t : Engine} (same : t.channels = s.channels) (pc : DrainPc) : ahead t pc = ahead s pc := by
  unfold ahead
  rw [same]

/-- A light that the loop does not pass comes behind the one it serves, in this pass or in the next. -/
theorem Serves.again_ahead {s t : Engine} {pc : DrainPc} {drain : DrainId} {call : Call}
    {rest passed back : List ChannelId} {waiting : ChannelId} (serves : Serves s pc t drain call rest passed back)
    (mapped : waiting ∈ s.channels) (unpassed : waiting ∉ passed) (other : call.channelId ≠ waiting) :
    back = s.channels ∨ back = [] ∧ waiting ∈ rest := by
  rcases serves.again with all | none
  · exact .inl all
  · have visited : waiting ∈ ahead s pc := by
      cases pc with
      | calling call rest => exact List.mem_append_right _ mapped
      | created => exact mapped
      | waiting idleSince => exact mapped
      | done => exact mapped
    rw [serves.order, none] at visited
    simp [unpassed, Ne.symm other] at visited
    exact .inr ⟨none, visited⟩

/-- The loop serves another light, which it then comes to only behind the waiting one. -/
theorem Waiting.serve {s t : Engine} {pc : DrainPc} {drain : DrainId} {waiting : ChannelId} {sent : List ChannelId}
    {call : Call} {rest passed back : List ChannelId} (held : Waiting drain waiting s sent)
    (distinct : s.channels.Nodup) (ready : Ready s waiting) (mapped : waiting ∈ s.channels)
    (found : s.drains drain = some ⟨pc, false⟩) (serves : Serves s pc t drain call rest passed back)
    (other : call.channelId ≠ waiting) (channels : t.channels = s.channels) (full : Full (t.mapping waiting)) :
    Waiting drain waiting t (call.channelId :: sent) := by
  have unpassed : waiting ∉ passed := fun member => ready.unskipped (serves.skipped waiting member)
  have again := serves.again_ahead mapped unpassed other
  obtain ⟨init, split⟩ := serves.inPass
  obtain ⟨unserved, later, earlier⟩ := before_served distinct split mapped other unpassed again
  rw [← serves.order] at unserved earlier
  refine ⟨full, ?_, ?_, ?_, ?_⟩
  · exact List.nodup_cons.mpr ⟨fun member => held.behind pc found _ member unserved, held.distinct⟩
  · intro channelId member
    rw [channels]
    rcases List.mem_cons.mp member with rfl | member
    · rw [split]
      exact ⟨by simp, other⟩
    · exact held.others channelId member
  · intro pc' found' channelId member
    rw [serves.task] at found'
    cases found'
    rw [ahead_congr channels]
    rcases List.mem_cons.mp member with rfl | member
    · exact later
    · exact fun sooner => held.behind pc found channelId member (earlier sooner)
  · intro gone
    rw [serves.task] at gone
    cases gone

/-- A step of another task leaves the loop where it was, or cancels it. -/
theorem Waiting.apart {s t : Engine} {event : Event} {drain : DrainId} {waiting : ChannelId} {sent : List ChannelId}
    (reached : Reachable machine Always s) (held : Waiting drain waiting s sent) (move : Move s event t)
    (own : ¬∃ outcome, event = .drain drain outcome) (full : Full (t.mapping waiting)) :
    Waiting drain waiting t sent := by
  have channels := channels_step move
  refine ⟨full, held.distinct, channels ▸ held.others, ?_, ?_⟩
  · intro pc found channelId member
    rw [ahead_congr channels]
    rcases task_step move drain with ⟨outcome, same⟩ | same | ⟨pc', marked, _⟩ | ⟨fresh, _⟩
    · exact absurd ⟨outcome, same⟩ own
    · exact held.behind pc (same ▸ found) channelId member
    · rw [marked] at found
      cases found
    · rw [held.unborn ((awaited reached).fresh drain (Nat.le_of_eq fresh.symm))] at member
      cases member
  · intro gone
    rcases task_step move drain with ⟨outcome, same⟩ | same | ⟨pc', marked, _⟩ | ⟨_, created⟩
    · exact absurd ⟨outcome, same⟩ own
    · exact held.unborn (same ▸ gone)
    · rw [marked] at gone
      cases gone
    · rw [created] at gone
      cases gone

theorem Waiting.step {s t : Engine} {event : Event} {drain : DrainId} {waiting : ChannelId} {sent : List ChannelId}
    {entries : List Obs} (reached : Reachable machine Always s) (held : Waiting drain waiting s sent)
    (here : available s waiting = true) (step : machine.step s event = some t) (grown : t.log = entries ++ s.log)
    (undisturbed : Undisturbed waiting entries) : Waiting drain waiting t (sends drain entries ++ sent) := by
  have move := step_move step
  have channels := channels_step move
  have full := full_step step held.full grown undisturbed
  have mapped : waiting ∈ s.channels := dirtyMapped reached waiting held.full.1
  have ready : Ready s waiting := ⟨held.full.1, held.full.2, here⟩
  by_cases own : ∃ outcome, event = .drain drain outcome
  · obtain ⟨outcome, rfl⟩ := own
    have stepped : DrainMove s drain outcome t := drainStep_move step
    rcases drain_cases step with ⟨pc, found, visits⟩ | ⟨pc, found, ended⟩
    · rcases visits (passing reached drain pc false found) with ⟨call, rest, passed, back, serves⟩ | ⟨_, skipped⟩
      · have sentNow := (served_entries stepped serves.task grown).sends
        have other : call.channelId ≠ waiting := by
          intro same
          apply undisturbed.unsent drain
          rw [sentNow, same]
          exact List.mem_singleton_self waiting
        rw [sentNow]
        exact held.serve (channels_nodup reached) ready mapped found serves other channels full
      · exact absurd (skipped waiting mapped) ready.unskipped
    · rw [sends_cancelled stepped found grown, List.nil_append]
      refine ⟨full, held.distinct, channels ▸ held.others, ?_, ?_⟩
      · intro pc' found'
        rw [ended] at found'
        cases found'
      · intro gone
        rw [ended] at gone
        cases gone
  · have quiet : sends drain entries = [] := sends_other (fun outcome same => own ⟨outcome, same⟩) move grown
    rw [quiet, List.nil_append]
    exact held.apart reached move own full

/-- The light stays available: it is so in the state of every step. -/
def Available (channelId : ChannelId) (s : Engine) (_ : Event) : Prop := available s channelId = true

/-- The loop begins a call for the light between the two states. -/
def Sends (drain : DrainId) (channelId : ChannelId) (s t : Engine) : Prop := channelId ∈ sends drain (newEntries s t)

/-- The slots are not flushed between the two states. -/
def Unflushed (s t : Engine) : Prop := Obs.flushed ∉ newEntries s t

/-- A slot that holds anything holds something to send. -/
theorem full_of_dirty {s : Engine} (reached : Reachable machine Always s) {channelId : ChannelId}
    (dirty : (s.mapping channelId).dirty = true) : Full (s.mapping channelId) := by
  refine ⟨dirty, ?_⟩
  rw [truthful reached channelId dirty]
  exact Option.some_ne_none _

theorem Waiting.initial {s : Engine} (reached : Reachable machine Always s) {waiting : ChannelId}
    (dirty : (s.mapping waiting).dirty = true) (drain : DrainId) : Waiting drain waiting s [] where
  full := full_of_dirty reached dirty
  distinct := .nil
  others := by simp
  behind := by simp
  unborn := fun _ => rfl

/-- The light of the call that the loop is in, if it is another one. -/
def awaitedCall (s : Engine) (drain : DrainId) (waiting : ChannelId) : List ChannelId :=
  match s.drains drain with
  | some ⟨.calling call _, false⟩ => if call.channelId = waiting then [] else [call.channelId]
  | _ => []

/-- A light that begins to wait while the loop is in a call waits for that call as for any other send. -/
theorem Waiting.inCall {s : Engine} (reached : Reachable machine Always s) {waiting : ChannelId}
    (dirty : (s.mapping waiting).dirty = true) (drain : DrainId) :
    Waiting drain waiting s (awaitedCall s drain waiting) := by
  have alone := Waiting.initial reached dirty drain
  unfold awaitedCall
  split
  next call rest found =>
    split
    next => exact alone
    next other =>
      obtain ⟨passed, split⟩ := passing reached drain _ _ found
      have mapped : waiting ∈ s.channels := dirtyMapped reached waiting dirty
      refine ⟨alone.full, by simp, ?_, ?_, ?_⟩
      · intro channelId member
        rw [List.mem_singleton.mp member, split]
        exact ⟨by simp, other⟩
      · intro pc found' channelId member
        rw [found] at found'
        cases found'
        rw [List.mem_singleton.mp member]
        exact (before_served (channels_nodup reached) split mapped other List.not_mem_nil (.inl rfl)).2.1
      · intro gone
        rw [found] at gone
        cases gone
  next => exact alone

theorem Waiting.run {drain : DrainId} {waiting : ChannelId} {s t : Engine} {events : List Event}
    {sent : List ChannelId} {entries : List Obs} (held : Waiting drain waiting s sent)
    (run : Run machine (Available waiting) s events t) (reached : Reachable machine Always s) (grown : t.log = entries ++ s.log)
    (unflushed : Obs.flushed ∉ entries) (unsent : ∀ loop, waiting ∉ sends loop entries) :
    Waiting drain waiting t (sends drain entries ++ sent) := by
  induction run generalizing sent entries with
  | nil s =>
    obtain rfl : entries = [] := List.self_eq_append_left.mp grown
    exact held
  | @cons s mid t event events here step later ih =>
    obtain ⟨new, first, emits⟩ := move_adds (step_move step)
    obtain ⟨rest, onward, _⟩ := run_adds later
    obtain rfl : entries = rest ++ new := by
      refine List.append_cancel_right (grown.symm.trans ?_)
      rw [onward, first, List.append_assoc]
    have undisturbed : Undisturbed waiting new := by
      constructor
      · exact fun member => unflushed (List.mem_append_right _ member)
      · intro loop member
        apply unsent loop
        rw [sends, List.filterMap_append]
        exact List.mem_append_right _ member
      · intro member
        cases emits _ member with
        | dropped outcome gone =>
          rw [here] at gone
          cases gone
    have next := held.step reached here step first undisturbed
    have final := ih next (reached.step trivial step) onward (fun member => unflushed (List.mem_append_left _ member)) ?_
    · rw [sends, List.filterMap_append, List.append_assoc]
      exact final
    · intro loop member
      apply unsent loop
      rw [sends, List.filterMap_append]
      exact List.mem_append_left _ member

/-- A step that begins a call leaves its loop in that call, and leaves a full slot as it was. -/
theorem sends_served {s m : Engine} {drain : DrainId} {outcome : Outcome} (move : DrainMove s drain outcome m)
    {new : List Obs} (grown : m.log = new ++ s.log) {call : Call} {now : ℚ} (begins : Obs.callBegun drain call now ∈ new) :
    (∃ rest, m.drains drain = some ⟨.calling call rest, false⟩) ∧
      ∀ channelId, (m.mapping channelId).dirty = true → m.mapping channelId = s.mapping channelId := by
  cases move with
  | neverEntered found =>
    obtain rfl : new = [] := List.self_eq_append_left.mp grown
    cases begins
  | @unwound pc found live entries notices =>
    obtain rfl : new = entries ++ endedEntries drain pc .cancelled :=
      List.append_cancel_right (grown.symm.trans (List.append_assoc _ _ _).symm)
    rcases List.mem_append.mp begins with member | member
    · obtain ⟨status, driving, same⟩ := notices _ member
      cases same
    · cases pc with
      | calling call rest => cases List.mem_singleton.mp member
      | created => cases member
      | waiting idleSince => cases member
      | done => cases member
  | @ran pc after mapping stats wake running begun drops entries found live ended sweep leaves =>
    refine ⟨?_, fun channelId dirty => sweep.kept dirty⟩
    obtain rfl : new = entries ++ (begunEntries drain begun s.now ++ (drops ++ endedEntries drain pc outcome)) := by
      refine List.append_cancel_right (grown.symm.trans ?_)
      simp [swept]
    simp only [List.mem_append] at begins
    rcases begins with member | member | member | member
    · obtain ⟨status, driving, same⟩ := Leaves.notices leaves _ member
      cases same
    · cases begun with
      | none => cases member
      | some begun =>
        cases List.mem_singleton.mp member
        obtain ⟨⟨rest, rfl⟩, _⟩ := leaves
        exact ⟨rest, Function.update_self _ _ _⟩
    · obtain ⟨dropped, same, _⟩ := sweep.absent _ member
      cases same
    · cases pc with
      | calling call rest => cases List.mem_singleton.mp member
      | created => cases member
      | waiting idleSince => cases member
      | done => cases member

/-- A step that sends to one light does not disturb another one that is available. -/
theorem undisturbed_of_sends {s m : Engine} {event : Event} {drain : DrainId} {channelId waiting : ChannelId}
    (step : machine.step s event = some m) {new : List Obs} (grown : m.log = new ++ s.log)
    (sent : channelId ∈ sends drain new) (other : channelId ≠ waiting) (here : available s waiting = true) :
    sends drain new = [channelId] ∧ Undisturbed waiting new := by
  obtain ⟨new', grown', emits⟩ := move_adds (step_move step)
  obtain rfl : new' = new := List.append_cancel_right (grown'.symm.trans grown)
  obtain ⟨call, now, member, rfl⟩ := mem_sends.mp sent
  have emitted := emits _ member
  cases emitted with
  | callBegun outcome found live _ pending same =>
    have move : DrainMove s drain outcome m := drainStep_move step
    obtain ⟨⟨rest, task⟩, _⟩ := sends_served move grown member
    have entries := served_entries move task grown
    refine ⟨entries.sends, entries.unflushed, fun loop sent => ?_, fun dropped => ?_⟩
    · by_cases own : loop = drain
      · rw [own, entries.sends] at sent
        exact other (List.mem_singleton.mp sent).symm
      · rw [entries.others loop own] at sent
        cases sent
    · rw [entries.drops waiting dropped] at here
      cases here

/-- A full slot of a light that is available was the same before a step that sends to another light. -/
theorem before_sends {s m : Engine} {event : Event} {drain : DrainId} {channelId waiting : ChannelId}
    (step : machine.step s event = some m) {new : List Obs} (grown : m.log = new ++ s.log)
    (sent : channelId ∈ sends drain new) (dirty : (m.mapping waiting).dirty = true) (here : available m waiting = true) :
    (s.mapping waiting).dirty = true ∧ available s waiting = true := by
  obtain ⟨new', grown', emits⟩ := move_adds (step_move step)
  obtain rfl : new' = new := List.append_cancel_right (grown'.symm.trans grown)
  obtain ⟨call, now, member, rfl⟩ := mem_sends.mp sent
  have emitted := emits _ member
  cases emitted with
  | callBegun outcome found live _ pending same =>
    have move : DrainMove s drain outcome m := drainStep_move step
    obtain ⟨_, kept⟩ := sends_served move grown member
    have mapping := kept waiting dirty
    have states : m.states = s.states := by
      obtain ⟨_, _, _, _, _, _, frame⟩ := move.frame
      rw [frame]
    exact ⟨mapping ▸ dirty, by simpa only [available, Engine.reportedUnavailable, mapping, states] using here⟩

/-- After a send to one light every other one that still waits has waited for this send only. -/
theorem Waiting.of_sends {s m : Engine} {event : Event} {drain : DrainId} {channelId waiting : ChannelId}
    (reached : Reachable machine Always s) (step : machine.step s event = some m) {new : List Obs}
    (grown : m.log = new ++ s.log) (sent : channelId ∈ sends drain new) (other : channelId ≠ waiting)
    (dirty : (m.mapping waiting).dirty = true) (here : available m waiting = true) :
    Waiting drain waiting m [channelId] := by
  obtain ⟨dirtyBefore, availableBefore⟩ := before_sends step grown sent dirty here
  obtain ⟨alone, undisturbed⟩ := undisturbed_of_sends step grown sent other availableBefore
  have waits := (Waiting.initial reached dirtyBefore drain).step reached availableBefore step grown undisturbed
  rw [alone] at waits
  exact waits

/-- Lights that were sent to once each, and not the waiting one, are fewer than the mapped lights. -/
theorem Waiting.bounded {drain : DrainId} {waiting : ChannelId} {s : Engine} {sent : List ChannelId}
    (reached : Reachable machine Always s) (held : Waiting drain waiting s sent) :
    sent.length ≤ s.channels.length - 1 := by
  have mapped : waiting ∈ s.channels := dirtyMapped reached waiting held.full.1
  have distinct : (waiting :: sent).Nodup :=
    List.nodup_cons.mpr ⟨fun member => (held.others waiting member).2 rfl, held.distinct⟩
  have known : waiting :: sent ⊆ s.channels := by
    intro channelId member
    rcases List.mem_cons.mp member with rfl | member
    · exact mapped
    · exact (held.others channelId member).1
  have fits := (List.subperm_of_subset distinct known).length_le
  rw [List.length_cons] at fits
  omega

/-- Between two sends of one loop to a light every other light that waited at the first and stays available and
unflushed is sent to, and no light waits for more sends of a loop, the one under way included, than there are
other lights. -/
theorem bypass_bounded (drain : DrainId) (waiting : ChannelId) {s : Engine} (reached : Reachable machine Always s) :
    (∀ channelId first m events u last v, channelId ≠ waiting →
      machine.step s first = some m → Sends drain channelId s m → (m.mapping waiting).dirty = true →
      Run machine (Available waiting) m events u → available u waiting = true → Unflushed m u →
      machine.step u last = some v → Sends drain channelId u v → ∃ loop, Sends loop waiting m u) ∧
    (∀ events t, (s.mapping waiting).dirty = true → Run machine (Available waiting) s events t → Unflushed s t →
      (∀ loop, ¬Sends loop waiting s t) →
      (sends drain (newEntries s t) ++ awaitedCall s drain waiting).length ≤ s.channels.length - 1) := by
  constructor
  · intro channelId first m events u last v other step sent dirty run here unflushed again sentAgain
    by_contra unsent
    have availableFirst : available m waiting = true := by
      cases run with
      | nil => exact here
      | cons allowed _ _ => exact allowed
    obtain ⟨now, grownNow, _⟩ := move_adds (step_move step)
    obtain ⟨upTo, grownTo, _⟩ := run_adds run
    obtain ⟨after, grownAfter, _⟩ := move_adds (step_move again)
    unfold Sends at sent sentAgain unsent
    unfold Unflushed at unflushed
    rw [newEntries_eq grownNow] at sent
    rw [newEntries_eq grownTo] at unsent unflushed
    rw [newEntries_eq grownAfter] at sentAgain
    have later := reached.step trivial step
    have first := Waiting.of_sends reached step grownNow sent other dirty availableFirst
    have held := first.run run later grownTo unflushed (not_exists.mp unsent)
    obtain ⟨alone, undisturbed⟩ := undisturbed_of_sends again grownAfter sentAgain other here
    have final := held.step (later.run (run.mono fun _ _ _ => trivial)) here again grownAfter undisturbed
    have twice := final.distinct
    rw [alone] at twice
    simp at twice
  · intro events t dirty run unflushed unsent
    obtain ⟨new, grown, _⟩ := run_adds run
    unfold Unflushed at unflushed
    unfold Sends at unsent
    rw [newEntries_eq grown] at unflushed unsent ⊢
    have held := (Waiting.inCall reached dirty drain).run run reached grown unflushed unsent
    rw [← channels_run run]
    exact held.bounded (reached.run (run.mono fun _ _ _ => trivial))

/-- Two lights that Home Assistant reports as on. -/
def twoLights : Engine := engineOf [(1, "light.one"), (2, "light.two")] (fun entityId => some ⟨entityId, "on"⟩) 0

def switchOn (lightId : Nat) : Event := .command lightId (.object [("on", .bool true)])

/-- A loop that serves the first light, which is written again during its call. -/
theorem bypass_bounded_rewritten : ∃ s m u v, Reachable machine Always s ∧ machine.step s (.drain 0 .returned) = some m ∧
    Sends 0 1 s m ∧ Run machine (Available 2) m [switchOn 1, .drain 0 .returned] u ∧
    machine.step u (.drain 0 .returned) = some v ∧ Sends 0 1 u v ∧ ∃ loop, Sends loop 2 m u := by
  have played : (play machine Always twoLights [switchOn 1, switchOn 2]).any (fun s =>
      (machine.step s (.drain 0 .returned)).any (fun m => decide (1 ∈ sends 0 (newEntries s m)) &&
        (m.mapping 2).dirty && available m 2 &&
        (machine.step m (switchOn 1)).any (fun n => available n 2 &&
          (machine.step n (.drain 0 .returned)).any (fun u => available u 2 &&
            (newEntries m u).all (fun entry => match entry with | .flushed => false | _ => true) &&
            (machine.step u (.drain 0 .returned)).any (fun v => decide (1 ∈ sends 0 (newEntries u v))))))) = true := by
    decide +kernel
  obtain ⟨s, toS, rest⟩ := (Option.any_eq_true _ _).mp played
  obtain ⟨m, toM, rest⟩ := (Option.any_eq_true _ _).mp rest
  simp only [Bool.and_eq_true, decide_eq_true_eq] at rest
  obtain ⟨⟨⟨sent, dirty⟩, here⟩, rest⟩ := rest
  obtain ⟨n, toN, rest⟩ := (Option.any_eq_true _ _).mp rest
  obtain ⟨availableN, rest⟩ := Bool.and_eq_true_iff.mp rest
  obtain ⟨u, toU, rest⟩ := (Option.any_eq_true _ _).mp rest
  simp only [Bool.and_eq_true] at rest
  obtain ⟨⟨availableU, unflushed⟩, rest⟩ := rest
  obtain ⟨v, toV, decided⟩ := (Option.any_eq_true _ _).mp rest
  have sentAgain : 1 ∈ sends 0 (newEntries u v) := of_decide_eq_true decided
  have reached : Reachable machine Always s := reachable_of_play ⟨_, _, _, rfl⟩ toS
  have run : Run machine (Available 2) m [switchOn 1, .drain 0 .returned] u :=
    .cons here toN (.cons availableN toU (.nil u))
  have quiet : Unflushed m u := by
    intro member
    have refuted := List.all_eq_true.mp unflushed _ member
    cases refuted
  have served := (bypass_bounded 0 2 reached).1 1 _ m _ u _ v (by decide) toM sent dirty run availableU quiet toV
    sentAgain
  exact ⟨s, m, u, v, reached, toM, sent, run, toV, sentAgain, served⟩

end HueEntertainment.RoundRobin
