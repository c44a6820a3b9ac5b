import HueEntertainment.Pacing

/-! The end of the drain loop without a session. When nothing is written any more the loop sends what it has, finds
nothing for as long as it may stay idle, and ends; until then it counts as driving the lights. -/

namespace HueEntertainment.ClassicEnd
open HueEntertainment.Const HueStream LightCommand PyValue Entertainment EngineSteps EngineFrames DrainSteps EngineMoves
  EngineHistory EngineSlots SlotHistory SlotLedger DrainTask DrainWake RoundRobin TaskTable Clocks Pacing Runs

/-- The entry records that a slot was written or a session begun. -/
def feeds : Obs → Bool
  | .putWrote _ | .frameWrote _ _ | .sessionBegun _ => true
  | _ => false

def Unfed (entries : List Obs) : Prop := ∀ entry ∈ entries, feeds entry = false

theorem Unfed.append {new old : List Obs} : Unfed (new ++ old) ↔ Unfed new ∧ Unfed old := List.forall_mem_append

/-- A frame that writes no slot does not set the event. -/
theorem handleFrame_unset (s : Engine) (data : Bytes) :
    ∃ new, (s.handleFrame data).log = new ++ s.log ∧ (Unfed new → (s.handleFrame data).wake = s.wake) := by
  apply handleFrame_induct (motive := fun x => ∃ new, x.log = new ++ s.log ∧ (Unfed new → x.wake = s.wake))
  · exact ⟨[], rfl, fun _ => rfl⟩
  · exact ⟨[], rfl, fun _ => rfl⟩
  · rintro x channel colorSpace _ _ ⟨new, grown, held⟩
    rcases scheduleUpdate_cases x channel colorSpace with ⟨_, same⟩ | ⟨_, _, same⟩ | ⟨_, _, same⟩
    · rw [same]
      exact ⟨new, grown, held⟩
    · rw [same]
      exact ⟨_ :: new, congrArg (List.cons _) grown, fun unfed => held (List.forall_mem_cons.mp unfed).2⟩
    · rw [same]
      refine ⟨_ :: new, congrArg (List.cons _) grown, fun unfed => ?_⟩
      cases (List.forall_mem_cons.mp unfed).1

section
variable {s t : Engine} {event : Event} {new : List Obs}

/-- No session begins in such a step, no loop is created, and the event is not set. -/
theorem unfed_step (move : Move s event t) (grown : t.log = new ++ s.log) (unfed : Unfed new) :
    (s.active = false → t.active = false) ∧ (t.drainRunning = true → s.drainRunning = true) ∧
      ((∀ drain outcome, event ≠ .drain drain outcome) → t.wake = s.wake) := by
  have never : ∀ {entry : Obs} {log : List Obs} {P : Prop}, t.log = log ++ s.log → entry ∈ log →
      feeds entry = true → P := by
    intro entry log P grown' member feeding
    obtain rfl : log = new := List.append_cancel_right (grown'.symm.trans grown)
    rw [unfed entry member] at feeding
    cases feeding
  cases move with
  | @frame data _ _ _ _ _ wrote held same =>
    obtain ⟨log, grown', unset⟩ := handleFrame_unset s data
    rw [same] at grown' unset
    obtain rfl : log = new := List.append_cancel_right (grown'.symm.trans grown)
    exact ⟨id, id, fun _ => unset unfed⟩
  | @commandJoined lightId _ slot accepted running =>
    have added : (queued s lightId slot).log = [.putWrote lightId] ++ s.log := rfl
    exact never added List.mem_cons_self rfl
  | @commandStarted lightId _ slot entries accepted idle notices =>
    have added : (started (queued s lightId slot) entries).log = (entries ++ [.putWrote lightId]) ++ s.log :=
      (List.append_assoc entries [.putWrote lightId] s.log).symm
    exact never added (List.mem_append_right entries List.mem_cons_self) rfl
  | @snapshotJoined forcing cancel timers first entries unholds notices running =>
    let begun : List Obs := .flushed :: .sessionBegun (freshSnapshot (unheld s forcing cancel timers first)) :: first
    have added : (sessionOpened (unheld s forcing cancel timers first) entries).log = (entries ++ begun) ++ s.log :=
      (List.append_assoc entries begun s.log).symm
    have member : .sessionBegun (freshSnapshot (unheld s forcing cancel timers first)) ∈ begun :=
      List.mem_cons_of_mem _ List.mem_cons_self
    exact never added (List.mem_append_right entries member) rfl
  | @snapshotStarted forcing cancel timers first entries more unholds notices idle notices' =>
    let begun : List Obs := .flushed :: .sessionBegun (freshSnapshot (unheld s forcing cancel timers first)) :: first
    have added : (started (sessionOpened (unheld s forcing cancel timers first) entries) more).log =
        (more ++ (entries ++ begun)) ++ s.log := by
      rw [List.append_assoc, List.append_assoc]
      rfl
    have member : .sessionBegun (freshSnapshot (unheld s forcing cancel timers first)) ∈ begun :=
      List.mem_cons_of_mem _ List.mem_cons_self
    exact never added (List.mem_append_right more (List.mem_append_right entries member)) rfl
  | restoreTook active free notices notices' => exact ⟨fun _ => rfl, nofun, fun _ => rfl⟩
  | restoreSuspended active waits notices => exact ⟨fun _ => rfl, id, fun _ => rfl⟩
  | drained found finished notices => exact ⟨id, nofun, fun _ => rfl⟩
  | drain move =>
    have running := drainRunning_step (.drain move)
    obtain ⟨_, _, _, _, _, _, rfl⟩ := move.frame
    refine ⟨id, ?_, fun other => absurd rfl (other _ _)⟩
    rcases running with ⟨_, kept⟩ | more
    · exact kept
    · exact absurd more (Nat.ne_of_lt (Nat.lt_succ_self _))
  | _ => exact ⟨id, id, fun _ => rfl⟩

/-- Nothing dirties a slot in such a step. -/
theorem unfed_dirty (step : machine.step s event = some t) (grown : t.log = new ++ s.log) (unfed : Unfed new)
    {channelId : ChannelId} (dirty : (t.mapping channelId).dirty = true) : (s.mapping channelId).dirty = true := by
  have kept := (step_changes step).invariant (fun x => ∃ new, x.log = new ++ s.log ∧
    (Unfed new → ∀ channelId, (x.mapping channelId).dirty = true → (s.mapping channelId).dirty = true)) ?_
    ⟨[], rfl, fun _ _ dirty => dirty⟩
  · obtain ⟨log, grown', held⟩ := kept
    obtain rfl : log = new := List.append_cancel_right (grown'.symm.trans grown)
    exact held unfed channelId dirty
  · -- a slot that is taken is not dirty, and the others are what they were
    have taken : ∀ {mapping : ChannelId → LightMapping} {slot : LightMapping} {served : ChannelId},
        slot.dirty = false → ∀ channelId, (Function.update mapping served slot channelId).dirty = true →
          (mapping channelId).dirty = true := by
      intro mapping slot served clean channelId dirty
      by_cases here : channelId = served
      · rw [here, Function.update_self, clean] at dirty
        cases dirty
      · rwa [Function.update_of_ne here] at dirty
    intro x y held change
    obtain ⟨log, grown, held⟩ := held
    cases change with
    | noted entry quiet =>
      exact ⟨entry :: log, congrArg (List.cons entry) grown, fun unfed => held (List.forall_mem_cons.mp unfed).2⟩
    | flushed unframed =>
      exact ⟨_ :: log, congrArg (List.cons _) grown, fun _ channelId dirty => by cases dirty⟩
    | wrote same parsed member free mapped outside =>
      refine ⟨_ :: log, congrArg (List.cons _) grown, fun unfed => ?_⟩
      cases (List.forall_mem_cons.mp unfed).1
    | @queued channelId body slot same accepted =>
      refine ⟨[.putWrote channelId], rfl, fun unfed => ?_⟩
      cases unfed _ List.mem_cons_self
    | discarded same dirty empty =>
      exact ⟨log, grown, fun unfed channelId dirty => held unfed channelId (taken rfl channelId dirty)⟩
    | dropped same dirty logged =>
      refine ⟨_ :: log, congrArg (List.cons _) grown, fun unfed channelId dirty => ?_⟩
      exact held (List.forall_mem_cons.mp unfed).2 channelId (taken rfl channelId dirty)
    | begun same dirty pending logged =>
      refine ⟨_ :: log, congrArg (List.cons _) grown, fun unfed channelId dirty => ?_⟩
      exact held (List.forall_mem_cons.mp unfed).2 channelId (taken rfl channelId dirty)

end

/-- How many lights have a slot to send. -/
def dirtyCount (s : Engine) : Nat := s.channels.countP (fun channelId => (s.mapping channelId).dirty)

theorem dirtyCount_le {s t : Engine} (channels : t.channels = s.channels)
    (kept : ∀ channelId, (t.mapping channelId).dirty = true → (s.mapping channelId).dirty = true) :
    dirtyCount t ≤ dirtyCount s := by
  unfold dirtyCount
  rw [channels]
  exact List.countP_mono_left (fun channelId _ => kept channelId)

theorem dirtyCount_lt {s t : Engine} (channels : t.channels = s.channels)
    (kept : ∀ channelId, (t.mapping channelId).dirty = true → (s.mapping channelId).dirty = true)
    {served : ChannelId} (mapped : served ∈ s.channels) (dirty : (s.mapping served).dirty = true)
    (clean : (t.mapping served).dirty = false) : dirtyCount t + 1 ≤ dirtyCount s := by
  obtain ⟨first, rest, split⟩ := List.append_of_mem mapped
  have fewer : ∀ part : List ChannelId, part.countP (fun channelId => (t.mapping channelId).dirty) ≤
      part.countP (fun channelId => (s.mapping channelId).dirty) :=
    fun part => List.countP_mono_left (fun channelId _ => kept channelId)
  have before := fewer first
  have after := fewer rest
  unfold dirtyCount
  rw [channels, split, List.countP_append, List.countP_append, List.countP_cons, List.countP_cons, dirty, clean]
  simp only [Bool.false_eq_true, if_false, if_true]
  omega

/-- A loop that begins a call takes the slot of its light, and dirties none. -/
theorem serve_lowers {s t : Engine} {drain : DrainId} {outcome : Outcome} {call : Call} {rest : List ChannelId}
    (move : DrainMove s drain outcome t) (task : t.drains drain = some ⟨.calling call rest, false⟩)
    (mapped : call.channelId ∈ s.channels) : dirtyCount t + 1 ≤ dirtyCount s := by
  cases move with
  | neverEntered found =>
    rw [setDrain_of_task found, Function.update_self] at task
    cases task
  | unwound found live entries notices =>
    change (s.setDrain drain .done).drains drain = _ at task
    rw [setDrain_of_task found, Function.update_self] at task
    cases task
  | @ran pc after mapping stats wake running begun drops entries found live ended sweep leaves =>
    change Function.update s.drains drain (some ⟨after, false⟩) drain = _ at task
    rw [Function.update_self] at task
    cases task
    cases begun with
    | none =>
      rcases leaves with ⟨⟨idleSince, waits⟩, _⟩ | ⟨finished, _⟩
      · cases waits
      · cases finished
    | some other =>
      obtain ⟨⟨rest', same⟩, _⟩ := leaves
      cases same
      obtain ⟨dirty, clean, _⟩ := sweep.call call rfl
      refine dirtyCount_lt rfl (fun channelId dirty' => ?_) mapped dirty clean
      have kept := sweep.kept dirty'
      rw [← kept]
      exact dirty'

/-- The time since which a loop at this point has found nothing to send. -/
def idleOf : DrainPc → Option ℚ
  | .waiting idleSince => idleSince
  | _ => none

/-- How a pass that finds nothing to send leaves a loop without a session: at its end, or waiting with the time since
which it has found nothing, which is no longer ago than a drain loop stays idle. -/
def Idles (s : Engine) (idleSince : Option ℚ) (t : Engine) (drain : DrainId) : Prop :=
  (t.drains drain = some ⟨.done, false⟩ ∧ t.drainRunning = false) ∨
    t.drains drain = some ⟨.waiting (some (idleSince.getD s.now)), false⟩ ∧ t.wake = false ∧
      s.now - idleSince.getD s.now ≤ classicDrainIdle

theorem scan_kept (drain : DrainId) (channels : List ChannelId) (s : Engine) :
    (s.scan drain channels).1.drains = s.drains ∧ (s.scan drain channels).1.active = s.active ∧
      (s.scan drain channels).1.wake = s.wake ∧ (s.scan drain channels).1.now = s.now := by
  obtain ⟨mapping, stats, drops, _, same⟩ := scan_eq drain channels s
  rw [same]
  exact ⟨rfl, rfl, rfl, rfl⟩

theorem drainPass_idles {s : Engine} {drain : DrainId} {pc : DrainPc} (found : s.drains drain = some ⟨pc, false⟩)
    (inactive : s.active = false) (idleSince : Option ℚ) :
    (∃ call rest, (s.drainPass drain idleSince).drains drain = some ⟨.calling call rest, false⟩) ∨
      Idles s idleSince (s.drainPass drain idleSince) drain := by
  have same := scan_kept drain s.channels { s with wake := false }
  unfold Engine.drainPass
  rcases scanned : Engine.scan { s with wake := false } drain s.channels with ⟨next, _ | ⟨call, rest⟩⟩
  · rw [scanned] at same
    obtain ⟨drains, active, wake, now⟩ := same
    have kept : next.drains drain = some ⟨pc, false⟩ := (congrFun drains drain).trans found
    have streams : next.active = false := active.trans inactive
    have now : next.now = s.now := now
    have task : ∀ after, (next.setDrain drain after).drains drain = some ⟨after, false⟩ := by
      intro after
      rw [setDrain_of_task kept, Function.update_self]
    right
    simp only [streams, Bool.false_eq_true, if_false]
    cases idleSince with
    | none =>
      refine .inr ⟨?_, wake, ?_⟩
      · rw [Option.getD_none, ← now]
        exact task _
      · rw [Option.getD_none, sub_self]
        norm_num [classicDrainIdle]
    | some since =>
      by_cases finished : classicDrainIdle < next.now - since
      · simp only [if_pos finished]
        exact .inl ⟨task .done, rfl⟩
      · simp only [if_neg finished]
        exact .inr ⟨task _, wake, now ▸ not_lt.mp finished⟩
  · rw [scanned] at same
    have kept : next.drains drain = some ⟨pc, false⟩ := (congrFun same.1 drain).trans found
    refine .inl ⟨call, rest, ?_⟩
    rw [setDrain_of_task kept, Function.update_self]

theorem drainStep_idles {s t : Engine} {drain : DrainId} {outcome : Outcome} {pc : DrainPc}
    (found : s.drains drain = some ⟨pc, false⟩) (inactive : s.active = false)
    (step : s.drainStep drain outcome = some t) :
    (∃ call rest, t.drains drain = some ⟨.calling call rest, false⟩) ∨ Idles s (idleOf pc) t drain := by
  unfold Engine.drainStep at step
  cases pc with
  | created =>
    simp only [found, Option.some.injEq] at step
    exact step ▸ drainPass_idles found inactive none
  | calling call rest =>
    by_cases finished : outcome = .returned ∨ outcome = .raised
    · simp only [found, if_pos finished, Option.some.injEq] at step
      rw [← step]
      have same := scan_kept drain rest (s.observe (.callEnded drain call outcome))
      unfold Engine.drainAfterCall
      rcases scanned : (s.observe (.callEnded drain call outcome)).scan drain rest with ⟨next, _ | ⟨begun, later⟩⟩
      · rw [scanned] at same
        obtain ⟨drains, active, _, now⟩ := same
        have pass := drainPass_idles ((congrFun drains drain).trans found) (active.trans inactive) none
        have now : next.now = s.now := now
        unfold Idles at pass ⊢
        rwa [now] at pass
      · rw [scanned] at same
        have kept : next.drains drain = some ⟨.calling call rest, false⟩ := (congrFun same.1 drain).trans found
        refine .inl ⟨begun, later, ?_⟩
        rw [setDrain_of_task kept, Function.update_self]
    · simp [found, if_neg finished] at step
  | waiting idleSince =>
    simp only [found, Option.some.injEq] at step
    exact step ▸ drainPass_idles found inactive idleSince
  | done => simp [found] at step

/-- Only a step of a loop clears the event. -/
theorem wake_step {s t : Engine} {event : Event} (move : Move s event t) (unset : t.wake = false)
    (other : ∀ drain outcome, event ≠ .drain drain outcome) : s.wake = false := by
  cases move with
  | @frame data _ _ _ _ _ wrote held same =>
    have told := handleFrame_wake s data
    rw [same] at told
    exact (told unset).1
  | commandJoined accepted running => cases unset
  | commandStarted accepted idle notices => cases unset
  | drain move => exact absurd rfl (other _ _)
  | _ => exact unset

/-- A session that ends leaves no loop that nobody has cancelled. -/
theorem streaming_before {s t : Engine} {event : Event} (free : Free t) (quiet : ¬AwaitsDrain t) (move : Move s event t)
    (inactive : t.active = false) {drain : DrainId} {pc : DrainPc} (found : t.drains drain = some ⟨pc, false⟩)
    (live : pc ≠ .done) : s.active = false := by
  have running := (free.owner drain _ found live).1
  cases move with
  | snapshotJoined unholds notices running => cases inactive
  | snapshotStarted unholds notices idle notices' => cases inactive
  | restoreSuspended active waits notices => exact absurd ⟨_, _, Function.update_self _ _ _⟩ quiet
  | restoreTook active free notices notices' => cases running
  | drain move =>
    obtain ⟨_, _, _, _, _, _, rfl⟩ := move.frame
    exact inactive
  | _ => exact inactive

/-- A loop that nobody has cancelled shows that no stop waits for one. -/
theorem unawaited_of_live {s : Engine} (owned : LoopOwned s) {drain : DrainId} {pc : DrainPc}
    (found : s.drains drain = some ⟨pc, false⟩) (live : pc ≠ .done) : ¬AwaitsDrain s := by
  rintro ⟨teardown, waited, waits⟩
  cases ((owned.held teardown waited waits).only drain _ found live).2

/-- A loop that waits without a session knows since when it has found nothing to send, and it has begun to sleep no
later than a drain loop stays idle after that. -/
def Rested (w : Paced) : Prop :=
  ∀ drain idleSince, w.state.drains drain = some ⟨.waiting idleSince, false⟩ → w.state.active = false →
    ∃ since, idleSince = some since ∧ since ≤ w.state.now ∧
      (w.state.wake = false → w.since (.loop drain) ≤ since + classicDrainIdle)

/-- The time since which a loop has found nothing to send, if it has one, is past. -/
theorem Rested.idle_past {w : Paced} (rested : Rested w) (inactive : w.state.active = false) {drain : DrainId}
    {pc : DrainPc} (found : w.state.drains drain = some ⟨pc, false⟩) :
    (idleOf pc).getD w.state.now ≤ w.state.now := by
  cases pc with
  | waiting idleSince =>
    obtain ⟨since, rfl, past, _⟩ := rested drain idleSince found inactive
    exact past
  | _ => exact le_refl _

/-- With one loop at a time, a step of another job does not clear the event that the loop waits for. -/
theorem unset_before {s t : Engine} {event : Event} (owned : LoopOwned s) (step : machine.step s event = some t)
    {drain : DrainId} {pc : DrainPc} {cancelling : Bool} (found : s.drains drain = some ⟨pc, cancelling⟩)
    (live : pc ≠ .done) (other : owner event ≠ some (.loop drain)) : ∀ loop outcome, event ≠ .drain loop outcome := by
  rintro loop outcome rfl
  have running : Live s loop := by
    rcases drain_cases step with ⟨pc', found', _⟩ | ⟨pc', found', _⟩
    all_goals
      refine ⟨_, found', ?_⟩
      rintro rfl
      have stuck : s.drainStep loop outcome = some t := step
      simp [Engine.drainStep, found'] at stuck
  have same := owned.single running ⟨_, found, live⟩
  exact other (by rw [same]; rfl)

theorem Rested.step {pace : ℚ} {w x : Paced} {event : Event} (rested : Rested w)
    (reached : Reachable paced (Punctual pace) w) (punctual : Punctual pace w event)
    (step : paced.step w event = some x) : Rested x := by
  intro drain idleSince found inactive
  obtain ⟨stepped, _⟩ := Tasks.step_eq_some step
  have move := step_move stepped
  have owned := loopOwned (reachable_quiet (reached.step punctual step))
  have live : DrainPc.waiting idleSince ≠ .done := by simp
  have quiet := unawaited_of_live owned found live
  have before := streaming_before (owned.free quiet) quiet move inactive found live
  by_cases own : owner event = some (.loop drain)
  · obtain ⟨outcome, rfl⟩ := driven_of_owner own
    have now : x.state.now = w.state.now := jobs.instant stepped own
    have since := Tasks.since_renewed step (.inl own)
    rcases drain_cases stepped with ⟨pc, found', _⟩ | ⟨pc, found', ended⟩
    · rcases drainStep_idles found' before stepped with ⟨call, rest, task⟩ | ⟨task, _⟩ | ⟨task, _, recent⟩
      · rw [task] at found
        cases found
      · rw [task] at found
        cases found
      · rw [task] at found
        cases found
        refine ⟨_, rfl, ?_, fun _ => ?_⟩
        · rw [now]
          exact rested.idle_past before found'
        · rw [since]
          change x.state.now ≤ _
          linarith
    · rw [ended] at found
      cases found
  · rcases task_step move drain with ⟨outcome, rfl⟩ | same | ⟨pc, marked, _⟩ | ⟨_, created⟩
    · exact absurd rfl own
    · have found' := same ▸ found
      obtain ⟨since, known, past, slept⟩ := rested drain idleSince found' before
      refine ⟨since, known, past.trans (now_step move).1, fun unset => ?_⟩
      have apart := unset_before (loopOwned (reachable_quiet reached)) stepped found' live own
      have unset' := wake_step move unset apart
      rw [Tasks.since_kept step own (waits_congr same (.inl (unset.trans unset'.symm)))]
      exact slept unset'
    · rw [marked] at found
      cases found
    · rw [created] at found
      cases found

theorem rested {pace : ℚ} {w : Paced} (reached : Reachable paced (Punctual pace) w) : Rested w := by
  have both : Reachable paced (Punctual pace) w ∧ Rested w := by
    refine reached.invariant (fun x => Reachable paced (Punctual pace) x ∧ Rested x) ?_ ?_
    · intro x start
      refine ⟨⟨x, [], start, .nil x⟩, fun drain idleSince found => ?_⟩
      obtain ⟨⟨lights, states, now, same⟩, _⟩ := start
      rw [same] at found
      cases found
    · intro x event y held punctual step
      exact ⟨held.1.step punctual step, held.2.step held.1 punctual step⟩
  exact both.2

/-- How far a loop without a session is from its end: it still has slots to send, or has found nothing for a while, or
has ended. -/
inductive Winding (pace deadline : ℚ) (w : Paced) : Prop where
  | draining {drain : DrainId} {pc : DrainPc} (busy : Busy w.state drain pc)
      (inTime : w.since (.loop drain) + dirtyCount w.state * pace ≤ deadline)
  | resting {drain : DrainId} {since : ℚ} (found : w.state.drains drain = some ⟨.waiting (some since), false⟩)
      (unset : w.state.wake = false) (inTime : since ≤ deadline + pace)
  | ended (stopped : w.state.drainRunning = false)

/-- A loop that sleeps has no slot to send. -/
theorem dirtyCount_of_unset {s : Engine} (reached : Reachable machine QuietWait s) {drain : DrainId}
    {idleSince : Option ℚ} (found : s.drains drain = some ⟨.waiting idleSince, false⟩) (unset : s.wake = false) :
    dirtyCount s = 0 := by
  unfold dirtyCount
  rw [List.countP_eq_zero]
  intro channelId _ dirty
  have set := (busy_of_dirty reached found (by simp) dirty).woken idleSince rfl
  rw [unset] at set
  cases set

theorem Winding.step {pace deadline : ℚ} {w x : Paced} {event : Event} (winding : Winding pace deadline w)
    (patient : 0 ≤ pace) (reached : Reachable paced (Punctual pace) w) (punctual : Punctual pace w event)
    (inactive : w.state.active = false) (quiet : ¬AwaitsDrain x.state) (step : paced.step w event = some x)
    {new : List Obs} (grown : x.state.log = new ++ w.state.log) (unfed : Unfed new) : Winding pace deadline x := by
  obtain ⟨stepped, _⟩ := Tasks.step_eq_some step
  have move := step_move stepped
  have reached' := reached.step punctual step
  have free := (loopOwned (reachable_quiet reached')).free quiet
  obtain ⟨_, running, set⟩ := unfed_step move grown unfed
  have channels := channels_step move
  have fresh := (Unload.awaited (reachable_engine reached)).fresh
  -- a call that a loop begins is for a light that it took the slot of
  have lowers : ∀ drain outcome call rest, event = .drain drain outcome →
      x.state.drains drain = some ⟨.calling call rest, false⟩ → dirtyCount x.state + 1 ≤ dirtyCount w.state := by
    rintro drain outcome call rest rfl task
    obtain ⟨passed, split⟩ := passing (reachable_engine reached') drain _ false task
    rw [channels] at split
    exact serve_lowers (drainStep_move stepped) task (by rw [split]; simp)
  cases winding with
  | @draining drain pc busy inTime =>
    obtain ⟨wait, waits, paces⟩ := busy.waits pace
    have punctually := onTime patient (fun _ _ okay => okay.1) reached
    have count := fun left => Tasks.countdown left punctually step waits paces.le patient inTime
    have within := punctually.within _ wait waits
    by_cases own : owner event = some (.loop drain)
    · obtain ⟨outcome, rfl⟩ := driven_of_owner own
      rcases drainStep_idles busy.found inactive stepped with ⟨call, rest, task⟩ | ⟨_, stopped⟩ | ⟨task, unset, _⟩
      · refine .draining ⟨task, by simp, by simp⟩ (count _ (fun _ => ?_) (fun apart => absurd own apart))
        exact lowers drain outcome call rest rfl task
      · exact .ended stopped
      · refine .resting task unset (((rested reached).idle_past inactive busy.found).trans ?_)
        have spare : (0 : ℚ) ≤ dirtyCount w.state * pace := mul_nonneg (Nat.cast_nonneg _) patient
        change w.state.now ≤ _ at within
        linarith
    · have kept := loop_step fresh free move own busy.found busy.live
      have same := set (unset_before (loopOwned (reachable_quiet reached)) stepped busy.found busy.live own)
      refine .draining ⟨kept, busy.live, fun idleSince sleeps => same.trans (busy.woken idleSince sleeps)⟩ ?_
      refine count _ (fun mine => absurd mine own) (fun _ => ⟨waits_congr (kept.trans busy.found.symm) (.inl same), ?_⟩)
      exact dirtyCount_le channels (fun channelId dirty => unfed_dirty stepped grown unfed dirty)
  | @resting drain since found unset inTime =>
    by_cases own : owner event = some (.loop drain)
    · obtain ⟨outcome, rfl⟩ := driven_of_owner own
      rcases drainStep_idles found inactive stepped with ⟨call, rest, task⟩ | ⟨_, stopped⟩ | ⟨task, unset', _⟩
      · have lower := lowers drain outcome call rest rfl task
        rw [dirtyCount_of_unset (reachable_quiet reached) found unset] at lower
        omega
      · exact .ended stopped
      · exact .resting task unset' inTime
    · have kept := loop_step fresh free move own found (by simp)
      have same := set (unset_before (loopOwned (reachable_quiet reached)) stepped found (by simp) own)
      exact .resting kept (same.trans unset) inTime
  | ended stopped =>
    refine .ended (eq_false_of_ne_true (fun up => ?_))
    rw [running up] at stopped
    cases stopped

theorem Winding.initial {pace : ℚ} {w : Paced} (patient : 0 ≤ pace) (reached : Reachable paced (Punctual pace) w)
    (inactive : w.state.active = false) (quiet : ¬AwaitsDrain w.state) :
    Winding pace (w.state.now + w.state.channels.length * pace) w := by
  cases running : w.state.drainRunning with
  | false => exact .ended running
  | true =>
    obtain ⟨drain, pc, found, live⟩ := loop_of_running ((loopOwned (reachable_quiet reached)).free quiet) running
    by_cases sleeps : (∃ idleSince, pc = .waiting idleSince) ∧ w.state.wake = false
    · obtain ⟨⟨idleSince, rfl⟩, unset⟩ := sleeps
      obtain ⟨since, rfl, past, _⟩ := rested reached drain idleSince found inactive
      refine .resting found unset (past.trans ?_)
      have spare : (0 : ℚ) ≤ w.state.channels.length * pace := mul_nonneg (Nat.cast_nonneg _) patient
      linarith
    · have busy : Busy w.state drain pc := by
        refine ⟨found, live, fun idleSince same => ?_⟩
        by_contra unset
        exact sleeps ⟨⟨idleSince, same⟩, eq_false_of_ne_true unset⟩
      have began : w.since (.loop drain) ≤ w.state.now := (onTime patient (fun _ _ okay => okay.1) reached).past _
      have fewer : (dirtyCount w.state : ℚ) ≤ w.state.channels.length := by exact_mod_cast List.countP_le_length
      exact .draining busy (add_le_add began (mul_le_mul_of_nonneg_right fewer patient))

theorem Winding.inTime {pace deadline : ℚ} {w : Paced} (winding : Winding pace deadline w) (patient : 0 ≤ pace)
    (reached : Reachable paced (Punctual pace) w) (inactive : w.state.active = false) :
    w.state.drainRunning = false ∨ w.state.now ≤ deadline + 2 * pace + 2 * classicDrainIdle := by
  have punctually := onTime patient (fun _ _ okay => okay.1) reached
  cases winding with
  | draining busy inTime =>
    obtain ⟨wait, waits, paces⟩ := busy.waits pace
    have within := punctually.within _ wait waits
    have spare : (0 : ℚ) ≤ dirtyCount w.state * pace := mul_nonneg (Nat.cast_nonneg _) patient
    have idle : (0 : ℚ) ≤ classicDrainIdle := by norm_num [classicDrainIdle]
    change w.state.now ≤ _ at within
    right
    linarith
  | @resting drain since found unset inTime =>
    have waits : jobs.waits w.state (.loop drain) = some .sleep := by simp [jobs, Pacing.waits, found, unset]
    have within := punctually.within _ .sleep waits
    obtain ⟨_, ⟨⟩, _, slept⟩ := rested reached drain _ found inactive
    have slept := slept unset
    change w.state.now ≤ w.since (.loop drain) + (classicDrainIdle + pace) at within
    right
    linarith
  | ended stopped => exact .inl stopped

/-- Without a session a drain loop whose slots nothing writes any more has a round to go and two sleeps at most. -/
theorem drain_ends {pace : ℚ} (patient : 0 ≤ pace) {w x : Paced} {events : List Event}
    (reached : Reachable paced (Punctual pace) w) (inactive : w.state.active = false) (quiet : ¬AwaitsDrain w.state)
    (run : Run paced (Punctual pace) w events x) (unfed : Unfed (newEntries w.state x.state)) :
    x.state.drainRunning = false ∨
      x.state.now ≤ w.state.now + (w.state.channels.length + 2) * pace + 2 * classicDrainIdle := by
  have kept := run.invariant (fun y => Reachable paced (Punctual pace) y ∧ ∃ new, y.state.log = new ++ w.state.log ∧
    (Unfed new → y.state.active = false ∧ ¬AwaitsDrain y.state ∧
      Winding pace (w.state.now + w.state.channels.length * pace) y)) ?_
    ⟨reached, [], rfl, fun _ => ⟨inactive, quiet, .initial patient reached inactive quiet⟩⟩
  · obtain ⟨reached', new, grown, held⟩ := kept
    rw [newEntries_eq grown] at unfed
    obtain ⟨inactive', _, winding⟩ := held unfed
    refine (winding.inTime patient reached' inactive').imp_right (fun bound => bound.trans (le_of_eq ?_))
    ring
  · rintro y event z ⟨reached, old, grown, held⟩ punctual step
    obtain ⟨stepped, _⟩ := Tasks.step_eq_some step
    have move := step_move stepped
    obtain ⟨new, added, _⟩ := move_adds move
    refine ⟨reached.step punctual step, new ++ old, by rw [added, grown, List.append_assoc], fun unfed => ?_⟩
    obtain ⟨fromStep, before⟩ := Unfed.append.mp unfed
    obtain ⟨inactive, quiet, winding⟩ := held before
    have quiet' : ¬AwaitsDrain z.state := by
      refine unstopped_step quiet (fun stops => ?_) move
      rw [stops.2] at inactive
      cases inactive
    exact ⟨(unfed_step move added fromStep).1 inactive, quiet',
      winding.step patient reached punctual inactive quiet' step added fromStep⟩

/-- Without a session the bridge lets go of the lights in time: when nothing is written any more the drain loop sleeps
twice at most and ends. -/
theorem classic_ends {pace : ℚ} (patient : 0 ≤ pace) {w x : Paced} {events : List Event}
    (reached : Reachable paced (Punctual pace) w) (inactive : w.state.active = false) (quiet : ¬AwaitsDrain w.state)
    (run : Run paced (Punctual pace) w events x) (unfed : Unfed (newEntries w.state x.state)) :
    x.state.drainRunning = false ∨
      x.state.now ≤ w.state.now + (w.state.channels.length + 2) * pace + 2 * classicDrainIdle :=
  drain_ends patient reached inactive quiet run unfed

/-- The command is sent, and both sleeps are as long as they may be. -/
def winding : List Event :=
  [.tick (1 / 2), .drain 0 .returned, .tick (1 / 2), .drain 0 .returned, .tick 2, .drain 0 .returned, .tick (5 / 2),
    .drain 0 .returned, .tick 1]

/-- After a command to its only light the loop ends at the very end of the time. -/
theorem classic_ends_winding : ∃ w x, Reachable paced (Punctual (1 / 2)) w ∧ Run paced (Punctual (1 / 2)) w winding x ∧
    w.state.drainRunning = true ∧ x.state.drainRunning = false := by
  have played : (play paced (fun y event => jobs.Timely (limit (1 / 2)) y event ∧ Always y event) (pacedOf oneLight)
      [switchOn 1]).any (fun (w : Paced) => w.state.drainRunning && !w.state.active && w.state.now == 0 &&
        w.state.channels.length == 1 &&
        (play paced (fun y event => jobs.Timely (limit (1 / 2)) y event ∧ Always y event) w winding).any
          (fun (x : Paced) => x.state.now == 13 / 2 && (newEntries w.state x.state).all (fun entry => !feeds entry))) =
            true := by
    decide +kernel
  obtain ⟨w, toW, rest⟩ := (Option.any_eq_true _ _).mp played
  simp only [Bool.and_eq_true, Bool.not_eq_true', beq_iff_eq] at rest
  obtain ⟨⟨⟨⟨running, inactive⟩, zero⟩, one⟩, rest⟩ := rest
  obtain ⟨x, toX, rest⟩ := (Option.any_eq_true _ _).mp rest
  simp only [Bool.and_eq_true, Bool.not_eq_true', beq_iff_eq, List.all_eq_true] at rest
  obtain ⟨now, unfed⟩ := rest
  have start : paced.Start (pacedOf oneLight) := ⟨⟨_, _, _, rfl⟩, fun _ => rfl⟩
  obtain ⟨led, quiet⟩ := punctual_of_unstopped (run_of_play _ _ _ toW) (new_unawaited _ _ _) (by simp [switchOn])
  have reached : Reachable paced (Punctual (1 / 2)) w := ⟨_, _, start, led.mono (fun _ _ allowed => allowed.1)⟩
  obtain ⟨run, _⟩ := punctual_of_unstopped (run_of_play _ _ _ toX) quiet (by simp [winding])
  have punctual := run.mono (fun _ _ allowed => allowed.1)
  have ended := classic_ends (by norm_num) reached inactive quiet punctual unfed
  refine ⟨w, x, reached, punctual, running, ended.resolve_right ?_⟩
  rw [zero, one, now]
  norm_num [classicDrainIdle]

end HueEntertainment.ClassicEnd
