import HueEntertainment.DrainTask
import HueEntertainment.EngineSlots

/-! The wake-up of a drain loop. Each pass clears the event before it looks at the slots, and every write
sets it after, so a loop that waits for the event has seen all slots clean since it was cleared. -/

namespace HueEntertainment.DrainWake
open HueEntertainment.Const HueStream LightCommand PyValue Entertainment EngineSteps EngineFrames DrainSteps
  EngineMoves EngineSlots DrainTask TaskTable Runs

def AtMostOneLoop (s : Engine) : Prop := ∀ drain other, Live s drain → Live s other → drain = other

/-- The step happens with at most one drain loop live. -/
def OneLoop (s : Engine) (_ : Event) : Prop := AtMostOneLoop s

/-- A loop that waits for an event that is not set leaves no slot dirty. -/
def Awake (s : Engine) : Prop :=
  ∀ drain idleSince cancelling, s.drains drain = some ⟨.waiting idleSince, cancelling⟩ → s.wake = false →
    ∀ channelId, (s.mapping channelId).dirty = false

theorem scan_dirty {drain : DrainId} {channels : List ChannelId} {s : Engine} {channelId : ChannelId}
    (dirty : ((s.scan drain channels).1.mapping channelId).dirty = true) : (s.mapping channelId).dirty = true := by
  obtain ⟨mapping, stats, drops, sweep, same⟩ := scan_eq drain channels s
  rw [same] at dirty
  have kept := sweep.kept dirty
  rw [← kept]
  exact dirty

/-- A pass that begins no call takes every slot it visits. -/
theorem scan_clean {drain : DrainId} {channels : List ChannelId} {s : Engine}
    (unsent : (s.scan drain channels).2 = none) :
    ∀ channelId ∈ channels, ((s.scan drain channels).1.mapping channelId).dirty = false := by
  induction channels generalizing s with
  | nil => simp
  | cons first rest ih =>
    -- the rest of the pass leaves a slot that is clean here clean
    have later : ∀ t : Engine, (t.scan drain rest).2 = none → (t.mapping first).dirty = false →
        ∀ channelId ∈ first :: rest, ((t.scan drain rest).1.mapping channelId).dirty = false := by
      intro t none clean channelId member
      rcases List.mem_cons.mp member with rfl | member
      · by_contra dirty
        have before := scan_dirty (eq_true_of_ne_false dirty)
        rw [clean] at before
        cases before
      · exact ih none channelId member
    unfold Engine.scan at unsent ⊢
    by_cases dirty : (s.mapping first).dirty = true
    · simp only [if_pos dirty] at unsent ⊢
      cases pending : (s.mapping first).pendingData with
      | none =>
        simp only [pending] at unsent ⊢
        apply later _ unsent
        rw [Engine.setMapping_mapping, Function.update_self]
        rfl
      | some data =>
        simp only [pending] at unsent ⊢
        obtain ⟨_, logged, seen⟩ := lightAvailable_grab s (s.mapping first)
        by_cases gone : (s.lightAvailable (s.mapping first).grab).1 = true
        · simp [gone] at unsent
        · simp only [if_neg gone] at unsent ⊢
          apply later _ unsent
          rw [seen, Engine.observe_mapping, Engine.setMapping_mapping, Function.update_self]
          rfl
    · simp only [if_neg dirty] at unsent ⊢
      exact later s unsent (eq_false_of_ne_true dirty)

/-- How a pass ends: in a call, or with every slot clean. -/
def Rests (t : Engine) (drain : DrainId) : Prop :=
  (∃ next call rest, t = Engine.setDrain next drain (.calling call rest)) ∨
    ∀ channelId, (t.mapping channelId).dirty = false

theorem Rests.of_found {t : Engine} {drain : DrainId} {task : Drain} (rests : Rests t drain)
    (found : t.drains drain = some task) :
    (∃ call rest, task.pc = .calling call rest) ∨ ∀ channelId, (t.mapping channelId).dirty = false := by
  rcases rests with ⟨next, call, rest, rfl⟩ | clean
  · rw [Engine.setDrain_drains, Function.update_self] at found
    obtain ⟨old, _, same⟩ := Option.map_eq_some_iff.mp found
    exact .inl ⟨call, rest, (congrArg Drain.pc same).symm⟩
  · exact .inr clean

theorem drainPass_rests {s : Engine} (mapped : DirtyMapped s) (drain : DrainId) (idleSince : Option ℚ) :
    Rests (s.drainPass drain idleSince) drain := by
  unfold Engine.drainPass
  rcases scanned : Engine.scan { s with wake := false } drain s.channels with ⟨next, _ | ⟨call, rest⟩⟩
  · have unsent : (Engine.scan { s with wake := false } drain s.channels).2 = none := by rw [scanned]
    have clean : ∀ channelId, (next.mapping channelId).dirty = false := by
      intro channelId
      by_contra dirty
      have after : ((Engine.scan { s with wake := false } drain s.channels).1.mapping channelId).dirty = true := by
        rw [scanned]
        exact eq_true_of_ne_false dirty
      have before : (s.mapping channelId).dirty = true := scan_dirty (s := { s with wake := false }) after
      have visited := scan_clean unsent channelId (mapped channelId before)
      rw [after] at visited
      cases visited
    right
    simp only []
    cases next.active with
    | true => exact clean
    | false =>
      cases idleSince with
      | none => exact clean
      | some since =>
        by_cases finished : classicDrainIdle < next.now - since
        · simp only [Bool.false_eq_true, if_false, if_pos finished]
          exact clean
        · simp only [Bool.false_eq_true, if_false, if_neg finished]
          exact clean
  · exact .inl ⟨next, call, rest, rfl⟩

theorem drainAfterCall_rests {s : Engine} (mapped : DirtyMapped s) (drain : DrainId) (rest : List ChannelId) :
    Rests (s.drainAfterCall drain rest) drain := by
  obtain ⟨mapping, stats, drops, sweep, same⟩ := scan_eq drain rest s
  unfold Engine.drainAfterCall
  rcases scanned : s.scan drain rest with ⟨next, _ | ⟨call, later⟩⟩
  · have after : next = _ := (congrArg Prod.fst scanned).symm.trans same
    refine drainPass_rests ?_ drain none
    intro channelId dirty
    rw [after] at dirty ⊢
    have kept := sweep.kept dirty
    exact mapped channelId (kept ▸ dirty)
  · exact .inl ⟨next, call, later, rfl⟩

/-- A step of a loop that is not being cancelled. -/
theorem drainStep_rests {s t : Engine} {drain : DrainId} {outcome : Outcome} {pc : DrainPc} (mapped : DirtyMapped s)
    (found : s.drains drain = some ⟨pc, false⟩) (step : s.drainStep drain outcome = some t) : Rests t drain := by
  unfold Engine.drainStep at step
  cases pc with
  | created =>
    simp only [found, Option.some.injEq] at step
    exact step ▸ drainPass_rests mapped drain none
  | calling call rest =>
    by_cases finished : outcome = .returned ∨ outcome = .raised
    · simp only [found, if_pos finished, Option.some.injEq] at step
      rw [← step]
      exact drainAfterCall_rests (s := s.observe (.callEnded drain call outcome)) mapped drain rest
    · simp [found, if_neg finished] at step
  | waiting idleSince =>
    simp only [found, Option.some.injEq] at step
    exact step ▸ drainPass_rests mapped drain idleSince
  | done => simp [found] at step

/-- Waiting loops that waited before, an event that stays set, and no slot dirtied while it is not. -/
theorem Awake.of_less {s t : Engine} (awake : Awake s)
    (waited : ∀ drain idleSince cancelling, t.drains drain = some ⟨.waiting idleSince, cancelling⟩ →
      ∃ cancelling', s.drains drain = some ⟨.waiting idleSince, cancelling'⟩)
    (quiet : t.wake = false → s.wake = false ∧
      ∀ channelId, (t.mapping channelId).dirty = true → (s.mapping channelId).dirty = true) : Awake t := by
  intro drain idleSince cancelling found unset channelId
  obtain ⟨cancelling', before⟩ := waited drain idleSince cancelling found
  obtain ⟨unset', kept⟩ := quiet unset
  by_contra dirty
  have was := kept channelId (eq_true_of_ne_false dirty)
  rw [awake drain idleSince cancelling' before unset' channelId] at was
  cases was

theorem Awake.of_same {s t : Engine} (awake : Awake s) (drains : t.drains = s.drains) (wake : t.wake = s.wake)
    (kept : ∀ channelId, (t.mapping channelId).dirty = true → (s.mapping channelId).dirty = true) : Awake t := by
  refine awake.of_less ?_ (fun unset => ⟨wake ▸ unset, kept⟩)
  rw [drains]
  exact fun drain idleSince cancelling found => ⟨cancelling, found⟩

/-- A new loop does not wait yet. -/
theorem Awake.started {s t : Engine} (awake : Awake t) (drains : t.drains = s.drains) (next : t.nextDrain = s.nextDrain)
    (entries : List Obs) : Awake (started t entries) := by
  refine awake.of_less ?_ (fun unset => ⟨unset, fun _ dirty => dirty⟩)
  intro drain idleSince cancelling found
  rw [started_drains drains next entries] at found
  rcases update_eq_some found with ⟨_, new⟩ | ⟨_, before⟩
  · cases new
  · exact ⟨cancelling, drains ▸ before⟩

theorem Awake.flushed {s : Engine} (clean : ∀ channelId, (s.mapping channelId).dirty = false) : Awake s :=
  fun _ _ _ _ _ channelId => clean channelId

theorem Awake.set {s : Engine} (set : s.wake = true) : Awake s := by
  intro drain idleSince cancelling _ unset
  rw [set] at unset
  cases unset

/-- A frame that dirties a slot sets the event. -/
theorem handleFrame_wake (s : Engine) (data : Bytes) : (s.handleFrame data).wake = false →
    s.wake = false ∧ (s.handleFrame data).mapping = s.mapping := by
  apply handleFrame_induct (motive := fun x => x.wake = false → s.wake = false ∧ x.mapping = s.mapping)
  · exact fun unset => ⟨unset, rfl⟩
  · exact fun unset => ⟨unset, rfl⟩
  · intro x channel colorSpace _ _ held unset
    rcases scheduleUpdate_cases x channel colorSpace with ⟨_, same⟩ | ⟨_, _, same⟩ | ⟨_, _, same⟩
    · rw [same] at unset ⊢
      exact held unset
    · rw [same] at unset ⊢
      exact held unset
    · rw [same] at unset
      cases unset

theorem drain_awake {s t : Engine} (one : AtMostOneLoop s) (mapped : DirtyMapped s) {drain : DrainId}
    {outcome : Outcome} (step : s.drainStep drain outcome = some t) : Awake t := by
  have move := drainStep_move step
  -- a loop that waits after the step is the one that took it, the only one that was live before
  have only : ∀ (pc : DrainPc) (cancelling : Bool), s.drains drain = some ⟨pc, cancelling⟩ → pc ≠ .done →
      ∀ other idleSince cancelling', s.drains other = some ⟨.waiting idleSince, cancelling'⟩ → other = drain :=
    fun pc cancelling found live other idleSince cancelling' waits => one other drain ⟨_, waits, by simp⟩ ⟨_, found, live⟩
  intro other idleSince cancelling found unset channelId
  cases move with
  | neverEntered found' =>
    obtain ⟨different, before⟩ := live_before_done found' found (by simp)
    exact absurd (only _ _ found' (by simp) other _ _ before) different
  | unwound found' live entries notices =>
    obtain ⟨different, before⟩ := live_before_done found' found (by simp)
    exact absurd (only _ _ found' live other _ _ before) different
  | ran found' live ended sweep leaves =>
    rcases update_eq_some found with ⟨here, new⟩ | ⟨different, before⟩
    · subst here
      rcases (drainStep_rests mapped found' step).of_found found with ⟨call, rest, calls⟩ | clean
      · cases calls
      · exact clean channelId
    · exact absurd (only _ _ found' live other _ _ before) different

theorem Awake.step {s t : Engine} {event : Event} (awake : Awake s) (one : AtMostOneLoop s) (mapped : DirtyMapped s)
    (step : machine.step s event = some t) : Awake t := by
  cases step_move step with
  | @frame data mapping wake stats last entries wrote held same =>
    have told := handleFrame_wake s data
    rw [same] at told
    refine awake.of_less (fun _ _ cancelling found => ⟨cancelling, found⟩) ?_
    intro unset
    obtain ⟨unset', kept⟩ := told unset
    refine ⟨unset', fun channelId dirty => ?_⟩
    change (mapping channelId).dirty = true at dirty
    have here : mapping = s.mapping := kept
    rw [← here]
    exact dirty
  | commandKept rejected => exact awake
  | commandJoined accepted running => exact .set rfl
  | commandStarted accepted idle notices => exact .set rfl
  | snapshotKept closed => exact awake
  | snapshotJoined unholds notices running => exact .flushed (fun _ => rfl)
  | snapshotStarted unholds notices idle notices' => exact .flushed (fun _ => rfl)
  | restoreKept inactive => exact awake
  | @restoreSuspended waited entries active waits notices =>
    refine awake.of_less ?_ (fun unset => ⟨unset, fun _ dirty => dirty⟩)
    intro drain idleSince cancelling found
    rcases update_eq_some found with ⟨rfl, marked⟩ | ⟨_, before⟩
    · obtain ⟨⟨pc, old⟩, before, same⟩ := Option.map_eq_some_iff.mp marked
      simp only [Drain.mk.injEq] at same
      exact ⟨old, before.trans (by rw [same.1])⟩
    · exact ⟨cancelling, before⟩
  | restoreTook active free notices notices' => exact .flushed (fun _ => rfl)
  | pauseKept releasing => exact awake
  | paused unreleased notices => exact .flushed (fun _ => rfl)
  | resumeKept => exact awake
  | resumed unreleased notices => exact awake.of_same rfl rfl (fun _ dirty => dirty)
  | released notices => exact .flushed (fun _ => rfl)
  | pauseExpired pending notices => exact awake.of_same rfl rfl (fun _ dirty => dirty)
  | graceStale pending unreleased => exact awake.of_same rfl rfl (fun _ dirty => dirty)
  | graceEnded pending releasing inactive notices => exact awake.of_same rfl rfl (fun _ dirty => dirty)
  | graceForced pending releasing active notices => exact awake.of_same rfl rfl (fun _ dirty => dirty)
  | drain move => exact drain_awake one mapped step
  | drained found finished notices => exact .flushed (fun _ => rfl)
  | reproduced found => exact awake.of_same rfl rfl (fun _ dirty => dirty)
  | tick forward => exact awake.of_same rfl rfl (fun _ dirty => dirty)
  | setState => exact awake.of_same rfl rfl (fun _ dirty => dirty)

/-- With one loop at a time, a loop that waits for an event that is not set has no slot to send. -/
theorem awake {s : Engine} (reached : Reachable machine OneLoop s) : Awake s := by
  have both : DirtyMapped s ∧ Awake s := by
    refine reached.invariant (fun x => DirtyMapped x ∧ Awake x) ?_ ?_
    · intro s start
      have here : Reachable machine Always s := ⟨s, [], start, .nil s⟩
      refine ⟨dirtyMapped here, ?_⟩
      obtain ⟨lights, states, now, rfl⟩ := start
      intro drain idleSince cancelling found
      cases found
    · intro x event y held one step
      exact ⟨held.1.step step, held.2.step one held.1 step⟩
  exact both.2

/-- Where nothing starts in the wait of a stop, there is one loop at a time. -/
theorem oneLoop_run {s t : Engine} {events : List Event} (reached : Reachable machine QuietWait s)
    (run : Run machine QuietWait s events t) : Run machine OneLoop s events t := by
  induction run with
  | nil s => exact .nil s
  | cons quiet step _ ih =>
    have one : AtMostOneLoop _ := fun drain other live live' => (loopOwned reached).single live live'
    exact .cons one step (ih (reached.step quiet step))

/-- The step is the idle-timeout return of a loop that nobody cancelled. -/
def IdleExit (s : Engine) (drain : DrainId) (outcome : Outcome) (t : Engine) : Prop :=
  machine.step s (.drain drain outcome) = some t ∧
    (∃ pc, s.drains drain = some ⟨pc, false⟩ ∧ pc ≠ .done) ∧ ∃ cancelling, t.drains drain = some ⟨.done, cancelling⟩

theorem IdleExit.clean {s t : Engine} {drain : DrainId} {outcome : Outcome} (exit : IdleExit s drain outcome t)
    (mapped : DirtyMapped s) : t.drainRunning = false ∧ ∀ channelId, (t.mapping channelId).dirty = false := by
  obtain ⟨step, ⟨pc, found, live⟩, cancelling, done⟩ := exit
  constructor
  · cases drainStep_move step with
    | neverEntered found' =>
      cases found.symm.trans found'
    | unwound found' live entries notices =>
      cases found.symm.trans found'
    | @ran pc after mapping stats wake running begun drops entries found' live ended sweep leaves =>
      change Function.update s.drains drain (some ⟨after, false⟩) drain = _ at done
      rw [Function.update_self] at done
      cases begun with
      | some call =>
        obtain ⟨⟨rest, calls⟩, _⟩ := leaves
        rw [calls] at done
        cases done
      | none =>
        rcases leaves with ⟨⟨idleSince, waits⟩, _⟩ | ⟨_, down, _⟩
        · rw [waits] at done
          cases done
        · exact down
  · rcases (drainStep_rests mapped found step).of_found done with ⟨call, rest, calls⟩ | clean
    · cases calls
    · exact clean

/-- Only the creation of a loop raises the engine's flag for it. -/
theorem drainRunning_step {s t : Engine} {event : Event} (move : Move s event t) :
    (t.nextDrain = s.nextDrain ∧ (t.drainRunning = true → s.drainRunning = true)) ∨ t.nextDrain = s.nextDrain + 1 := by
  cases move with
  | commandStarted accepted idle notices => exact .inr rfl
  | snapshotStarted unholds notices idle notices' => exact .inr rfl
  | restoreTook active free notices notices' => exact .inl ⟨rfl, fun up => by cases up⟩
  | drained found finished notices => exact .inl ⟨rfl, fun up => by cases up⟩
  | drain move =>
    cases move with
    | neverEntered found => exact .inl ⟨rfl, fun up => up⟩
    | unwound found live entries notices => exact .inl ⟨rfl, fun up => by cases up⟩
    | @ran pc after mapping stats wake running begun drops entries found live ended sweep leaves =>
      refine .inl ⟨rfl, fun up => ?_⟩
      have up : running = true := up
      cases begun with
      | some call => exact leaves.2.1 ▸ up
      | none =>
        rcases leaves with ⟨_, same, _⟩ | ⟨_, down, _⟩
        · exact same ▸ up
        · rw [down] at up
          cases up
  | _ => exact .inl ⟨rfl, fun up => up⟩

/-- Until another loop is created, the flag stays down. -/
theorem stopped_run {ok : Engine → Event → Prop} {s t : Engine} {events : List Event} (run : Run machine ok s events t)
    (down : s.drainRunning = false) : s.nextDrain ≤ t.nextDrain ∧ (t.nextDrain = s.nextDrain → t.drainRunning = false) := by
  refine run.invariant (fun x => s.nextDrain ≤ x.nextDrain ∧ (x.nextDrain = s.nextDrain → x.drainRunning = false)) ?_
    ⟨Nat.le_refl _, fun _ => down⟩
  intro x event y held _ step
  obtain ⟨later, held⟩ := held
  rcases drainRunning_step (step_move step) with ⟨same, kept⟩ | next
  · refine ⟨later.trans_eq same.symm, fun still => ?_⟩
    have before := held (same.symm.trans still)
    by_contra up
    rw [kept (eq_true_of_ne_false up)] at before
    cases before
  · refine ⟨(Nat.le_succ_of_le later).trans_eq next.symm, fun still => ?_⟩
    exact absurd (next.symm.trans still) (Nat.ne_of_gt (Nat.lt_succ_of_le later))

/-- A command that is accepted while the flag is down starts a loop. -/
theorem command_starts {s t : Engine} {lightId : Nat} {body : Json} {slot : ServiceData × List Write}
    (accepted : Accepts s lightId body slot) (down : s.drainRunning = false)
    (step : machine.step s (.command lightId body) = some t) :
    t.drainRunning = true ∧ t.drainTask = some s.nextDrain ∧ t.drains s.nextDrain = some ⟨.created, false⟩ := by
  cases step_move step with
  | commandKept rejected => exact absurd accepted (rejected slot)
  | commandJoined accepted running =>
    rw [down] at running
    cases running
  | commandStarted accepted idle notices => exact ⟨rfl, rfl, Function.update_self _ _ _⟩

end HueEntertainment.DrainWake
