import HueEntertainment.SavedStates
import HueEntertainment.Wiring

/-! The drain loop of an active session. A stop that finds the loop live always suspends, so what a stop does is not up
to the loop, unless a session has begun while a stop waited and has lost its loop to that stop. -/

namespace HueEntertainment.SessionLoop
open LightCommand PyValue Entertainment EngineSteps EngineFrames DrainSteps EngineMoves EngineHistory DrainTask SavedStates
  TaskTable Wiring Runs

/-- The task that the engine holds is not done. -/
def Loops (s : Engine) : Prop := ∃ drain, s.liveDrainTask = some drain

theorem loops_iff (s : Engine) : Loops s ↔ ∃ drain, s.drainTask = some drain ∧ s.drainDone drain = false := by
  unfold Loops Engine.liveDrainTask
  simp only [Option.filter_eq_some_iff, Bool.not_eq_true']

/-- An active session has its loop, and a cancelled loop has the stop that waits for it. -/
structure Looped (s : Engine) : Prop where
  unused : Fresh s.teardowns s.nextTeardown
  awaited : ∀ drain pc, s.drains drain = some ⟨pc, true⟩ → pc ≠ .done →
    ∃ teardown, s.teardowns teardown = some (.awaitingDrain drain)
  joined : s.drainRunning = true → ¬AwaitsDrain s → Loops s
  streaming : s.active = true → ¬AwaitsDrain s ∧ Loops s

/-- Outside the wait of a stop the flag has its loop, and so has an active session. -/
structure HasLoop (s : Engine) : Prop where
  joined : s.drainRunning = true → ¬AwaitsDrain s → Loops s
  streaming : s.active = true → ¬AwaitsDrain s ∧ Loops s

theorem Looped.of_same {s t : Engine} (looped : Looped s) (same : loops t = loops s) : HasLoop t := by
  simp only [loops, Prod.mk.injEq] at same
  obtain ⟨active, running, task, drains, _, teardowns⟩ := same
  have live : Loops t ↔ Loops s := by
    rw [loops_iff, loops_iff]
    unfold Engine.drainDone
    rw [task, drains]
  constructor
  · rw [running, awaitsDrain_congr teardowns, live]
    exact looped.joined
  · rw [active, awaitsDrain_congr teardowns, live]
    exact looped.streaming

theorem HasLoop.started {s t : Engine} (quiet : t.active = true → ¬AwaitsDrain s)
    (same : (t.drains, t.nextDrain, t.teardowns) = (s.drains, s.nextDrain, s.teardowns)) (entries : List Obs) :
    HasLoop (started t entries) := by
  simp only [Prod.mk.injEq] at same
  obtain ⟨drains, next, teardowns⟩ := same
  have table := started_drains drains next entries
  have calls : (EngineMoves.started t entries).teardowns = s.teardowns := teardowns
  have live : Loops (EngineMoves.started t entries) := by
    rw [loops_iff]
    refine ⟨s.nextDrain, congrArg some next, ?_⟩
    rw [Engine.drainDone, table, Function.update_self]
  constructor
  · exact fun _ _ => live
  · intro active
    exact ⟨(awaitsDrain_congr calls).not.mpr (quiet active), live⟩

theorem Looped.joins {s t : Engine} (looped : Looped s) (quiet : ¬AwaitsDrain s) (running : s.drainRunning = true)
    (same : (t.drainTask, t.drains, t.teardowns) = (s.drainTask, s.drains, s.teardowns)) : HasLoop t := by
  simp only [Prod.mk.injEq] at same
  obtain ⟨task, drains, teardowns⟩ := same
  have live : Loops t := by
    have before := looped.joined running quiet
    rw [loops_iff] at before ⊢
    unfold Engine.drainDone
    rw [task, drains]
    exact before
  constructor
  · exact fun _ _ => live
  · exact fun _ => ⟨(awaitsDrain_congr teardowns).not.mpr quiet, live⟩

/-- Only a stop that waits has a cancelled loop end. -/
theorem Looped.unwound {s t : Engine} (looped : Looped s) {drain : DrainId} {pc : DrainPc}
    (found : s.drains drain = some ⟨pc, true⟩) (live : pc ≠ .done)
    (same : (t.active, t.teardowns) = (s.active, s.teardowns)) : HasLoop t := by
  simp only [Prod.mk.injEq] at same
  obtain ⟨active, teardowns⟩ := same
  obtain ⟨teardown, waiting⟩ := looped.awaited drain pc found live
  have awaits : AwaitsDrain s := ⟨teardown, drain, waiting⟩
  constructor
  · intro _ quiet
    exact absurd ((awaitsDrain_congr teardowns).mpr awaits) quiet
  · rw [active]
    exact fun streaming => absurd awaits (looped.streaming streaming).1

/-- A pass of a loop that nobody cancelled. It ends only without a session, and takes the flag down. -/
theorem Looped.ran {s : Engine} (looped : Looped s) {drain : DrainId} {after : DrainPc}
    {mapping : ChannelId → LightMapping} {stats : Stats} {wake running : Bool} {begun : Option Call}
    {log drops entries : List Obs} (leaves : Leaves s begun after running entries) :
    HasLoop (swept { s with log := log } drain mapping stats wake begun drops after running entries) := by
  have ends : (after ≠ .done ∧ running = s.drainRunning) ∨ (running = false ∧ s.active = false) := by
    cases begun with
    | some call =>
      obtain ⟨⟨rest, calls⟩, same, _⟩ := leaves
      exact .inl ⟨by rw [calls]; simp, same⟩
    | none =>
      rcases leaves with ⟨⟨idleSince, waits⟩, same, _⟩ | ⟨_, down, inactive, _⟩
      · exact .inl ⟨by rw [waits]; simp, same⟩
      · exact .inr ⟨down, inactive⟩
  have kept : after ≠ .done → Loops s →
      Loops (swept { s with log := log } drain mapping stats wake begun drops after running entries) := by
    intro unfinished before
    rw [loops_iff] at before ⊢
    obtain ⟨held, named, live⟩ := before
    refine ⟨held, named, ?_⟩
    unfold Engine.drainDone at live ⊢
    by_cases here : held = drain
    · rw [here]
      simp only [swept, Function.update_self]
      split
      next _ same =>
        cases same
        exact absurd rfl unfinished
      next => rfl
    · simp only [swept, Function.update_of_ne here]
      exact live
  constructor
  · intro up quiet
    have up : running = true := up
    rcases ends with ⟨unfinished, same⟩ | ⟨down, _⟩
    · exact kept unfinished (looped.joined (same ▸ up) quiet)
    · rw [down] at up
      cases up
  · intro active
    have active : s.active = true := active
    rcases ends with ⟨unfinished, _⟩ | ⟨_, inactive⟩
    · obtain ⟨quiet, live⟩ := looped.streaming active
      exact ⟨quiet, kept unfinished live⟩
    · rw [inactive] at active
      cases active

theorem Looped.hasLoop_step {s t : Engine} {event : Event} (looped : Looped s) (unrestarted : UnrestartedWait s event)
    (move : Move s event t) : HasLoop t := by
  cases move with
  | commandStarted accepted idle notices =>
    exact HasLoop.started (t := queued s _ _) (fun active => (looped.streaming active).1) rfl _
  | snapshotStarted unholds notices idle notices' =>
    have quiet : ¬AwaitsDrain s := fun awaits => unrestarted awaits ⟨rfl, opens_of_unholds unholds⟩
    exact HasLoop.started (t := sessionOpened (unheld s _ _ _ _) _) (fun _ => quiet) rfl _
  | snapshotJoined unholds notices running =>
    have quiet : ¬AwaitsDrain s := fun awaits => unrestarted awaits ⟨rfl, opens_of_unholds unholds⟩
    exact looped.joins quiet running rfl
  | restoreSuspended active waits notices =>
    constructor
    · intro _ quiet
      exact absurd ⟨s.nextTeardown, _, Function.update_self _ _ _⟩ quiet
    · intro active
      cases active
  | restoreTook active free notices notices' =>
    obtain ⟨drain, live⟩ := (looped.streaming active).2
    rw [free] at live
    cases live
  | drain move =>
    cases move with
    | neverEntered found => exact looped.unwound found (by simp) rfl
    | unwound found live entries notices => exact looped.unwound found live rfl
    | ran found live ended sweep leaves => exact looped.ran leaves
  | drained found finished notices =>
    constructor
    · intro up
      cases up
    · intro active
      exact absurd ⟨_, _, found⟩ (looped.streaming active).1
  | @reproduced teardown saved outcome found =>
    have awaits := reproduced_awaits found (.reproduceEnded teardown outcome)
    have quiet : ¬AwaitsDrain ((s.observe (.reproduceEnded teardown outcome)).setTeardown teardown .done) ↔
        ¬AwaitsDrain s := not_congr (exists_congr fun other => exists_congr fun drain => awaits other drain)
    constructor
    · exact fun up idle => looped.joined up (quiet.mp idle)
    · exact fun active => (looped.streaming active).imp_left quiet.mpr
  | frame wrote held same => exact looped.of_same rfl
  | commandJoined accepted running => exact looped.of_same rfl
  | paused unreleased notices => exact looped.of_same rfl
  | resumed unreleased notices => exact looped.of_same rfl
  | released notices => exact looped.of_same rfl
  | pauseExpired pending notices => exact looped.of_same rfl
  | graceStale pending unreleased => exact looped.of_same rfl
  | graceEnded pending releasing inactive notices => exact looped.of_same rfl
  | graceForced pending releasing active notices => exact looped.of_same rfl
  | tick forward => exact looped.of_same rfl
  | setState => exact looped.of_same rfl
  | commandKept rejected => exact ⟨looped.joined, looped.streaming⟩
  | snapshotKept closed => exact ⟨looped.joined, looped.streaming⟩
  | restoreKept inactive => exact ⟨looped.joined, looped.streaming⟩
  | pauseKept releasing => exact ⟨looped.joined, looped.streaming⟩
  | resumeKept => exact ⟨looped.joined, looped.streaming⟩

theorem Looped.step {s t : Engine} {event : Event} (looped : Looped s) (unrestarted : UnrestartedWait s event)
    (move : Move s event t) : Looped t := by
  have stops := (Awaited.mk looped.unused looped.awaited).step move
  have has := looped.hasLoop_step unrestarted move
  exact ⟨stops.unused, stops.awaited, has.joined, has.streaming⟩

theorem looped {s : Engine} (reached : Reachable EngineSteps.machine UnrestartedWait s) : Looped s := by
  refine reached.invariant Looped ?_ (fun _ _ _ held unrestarted stepped => held.step unrestarted (step_move stepped))
  intro s start
  obtain ⟨lights, states, now, rfl⟩ := start
  constructor
  · exact fun _ _ => rfl
  · intro drain pc found
    cases found
  · intro up
    cases up
  · intro active
    cases active

end HueEntertainment.SessionLoop
