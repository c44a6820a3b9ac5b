import HueEntertainment.EngineHistory
import HueEntertainment.Wiring

/-! The end of a restore that has begun. The stop of a watchdog runs in the watchdog's own task, so
another stop that cancels this task cancels the restore in it, and has nothing to restore itself. The task
belongs to the entry, and is also cancelled with it. -/

namespace HueEntertainment.BegunRestore
open PyValue Entertainment EngineSteps EngineMoves EngineHistory TaskTable Wiring Runs

/-- No stop cancels the watchdog while the watchdog restores the lights, and Home Assistant cancels no
watchdog that does. -/
def SparesRestore (b : Bridge) : BridgeEvent → Prop
  | .setActive false _ | .beginClosing => b.watchdogTask.any b.reproducing = false
  | .cancelTasks => ∀ watchdog < b.nextWatchdog, b.reproducing watchdog = false
  | _ => True

instance (b : Bridge) : (event : BridgeEvent) → Decidable (SparesRestore b event)
  | .setActive false _ | .beginClosing => inferInstanceAs (Decidable (b.watchdogTask.any b.reproducing = false))
  | .cancelTasks => inferInstanceAs (Decidable (∀ watchdog < b.nextWatchdog, b.reproducing watchdog = false))
  | .setActive true _ | .release _ | .watchdog _ | .engine _ | .restoreClosing => .isTrue trivial

/-- No task is cancelled inside its stop. -/
def Unmarked (b : Bridge) : Prop :=
  ∀ watchdog teardown, b.watchdogs watchdog ≠ some ⟨.tearingDown teardown, true⟩

theorem Unmarked.set {b : Bridge} (unmarked : Unmarked b) (watchdog : WatchdogId) {task : Watchdog}
    (spared : ∀ teardown, task ≠ ⟨.tearingDown teardown, true⟩) : Unmarked (b.setWatchdog watchdog task) := by
  intro other teardown found
  rw [Bridge.setWatchdog_watchdogs] at found
  rcases update_eq_some found with ⟨_, new⟩ | ⟨_, before⟩
  · exact spared teardown (Option.some.inj new)
  · exact unmarked other teardown before

/-- A cancellation that reaches a stop reaches its restore. -/
theorem Unmarked.reaches {b : Bridge} (unmarked : Unmarked b) {watchdog : WatchdogId} {teardown : TeardownId}
    {cancelling : Bool} (found : b.watchdogs watchdog = some ⟨.tearingDown teardown, cancelling⟩)
    (why : cancelling = true ∨ b.reproducing watchdog = true ∨
      ∀ other, WatchdogPc.tearingDown teardown ≠ .tearingDown other) : b.reproducing watchdog = true := by
  rcases why with before | reproducing | elsewhere
  · rw [before] at found
    exact absurd found (unmarked watchdog teardown)
  · exact reproducing
  · exact absurd rfl (elsewhere teardown)

theorem Unmarked.cancel {b : Bridge} (unmarked : Unmarked b) (spares : b.watchdogTask.any b.reproducing = false) :
    Unmarked b.cancelWatchdog := by
  obtain ⟨cancelled, same, rfl | ⟨watchdog, named, _, rfl⟩⟩ := cancelWatchdog_eq b
  · rw [same]
    exact unmarked
  · rw [same]
    rcases cancelTask_eq b watchdog with kept | ⟨pc, cancelling, marked, found, marks, why⟩
    · rw [kept]
      exact unmarked
    · rw [marks]
      apply unmarked.set watchdog
      rintro teardown now
      cases now
      have reproducing := unmarked.reaches found (why rfl)
      rw [named] at spares
      have spared : b.reproducing watchdog = false := spares
      rw [reproducing] at spared
      cases spared

theorem Unmarked.cancelTasks {b : Bridge} (unmarked : Unmarked b) (numbered : Numbered b)
    (spares : ∀ watchdog < b.nextWatchdog, b.reproducing watchdog = false) : Unmarked b.cancelTasks := by
  intro watchdog teardown marked
  obtain ⟨cancelling, found, why⟩ := cancelTasks_found marked
  have spared := spares watchdog (Fresh.lt numbered found)
  rw [unmarked.reaches found (why rfl)] at spared
  cases spared

theorem Unmarked.started {b : Bridge} (unmarked : Unmarked b) : Unmarked b.onEntertainmentStart := by
  unfold Bridge.onEntertainmentStart
  simp only []
  split
  next => exact unmarked.set b.nextWatchdog (by simp)
  next => exact unmarked

theorem Unmarked.step {b t : Bridge} {event : BridgeEvent} (unmarked : Unmarked b) (numbered : Numbered b)
    (spares : SparesRestore b event) (stepped : bridge.step b event = some t) : Unmarked t := by
  change Wiring.step b event = some t at stepped
  cases event with
  | setActive active username =>
    cases stepped
    cases active with
    | true =>
      exact Unmarked.started
        (b := { b with entertainmentActive := true, entertainmentOwner := some username }) unmarked
    | false => exact Unmarked.cancel (b := b.clearEntertainment) unmarked spares
  | release seconds =>
    cases stepped
    exact unmarked
  | watchdog watchdog =>
    cases watchdogStep_move stepped with
    | cancelled found => exact unmarked.set watchdog (by simp)
    | looked found polling halts still => exact unmarked.set watchdog (by simp)
    | timedOut found active silent => exact Unmarked.set (b := b.asyncStopEntertainmentSession) unmarked watchdog (by simp)
  | engine event =>
    have same := (engineStep_eq stepped).2.2.1
    simp only [wires, Prod.mk.injEq] at same
    obtain ⟨_, _, _, watchdogs, _⟩ := same
    unfold Unmarked
    rw [watchdogs]
    exact unmarked
  | beginClosing =>
    cases stepped
    exact unmarked.cancel spares
  | cancelTasks =>
    cases stepped
    exact unmarked.cancelTasks numbered spares
  | restoreClosing =>
    simp only [Wiring.step] at stepped
    split at stepped
    · cases stepped
      exact unmarked
    · cases stepped

theorem Unmarked.uncancelled {b : Bridge} (unmarked : Unmarked b) (teardown : TeardownId) :
    b.stopCancelled teardown = false := by
  unfold Bridge.stopCancelled
  rw [List.any_eq_false]
  intro watchdog _ marked
  exact unmarked watchdog teardown (beq_iff_eq.mp marked)

/-- Only the step that ends a restore records how it ended. -/
theorem ended_step {s t : Engine} {event : Event} {teardown : TeardownId} {outcome : Outcome}
    (step : EngineSteps.machine.step s event = some t) (ended : .reproduceEnded teardown outcome ∈ t.log) :
    .reproduceEnded teardown outcome ∈ s.log ∨ event = .reproduced teardown outcome := by
  obtain ⟨new, logged, emits⟩ := move_adds (step_move step)
  rw [logged] at ended
  rcases List.mem_append.mp ended with now | before
  · right
    cases emits _ now with
    | reproduceEnded outcome found => rfl
  · exact .inl before

/-- As long as neither a stop nor Home Assistant cancels a watchdog that restores the lights: every `async_reproduce_state`
that a teardown began and that is over has returned, raised or run into its timeout. -/
theorem restores_finish {b : Bridge} (reached : Reachable bridge SparesRestore b) {teardown : TeardownId}
    {outcome : Outcome} (ended : .reproduceEnded teardown outcome ∈ b.engine.log) :
    outcome = .returned ∨ outcome = .raised ∨ outcome = .timedOut := by
  have spared : ∀ other, .reproduceEnded other .cancelled ∉ b.engine.log := by
    refine (reached.invariant (fun x => Reachable bridge SparesRestore x ∧ Unmarked x ∧
      ∀ other, .reproduceEnded other .cancelled ∉ x.engine.log) ?_ ?_).2.2
    · intro x start
      refine ⟨⟨x, [], start, .nil x⟩, ?_⟩
      obtain ⟨engine, ⟨lights, states, now, rfl⟩, rfl⟩ := start
      exact ⟨(fun _ _ found => by cases found), (fun _ member => by cases member)⟩
    · intro x event y held spares stepped
      obtain ⟨before, unmarked, finished⟩ := held
      refine ⟨before.step spares stepped, unmarked.step (numbered before) spares stepped, fun other member => ?_⟩
      rcases step_engine stepped with same | ⟨own, moved, _, owned⟩
      · exact finished other (same ▸ member)
      · rcases ended_step moved member with before | now
        · exact finished other before
        · have marked := (owned other .cancelled now).mp rfl
          rw [unmarked.uncancelled] at marked
          cases marked
  cases outcome with
  | returned => exact .inl rfl
  | raised => exact .inr (.inl rfl)
  | timedOut => exact .inr (.inr rfl)
  | cancelled => exact absurd ended (spared teardown)

def oneLightBridge : Bridge := { engine := oneLight }

theorem oneLightBridge_start : bridge.Start oneLightBridge := ⟨oneLight, ⟨_, _, _, rfl⟩, rfl⟩

/-- A session that its watchdog has stopped for want of frames, up to the restore of its light. -/
def timedOutSession : List BridgeEvent :=
  [.setActive true "tv", .watchdog 0, .engine (.drain 0 .returned), .engine (.tick 6), .watchdog 0,
    .engine (.drain 0 .returned), .engine (.drained 0)]

def cancelledEnd : Obs → Bool
  | .reproduceEnded 0 .cancelled => true
  | _ => false

/-- The TV's own stop cancels the watchdog in its restore, and does nothing itself, because the session
is already over. -/
theorem lateStop_cancels : ∃ b, play bridge Always oneLightBridge
    (timedOutSession ++ [.setActive false "tv", .engine (.reproduced 0 .cancelled)]) = some b ∧
    .reproduceEnded 0 .cancelled ∈ b.engine.log := by
  have last : (play bridge Always oneLightBridge
      (timedOutSession ++ [.setActive false "tv", .engine (.reproduced 0 .cancelled)])).any
      (fun b => b.engine.log.any cancelledEnd) = true := by decide +kernel
  obtain ⟨b, played, last⟩ := (Option.any_eq_true _ _).mp last
  obtain ⟨entry, member, ended⟩ := List.any_eq_true.mp last
  refine ⟨b, played, ?_⟩
  unfold cancelledEnd at ended
  split at ended
  · exact member
  · cases ended

theorem restores_finish_timedOut : ∃ b, Run bridge SparesRestore oneLightBridge
    (timedOutSession ++ [.engine (.reproduced 0 .timedOut), .setActive false "tv", .beginClosing, .cancelTasks]) b ∧
    ∀ outcome, .reproduceEnded 0 outcome ∈ b.engine.log →
      outcome = .returned ∨ outcome = .raised ∨ outcome = .timedOut := by
  have runs : (play bridge SparesRestore oneLightBridge
      (timedOutSession ++ [.engine (.reproduced 0 .timedOut), .setActive false "tv", .beginClosing,
        .cancelTasks])).isSome = true := by decide +kernel
  obtain ⟨b, played⟩ := Option.isSome_iff_exists.mp runs
  have reached := reachable_of_play oneLightBridge_start played
  exact ⟨b, run_of_play _ _ _ played, fun _ ended => restores_finish reached ended⟩

end HueEntertainment.BegunRestore
