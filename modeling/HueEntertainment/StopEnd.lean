import HueEntertainment.Pacing

/-! The end of a stop. An `async_restore_lights` waits for its cancelled drain loop and for the bounded restore, and for
nothing else. -/

namespace HueEntertainment.StopEnd
open HueEntertainment.Const HueStream LightCommand PyValue Entertainment EngineSteps EngineFrames DrainSteps EngineMoves
  EngineHistory EngineSlots SlotHistory SlotLedger DrainTask DrainWake RoundRobin TaskTable Clocks Pacing Runs

/-- A step of another job leaves a stop where it is. -/
theorem stop_kept {s t : Engine} {event : Event} {teardown : TeardownId} {pc : Teardown}
    (unused : Fresh s.teardowns s.nextTeardown) (move : Move s event t) (other : owner event ≠ some (.stop teardown))
    (found : s.teardowns teardown = some pc) : t.teardowns teardown = some pc := by
  have earlier : teardown ≠ s.nextTeardown := Nat.ne_of_lt (Fresh.lt unused found)
  have apart : ∀ {called : TeardownId}, owner event = some (.stop called) → teardown ≠ called := by
    rintro called own rfl
    exact other own
  cases move with
  | restoreSuspended active waits notices => exact (Function.update_of_ne earlier _ _).trans found
  | restoreTook active free notices notices' => exact (Function.update_of_ne earlier _ _).trans found
  | drain move =>
    obtain ⟨_, _, _, _, _, _, rfl⟩ := move.frame
    exact found
  | drained found' finished notices => exact (Function.update_of_ne (apart rfl) _ _).trans found
  | reproduced found' => exact (Function.update_of_ne (apart rfl) _ _).trans found
  | _ => exact found

/-- A stop goes on once its loop is done, to restore or to its end, and once it has restored to its end. -/
theorem stop_own {s t : Engine} {event : Event} {teardown : TeardownId} (move : Move s event t)
    (own : owner event = some (.stop teardown)) :
    (∃ drain, s.teardowns teardown = some (.awaitingDrain drain) ∧ s.drainDone drain = true ∧
      (t.teardowns teardown = some .done ∨ ∃ saved, t.teardowns teardown = some (.reproducing saved))) ∨
    ∃ saved, s.teardowns teardown = some (.reproducing saved) ∧ t.teardowns teardown = some .done := by
  cases move with
  | @drained _ drain entries found finished notices =>
    cases own
    refine .inl ⟨drain, found, finished, ?_⟩
    have taken : (took { s with drainTask := none } teardown entries).teardowns teardown =
        some (afterTaking teardown s.savedStates).1 := Function.update_self _ _ _
    rw [taken]
    cases s.savedStates with
    | none => exact .inl rfl
    | some saved =>
      by_cases empty : saved.states = []
      · exact .inl (by simp [afterTaking, empty])
      · exact .inr ⟨saved, by simp [afterTaking, empty]⟩
  | reproduced found =>
    cases own
    exact .inr ⟨_, found, Function.update_self _ _ _⟩
  | _ => cases own

theorem waits_cancelled {s : Engine} {drain : DrainId} {pc : DrainPc} (found : s.drains drain = some ⟨pc, true⟩)
    (live : pc ≠ .done) : jobs.waits s (.loop drain) = some .turn := by
  cases pc with
  | created => simp [jobs, waits, found]
  | calling call rest => simp [jobs, waits, found]
  | waiting idleSince => simp [jobs, waits, found]
  | done => exact absurd rfl live

theorem waits_unwound {s : Engine} {teardown : TeardownId} {drain : DrainId}
    (found : s.teardowns teardown = some (.awaitingDrain drain)) (finished : s.drainDone drain = true) :
    jobs.waits s (.stop teardown) = some .turn := by
  simp [jobs, waits, found, finished]

theorem waits_restoring {s : Engine} {teardown : TeardownId} {saved : Snapshot}
    (found : s.teardowns teardown = some (.reproducing saved)) : jobs.waits s (.stop teardown) = some .restore := by
  simp [jobs, waits, found]

theorem drainDone_iff {s : Engine} {drain : DrainId} :
    s.drainDone drain = true ↔ ∃ cancelling, s.drains drain = some ⟨.done, cancelling⟩ := by
  unfold Engine.drainDone
  constructor
  · intro finished
    split at finished
    next cancelling found => exact ⟨cancelling, found⟩
    next => cases finished
  · rintro ⟨cancelling, found⟩
    rw [found]

/-- A cancelled loop goes on only to its end, and one that is done stays so. -/
theorem cancelled_step {s t : Engine} {event : Event} {drain : DrainId} {pc : DrainPc} {cancelling : Bool}
    (fresh : Fresh s.drains s.nextDrain) (step : machine.step s event = some t)
    (found : s.drains drain = some ⟨pc, cancelling⟩) (settled : pc = .done ∨ cancelling = true) :
    t.drainDone drain = true ∨ (t.drains drain = some ⟨pc, true⟩ ∧ owner event ≠ some (.loop drain)) := by
  have stays : ∀ cancelling', t.drains drain = some ⟨pc, cancelling'⟩ → owner event ≠ some (.loop drain) →
      (pc = .done ∨ cancelling' = true) →
        t.drainDone drain = true ∨ (t.drains drain = some ⟨pc, true⟩ ∧ owner event ≠ some (.loop drain)) := by
    intro cancelling' after other settled
    rcases settled with rfl | rfl
    · exact .inl (drainDone_iff.mpr ⟨cancelling', after⟩)
    · exact .inr ⟨after, other⟩
  by_cases own : owner event = some (.loop drain)
  · obtain ⟨outcome, rfl⟩ := driven_of_owner own
    rcases drain_cases step with ⟨pc', found', _⟩ | ⟨pc', found', ended⟩
    · rw [found] at found'
      cases found'
      obtain rfl := settled.resolve_right (by simp)
      have stuck : s.drainStep drain outcome = some t := step
      simp [Engine.drainStep, found] at stuck
    · exact .inl (drainDone_iff.mpr ⟨true, ended⟩)
  · rcases task_step (step_move step) drain with ⟨outcome, rfl⟩ | same | ⟨pc', marked, cancelling', before⟩ | ⟨here, _⟩
    · exact absurd rfl own
    · exact stays cancelling (same.trans found) own settled
    · rw [found] at before
      cases before
      exact stays true marked own (.inr rfl)
    · rw [fresh drain here.ge] at found
      cases found

/-- The limits of the waits when a light service call may take as long as `call`. -/
def patience (pace call : ℚ) : Wait → ℚ
  | .turn => pace
  | .call => call
  | .sleep => classicDrainIdle + pace
  | .restore => restoreTimeout + pace

theorem patience_self (pace : ℚ) : patience pace pace = limit pace := by
  funext wait
  cases wait <;> rfl

theorem patience_nonneg {pace call : ℚ} (patient : 0 ≤ pace) (unhurried : 0 ≤ call) (wait : Wait) :
    0 ≤ patience pace call wait := by
  cases wait with
  | call => exact unhurried
  | turn => exact limit_nonneg patient .turn
  | sleep => exact limit_nonneg patient .sleep
  | restore => exact limit_nonneg patient .restore

/-- How far a stop is: its loop has yet to unwind, or it has yet to go on from there, or it restores the lights, or it
is over. -/
inductive Stopping (pace start : ℚ) (teardown : TeardownId) (w : Paced) : Prop where
  | unwinding {drain : DrainId} {pc : DrainPc} (found : w.state.teardowns teardown = some (.awaitingDrain drain))
      (cancelled : w.state.drains drain = some ⟨pc, true⟩) (live : pc ≠ .done) (inTime : w.since (.loop drain) ≤ start)
  | unwound {drain : DrainId} (found : w.state.teardowns teardown = some (.awaitingDrain drain))
      (finished : w.state.drainDone drain = true) (inTime : w.since (.stop teardown) ≤ start + pace)
  | restoring {saved : Snapshot} (found : w.state.teardowns teardown = some (.reproducing saved))
      (inTime : w.since (.stop teardown) ≤ start + 2 * pace)
  | ended (found : w.state.teardowns teardown = some .done)

section
variable {pace call : ℚ} {teardown : TeardownId} {w x : Paced}

theorem inTime (patient : 0 ≤ pace) (unhurried : 0 ≤ call)
    (reached : Reachable paced (jobs.Timely (patience pace call)) w) : jobs.OnTime (patience pace call) w :=
  Tasks.onTime (patience_nonneg patient unhurried) (fun _ _ timely => timely) reached

theorem Stopping.step {start : ℚ} {event : Event} (stopping : Stopping pace start teardown w) (patient : 0 ≤ pace)
    (unhurried : 0 ≤ call) (reached : Reachable paced (jobs.Timely (patience pace call)) w) (step : paced.step w event = some x) :
    Stopping pace start teardown x := by
  obtain ⟨stepped, _⟩ := Tasks.step_eq_some step
  have move := step_move stepped
  have there := reachable_engine reached
  have unused := (stops_known there).unused
  have fresh := (Unload.awaited there).fresh
  have punctually := inTime patient unhurried reached
  cases stopping with
  | @unwinding drain pc found cancelled live inTime =>
    have within := punctually.within _ .turn (waits_cancelled cancelled live)
    change w.state.now ≤ w.since (.loop drain) + pace at within
    have unfinished : ¬w.state.drainDone drain = true := by
      rw [drainDone_iff]
      rintro ⟨_, finished⟩
      rw [cancelled] at finished
      cases finished
      exact live rfl
    by_cases own : owner event = some (.stop teardown)
    · rcases stop_own move own with ⟨waited, found', finished, _⟩ | ⟨saved, found', _⟩
      · rw [found] at found'
        cases found'
        exact absurd finished unfinished
      · rw [found] at found'
        cases found'
    · have kept := stop_kept unused move own found
      rcases cancelled_step fresh stepped cancelled (.inr rfl) with finished | ⟨still, other⟩
      · have before : jobs.waits w.state (.stop teardown) = none := by simp [jobs, waits, found, unfinished]
        have renews : jobs.waits x.state (.stop teardown) ≠ jobs.waits w.state (.stop teardown) := by
          rw [before, waits_unwound kept finished]
          simp
        have now : x.state.now = w.state.now := by
          refine (now_step move).2 (fun elapsed same => ?_)
          subst same
          obtain ⟨_, after⟩ := tick_cases stepped
          rw [after] at finished
          exact unfinished finished
        refine .unwound kept finished ?_
        rw [Tasks.since_renewed step (.inr renews)]
        change x.state.now ≤ _
        linarith
      · refine .unwinding kept still live ?_
        have same := (waits_cancelled still live).trans (waits_cancelled cancelled live).symm
        rwa [Tasks.since_kept step other same]
  | @unwound drain found finished inTime =>
    have within := punctually.within _ .turn (waits_unwound found finished)
    change w.state.now ≤ w.since (.stop teardown) + pace at within
    by_cases own : owner event = some (.stop teardown)
    · rcases stop_own move own with ⟨_, _, _, ended | ⟨saved, restores⟩⟩ | ⟨saved, found', _⟩
      · exact .ended ended
      · have now : x.state.now = w.state.now := jobs.instant stepped own
        refine .restoring restores ?_
        rw [Tasks.since_renewed step (.inl own)]
        change x.state.now ≤ _
        linarith
      · rw [found] at found'
        cases found'
    · obtain ⟨cancelling, task⟩ := drainDone_iff.mp finished
      have kept := stop_kept unused move own found
      have stays : x.state.drainDone drain = true := by
        rcases cancelled_step fresh stepped task (.inl rfl) with stays | ⟨still, _⟩
        · exact stays
        · exact drainDone_iff.mpr ⟨true, still⟩
      refine .unwound kept stays ?_
      rwa [Tasks.since_kept step own ((waits_unwound kept stays).trans (waits_unwound found finished).symm)]
  | @restoring saved found inTime =>
    by_cases own : owner event = some (.stop teardown)
    · rcases stop_own move own with ⟨_, found', _⟩ | ⟨_, _, ended⟩
      · rw [found] at found'
        cases found'
      · exact .ended ended
    · have kept := stop_kept unused move own found
      refine .restoring kept ?_
      rwa [Tasks.since_kept step own ((waits_restoring kept).trans (waits_restoring found).symm)]
  | ended found =>
    refine .ended (stop_kept unused move (fun own => ?_) found)
    rcases stop_own move own with ⟨_, found', _⟩ | ⟨_, found', _⟩
    · rw [found] at found'
      cases found'
    · rw [found] at found'
      cases found'

theorem Stopping.initial (patient : 0 ≤ pace) (unhurried : 0 ≤ call)
    (reached : Reachable paced (jobs.Timely (patience pace call)) w) (called : w.state.teardowns teardown ≠ none) :
    Stopping pace w.state.now teardown w := by
  have past : ∀ job, w.since job ≤ w.state.now := (inTime patient unhurried reached).past
  obtain ⟨pc, found⟩ := Option.ne_none_iff_exists'.mp called
  cases pc with
  | awaitingDrain drain =>
    obtain ⟨pc, cancelling, task, settled⟩ := (Unload.awaited (reachable_engine reached)).awaited teardown drain found
    by_cases finished : w.state.drainDone drain = true
    · exact .unwound found finished ((past _).trans (le_add_of_nonneg_right patient))
    · have live : pc ≠ .done := by
        rintro rfl
        exact finished (drainDone_iff.mpr ⟨cancelling, task⟩)
      obtain rfl := settled.resolve_left live
      exact .unwinding found task live (past _)
  | reproducing saved => exact .restoring found ((past _).trans (le_add_of_nonneg_right (by linarith)))
  | done => exact .ended found

/-- A stop ends in time: its loop unwinds, it goes on, and the restore is over within its timeout. -/
theorem stopped_in_time (patient : 0 ≤ pace) (unhurried : 0 ≤ call) {events : List Event}
    (reached : Reachable paced (jobs.Timely (patience pace call)) w) (called : w.state.teardowns teardown ≠ none)
    (run : Run paced (jobs.Timely (patience pace call)) w events x) :
    x.state.teardowns teardown = some .done ∨ x.state.now ≤ w.state.now + 3 * pace + restoreTimeout := by
  have kept := run.invariant (fun y => Reachable paced (jobs.Timely (patience pace call)) y ∧
    Stopping pace w.state.now teardown y) ?_ ⟨reached, .initial patient unhurried reached called⟩
  · obtain ⟨reached', stopping⟩ := kept
    have punctually := inTime patient unhurried reached'
    have timeout : (0 : ℚ) ≤ restoreTimeout := by norm_num [restoreTimeout, restoreTransition]
    cases stopping with
    | @unwinding drain pc found cancelled live inTime =>
      have within := punctually.within _ .turn (waits_cancelled cancelled live)
      change x.state.now ≤ x.since (.loop drain) + pace at within
      right
      linarith
    | unwound found finished inTime =>
      have within := punctually.within _ .turn (waits_unwound found finished)
      change x.state.now ≤ x.since (.stop teardown) + pace at within
      right
      linarith
    | restoring found inTime =>
      have within := punctually.within _ .restore (waits_restoring found)
      change x.state.now ≤ x.since (.stop teardown) + (restoreTimeout + pace) at within
      right
      linarith
    | ended found => exact .inl found
  · rintro y event z ⟨reached, stopping⟩ timely step
    exact ⟨reached.step timely step, stopping.step patient unhurried reached step⟩

end

/-- A stop ends in time, whatever the light services do and however long a call of one takes. -/
theorem stop_ends {pace call : ℚ} (patient : 0 ≤ pace) (unhurried : 0 ≤ call) {teardown : TeardownId} {w x : Paced}
    {events : List Event} (reached : Reachable paced (jobs.Timely (patience pace call)) w)
    (called : w.state.teardowns teardown ≠ none)
    (run : Run paced (jobs.Timely (patience pace call)) w events x) :
    x.state.teardowns teardown = some .done ∨ x.state.now ≤ w.state.now + 3 * pace + restoreTimeout :=
  stopped_in_time patient unhurried reached called run

/-- A stop in the middle of a service call that takes long. -/
def stopInCall : List Event :=
  [.snapshot, .drain 0 .returned, .command 1 (.object [("on", .bool true)]), .drain 0 .returned, .tick 40, .restore]

/-- The loop and the stop take their turns, and a restore that never returns times out, as late as they may. -/
def hanging : List Event :=
  [.tick 1, .drain 0 .returned, .tick 1, .drained 0, .tick 7, .reproduced 0 .raised, .tick 1]

def waitsForDrain : Teardown → Bool
  | .awaitingDrain _ => true
  | _ => false

theorem stop_ends_hanging : ∃ w x, Reachable paced (jobs.Timely (patience 1 60)) w ∧
    Run paced (jobs.Timely (patience 1 60)) w hanging x ∧ (∃ drain, w.state.teardowns 0 = some (.awaitingDrain drain)) ∧
    x.state.teardowns 0 = some .done := by
  have played : (play paced (jobs.Timely (patience 1 60)) (pacedOf oneLight) stopInCall).any (fun (w : Paced) =>
      (w.state.teardowns 0).any waitsForDrain && w.state.now == 40 &&
        (play paced (jobs.Timely (patience 1 60)) w hanging).any (fun (x : Paced) => x.state.now == 50)) = true := by
    decide +kernel
  obtain ⟨w, toW, rest⟩ := (Option.any_eq_true _ _).mp played
  simp only [Bool.and_eq_true, beq_iff_eq] at rest
  obtain ⟨⟨waits, since⟩, rest⟩ := rest
  obtain ⟨x, toX, rest⟩ := (Option.any_eq_true _ _).mp rest
  simp only [beq_iff_eq] at rest
  obtain ⟨stop, found, awaits⟩ := (Option.any_eq_true _ _).mp waits
  have called : w.state.teardowns 0 ≠ none := by
    rw [found]
    exact Option.some_ne_none stop
  have waiting : ∃ drain, w.state.teardowns 0 = some (.awaitingDrain drain) := by
    cases stop with
    | awaitingDrain drain => exact ⟨drain, found⟩
    | reproducing saved => cases awaits
    | done => cases awaits
  have reached : Reachable paced (jobs.Timely (patience 1 60)) w := reachable_of_play ⟨⟨_, _, _, rfl⟩, fun _ => rfl⟩ toW
  have run := run_of_play _ _ _ toX
  have ended := stop_ends zero_le_one (by norm_num) reached called run
  refine ⟨w, x, reached, run, waiting, ended.resolve_right ?_⟩
  rw [since, rest]
  norm_num [restoreTimeout, restoreTransition]

end HueEntertainment.StopEnd
