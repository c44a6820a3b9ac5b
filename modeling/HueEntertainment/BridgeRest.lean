import HueEntertainment.ApiAgreement
import HueEntertainment.ClassicEnd
import HueEntertainment.StopEnd
import HueEntertainment.WatchdogBounds

/-! The bridge comes to rest. When nothing is streamed, commanded or started any more, the watchdog ends the session,
the stops end, and so do the drain loop and the watchdogs. -/

namespace HueEntertainment.BridgeRest
open HueEntertainment.Const HueStream LightCommand PyValue Entertainment EngineSteps EngineFrames EngineMoves
  EngineHistory DrainTask TaskTable Clocks Runs Wiring WatchdogBounds
open ApiAgreement (Agreed agreed)
open ClassicEnd (Unfed feeds unfed_step drain_ends)
open PauseRelease (TimersOwned)
open Pacing (Job Wait Paced jobs limit paced)
open SlotLedger (newEntries newEntries_eq)
open StopEnd (patience_self stopped_in_time)
open WatchdogClock (validFrame handleFrame_clock)

/-- Whose step the event is. -/
def owner : BridgeEvent → Option Job
  | .engine event => Pacing.owner event
  | _ => none

theorem driven {b t : Bridge} {event : BridgeEvent} (stepped : bridge.step b event = some t) :
    (t.engine = b.engine ∧ owner event = none) ∨
      ∃ own, machine.step b.engine own = some t.engine ∧ Drives event own ∧ owner event = Pacing.owner own := by
  by_cases inside : ∃ own, event = .engine own
  · obtain ⟨own, rfl⟩ := inside
    obtain ⟨_, moved, _, _⟩ := engineStep_eq stepped
    refine .inr ⟨own, moved, ?_, rfl⟩
    cases own with
    | snapshot => cases stepped
    | _ => trivial
  · have unowned : owner event = none := by
      cases event with
      | engine own => exact absurd ⟨own, rfl⟩ inside
      | _ => rfl
    rcases step_engine stepped with same | ⟨own, moved, drives, _⟩
    · exact .inl ⟨same, unowned⟩
    · refine .inr ⟨own, moved, drives, unowned.trans ?_⟩
      cases own with
      | snapshot => rfl
      | restore => rfl
      | release seconds => rfl
      | _ => exact absurd ⟨_, drives⟩ inside

/-- The engine in its entry. -/
def core : Part jobs timed where
  view := Timed.engine
  drives := Drives
  owner := owner
  start := by
    rintro w ⟨listened, ⟨b, ⟨engine, start, rfl⟩, rfl⟩, rfl⟩
    exact start
  step := by
    intro w x event stepped
    obtain ⟨b, moved, rfl⟩ := WatchdogBounds.step_eq_some stepped
    exact driven moved

/-- An entry with the times since which its watchdogs and the jobs of its engine wait. -/
abbrev Entry := Clocked Timed Job

abbrev entry : Machine Entry BridgeEvent := core.wholeTasks.clocked

/-- Nothing is late: neither a timer, a watchdog nor a job of the engine. Nothing starts in the wait of a stop. -/
def Punctual (latency pace : ℚ) (c : Entry) (event : BridgeEvent) : Prop :=
  WatchdogBounds.Punctual latency c.state event ∧ core.wholeTasks.Timely (limit pace) c event ∧
    ∀ own, Drives event own → QuietWait c.state.engine own

section Reached
variable {latency pace : ℚ} {c : Entry}

theorem reachable_timed (reached : Reachable entry (Punctual latency pace) c) :
    Reachable timed (WatchdogBounds.Punctual latency) c.state :=
  Tasks.reachable_state (fun _ _ punctual => punctual.1) reached

theorem reachable_paced (reached : Reachable entry (Punctual latency pace) c) :
    Reachable paced (Pacing.Punctual pace) (core.clock c) :=
  Part.reachable (fun _ _ own punctual drives timely => ⟨timely _ punctual.2.1, punctual.2.2 own drives⟩) reached

end Reached

/-- What keeps an engine going: a command, a start, or a frame that is heard. -/
def stirs (s : Engine) : Event → Bool
  | .command .. | .snapshot => true
  | .frame data => validFrame data && !s.releaseForcing
  | _ => false

def rouses (b : Bridge) : BridgeEvent → Bool
  | .setActive active _ => active
  | .engine event => stirs b.engine event
  | _ => false

theorem stirs_of_drives {b : Bridge} {event : BridgeEvent} {own : Event} (drives : Drives event own)
    (unroused : rouses b event = false) : stirs b.engine own = false := by
  cases own with
  | snapshot =>
    obtain ⟨username, rfl⟩ := drives
    cases unroused
  | restore => rfl
  | release seconds => rfl
  | _ =>
    cases drives
    exact unroused

theorem handleFrame_invalid {s : Engine} {data : Bytes} (invalid : validFrame data = false) :
    s.handleFrame data = s := by
  unfold validFrame at invalid
  unfold Engine.handleFrame
  rcases parsed : parseHuestreamFrame data with error | frame | frame
  · rfl
  · rfl
  · rw [parsed] at invalid
    cases invalid

section
variable {s t : Engine} {own : Event}

/-- A step that stirs nothing writes no slot and begins no session. -/
theorem unfed_of_unstirred (owned : TimersOwned s) (stepped : machine.step s own = some t)
    (unstirred : stirs s own = false) : ∃ new, t.log = new ++ s.log ∧ Unfed new := by
  by_cases invalid : ∃ data, own = .frame data ∧ validFrame data = false
  · obtain ⟨data, rfl, invalid⟩ := invalid
    have same : s.handleFrame data = t := Option.some.inj stepped
    refine ⟨[], ?_, by simp [Unfed]⟩
    rw [← same, handleFrame_invalid invalid]
    rfl
  · obtain ⟨new, grown, emits⟩ := move_adds (step_move stepped)
    refine ⟨new, grown, fun entry member => ?_⟩
    have emitted := emits entry member
    cases emitted with
    | frameWrote data channel colorSpace free =>
      exfalso
      have forcing : s.releaseForcing = true := by
        by_contra unforced
        refine invalid ⟨data, rfl, ?_⟩
        simpa [stirs, unforced] using unstirred
      have releasing : s.releasing = true := by
        by_contra unreleased
        have unforced := (owned.unreleased (eq_false_of_ne_true unreleased)).2
        rw [forcing] at unforced
        cases unforced
      simp [Engine.suppressed, releasing] at free
    | putWrote accepted => cases unstirred
    | sessionBegun opens => cases unstirred
    | _ => rfl

/-- A session that is active after such a step was so before it, and has not been heard of since. -/
theorem unstirred_clock (stepped : machine.step s own = some t) (unstirred : stirs s own = false)
    (active : t.active = true) : s.active = true ∧ t.lastFrameTime = s.lastFrameTime := by
  have move := step_move stepped
  cases move with
  | @frame data _ _ _ _ _ wrote held same =>
    obtain ⟨_, streaming, _, last⟩ := handleFrame_clock s data
    rw [same] at streaming last
    change (validFrame data && !s.releaseForcing) = false at unstirred
    rw [if_neg (by simp [unstirred])] at last
    exact ⟨streaming.symm.trans active, last⟩
  | snapshotKept closed => cases unstirred
  | snapshotJoined unholds notices running => cases unstirred
  | snapshotStarted unholds notices idle notices' => cases unstirred
  | restoreSuspended streaming waits notices => cases active
  | restoreTook streaming free notices notices' => cases active
  | drain move =>
    obtain ⟨_, _, _, _, _, _, rfl⟩ := move.frame
    exact ⟨active, rfl⟩
  | _ => exact ⟨active, rfl⟩

/-- Without a session no stop is called. -/
theorem uncalled_step (inactive : s.active = false) (stepped : machine.step s own = some t) {teardown : TeardownId}
    (uncalled : s.teardowns teardown = none) : t.teardowns teardown = none := by
  have other : ∀ {called : TeardownId} {pc : Teardown}, s.teardowns called = some pc → teardown ≠ called := by
    rintro called pc found rfl
    rw [uncalled] at found
    cases found
  have move := step_move stepped
  cases move with
  | restoreSuspended active waits notices =>
    rw [inactive] at active
    cases active
  | restoreTook active free notices notices' =>
    rw [inactive] at active
    cases active
  | drain move =>
    obtain ⟨_, _, _, _, _, _, rfl⟩ := move.frame
    exact uncalled
  | drained found finished notices => exact (Function.update_of_ne (other found) _ _).trans uncalled
  | reproduced found => exact (Function.update_of_ne (other found) _ _).trans uncalled
  | _ => exact uncalled

/-- Where the wait of a stop is over, no loop is running. -/
theorem unwaited_step (reached : Reachable machine Always s) (stepped : machine.step s own = some t)
    (awaits : AwaitsDrain s) (waited : ¬AwaitsDrain t) : t.drainRunning = false := by
  have move := step_move stepped
  by_cases goesOn : ∃ teardown, own = .drained teardown
  · obtain ⟨teardown, rfl⟩ := goesOn
    cases move with
    | drained found finished notices => rfl
  · exfalso
    obtain ⟨teardown, drain, found⟩ := awaits
    refine waited ⟨teardown, drain, StopEnd.stop_kept (Pacing.stops_known reached).unused move (fun mine => ?_) found⟩
    cases own with
    | drained called => exact goesOn ⟨called, rfl⟩
    | reproduced called outcome =>
      cases mine
      cases move with
      | reproduced found' =>
        rw [found] at found'
        cases found'
    | _ => cases mine

end

/-- What comes of an engine that nothing stirs. -/
structure Subsides (s t : Engine) : Prop where
  clock : t.active = true → s.active = true ∧ t.lastFrameTime = s.lastFrameTime
  unfed : ∃ new, t.log = new ++ s.log ∧ Unfed new
  uncalled : s.active = false → ∀ teardown, s.teardowns teardown = none → t.teardowns teardown = none
  stopped : AwaitsDrain s ∨ s.drainRunning = false → AwaitsDrain t ∨ t.drainRunning = false
  channels : t.channels = s.channels

theorem Subsides.refl (s : Engine) : Subsides s s :=
  ⟨fun active => ⟨active, rfl⟩, ⟨[], rfl, by simp [Unfed]⟩, fun _ _ uncalled => uncalled, id, rfl⟩

theorem Subsides.inactive {s t : Engine} (subsides : Subsides s t) (inactive : s.active = false) :
    t.active = false := by
  by_contra active
  have before := (subsides.clock (eq_true_of_ne_false active)).1
  rw [inactive] at before
  cases before

theorem Subsides.trans {s mid t : Engine} (first : Subsides s mid) (second : Subsides mid t) : Subsides s t := by
  obtain ⟨old, before, quiet⟩ := first.unfed
  obtain ⟨new, after, quiet'⟩ := second.unfed
  constructor
  · intro active
    obtain ⟨active', last⟩ := second.clock active
    obtain ⟨active'', last'⟩ := first.clock active'
    exact ⟨active'', last.trans last'⟩
  · exact ⟨new ++ old, by rw [after, before, List.append_assoc], ClassicEnd.Unfed.append.mpr ⟨quiet', quiet⟩⟩
  · intro inactive teardown uncalled
    exact second.uncalled (first.inactive inactive) teardown (first.uncalled inactive teardown uncalled)
  · exact fun stopping => second.stopped (first.stopped stopping)
  · exact second.channels.trans first.channels

theorem Subsides.of_unstirred {s t : Engine} {own : Event} (reached : Reachable machine Always s)
    (owned : TimersOwned s) (stepped : machine.step s own = some t) (unstirred : stirs s own = false) :
    Subsides s t := by
  obtain ⟨new, grown, unfed⟩ := unfed_of_unstirred owned stepped unstirred
  refine ⟨unstirred_clock stepped unstirred, ⟨new, grown, unfed⟩, fun inactive _ => uncalled_step inactive stepped, ?_,
    EngineSlots.channels_step (step_move stepped)⟩
  rintro (awaits | down)
  · by_cases waits : AwaitsDrain t
    · exact .inl waits
    · exact .inr (unwaited_step reached stepped awaits waits)
  · refine .inr (eq_false_of_ne_true (fun up => ?_))
    rw [(unfed_step (step_move stepped) grown unfed).2.1 up] at down
    cases down

/-- Nothing is late, and nothing rouses the bridge. -/
def Unroused (latency pace : ℚ) (c : Entry) (event : BridgeEvent) : Prop :=
  Punctual latency pace c event ∧ rouses c.state.bridge event = false

/-- A cancelled watchdog does not sleep on. -/
theorem cancelTask_polling {b : Bridge} {cancelled watchdog : WatchdogId} {pc : WatchdogPc}
    (found : (b.cancelTask cancelled).watchdogs watchdog = some ⟨pc, false⟩)
    (outside : ∀ teardown, pc ≠ .tearingDown teardown) : b.watchdogs watchdog = some ⟨pc, false⟩ := by
  unfold Bridge.cancelTask at found
  split at found
  next teardown cancelling _ =>
    rcases update_eq_some found with ⟨_, same⟩ | ⟨_, before⟩
    · exact absurd (congrArg Watchdog.pc (Option.some.inj same)).symm (outside teardown)
    · exact before
  next =>
    rcases update_eq_some found with ⟨_, same⟩ | ⟨_, before⟩
    · cases same
    · exact before
  next => exact found

theorem cancelWatchdog_polling {b : Bridge} {watchdog : WatchdogId} {pc : WatchdogPc}
    (found : b.cancelWatchdog.watchdogs watchdog = some ⟨pc, false⟩)
    (outside : ∀ teardown, pc ≠ .tearingDown teardown) : b.watchdogs watchdog = some ⟨pc, false⟩ := by
  obtain ⟨cancelled, same, rfl | ⟨other, _, _, rfl⟩⟩ := cancelWatchdog_eq b
  · rw [same] at found
    exact found
  · rw [same] at found
    exact cancelTask_polling found outside

theorem cancelTasks_polling {b : Bridge} {watchdog : WatchdogId} {pc : WatchdogPc}
    (found : b.cancelTasks.watchdogs watchdog = some ⟨pc, false⟩)
    (outside : ∀ teardown, pc ≠ .tearingDown teardown) : b.watchdogs watchdog = some ⟨pc, false⟩ := by
  rw [cancelTasks_watchdogs] at found
  split at found
  next => exact found
  next => exact cancelTask_polling found outside

theorem cancelWatchdog_closing (b : Bridge) : b.cancelWatchdog.closing = b.closing := by
  obtain ⟨watchdogs, same⟩ := cancelWatchdog_frame b
  rw [same]

/-- An unload is never taken back. -/
theorem loaded_before {b t : Bridge} {event : BridgeEvent} (stepped : bridge.step b event = some t)
    (loaded : t.closing = false) : b.closing = false := by
  cases event with
  | setActive active username =>
    cases stepped
    cases active with
    | true =>
      simp only [Bridge.setEntertainmentActive, Bridge.onEntertainmentStart, ↓reduceIte] at loaded
      split at loaded <;> exact loaded
    | false => exact (cancelWatchdog_closing b.clearEntertainment).symm.trans loaded
  | release seconds =>
    cases stepped
    exact loaded
  | watchdog watchdog =>
    cases watchdogStep_move stepped with
    | cancelled found => exact loaded
    | looked found polling halts still => exact loaded
    | timedOut found active silent => exact loaded
  | engine event =>
    have same := (engineStep_eq stepped).2.2.1
    simp only [wires, Prod.mk.injEq] at same
    exact same.2.2.2.2.2.symm.trans loaded
  | beginClosing =>
    cases stepped
    cases loaded
  | cancelTasks =>
    cases stepped
    cases loaded
  | restoreClosing =>
    change Wiring.step b .restoreClosing = some t at stepped
    simp only [Wiring.step] at stepped
    split at stepped
    · cases stepped
      exact loaded
    · cases stepped

/-- The step that ends a session takes no time. -/
theorem ended_now {s t : Engine} {own : Event} (stepped : machine.step s own = some t) (active : s.active = true)
    (ended : t.active = false) : t.now = s.now := by
  have move := step_move stepped
  refine (Pacing.now_step move).2 ?_
  rintro elapsed rfl
  cases move with
  | tick forward =>
    change s.active = false at ended
    rw [active] at ended
    cases ended

/-- A watchdog that looks at an inactive session sleeps no more. -/
theorem watchdogStep_inactive {b t : Bridge} {watchdog : WatchdogId} (inactive : b.engine.active = false)
    (stepped : b.watchdogStep watchdog = some t) : t.watchdogs watchdog ≠ some ⟨.created, false⟩ ∧
      t.watchdogs watchdog ≠ some ⟨.sleeping, false⟩ := by
  have set : ∀ task : Watchdog, task.pc = .done → b.setWatchdog watchdog task = t →
      t.watchdogs watchdog ≠ some ⟨.created, false⟩ ∧ t.watchdogs watchdog ≠ some ⟨.sleeping, false⟩ := by
    rintro task finished rfl
    rw [Bridge.setWatchdog_watchdogs, Function.update_self]
    refine ⟨fun same => ?_, fun same => ?_⟩
    · simp [Option.some.inj same] at finished
    · simp [Option.some.inj same] at finished
  unfold Bridge.watchdogStep at stepped
  split at stepped
  next => exact set _ rfl (Option.some.inj stepped)
  next => exact set _ rfl (Option.some.inj stepped)
  next => exact set _ (if_neg (by simp [inactive])) (Option.some.inj stepped)
  next =>
    rw [if_pos (by simp [inactive])] at stepped
    exact set _ rfl (Option.some.inj stepped)
  next => cases stepped

/-- A watchdog that sleeps after a step slept before it until the same time, or has gone to sleep for a while. -/
theorem sleeps_step {w x : Timed} {event : BridgeEvent}
    (stepped : timed.step w event = some x) {watchdog : WatchdogId} (sleeps : x.Sleeps watchdog) :
    (w.Sleeps watchdog ∧ x.wakes watchdog = w.wakes watchdog) ∨
      (w.engine.active = true ∨ rouses w.bridge event = true) ∧ x.engine.now = w.engine.now ∧
        w.engine.now ≤ x.wakes watchdog ∧ x.wakes watchdog ≤ w.engine.now + frameWatchdogInterval := by
  have interval : (0 : ℚ) ≤ frameWatchdogInterval := by norm_num [frameWatchdogInterval]
  obtain ⟨b, moved, rfl⟩ := WatchdogBounds.step_eq_some stepped
  change b.watchdogs watchdog = some ⟨.created, false⟩ ∨ b.watchdogs watchdog = some ⟨.sleeping, false⟩ at sleeps
  change (_ ∧ w.schedule event watchdog = _) ∨ _ ∧ b.engine.now = _ ∧ _ ≤ w.schedule event watchdog ∧
    w.schedule event watchdog ≤ _
  have kept : b.watchdogs = w.bridge.watchdogs → w.schedule event watchdog = w.wakes watchdog →
      w.Sleeps watchdog ∧ w.schedule event watchdog = w.wakes watchdog := by
    intro same wakes
    rw [same] at sleeps
    exact ⟨sleeps, wakes⟩
  have polling : ∀ earlier : Bridge, b.watchdogs = earlier.cancelWatchdog.watchdogs →
      earlier.watchdogs = w.bridge.watchdogs → w.Sleeps watchdog := by
    intro earlier cancelled same
    unfold Timed.Sleeps
    rw [cancelled] at sleeps
    rw [← same]
    exact sleeps.imp (fun found => cancelWatchdog_polling found (by simp))
      (fun found => cancelWatchdog_polling found (by simp))
  cases event with
  | setActive active username =>
    cases moved
    cases active with
    | true =>
      obtain ⟨engine, outcome⟩ := setActive_watchdogs w.bridge username
      by_cases new : watchdog = w.bridge.nextWatchdog
      · have wakes : w.schedule (.setActive true username) watchdog = w.engine.now := by
          rw [new]
          exact Function.update_self _ _ _
        refine .inr ⟨.inr rfl, ?_, wakes.ge, wakes.le.trans (le_add_of_nonneg_right interval)⟩
        rw [engine]
        exact (WatchdogClock.snapshot_clock (snapshot_move w.engine)).1
      · refine .inl ⟨?_, Function.update_of_ne new _ _⟩
        rcases outcome with ⟨_, _, table⟩ | ⟨_, table⟩
        · rw [table, Function.update_of_ne new] at sleeps
          exact sleeps
        · rw [table] at sleeps
          exact sleeps
    | false => exact .inl ⟨polling w.bridge.clearEntertainment rfl rfl, rfl⟩
  | release seconds =>
    cases moved
    exact .inl (kept rfl rfl)
  | watchdog looking =>
    obtain ⟨rest, _, now, _⟩ := watchdogStep_rest moved
    by_cases here : watchdog = looking
    · subst here
      have active : w.engine.active = true := by
        by_contra inactive
        obtain ⟨uncreated, awake⟩ := watchdogStep_inactive (eq_false_of_ne_true inactive) moved
        exact sleeps.elim uncreated awake
      have wakes : w.schedule (.watchdog watchdog) watchdog = w.engine.now + frameWatchdogInterval :=
        Function.update_self _ _ _
      exact .inr ⟨.inl active, now, (le_add_of_nonneg_right interval).trans wakes.ge, wakes.le⟩
    · rw [rest watchdog here] at sleeps
      exact .inl ⟨sleeps, Function.update_of_ne here _ _⟩
  | engine own =>
    have same := (engineStep_eq moved).2.2.1
    simp only [wires, Prod.mk.injEq] at same
    exact .inl (kept same.2.2.2.1 (by cases own <;> rfl))
  | beginClosing =>
    cases moved
    exact .inl ⟨polling w.bridge rfl rfl, rfl⟩
  | cancelTasks =>
    cases moved
    refine .inl ⟨?_, rfl⟩
    exact sleeps.imp (fun found => cancelTasks_polling found (by simp)) (fun found => cancelTasks_polling found (by simp))
  | restoreClosing =>
    change Wiring.step w.bridge .restoreClosing = some b at moved
    simp only [Wiring.step] at moved
    split at moved
    · cases moved
      exact .inl (kept rfl rfl)
    · cases moved

/-- No watchdog oversleeps. -/
def Awake (latency : ℚ) (w : Timed) : Prop :=
  ∀ watchdog, w.Sleeps watchdog → w.engine.now ≤ w.wakes watchdog + latency ∧
    w.wakes watchdog ≤ w.engine.now + frameWatchdogInterval

theorem Awake.step {latency : ℚ} (prompt : 0 ≤ latency) {w x : Timed} {event : BridgeEvent}
    (numbered : Numbered w.bridge) (awake : Awake latency w) (punctual : WatchdogBounds.Punctual latency w event)
    (stepped : timed.step w event = some x) : Awake latency x := by
  have forward : w.engine.now ≤ x.engine.now := core.wholeTasks.forward stepped
  intro watchdog sleeps
  rcases sleeps_step stepped sleeps with ⟨before, wakes⟩ | ⟨_, now, later, soon⟩
  · obtain ⟨inTime, soon⟩ := awake watchdog before
    rw [wakes]
    refine ⟨?_, by linarith⟩
    have still : x.engine.now = w.engine.now → x.engine.now ≤ w.wakes watchdog + latency :=
      fun same => same.trans_le inTime
    rcases core.step stepped with ⟨same, _⟩ | ⟨own, moved, drives, _⟩
    · exact still (congrArg Engine.now same)
    · by_cases ticking : ∃ elapsed, own = .tick elapsed
      · obtain ⟨elapsed, rfl⟩ := ticking
        obtain rfl : event = .engine (.tick elapsed) := drives
        have used : watchdog < w.bridge.nextWatchdog := by
          rcases before with found | found
          · exact Fresh.lt numbered found
          · exact Fresh.lt numbered found
        exact (tick_now (step_move moved)).trans_le (punctual.2 watchdog (List.mem_range.mpr used) before)
      · exact still ((Pacing.now_step (step_move moved)).2 (fun elapsed same => ticking ⟨elapsed, same⟩))
  · exact ⟨by linarith, by linarith⟩

theorem awake {latency : ℚ} (prompt : 0 ≤ latency) {w : Timed}
    (reached : Reachable timed (WatchdogBounds.Punctual latency) w) : Awake latency w := by
  have both : Reachable bridge Always w.bridge ∧ Awake latency w := by
    refine reached.invariant (fun x => Reachable bridge Always x.bridge ∧ Awake latency x) ?_ ?_
    · rintro x ⟨listened, ⟨b, ⟨engine, start, rfl⟩, rfl⟩, rfl⟩
      refine ⟨⟨_, [], ⟨engine, start, rfl⟩, .nil _⟩, fun watchdog sleeps => ?_⟩
      rcases sleeps with found | found
      · cases found
      · cases found
    · rintro x event y ⟨reached, awake⟩ punctual stepped
      obtain ⟨b, moved, same⟩ := WatchdogBounds.step_eq_some stepped
      have here : y.bridge = b := congrArg Timed.bridge same
      exact ⟨here ▸ reached.step trivial moved, awake.step prompt (numbered reached) punctual stepped⟩
  exact both.2

section Run
variable {latency pace : ℚ} {c d : Entry} {events : List BridgeEvent}

theorem reachable_engine (reached : Reachable entry (Punctual latency pace) c) :
    Reachable machine Always c.state.engine :=
  Pacing.reachable_engine (reachable_paced reached)

theorem subsides_step {event : BridgeEvent} (prompt : 0 ≤ latency) (bounded : latency ≤ frameTimeout)
    (reached : Reachable entry (Punctual latency pace) c) (unroused : rouses c.state.bridge event = false)
    (step : entry.step c event = some d) : Subsides c.state.engine d.state.engine := by
  rcases core.step (Tasks.step_eq_some step).1 with ⟨same, _⟩ | ⟨own, moved, drives, _⟩
  · change d.state.engine = c.state.engine at same
    rw [same]
    exact .refl _
  · have graced := (timely prompt bounded (reachable_timed reached)).graced
    exact .of_unstirred (reachable_engine reached) graced.owned moved (stirs_of_drives drives unroused)

theorem subsides (prompt : 0 ≤ latency) (bounded : latency ≤ frameTimeout)
    (reached : Reachable entry (Punctual latency pace) c) (run : Run entry (Unroused latency pace) c events d) :
    Reachable entry (Punctual latency pace) d ∧ Subsides c.state.engine d.state.engine := by
  refine run.invariant (fun x => Reachable entry (Punctual latency pace) x ∧ Subsides c.state.engine x.state.engine) ?_
    ⟨reached, .refl _⟩
  rintro x event y ⟨reached, subsided⟩ ⟨punctual, unroused⟩ step
  exact ⟨reached.step punctual step, subsided.trans (subsides_step prompt bounded reached unroused step)⟩

/-- A session that nothing rouses is ended in time. -/
theorem active_bounded (prompt : 0 ≤ latency) (bounded : latency ≤ frameTimeout)
    (reached : Reachable entry (Punctual latency pace) c) (run : Run entry (Unroused latency pace) c events d)
    (loaded : d.state.bridge.closing = false) (active : d.state.engine.active = true) :
    d.state.engine.now ≤ c.state.engine.now + (frameTimeout + frameWatchdogInterval + latency) := by
  obtain ⟨reached', subsided⟩ := subsides prompt bounded reached run
  obtain ⟨streaming, last⟩ := subsided.clock active
  have heard := (timely prompt bounded (reachable_timed reached)).graced.past streaming
  have silent := (timely prompt bounded (reachable_timed reached')).silence loaded active
  rw [last] at silent
  linarith

theorem loaded_start (run : Run entry (Unroused latency pace) c events d) (loaded : d.state.bridge.closing = false) :
    c.state.bridge.closing = false := by
  induction run with
  | nil c => exact loaded
  | cons _ step _ ih =>
    obtain ⟨b, moved, same⟩ := WatchdogBounds.step_eq_some (Tasks.step_eq_some step).1
    have here : Timed.bridge _ = b := congrArg Timed.bridge same
    exact loaded_before (here ▸ moved) (ih loaded)

/-- The first state without a session comes in time. -/
theorem ended_inTime (prompt : 0 ≤ latency) (bounded : latency ≤ frameTimeout)
    (reached : Reachable entry (Punctual latency pace) c) (run : Run entry (Unroused latency pace) c events d)
    (loaded : d.state.bridge.closing = false) (ended : d.state.engine.active = false) :
    ∃ before mid after, Run entry (Unroused latency pace) c before mid ∧ Run entry (Unroused latency pace) mid after d ∧
      mid.state.engine.active = false ∧
      mid.state.engine.now ≤ c.state.engine.now + (frameTimeout + frameWatchdogInterval + latency) := by
  obtain ⟨before, mid, after, led, rest, inactive, first⟩ :=
    run.first (fun x : Entry => x.state.engine.active = false) ended
  refine ⟨before, mid, after, led, rest, inactive, ?_⟩
  have spare : (0 : ℚ) ≤ frameTimeout + frameWatchdogInterval := by norm_num [frameTimeout, frameWatchdogInterval]
  rcases first with rfl | ⟨earlier, prior, event, run', running, _, step⟩
  · linarith
  · have active : prior.state.engine.active = true := eq_true_of_ne_false running
    obtain ⟨stepped, _⟩ := Tasks.step_eq_some step
    obtain ⟨b, moved, same⟩ := WatchdogBounds.step_eq_some stepped
    have here : mid.state.bridge = b := by rw [same]
    have loaded' := loaded_before (here ▸ moved) (loaded_start rest loaded)
    have inTime := active_bounded prompt bounded reached run' loaded' active
    rcases core.step stepped with ⟨kept, _⟩ | ⟨own, moved', _⟩
    · change mid.state.engine = prior.state.engine at kept
      rw [kept, active] at inactive
      cases inactive
    · exact (ended_now moved' active inactive).trans_le inTime

/-- Once there is no session, a watchdog that still sleeps does so for one interval at most. -/
theorem unwatched_inTime (prompt : 0 ≤ latency) (bounded : latency ≤ frameTimeout)
    (reached : Reachable entry (Punctual latency pace) c) (inactive : c.state.engine.active = false)
    (run : Run entry (Unroused latency pace) c events d) {watchdog : WatchdogId} (sleeps : d.state.Sleeps watchdog) :
    d.state.engine.now ≤ c.state.engine.now + (frameWatchdogInterval + latency) := by
  have kept := run.invariant (fun x => Reachable entry (Punctual latency pace) x ∧ x.state.engine.active = false ∧
    ∀ watchdog, x.state.Sleeps watchdog → x.state.wakes watchdog ≤ c.state.engine.now + frameWatchdogInterval) ?_
    ⟨reached, inactive, fun watchdog sleeps => ((awake prompt (reachable_timed reached)) watchdog sleeps).2⟩
  · obtain ⟨reached', _, soon⟩ := kept
    have inTime := (awake prompt (reachable_timed reached') watchdog sleeps).1
    linarith [soon watchdog sleeps]
  · rintro x event y ⟨reached, inactive, soon⟩ ⟨punctual, unroused⟩ step
    have subsided := subsides_step prompt bounded reached unroused step
    refine ⟨reached.step punctual step, subsided.inactive inactive, fun watchdog sleeps => ?_⟩
    rcases sleeps_step (Tasks.step_eq_some step).1 sleeps with ⟨before, wakes⟩ | ⟨active | roused, _⟩
    · rw [wakes]
      exact soon watchdog before
    · rw [inactive] at active
      cases active
    · rw [unroused] at roused
      cases roused

theorem run_paced (run : Run entry (Unroused latency pace) c events d) :
    ∃ owns, Run paced (Pacing.Punctual pace) (core.clock c) owns (core.clock d) :=
  Part.run (fun _ _ own unroused drives timely => ⟨timely _ unroused.1.2.1, unroused.1.2.2 own drives⟩) run

/-- Once there is no session, no stop is called any more, and those that were called are over in time. -/
theorem settled_inTime (prompt : 0 ≤ latency) (bounded : latency ≤ frameTimeout) (patient : 0 ≤ pace)
    (reached : Reachable entry (Punctual latency pace) c) (inactive : c.state.engine.active = false)
    (run : Run entry (Unroused latency pace) c events d) {teardown : TeardownId} {pc : Teardown}
    (found : d.state.engine.teardowns teardown = some pc) :
    pc = .done ∨ d.state.engine.now ≤ c.state.engine.now + (3 * pace + restoreTimeout) := by
  have called : c.state.engine.teardowns teardown ≠ none := by
    intro uncalled
    rw [(subsides prompt bounded reached run).2.uncalled inactive teardown uncalled] at found
    cases found
  have timely := (reachable_paced reached).mono (fun _ _ punctual => punctual.1)
  obtain ⟨owns, paces⟩ := run_paced run
  have paces := paces.mono (fun _ _ punctual => punctual.1)
  rw [← patience_self pace] at timely paces
  rcases stopped_in_time patient patient timely called paces with ended | inTime
  · change d.state.engine.teardowns teardown = some .done at ended
    exact .inl (Option.some.inj (found.symm.trans ended))
  · exact .inr (by rwa [← add_assoc])

/-- Once there is no session, the drain loop ends with the stop that waits for it, or by itself in time. -/
theorem stopped_inTime (prompt : 0 ≤ latency) (bounded : latency ≤ frameTimeout) (patient : 0 ≤ pace)
    (reached : Reachable entry (Punctual latency pace) c) (inactive : c.state.engine.active = false)
    (run : Run entry (Unroused latency pace) c events d) (quiet : ¬AwaitsDrain d.state.engine) :
    d.state.engine.drainRunning = false ∨ d.state.engine.now ≤
      c.state.engine.now + ((c.state.engine.channels.length + 2) * pace + 2 * classicDrainIdle) := by
  obtain ⟨_, subsided⟩ := subsides prompt bounded reached run
  by_cases awaits : AwaitsDrain c.state.engine
  · exact .inl ((subsided.stopped (.inl awaits)).resolve_left quiet)
  · obtain ⟨new, grown, unfed⟩ := subsided.unfed
    obtain ⟨owns, paces⟩ := run_paced run
    rw [← newEntries_eq grown] at unfed
    rcases drain_ends patient (reachable_paced reached) inactive awaits paces unfed with ended | inTime
    · exact .inl ended
    · exact .inr (by rwa [← add_assoc])

end Run

/-- Nothing is under way: there is no session, and of the tasks of the entry none is left, but for watchdogs that have
been cancelled. -/
structure AtRest (w : Timed) : Prop where
  sessionless : w.engine.active = false
  unstreamed : w.bridge.entertainmentActive = false ∧ w.bridge.entertainmentOwner = none
  undriven : w.engine.isDrivingLights = false
  loopless : ∀ drain, ¬Live w.engine drain
  settled : ∀ teardown pc, w.engine.teardowns teardown = some pc → pc = .done
  unwatched : ∀ watchdog, ¬w.Sleeps watchdog

/-- How long a session that nothing rouses lasts. -/
def silence (latency : ℚ) : ℚ := frameTimeout + frameWatchdogInterval + latency

/-- How long the tasks outlast a session: the watchdogs, the stops, the drain loop. -/
def aftermath (latency pace : ℚ) (lights : ℕ) : ℚ :=
  max (frameWatchdogInterval + latency)
    (max (3 * pace + restoreTimeout) ((lights + 2) * pace + 2 * classicDrainIdle))

theorem unstreamed_of_inactive {b : Bridge} (agrees : Agreed b) (inactive : b.engine.active = false) :
    b.entertainmentActive = false ∧ b.entertainmentOwner = none := by
  have denied : b.entertainmentActive = false := by
    by_contra streaming
    have active := (agrees.active.mp (eq_true_of_ne_false streaming)).1
    rw [inactive] at active
    cases active
  refine ⟨denied, ?_⟩
  by_contra owned
  have streaming := agrees.owner.mp owned
  rw [denied] at streaming
  cases streaming

/-- What was under way when a session ended is all that is left to end. -/
theorem rests_afterSession {latency pace : ℚ} (prompt : 0 ≤ latency) (bounded : latency ≤ frameTimeout)
    (patient : 0 ≤ pace) {w x : Entry} {events : List BridgeEvent}
    (reached : Reachable entry (Punctual latency pace) w) (inactive : w.state.engine.active = false)
    (run : Run entry (Unroused latency pace) w events x) (loaded : x.state.bridge.closing = false)
    (later : w.state.engine.now + aftermath latency pace w.state.engine.channels.length < x.state.engine.now) :
    AtRest x.state := by
  obtain ⟨reached', subsided⟩ := subsides prompt bounded reached run
  have inactive' := subsided.inactive inactive
  have watchdogs : frameWatchdogInterval + latency ≤ aftermath latency pace w.state.engine.channels.length :=
    le_max_left _ _
  have stops : 3 * pace + restoreTimeout ≤ aftermath latency pace w.state.engine.channels.length :=
    le_max_of_le_right (le_max_left _ _)
  have loop : (w.state.engine.channels.length + 2) * pace + 2 * classicDrainIdle ≤
      aftermath latency pace w.state.engine.channels.length := le_max_of_le_right (le_max_right _ _)
  have settled : ∀ teardown pc, x.state.engine.teardowns teardown = some pc → pc = .done := by
    intro teardown pc found
    refine (settled_inTime prompt bounded patient reached inactive run found).resolve_right (fun bound => ?_)
    linarith
  have quiet : ¬AwaitsDrain x.state.engine := by
    rintro ⟨teardown, drain, found⟩
    cases settled teardown _ found
  have stopped : x.state.engine.drainRunning = false := by
    refine (stopped_inTime prompt bounded patient reached inactive run quiet).resolve_right (fun bound => ?_)
    linarith
  have free := (loopOwned (Pacing.reachable_quiet (reachable_paced reached'))).free quiet
  constructor
  · exact inactive'
  · exact unstreamed_of_inactive (agreed (timely prompt bounded (reachable_timed reached')).reached loaded) inactive'
  · simp [Engine.isDrivingLights, inactive', stopped]
  · rintro drain ⟨task, found, live⟩
    have running := (free.owner drain task found live).1
    change x.state.engine.drainRunning = true at running
    rw [stopped] at running
    cases running
  · exact settled
  · intro watchdog sleeps
    have bound := unwatched_inTime prompt bounded reached inactive run sleeps
    linarith

/-- The bridge comes to rest in time when nothing rouses it any more. -/
theorem comes_to_rest {latency pace : ℚ} (prompt : 0 ≤ latency) (bounded : latency ≤ frameTimeout) (patient : 0 ≤ pace)
    {w x : Entry} {events : List BridgeEvent} (reached : Reachable entry (Punctual latency pace) w)
    (run : Run entry (Unroused latency pace) w events x) (loaded : x.state.bridge.closing = false)
    (later : w.state.engine.now + silence latency + aftermath latency pace w.state.engine.channels.length <
      x.state.engine.now) : AtRest x.state := by
  have inactive : x.state.engine.active = false := by
    by_contra active
    have inTime := active_bounded prompt bounded reached run loaded (eq_true_of_ne_false active)
    have positive : 0 ≤ frameWatchdogInterval + latency := add_nonneg (by norm_num [frameWatchdogInterval]) prompt
    have lasts : 0 ≤ aftermath latency pace w.state.engine.channels.length := le_max_of_le_left positive
    change _ ≤ _ + silence latency at inTime
    linarith
  obtain ⟨before, mid, after, led, rest, ended, inTime⟩ := ended_inTime prompt bounded reached run loaded inactive
  obtain ⟨reached', subsided⟩ := subsides prompt bounded reached led
  refine rests_afterSession prompt bounded patient reached' ended rest loaded ?_
  change _ ≤ _ + silence latency at inTime
  rw [subsided.channels]
  linarith

/-- What rouses nothing starts nothing. -/
theorem quietWait_of_unroused {b : Bridge} {event : BridgeEvent} {own : Event} (unroused : rouses b event = false)
    (drives : Drives event own) : QuietWait b.engine own := by
  have unstirred := stirs_of_drives drives unroused
  intro _ starts
  cases own with
  | command lightId body => cases unstirred
  | snapshot => cases unstirred
  | _ => exact starts

/-- The entry with one light, whose tasks have only begun to wait. -/
def oneLightEntry : Entry := ⟨{ listened := { bridge := { engine := oneLight } } }, fun _ => oneLight.now⟩

theorem oneLightEntry_start : entry.Start oneLightEntry :=
  ⟨⟨_, ⟨_, ⟨oneLight, ⟨_, _, _, rfl⟩, rfl⟩, rfl⟩, rfl⟩, fun _ => rfl⟩

/-- A session without a frame: its watchdog ends it, and the restore of its light never comes back. -/
def forsaken : List BridgeEvent :=
  [.engine (.tick 1), .watchdog 0, .engine (.drain 0 .returned), .engine (.tick 3), .watchdog 0,
    .engine (.drain 0 .returned), .engine (.tick 3), .watchdog 0, .engine (.tick 1), .engine (.drain 0 .returned),
    .engine (.tick 1), .engine (.drained 0), .engine (.tick 7), .engine (.reproduced 0 .raised), .engine (.tick 2)]

theorem comes_to_rest_forsaken : ∃ w x, Reachable entry (Punctual 1 1) w ∧ Run entry (Unroused 1 1) w forsaken x ∧
    w.state.engine.active = true ∧ AtRest x.state := by
  have played : (play entry (fun c event => WatchdogBounds.Punctual 1 c.state event ∧
      core.wholeTasks.Timely (limit 1) c event) oneLightEntry [.setActive true "tv"]).any (fun (w : Entry) =>
        w.state.engine.active && w.state.engine.now == 0 && w.state.engine.channels.length == 1 &&
        (play entry (fun c event => (WatchdogBounds.Punctual 1 c.state event ∧
          core.wholeTasks.Timely (limit 1) c event) ∧ rouses c.state.bridge event = false) w forsaken).any
            (fun (x : Entry) => !x.state.bridge.closing && x.state.engine.now == 18)) = true := by
    decide +kernel
  obtain ⟨w, toW, rest⟩ := (Option.any_eq_true _ _).mp played
  simp only [Bool.and_eq_true, beq_iff_eq] at rest
  obtain ⟨⟨⟨active, zero⟩, one⟩, rest⟩ := rest
  obtain ⟨x, toX, rest⟩ := (Option.any_eq_true _ _).mp rest
  simp only [Bool.and_eq_true, Bool.not_eq_true', beq_iff_eq] at rest
  obtain ⟨loaded, now⟩ := rest
  have reached : Reachable entry (Punctual 1 1) w := by
    cases run_of_play _ _ _ toW with
    | cons allowed step led =>
      cases led
      refine ⟨_, _, oneLightEntry_start, .cons ⟨allowed.1, allowed.2, fun own _ awaits => ?_⟩ step (.nil w)⟩
      exact absurd awaits (new_unawaited _ _ _)
  have run : Run entry (Unroused 1 1) w forsaken x :=
    (run_of_play _ _ _ toX).mono (fun _ _ allowed =>
      ⟨⟨allowed.1.1, allowed.1.2, fun _ drives => quietWait_of_unroused allowed.2 drives⟩, allowed.2⟩)
  refine ⟨w, x, reached, run, active, ?_⟩
  refine comes_to_rest zero_le_one (by norm_num [frameTimeout]) zero_le_one reached run loaded ?_
  rw [zero, one, now]
  norm_num [silence, aftermath, frameTimeout, frameWatchdogInterval, restoreTimeout, restoreTransition,
    classicDrainIdle]

end HueEntertainment.BridgeRest
