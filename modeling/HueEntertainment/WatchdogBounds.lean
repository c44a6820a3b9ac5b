import HueEntertainment.PauseRelease
import HueEntertainment.WatchdogClock
import HueEntertainment.WatchdogCoverage

/-! How long a silent session and a release can last. Time passes only while nothing that is due is overdue by more
than the latency of the event loop: neither a timer nor the sleep of a watchdog. -/

namespace HueEntertainment.WatchdogBounds
open HueEntertainment.Const PyValue Entertainment EngineSteps EngineFrames EngineMoves PauseRelease Wiring Runs
open WatchdogCoverage WatchdogClock TaskTable
open ClassicCalls (redFrame)

theorem resolvedSeconds_pos (seconds : ℚ) : 0 < Engine.resolvedSeconds seconds := by
  unfold Engine.resolvedSeconds
  split
  next positive => exact positive
  next => norm_num [defaultYieldSeconds]

/-- A timer that is pending after a step was so before it, or is the one that the step has set. -/
theorem pending_step {s t : Engine} {event : Event} (move : Move s event t) {timer : TimerId} {entry : Timer}
    (pending : t.timers timer = some entry) : s.timers timer = some entry ∨
      (∃ seconds, event = .pause seconds ∧ entry = ⟨.pauseExpired, s.now + Engine.resolvedSeconds seconds⟩) ∨
      ∃ seconds, event = .release seconds ∧
        entry = ⟨.releaseGraceExpired, s.now + Engine.resolvedSeconds seconds⟩ := by
  have kept : ∀ (u : Engine) (handle : Option TimerId), (u.cancelTimer handle).timers timer = some entry →
      u.timers timer = some entry := by
    intro u handle found
    by_contra gone
    cases before : u.timers timer with
    | none =>
      rw [cancelTimer_none handle before] at found
      cases found
    | some old =>
      rw [Engine.cancelTimer_timers] at found
      cases handle with
      | none => exact gone found
      | some cancelled =>
        rcases update_eq_some found with ⟨_, none⟩ | ⟨_, same⟩
        · cases none
        · exact gone same
  cases move with
  | frame wrote held same => exact .inl pending
  | commandKept rejected => exact .inl pending
  | commandJoined accepted running => exact .inl pending
  | commandStarted accepted idle notices => exact .inl pending
  | snapshotKept closed => exact .inl pending
  | snapshotJoined unholds notices running =>
    cases unholds with
    | release releasing notices => exact .inl (kept _ _ pending)
    | fresh unreleased inactive => exact .inl pending
  | snapshotStarted unholds notices idle notices' =>
    cases unholds with
    | release releasing notices => exact .inl (kept _ _ pending)
    | fresh unreleased inactive => exact .inl pending
  | restoreKept inactive => exact .inl pending
  | restoreSuspended active waits notices => exact .inl (kept _ _ pending)
  | restoreTook active free notices notices' => exact .inl (kept _ _ pending)
  | pauseKept releasing => exact .inl pending
  | @paused seconds entries unreleased notices =>
    rcases update_eq_some pending with ⟨_, new⟩ | ⟨_, before⟩
    · exact .inr (.inl ⟨seconds, rfl, (Option.some.inj new).symm⟩)
    · exact .inl (kept _ _ before)
  | resumeKept => exact .inl pending
  | resumed unreleased notices => exact .inl (kept _ _ pending)
  | @released seconds entries notices =>
    rcases update_eq_some pending with ⟨_, new⟩ | ⟨_, before⟩
    · exact .inr (.inr ⟨seconds, rfl, (Option.some.inj new).symm⟩)
    · exact .inl (kept s _ (kept (s.cancelTimer s.pauseCancel) _ before))
  | @pauseExpired fired due entries _ notices => exact .inl (kept _ (some fired) pending)
  | @graceStale fired due _ unreleased => exact .inl (kept _ (some fired) pending)
  | @graceEnded fired due entries _ releasing inactive notices => exact .inl (kept _ (some fired) pending)
  | @graceForced fired due entries _ releasing active notices => exact .inl (kept _ (some fired) pending)
  | drain move =>
    obtain ⟨_, _, _, _, _, _, rfl⟩ := move.frame
    exact .inl pending
  | drained found finished notices => exact .inl pending
  | reproduced found => exact .inl pending
  | tick forward => exact .inl pending
  | setState => exact .inl pending

/-- What a release has come to after a step. -/
theorem releasing_step {s t : Engine} {event : Event} (move : Move s event t) (releasing : t.releasing = true) :
    (∃ seconds, event = .release seconds ∧ t.releaseForcing = false) ∨
      (s.releasing = true ∧ (∀ seconds, event ≠ .release seconds) ∧
        (t.releaseForcing = true → s.releaseForcing = true ∨
          (s.active = true ∧ t.lastFrameTime = s.lastFrameTime ∧
            ∃ timer due, s.timers timer = some ⟨.releaseGraceExpired, due⟩))) := by
  cases move with
  | snapshotKept closed => exact .inr ⟨releasing, by simp, .inl⟩
  | snapshotJoined unholds notices running => cases releasing
  | snapshotStarted unholds notices idle notices' => cases releasing
  | restoreKept inactive => exact .inr ⟨releasing, by simp, .inl⟩
  | restoreSuspended active waits notices => cases releasing
  | restoreTook active free notices notices' => cases releasing
  | @released seconds entries notices => exact .inl ⟨seconds, rfl, rfl⟩
  | graceEnded pending releasing' inactive notices => cases releasing
  | @graceForced timer due entries pending releasing' active notices =>
    exact .inr ⟨releasing', by simp, fun _ => .inr ⟨active, rfl, timer, due, pending⟩⟩
  | drain move =>
    obtain ⟨_, _, _, _, _, _, rfl⟩ := move.frame
    exact .inr ⟨releasing, by simp, .inl⟩
  | _ => exact .inr ⟨releasing, by simp, .inl⟩

/-- The clock of the engine only goes forward, and the time of the last frame is only ever set to the present, as it is
when a session begins. -/
theorem clock_step {s t : Engine} {event : Event} (owned : TimersOwned s) (move : Move s event t) :
    s.now ≤ t.now ∧ ((∀ elapsed, event ≠ .tick elapsed) → t.now = s.now) ∧
      (t.lastFrameTime = s.lastFrameTime ∨
        (t.lastFrameTime = s.now ∧ t.now = s.now ∧ t.releaseForcing = false)) ∧
      (t.active = true → s.active = true ∨ t.lastFrameTime = s.now) := by
  have unforced : ∀ {forcing : Bool} {cancel : Option TimerId} {timers : TimerId → Option Timer} {first : List Obs},
      Unholds s forcing cancel timers first → forcing = false := by
    intro forcing cancel timers first unholds
    cases unholds with
    | release releasing notices => rfl
    | fresh unreleased inactive => exact (owned.unreleased unreleased).2
  cases move with
  | @frame data _ _ _ _ _ wrote held same =>
    obtain ⟨now, active, forcing, last⟩ := handleFrame_clock s data
    rw [← same]
    refine ⟨now.ge, fun _ => now, ?_, fun streaming => .inl (active ▸ streaming)⟩
    rw [last]
    split
    next heard =>
      simp only [Bool.and_eq_true, Bool.not_eq_true'] at heard
      exact .inr ⟨rfl, now, forcing.trans heard.2⟩
    next => exact .inl rfl
  | snapshotJoined unholds notices running =>
    exact ⟨le_refl _, fun _ => rfl, .inr ⟨rfl, rfl, unforced unholds⟩, fun _ => .inr rfl⟩
  | snapshotStarted unholds notices idle notices' =>
    exact ⟨le_refl _, fun _ => rfl, .inr ⟨rfl, rfl, unforced unholds⟩, fun _ => .inr rfl⟩
  | restoreSuspended active waits notices => exact ⟨le_refl _, fun _ => rfl, .inl rfl, fun _ => .inl active⟩
  | restoreTook active free notices notices' => exact ⟨le_refl _, fun _ => rfl, .inl rfl, fun _ => .inl active⟩
  | drain move =>
    obtain ⟨_, _, _, _, _, _, rfl⟩ := move.frame
    exact ⟨le_refl _, fun _ => rfl, .inl rfl, .inl⟩
  | @tick elapsed forward =>
    exact ⟨le_add_of_nonneg_right forward, fun other => absurd rfl (other elapsed), .inl rfl, .inl⟩
  | _ => exact ⟨le_refl _, fun _ => rfl, .inl rfl, .inl⟩

/-- An entry with what is heard of its stream, the times at which its watchdogs are due to go on, and, as a ghost, when
the last release was asked for and for how long. -/
structure Timed where
  listened : Listened
  wakes : WatchdogId → ℚ := fun _ => 0
  released : Option (ℚ × ℚ) := none

namespace Timed

abbrev bridge (w : Timed) : Bridge := w.listened.bridge

abbrev engine (w : Timed) : Engine := w.listened.bridge.engine

/-- A watchdog that is created is due at once, and one that has looked sleeps for the interval. -/
def schedule (w : Timed) : BridgeEvent → WatchdogId → ℚ
  | .setActive true _ => Function.update w.wakes w.bridge.nextWatchdog w.engine.now
  | .watchdog watchdog => Function.update w.wakes watchdog (w.engine.now + frameWatchdogInterval)
  | _ => w.wakes

def asked (w : Timed) : BridgeEvent → Option (ℚ × ℚ)
  | .release seconds => some (w.engine.now, seconds)
  | _ => w.released

/-- The task is suspended in its sleep, or has not been entered yet. -/
def Sleeps (w : Timed) (watchdog : WatchdogId) : Prop :=
  w.bridge.watchdogs watchdog = some ⟨.created, false⟩ ∨ w.bridge.watchdogs watchdog = some ⟨.sleeping, false⟩

instance (w : Timed) (watchdog : WatchdogId) : Decidable (w.Sleeps watchdog) := inferInstanceAs (Decidable (_ ∨ _))

/-- Nothing that is due is overdue by more than the latency after so much time. -/
def Allows (w : Timed) (latency elapsed : ℚ) : Prop :=
  (∀ timer ∈ List.range w.engine.nextTimer,
    (w.engine.timers timer).all (fun entry => decide (w.engine.now + elapsed ≤ entry.due + latency)) = true) ∧
  ∀ watchdog ∈ List.range w.bridge.nextWatchdog, w.Sleeps watchdog →
    w.engine.now + elapsed ≤ w.wakes watchdog + latency

instance (w : Timed) (latency elapsed : ℚ) : Decidable (w.Allows latency elapsed) := inferInstanceAs (Decidable (_ ∧ _))

end Timed

def step (w : Timed) (event : BridgeEvent) : Option Timed :=
  (WatchdogClock.step w.listened event).map
    (fun listened => { listened := listened, wakes := w.schedule event, released := w.asked event })

def timed : Machine Timed BridgeEvent where
  Start := fun w => ∃ listened, WatchdogClock.listened.Start listened ∧ w = { listened := listened }
  step := step

/-- Time passes as the event loop lets it, and no start is handled while the watchdog is in its own stop. -/
def Punctual (latency : ℚ) (w : Timed) : BridgeEvent → Prop
  | .engine (.tick elapsed) => w.Allows latency elapsed
  | event => StartsUncommitted w.bridge event

instance (latency : ℚ) (w : Timed) : (event : BridgeEvent) → Decidable (Punctual latency w event)
  | .engine (.tick elapsed) => inferInstanceAs (Decidable (w.Allows latency elapsed))
  | .setActive true _ => inferInstanceAs (Decidable (w.bridge.watchdogTask.any w.bridge.stopping = false))
  | .setActive false _ | .release _ | .watchdog _ | .beginClosing | .cancelTasks | .restoreClosing => .isTrue trivial
  | .engine (.frame _) | .engine (.command ..) | .engine .snapshot | .engine .restore | .engine (.pause _)
  | .engine .resume | .engine (.release _) | .engine (.fire _) | .engine (.drain ..) | .engine (.drained _)
  | .engine (.reproduced ..) | .engine (.setState ..) => .isTrue trivial

theorem step_eq_some {w x : Timed} {event : BridgeEvent} (stepped : timed.step w event = some x) :
    ∃ b, bridge.step w.bridge event = some b ∧
      x = ⟨{ hear w.listened event with bridge := b }, w.schedule event, w.asked event⟩ := by
  obtain ⟨listened, heard, same⟩ := Option.map_eq_some_iff.mp stepped
  obtain ⟨b, moved, rfl⟩ := WatchdogClock.step_eq_some heard
  exact ⟨b, moved, same.symm⟩

/-- A step of the bridge is a step of its engine, or leaves the engine alone; a release, and time, come from outside. -/
theorem step_own {b t : Bridge} {event : BridgeEvent} (stepped : bridge.step b event = some t) :
    (t.engine = b.engine ∧ ∀ seconds, event ≠ .release seconds) ∨
      ∃ own, Move b.engine own t.engine ∧ (∀ elapsed, own = .tick elapsed → event = .engine (.tick elapsed)) ∧
        ∀ seconds, own = .release seconds ↔ event = .release seconds := by
  change Wiring.step b event = some t at stepped
  cases event with
  | setActive active username =>
    cases stepped
    cases active with
    | true =>
      refine .inr ⟨.snapshot, ?_, by simp, by simp⟩
      have engine : (b.setEntertainmentActive true username).engine = b.engine.asyncSnapshotLights := by
        simp only [Bridge.setEntertainmentActive, Bridge.onEntertainmentStart, ↓reduceIte]
        split <;> rfl
      rw [engine]
      exact snapshot_move _
    | false =>
      refine .inr ⟨.restore, ?_, by simp, by simp⟩
      rw [stopped_engine]
      exact restore_move _
  | release seconds =>
    have moved : EngineSteps.machine.step b.engine (.release seconds) = some (b.engine.asyncRelease seconds) := rfl
    cases stepped
    exact .inr ⟨.release seconds, step_move moved, by simp, by simp⟩
  | watchdog watchdog =>
    cases watchdogStep_move stepped with
    | cancelled found => exact .inl ⟨rfl, by simp⟩
    | looked found polling halts still => exact .inl ⟨rfl, by simp⟩
    | timedOut found active silent => exact .inr ⟨.restore, restore_move _, by simp, by simp⟩
  | engine event =>
    obtain ⟨own, moved, _, _⟩ := engineStep_eq stepped
    refine .inr ⟨event, step_move moved, by simp, ?_⟩
    rintro seconds
    constructor
    · rintro rfl
      exact own.elim
    · rintro ⟨⟩
  | beginClosing =>
    cases stepped
    exact .inl ⟨cancelWatchdog_engine b, by simp⟩
  | cancelTasks =>
    cases stepped
    exact .inl ⟨rfl, by simp⟩
  | restoreClosing =>
    simp only [Wiring.step] at stepped
    split at stepped
    · cases stepped
      exact .inr ⟨.restore, restore_move _, by simp, by simp⟩
    · cases stepped

/-- What the timers promise of a release: its grace timer is due when it said, and a release that is being forced has
stopped the clock of the frames by then. -/
structure Graced (latency : ℚ) (w : Timed) : Prop where
  owned : TimersOwned w.engine
  current : ∀ timer entry, w.engine.timers timer = some entry → w.engine.now ≤ entry.due + latency
  past : w.engine.active = true → w.engine.lastFrameTime ≤ w.engine.now
  promised : w.engine.releasing = true → ∃ asked seconds, w.released = some (asked, seconds) ∧
    (∀ timer due, w.engine.timers timer = some ⟨.releaseGraceExpired, due⟩ →
      due = asked + Engine.resolvedSeconds seconds) ∧
    (w.engine.releaseForcing = true → w.engine.lastFrameTime ≤ asked + Engine.resolvedSeconds seconds + latency)

/-- The one grace timer after a release is the one it has set. -/
theorem released_due {s t : Engine} {seconds : ℚ} (owned : TimersOwned s) (move : Move s (.release seconds) t)
    {timer : TimerId} {due : ℚ} (pending : t.timers timer = some ⟨.releaseGraceExpired, due⟩) :
    due = s.now + Engine.resolvedSeconds seconds := by
  rcases pending_step move pending with before | ⟨_, other, _⟩ | ⟨_, asked, entry⟩
  · cases move with
    | released notices =>
      have held : some s.nextTimer = some timer := ((owned.afterRelease seconds _).grace timer).mp ⟨due, pending⟩
      rw [← Option.some.inj held, owned.fresh s.nextTimer (Nat.le_refl _)] at before
      cases before
  · cases other
  · cases asked
    cases entry
    rfl

theorem tick_now {s t : Engine} {elapsed : ℚ} (move : Move s (.tick elapsed) t) : t.now = s.now + elapsed := by
  cases move with
  | tick forward => rfl

/-- What was pending is not overdue after the step either. -/
theorem Graced.counted {latency : ℚ} {w : Timed} {s : Engine} {event : BridgeEvent} {own : Event}
    (graced : Graced latency w) (punctual : Punctual latency w event) (move : Move w.engine own s)
    (stands : (∀ elapsed, own ≠ .tick elapsed) → s.now = w.engine.now)
    (ticks : ∀ elapsed, own = .tick elapsed → event = .engine (.tick elapsed)) {timer : TimerId} {entry : Timer}
    (pending : w.engine.timers timer = some entry) : s.now ≤ entry.due + latency := by
  by_cases ticking : ∃ elapsed, own = .tick elapsed
  · obtain ⟨elapsed, rfl⟩ := ticking
    obtain rfl := ticks elapsed rfl
    have used : timer < w.engine.nextTimer := Fresh.lt graced.owned.fresh pending
    have allowed := punctual.1 timer (List.mem_range.mpr used)
    rw [pending, Option.all_some, decide_eq_true_eq] at allowed
    rw [tick_now move]
    exact allowed
  · rw [stands (fun elapsed same => ticking ⟨elapsed, same⟩)]
    exact graced.current timer entry pending

theorem Graced.step {latency : ℚ} (prompt : 0 ≤ latency) {w x : Timed} {event : BridgeEvent}
    (graced : Graced latency w) (punctual : Punctual latency w event) (stepped : timed.step w event = some x) :
    Graced latency x := by
  obtain ⟨b, moved, rfl⟩ := step_eq_some stepped
  rcases step_own moved with ⟨same, unasked⟩ | ⟨own, move, ticks, asks⟩
  · have released : w.asked event = w.released := by
      cases event with
      | release seconds => exact absurd rfl (unasked seconds)
      | _ => rfl
    have engine : (Timed.engine ⟨{ hear w.listened event with bridge := b }, w.schedule event, w.asked event⟩) =
      w.engine := same
    constructor
    · exact engine ▸ graced.owned
    · rw [engine]
      exact graced.current
    · rw [engine]
      exact graced.past
    · rw [engine]
      change _ → ∃ asked seconds, w.asked event = some (asked, seconds) ∧ _
      rw [released]
      exact graced.promised
  · obtain ⟨forward, stands, last, streams⟩ := clock_step graced.owned move
    have counted : ∀ timer entry, w.engine.timers timer = some entry → b.engine.now ≤ entry.due + latency :=
      fun _ _ => graced.counted punctual move stands ticks
    constructor
    · exact graced.owned.step move
    · intro timer entry pending
      have later : ∀ seconds, own = .pause seconds ∨ own = .release seconds →
          b.engine.now ≤ w.engine.now + Engine.resolvedSeconds seconds + latency := by
        intro seconds set
        have still : b.engine.now = w.engine.now := by
          refine stands (fun elapsed same => ?_)
          rcases set with rfl | rfl
          · cases same
          · cases same
        linarith [resolvedSeconds_pos seconds]
      rcases pending_step move pending with before | ⟨seconds, rfl, rfl⟩ | ⟨seconds, rfl, rfl⟩
      · exact counted timer entry before
      · exact later seconds (.inl rfl)
      · exact later seconds (.inr rfl)
    · intro streaming
      change b.engine.lastFrameTime ≤ b.engine.now
      rcases streams streaming with before | begun
      · rcases last with same | ⟨set, still, _⟩
        · rw [same]
          exact (graced.past before).trans forward
        · rw [set, still]
      · rw [begun]
        exact forward
    · intro releasing
      change ∃ asked seconds, w.asked event = some (asked, seconds) ∧ _
      rcases releasing_step move releasing with ⟨seconds, rfl, unforced⟩ | ⟨before, other, forces⟩
      · obtain rfl := (asks seconds).mp rfl
        refine ⟨w.engine.now, seconds, rfl, fun timer due pending => released_due graced.owned move pending, ?_⟩
        intro forcing
        rw [unforced] at forcing
        cases forcing
      · have released : w.asked event = w.released := by
          cases event with
          | release seconds => exact absurd ((asks seconds).mpr rfl) (other seconds)
          | _ => rfl
        obtain ⟨asked, seconds, since, due, forced⟩ := graced.promised before
        refine ⟨asked, seconds, released.trans since, ?_, ?_⟩
        · intro timer at' pending
          rcases pending_step move pending with old | ⟨_, _, entry⟩ | ⟨seconds', again, _⟩
          · exact due timer at' old
          · cases entry
          · exact absurd again (other seconds')
        · intro forcing
          change b.engine.lastFrameTime ≤ _
          rcases forces forcing with already | ⟨active, same, timer, at', pending⟩
          · rcases last with same | ⟨_, _, unforced⟩
            · rw [same]
              exact forced already
            · rw [unforced] at forcing
              cases forcing
          · rw [same]
            calc w.engine.lastFrameTime ≤ w.engine.now := graced.past active
              _ ≤ at' + latency := graced.current timer _ pending
              _ = _ := by rw [due timer at' pending]

/-- When a watchdog looks again: before the session has been silent for longer than the timeout and the interval. -/
structure Looks (latency : ℚ) (w : Timed) (watchdog : WatchdogId) : Prop where
  awake : w.engine.now ≤ w.wakes watchdog + latency
  past : w.engine.lastFrameTime ≤ w.engine.now
  soon : w.wakes watchdog ≤ w.engine.lastFrameTime + frameTimeout + frameWatchdogInterval
  first : w.bridge.watchdogs watchdog = some ⟨.created, false⟩ → w.wakes watchdog ≤ w.engine.lastFrameTime

theorem Looks.later {latency : ℚ} {w x : Timed} {watchdog : WatchdogId} (looks : Looks latency w watchdog)
    (wakes : x.wakes watchdog = w.wakes watchdog)
    (table : x.bridge.watchdogs watchdog = w.bridge.watchdogs watchdog)
    (awake : x.engine.now ≤ w.wakes watchdog + latency) (forward : w.engine.now ≤ x.engine.now)
    (last : x.engine.lastFrameTime = w.engine.lastFrameTime ∨ x.engine.lastFrameTime = w.engine.now) :
    Looks latency x watchdog := by
  have since : w.engine.lastFrameTime ≤ x.engine.lastFrameTime := by
    rcases last with same | set
    · exact same.ge
    · exact looks.past.trans set.ge
  constructor
  · rw [wakes]
    exact awake
  · rcases last with same | set
    · exact same.le.trans (looks.past.trans forward)
    · exact set.le.trans forward
  · rw [wakes]
    linarith [looks.soon]
  · intro created
    rw [wakes]
    exact (looks.first (table ▸ created)).trans since

/-- The watchdog that the entry holds looks in time. -/
def Watching (latency : ℚ) (w : Timed) : Prop :=
  ∀ watchdog, w.bridge.watchdogTask = some watchdog → w.Sleeps watchdog → Looks latency w watchdog

theorem sleeps_of_polling {w : Timed} {watchdog : WatchdogId} (polling : Polling w.bridge watchdog) :
    w.Sleeps watchdog := by
  obtain ⟨pc, found, rfl | rfl⟩ := polling
  · exact .inl found
  · exact .inr found

/-- A watchdog goes back to sleep only after having looked at a session that was heard of in time. -/
theorem looked_inTime {b t : Bridge} {watchdog : WatchdogId} (found : b.watchdogs watchdog = some ⟨.sleeping, false⟩)
    (stepped : b.watchdogStep watchdog = some t) (again : t.watchdogs watchdog = some ⟨.sleeping, false⟩) :
    b.engine.now - b.engine.lastFrameTime ≤ frameTimeout := by
  unfold Bridge.watchdogStep at stepped
  simp only [found] at stepped
  split at stepped
  next inactive =>
    cases stepped
    rw [Bridge.setWatchdog_watchdogs, Function.update_self] at again
    cases again
  next active =>
    split at stepped
    next silent =>
      cases stepped
      rw [Bridge.setWatchdog_watchdogs, Function.update_self] at again
      cases again
    next heard => exact not_lt.mp heard

/-- What a watchdog's step leaves of the table and of the clocks. -/
theorem watchdogStep_rest {b t : Bridge} {watchdog : WatchdogId} (stepped : b.watchdogStep watchdog = some t) :
    (∀ other, other ≠ watchdog → t.watchdogs other = b.watchdogs other) ∧ t.watchdogTask = b.watchdogTask ∧
      t.engine.now = b.engine.now ∧ t.engine.lastFrameTime = b.engine.lastFrameTime := by
  cases watchdogStep_move stepped with
  | cancelled found => exact ⟨fun _ different => Function.update_of_ne different _ _, rfl, rfl, rfl⟩
  | looked found polling halts still => exact ⟨fun _ different => Function.update_of_ne different _ _, rfl, rfl, rfl⟩
  | timedOut found active silent =>
    refine ⟨fun _ different => Function.update_of_ne different _ _, rfl, restore_now _, ?_⟩
    have move := restore_move b.engine
    change b.engine.asyncRestoreLights.lastFrameTime = b.engine.lastFrameTime
    generalize b.engine.asyncRestoreLights = s at move
    cases move with
    | restoreKept inactive => rfl
    | restoreSuspended active waits notices => rfl
    | restoreTook active free notices notices' => rfl

/-- A watchdog that sleeps after its step has looked, or has been entered for the first time. -/
theorem watchdogStep_sleeps {b t : Bridge} {watchdog : WatchdogId} (stepped : b.watchdogStep watchdog = some t)
    (sleeps : t.watchdogs watchdog = some ⟨.created, false⟩ ∨ t.watchdogs watchdog = some ⟨.sleeping, false⟩) :
    t.watchdogs watchdog = some ⟨.sleeping, false⟩ ∧
      (b.watchdogs watchdog = some ⟨.created, false⟩ ∨ b.watchdogs watchdog = some ⟨.sleeping, false⟩) := by
  cases watchdogStep_move stepped with
  | cancelled found =>
    rw [Bridge.setWatchdog_watchdogs, Function.update_self] at sleeps
    rcases sleeps with created | sleeping
    · cases created
    · cases sleeping
  | @looked pc after found polling halts still =>
    rw [Bridge.setWatchdog_watchdogs, Function.update_self] at sleeps ⊢
    have before : b.watchdogs watchdog = some ⟨.created, false⟩ ∨ b.watchdogs watchdog = some ⟨.sleeping, false⟩ := by
      rcases polling with rfl | rfl
      · exact .inl found
      · exact .inr found
    rcases halts with rfl | rfl
    · exact ⟨rfl, before⟩
    · rcases sleeps with created | sleeping
      · cases created
      · cases sleeping
  | timedOut found active silent =>
    rw [Bridge.setWatchdog_watchdogs, Function.update_self] at sleeps
    rcases sleeps with created | sleeping
    · cases created
    · cases sleeping

theorem Watching.looked {latency : ℚ} (prompt : 0 ≤ latency) (bounded : latency ≤ frameTimeout) {w x : Timed}
    {watchdog : WatchdogId} (watching : Watching latency w) (moved : w.bridge.watchdogStep watchdog = some x.bridge)
    (wakes : x.wakes = Function.update w.wakes watchdog (w.engine.now + frameWatchdogInterval)) :
    Watching latency x := by
  have interval : (0 : ℚ) ≤ frameWatchdogInterval := by norm_num [frameWatchdogInterval]
  obtain ⟨rest, task, now, last⟩ := watchdogStep_rest moved
  intro other held sleeps
  rw [task] at held
  by_cases here : other = watchdog
  · subst other
    have wake : x.wakes watchdog = w.engine.now + frameWatchdogInterval := by
      rw [wakes, Function.update_self]
    obtain ⟨again, before⟩ := watchdogStep_sleeps moved sleeps
    have looks := watching watchdog held before
    have heard : w.engine.now ≤ w.engine.lastFrameTime + frameTimeout := by
      rcases before with created | sleeping
      · linarith [looks.first created, looks.awake]
      · linarith [looked_inTime sleeping moved again]
    constructor
    · rw [wake, now]
      linarith
    · rw [last, now]
      exact looks.past
    · rw [wake, last]
      linarith
    · intro created
      rw [again] at created
      cases created
  · have sleeping : w.Sleeps other := by
      unfold Timed.Sleeps at sleeps ⊢
      rwa [rest other here] at sleeps
    have looks := watching other held sleeping
    refine looks.later ?_ (rest other here) (now.le.trans looks.awake) now.ge (.inl last)
    rw [wakes, Function.update_of_ne here]

/-- A start creates a watchdog unless the entry holds one that is not done. -/
theorem setActive_watchdogs (b : Bridge) (username : String) :
    (b.setEntertainmentActive true username).engine = b.engine.asyncSnapshotLights ∧
    (((∀ watchdog, b.watchdogTask = some watchdog → b.watchdogDone watchdog = true) ∧
        (b.setEntertainmentActive true username).watchdogTask = some b.nextWatchdog ∧
        (b.setEntertainmentActive true username).watchdogs =
          Function.update b.watchdogs b.nextWatchdog (some ⟨.created, false⟩)) ∨
      ((b.setEntertainmentActive true username).watchdogTask = b.watchdogTask ∧
        (b.setEntertainmentActive true username).watchdogs = b.watchdogs)) := by
  simp only [Bridge.setEntertainmentActive, Bridge.onEntertainmentStart, ↓reduceIte]
  split
  next unheld =>
    refine ⟨rfl, .inl ⟨?_, rfl, rfl⟩⟩
    intro watchdog named
    simpa [named, Bridge.watchdogDone, snapshot_teardowns] using unheld
  next kept => exact ⟨rfl, .inr ⟨rfl, rfl⟩⟩

theorem Watching.started {latency : ℚ} (prompt : 0 ≤ latency) {w x : Timed} {username : String}
    (watching : Watching latency w) (covered : Covered w.bridge) (numbered : Numbered w.bridge)
    (bridge : x.bridge = w.bridge.setEntertainmentActive true username)
    (wakes : x.wakes = Function.update w.wakes w.bridge.nextWatchdog w.engine.now) : Watching latency x := by
  obtain ⟨engine, outcome⟩ := setActive_watchdogs w.bridge username
  rw [← bridge] at engine outcome
  obtain ⟨now, clock⟩ := snapshot_clock (snapshot_move w.engine)
  rw [← engine] at now clock
  change x.engine.now = w.engine.now at now
  intro watchdog held sleeps
  rcases outcome with ⟨unwatched, created, table⟩ | ⟨kept, table⟩
  · rw [created] at held
    obtain rfl := Option.some.inj held
    have wake : x.wakes w.bridge.nextWatchdog = w.engine.now := by
      rw [wakes, Function.update_self]
    have begun : x.engine.lastFrameTime = w.engine.now := by
      rcases clock with ⟨closed, _⟩ | ⟨_, set⟩
      · have active : w.engine.active = true := by
          by_contra inactive
          exact closed (.inr (eq_false_of_ne_true inactive))
        obtain ⟨other, named, pc, found, polls⟩ := covered.polling active
        have finished := unwatched other named
        unfold Bridge.watchdogDone at finished
        rw [found] at finished
        rcases polls with rfl | rfl
        · cases finished
        · cases finished
      · exact set
    constructor
    · linarith
    · linarith
    · have positive : (0 : ℚ) ≤ frameTimeout + frameWatchdogInterval := by norm_num [frameTimeout, frameWatchdogInterval]
      rw [wake, begun]
      linarith
    · intro _
      linarith
  · rw [kept] at held
    have sleeping : w.Sleeps watchdog := by
      unfold Timed.Sleeps at sleeps ⊢
      rwa [table] at sleeps
    have looks := watching watchdog held sleeping
    have used : watchdog ≠ w.bridge.nextWatchdog := by
      rintro rfl
      have free := numbered w.bridge.nextWatchdog (Nat.le_refl _)
      rcases sleeping with found | found
      · rw [free] at found
        cases found
      · rw [free] at found
        cases found
    refine looks.later ?_ (by rw [table]) (now.le.trans looks.awake) now.ge ?_
    · rw [wakes, Function.update_of_ne used]
    · rcases clock with ⟨_, same⟩ | ⟨_, set⟩
      · exact .inl (congrArg Engine.lastFrameTime same)
      · exact .inr set

/-- A step that leaves the watchdogs alone. -/
theorem Watching.kept {latency : ℚ} {w x : Timed} (watching : Watching latency w)
    (task : x.bridge.watchdogTask = w.bridge.watchdogTask) (table : x.bridge.watchdogs = w.bridge.watchdogs)
    (wakes : x.wakes = w.wakes) (forward : w.engine.now ≤ x.engine.now)
    (last : x.engine.lastFrameTime = w.engine.lastFrameTime ∨ x.engine.lastFrameTime = w.engine.now)
    (awake : ∀ watchdog, w.Sleeps watchdog → w.engine.now ≤ w.wakes watchdog + latency →
      x.engine.now ≤ w.wakes watchdog + latency) : Watching latency x := by
  intro watchdog held sleeps
  have sleeping : w.Sleeps watchdog := by
    unfold Timed.Sleeps at sleeps ⊢
    rwa [table] at sleeps
  have looks := watching watchdog (task ▸ held) sleeping
  exact looks.later (by rw [wakes]) (by rw [table]) (awake watchdog sleeping looks.awake) forward last

theorem Watching.step {latency : ℚ} (prompt : 0 ≤ latency) (bounded : latency ≤ frameTimeout) {w x : Timed}
    {event : BridgeEvent} (watching : w.bridge.closing = false → Watching latency w)
    (covered : w.bridge.closing = false → Covered w.bridge) (numbered : Numbered w.bridge)
    (owned : TimersOwned w.engine) (punctual : Punctual latency w event) (stepped : timed.step w event = some x)
    (loaded : x.bridge.closing = false) : Watching latency x := by
  obtain ⟨b, moved, rfl⟩ := step_eq_some stepped
  change b.closing = false at loaded
  cases event with
  | setActive active username =>
    cases moved
    cases active with
    | true =>
      have before : w.bridge.closing = false := by
        simp only [Bridge.setEntertainmentActive, Bridge.onEntertainmentStart, ↓reduceIte] at loaded
        split at loaded <;> exact loaded
      exact (watching before).started prompt (covered before) numbered rfl rfl
    | false =>
      intro watchdog held
      have none : (w.bridge.setEntertainmentActive false username).watchdogTask = none := cancelWatchdog_task _
      change (w.bridge.setEntertainmentActive false username).watchdogTask = some watchdog at held
      rw [none] at held
      cases held
  | release seconds =>
    have released : EngineSteps.machine.step w.engine (.release seconds) = some (w.engine.asyncRelease seconds) := rfl
    obtain ⟨forward, stands, last, _⟩ := clock_step owned (step_move released)
    cases moved
    refine (watching loaded).kept rfl rfl rfl forward (last.imp_right And.left) ?_
    intro _ _ awake
    exact (stands (by simp)).le.trans awake
  | watchdog watchdog =>
    have before : w.bridge.closing = false := by
      cases watchdogStep_move moved with
      | cancelled found => exact loaded
      | looked found polling halts still => exact loaded
      | timedOut found active silent => exact loaded
    exact (watching before).looked prompt bounded moved rfl
  | engine event =>
    obtain ⟨own, ran, same, _⟩ := engineStep_eq moved
    simp only [wires, Prod.mk.injEq] at same
    obtain ⟨_, _, task, watchdogs, _, closing⟩ := same
    obtain ⟨forward, stands, last, _⟩ := clock_step owned (step_move ran)
    refine (watching (closing ▸ loaded)).kept task watchdogs ?_ forward (last.imp_right And.left) ?_
    · cases event <;> rfl
    · intro watchdog sleeps awake
      change b.engine.now ≤ _
      by_cases ticking : ∃ elapsed, event = .tick elapsed
      · obtain ⟨elapsed, rfl⟩ := ticking
        rw [tick_now (step_move ran)]
        have used : watchdog < w.bridge.nextWatchdog := by
          rcases sleeps with found | found
          · exact Fresh.lt numbered found
          · exact Fresh.lt numbered found
        exact punctual.2 watchdog (List.mem_range.mpr used) sleeps
      · rw [stands (fun elapsed same => ticking ⟨elapsed, same⟩)]
        exact awake
  | beginClosing =>
    cases moved
    cases loaded
  | cancelTasks =>
    cases moved
    cases loaded
  | restoreClosing =>
    simp only [bridge, Wiring.step] at moved
    split at moved
    next closing =>
      cases moved
      change w.bridge.closing = false at loaded
      rw [closing] at loaded
      cases loaded
    next => cases moved

/-- The clock of the frames was last set by the session start or by a frame. -/
def Sourced (w : Listened) : Prop :=
  w.bridge.engine.active = true → w.begun = some w.bridge.engine.lastFrameTime ∨ w.bridge.engine.lastFrameTime ∈ w.frames

theorem Sourced.of_same {w : Listened} {b : Bridge} (sourced : Sourced w)
    (last : b.engine.lastFrameTime = w.bridge.engine.lastFrameTime)
    (active : b.engine.active = true → w.bridge.engine.active = true) : Sourced { w with bridge := b } := by
  intro streaming
  change w.begun = some b.engine.lastFrameTime ∨ b.engine.lastFrameTime ∈ w.frames
  rw [last]
  exact sourced (active streaming)

theorem Sourced.frame {w : Listened} {b : Bridge} {data : HueStream.Bytes} (sourced : Sourced w)
    (engine : b.engine = w.bridge.engine.handleFrame data) :
    Sourced { hear w (.engine (.frame data)) with bridge := b } := by
  obtain ⟨_, active, _, last⟩ := handleFrame_clock w.bridge.engine data
  rw [← engine] at active last
  intro streaming
  change b.engine.active = true at streaming
  rw [active] at streaming
  simp only [hear]
  by_cases valid : validFrame data = true
  · rw [if_pos valid]
    change w.begun = some b.engine.lastFrameTime ∨ b.engine.lastFrameTime ∈ w.bridge.engine.now :: w.frames
    rw [last]
    split
    next => exact .inr (List.mem_cons_self ..)
    next => exact (sourced streaming).imp_right (List.mem_cons_of_mem _)
  · rw [if_neg valid]
    rw [last, if_neg (by simp [valid])]
    exact sourced streaming

theorem Sourced.step {w x : Listened} {event : BridgeEvent} (sourced : Sourced w)
    (stepped : listened.step w event = some x) : Sourced x := by
  obtain ⟨b, moved, rfl⟩ := WatchdogClock.step_eq_some stepped
  cases event with
  | setActive active username =>
    cases moved
    cases active with
    | true =>
      obtain ⟨engine, _⟩ := setActive_watchdogs w.bridge username
      obtain ⟨_, outcome⟩ := snapshot_clock (snapshot_move w.bridge.engine)
      rw [← engine] at outcome
      simp only [hear]
      rcases outcome with ⟨closed, same⟩ | ⟨opens, last⟩
      · rw [if_neg closed]
        exact sourced.of_same (by rw [same]) (fun streaming => same ▸ streaming)
      · rw [if_pos opens]
        exact fun _ => .inl (congrArg some last.symm)
    | false =>
      intro streaming
      change (w.bridge.setEntertainmentActive false username).engine.active = true at streaming
      rw [stopped_engine, restore_inactive] at streaming
      cases streaming
  | engine event =>
    obtain ⟨own, ran, _, _⟩ := engineStep_eq moved
    cases event with
    | frame data => exact sourced.frame (Option.some.inj ran).symm
    | _ =>
      obtain ⟨_, last, active, _⟩ := own_clock own (by simp) ran
      exact sourced.of_same last (fun streaming => active ▸ streaming)
  | release seconds =>
    cases moved
    exact sourced.of_same rfl (fun streaming => streaming)
  | watchdog watchdog =>
    obtain ⟨_, _, _, last⟩ := watchdogStep_rest moved
    refine sourced.of_same last ?_
    cases watchdogStep_move moved with
    | cancelled found => exact fun streaming => streaming
    | looked found polling halts still => exact fun streaming => streaming
    | timedOut found active silent => exact fun _ => active
  | beginClosing =>
    cases moved
    have engine : w.bridge.beginClosing.engine = w.bridge.engine := cancelWatchdog_engine w.bridge
    exact sourced.of_same (by rw [engine]) (fun streaming => engine ▸ streaming)
  | cancelTasks =>
    cases moved
    exact sourced.of_same rfl (fun streaming => streaming)
  | restoreClosing =>
    intro streaming
    simp only [bridge, Wiring.step] at moved
    split at moved
    next =>
      cases moved
      change w.bridge.engine.asyncRestoreLights.active = true at streaming
      rw [restore_inactive] at streaming
      cases streaming
    next => cases moved

/-- The invariant of the runs in which time passes as the event loop lets it. -/
structure Timely (latency : ℚ) (w : Timed) : Prop where
  reached : Reachable bridge Always w.bridge
  graced : Graced latency w
  covered : w.bridge.closing = false → Covered w.bridge
  watching : w.bridge.closing = false → Watching latency w
  sourced : Sourced w.listened

theorem uncommitted {latency : ℚ} {w : Timed} {event : BridgeEvent} (punctual : Punctual latency w event) :
    StartsUncommitted w.bridge event := by
  cases event with
  | engine event => exact trivial
  | _ => exact punctual

theorem timely {latency : ℚ} (prompt : 0 ≤ latency) (bounded : latency ≤ frameTimeout) {w : Timed}
    (reached : Reachable timed (Punctual latency) w) : Timely latency w := by
  refine reached.invariant (Timely latency) ?_ ?_
  · rintro w ⟨listened, ⟨b, ⟨engine, ⟨lights, states, now, rfl⟩, rfl⟩, rfl⟩, rfl⟩
    constructor
    · exact ⟨_, [], ⟨_, ⟨lights, states, now, rfl⟩, rfl⟩, .nil _⟩
    · constructor
      · exact new_owned _ states now
      · intro timer entry pending
        cases pending
      · intro streaming
        cases streaming
      · intro releasing
        cases releasing
    · exact fun _ => .stopped rfl rfl
    · intro _ watchdog held
      cases held
    · intro streaming
      cases streaming
  · intro w event x timely punctual stepped
    obtain ⟨b, moved, same⟩ := step_eq_some stepped
    have here : x.bridge = b := by rw [same]
    have heard : listened.step w.listened event = some x.listened := by
      obtain ⟨listened, heard, rfl⟩ := Option.map_eq_some_iff.mp stepped
      exact heard
    constructor
    · exact here ▸ timely.reached.step trivial moved
    · exact timely.graced.step prompt punctual stepped
    · intro loaded
      rw [here] at loaded ⊢
      exact Covered.step timely.covered (uncommitted punctual) moved loaded
    · intro loaded
      exact Watching.step prompt bounded timely.watching timely.covered (numbered timely.reached) timely.graced.owned
        punctual stepped loaded
    · exact timely.sourced.step heard

/-- The clock of an active session is never older than the timeout, one interval of the watchdog and the latency. -/
theorem Timely.silence {latency : ℚ} {w : Timed} (timely : Timely latency w) (loaded : w.bridge.closing = false)
    (active : w.engine.active = true) :
    w.engine.now ≤ w.engine.lastFrameTime + frameTimeout + frameWatchdogInterval + latency := by
  obtain ⟨watchdog, held, polling⟩ := (timely.covered loaded).polling active
  have looks := timely.watching loaded watchdog held (sleeps_of_polling polling)
  exact looks.awake.trans (by linarith [looks.soon])

/-- A session is never silent for longer than the frame timeout and one interval of the watchdog: until an unload, an
active session began, or had a valid frame, at most that long ago. -/
theorem silence_bounded {latency : ℚ} (prompt : 0 ≤ latency) (bounded : latency ≤ frameTimeout) {w : Timed}
    (reached : Reachable timed (Punctual latency) w) (loaded : w.bridge.closing = false)
    (active : w.engine.active = true) : ∃ time, (w.listened.begun = some time ∨ time ∈ w.listened.frames) ∧
      w.engine.now ≤ time + frameTimeout + frameWatchdogInterval + latency := by
  have invariant := timely prompt bounded reached
  exact ⟨w.engine.lastFrameTime, invariant.sourced active, invariant.silence loaded active⟩

/-- An entry without lights whose event loop is never late. -/
def lightlessTimed : Timed := { listened := lightlessEntry }

theorem lightlessTimed_start : timed.Start lightlessTimed := ⟨lightlessEntry, lightlessEntry_start, rfl⟩

/-- A session with one frame, until just before the watchdog notices the silence after it. -/
def silent : List BridgeEvent :=
  [.setActive true "tv", .watchdog 0, .engine (.tick (3 / 2)), .engine (.frame redFrame), .engine (.tick (1 / 2)),
    .watchdog 0, .engine (.tick 2), .watchdog 0, .engine (.tick 2), .watchdog 0, .engine (.tick 2)]

theorem silence_bounded_silent : ∃ w, Reachable timed (Punctual 0) w ∧ w.engine.now = 8 ∧ w.listened.frames = [3 / 2] ∧
    ∃ time, (w.listened.begun = some time ∨ time ∈ w.listened.frames) ∧
      w.engine.now ≤ time + frameTimeout + frameWatchdogInterval + 0 := by
  have final : (play timed (Punctual 0) lightlessTimed silent).any (fun w => !w.bridge.closing && w.engine.active &&
      w.engine.now == 8 && w.listened.frames == [3 / 2]) = true := by decide +kernel
  obtain ⟨w, played, final⟩ := (Option.any_eq_true _ _).mp final
  simp only [Bool.and_eq_true, Bool.not_eq_true', beq_iff_eq] at final
  obtain ⟨⟨⟨loaded, active⟩, now⟩, frames⟩ := final
  have reached := reachable_of_play lightlessTimed_start played
  exact ⟨w, reached, now, frames, silence_bounded (le_refl 0) (by norm_num [frameTimeout]) reached loaded active⟩

/-- A release is over in time: without a session within its seconds, and with a session that goes on streaming within
its seconds, the frame timeout and one interval of the watchdog. -/
theorem release_bounded {latency : ℚ} (prompt : 0 ≤ latency) (bounded : latency ≤ frameTimeout) {w : Timed}
    (reached : Reachable timed (Punctual latency) w) (loaded : w.bridge.closing = false)
    (releasing : w.engine.releasing = true) : ∃ asked seconds, w.released = some (asked, seconds) ∧
      (w.engine.active = false → w.engine.now ≤ asked + Engine.resolvedSeconds seconds + latency) ∧
      w.engine.now ≤ asked + Engine.resolvedSeconds seconds + latency +
        (frameTimeout + frameWatchdogInterval + latency) := by
  have invariant := timely prompt bounded reached
  obtain ⟨asked, seconds, since, due, forced⟩ := invariant.graced.promised releasing
  have later : (0 : ℚ) ≤ frameTimeout + frameWatchdogInterval + latency := by
    have positive : (0 : ℚ) ≤ frameTimeout + frameWatchdogInterval := by norm_num [frameTimeout, frameWatchdogInterval]
    exact add_nonneg positive prompt
  refine ⟨asked, seconds, since, ?_⟩
  cases held : w.engine.releaseCancel with
  | some timer =>
    obtain ⟨at', pending⟩ := (invariant.graced.owned.grace timer).mpr held
    have graceful : w.engine.now ≤ asked + Engine.resolvedSeconds seconds + latency := by
      rw [← due timer at' pending]
      exact invariant.graced.current timer _ pending
    exact ⟨fun _ => graceful, graceful.trans (le_add_of_nonneg_right later)⟩
  | none =>
    obtain ⟨forcing, active⟩ := invariant.graced.owned.forced releasing held
    constructor
    · intro inactive
      rw [active] at inactive
      cases inactive
    · have silent := invariant.silence loaded active
      linarith [forced forcing]

/-- A release of one second of a session that goes on streaming, until just before the watchdog ends it. -/
def forcedRelease : List BridgeEvent :=
  [.setActive true "tv", .watchdog 0, .engine (.tick (1 / 2)), .release 1, .engine (.tick 1),
    .engine (.frame redFrame), .engine (.fire 0), .engine (.tick (1 / 2)), .watchdog 0, .engine (.tick 2),
    .engine (.frame redFrame), .watchdog 0, .engine (.tick 2), .watchdog 0, .engine (.tick 2)]

/-- The interval of the watchdog comes on top of the seconds and the frame timeout. -/
theorem release_bounded_forced : ∃ w, Reachable timed (Punctual 0) w ∧ w.engine.releasing = true ∧
    w.released = some (1 / 2, 1) ∧ 1 / 2 + 1 + frameTimeout < w.engine.now ∧
    ∃ asked seconds, w.released = some (asked, seconds) ∧ w.engine.now ≤ asked + Engine.resolvedSeconds seconds + 0 +
      (frameTimeout + frameWatchdogInterval + 0) := by
  have final : (play timed (Punctual 0) lightlessTimed forcedRelease).any (fun w => !w.bridge.closing &&
      w.engine.releasing && w.released == some (1 / 2, 1) && w.engine.now == 8) = true := by decide +kernel
  obtain ⟨w, played, final⟩ := (Option.any_eq_true _ _).mp final
  simp only [Bool.and_eq_true, Bool.not_eq_true', beq_iff_eq] at final
  obtain ⟨⟨⟨loaded, releasing⟩, asked⟩, now⟩ := final
  have reached := reachable_of_play lightlessTimed_start played
  obtain ⟨time, seconds, since, _, bound⟩ :=
    release_bounded (le_refl 0) (by norm_num [frameTimeout]) reached loaded releasing
  exact ⟨w, reached, releasing, asked, by rw [now]; norm_num [frameTimeout], time, seconds, since, bound⟩

end HueEntertainment.WatchdogBounds
