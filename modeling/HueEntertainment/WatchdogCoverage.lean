import HueEntertainment.Wiring

/-! The watchdog of an active session. A start keeps a watchdog task that is not done, and a task that
has called its stop is not done until the stop is over, though it will not look at a session again. -/

namespace HueEntertainment.WatchdogCoverage
open PyValue Entertainment EngineSteps Wiring Runs

/-- The task is live and goes on comparing the time of the last frame. -/
def Polling (b : Bridge) (watchdog : WatchdogId) : Prop :=
  ∃ pc, b.watchdogs watchdog = some ⟨pc, false⟩ ∧ (pc = .created ∨ pc = .sleeping)

/-- No start is handled while the watchdog that the entry holds is in its own stop. -/
def StartsUncommitted (b : Bridge) : BridgeEvent → Prop
  | .setActive true _ => b.watchdogTask.any b.stopping = false
  | _ => True

instance (b : Bridge) : (event : BridgeEvent) → Decidable (StartsUncommitted b event)
  | .setActive true _ => inferInstanceAs (Decidable (b.watchdogTask.any b.stopping = false))
  | .setActive false _ | .release _ | .watchdog _ | .engine _ | .beginClosing | .cancelTasks | .restoreClosing => .isTrue trivial

/-- The task that the entry holds has not been cancelled, and an active session has one that polls. -/
structure Covered (b : Bridge) : Prop where
  held : ∀ watchdog, b.watchdogTask = some watchdog → ∃ pc, b.watchdogs watchdog = some ⟨pc, false⟩
  polling : b.engine.active = true → ∃ watchdog, b.watchdogTask = some watchdog ∧ Polling b watchdog

/-- A step of one task that keeps it polling in an active session. -/
theorem Covered.moved {b t : Bridge} (covered : Covered b) {watchdog : WatchdogId} {task : Watchdog}
    (handle : t.watchdogTask = b.watchdogTask) (table : t.watchdogs = Function.update b.watchdogs watchdog (some task))
    (uncancelled : b.watchdogTask = some watchdog → task.cancelling = false)
    (active : t.engine.active = true → b.engine.active = true ∧
      (b.watchdogTask = some watchdog → task.pc = .created ∨ task.pc = .sleeping)) : Covered t := by
  constructor
  · intro other named
    rw [handle] at named
    rw [table]
    by_cases here : other = watchdog
    · subst other
      rw [Function.update_self]
      exact ⟨task.pc, by rw [← uncancelled named]⟩
    · rw [Function.update_of_ne here]
      exact covered.held other named
  · intro streaming
    obtain ⟨before, still⟩ := active streaming
    obtain ⟨other, named, pc, found, polls⟩ := covered.polling before
    refine ⟨other, handle.trans named, ?_⟩
    unfold Polling
    rw [table]
    by_cases here : other = watchdog
    · subst other
      rw [Function.update_self]
      exact ⟨task.pc, by rw [← uncancelled named], still named⟩
    · rw [Function.update_of_ne here]
      exact ⟨pc, found, polls⟩

theorem Covered.started {b : Bridge} (covered : Covered b) (uncommitted : b.watchdogTask.any b.stopping = false) :
    Covered b.onEntertainmentStart := by
  unfold Bridge.onEntertainmentStart
  simp only []
  split
  next unheld =>
    constructor
    · intro watchdog named
      have here : b.nextWatchdog = watchdog := Option.some.inj named
      subst watchdog
      exact ⟨.created, Function.update_self _ _ _⟩
    · intro _
      exact ⟨b.nextWatchdog, rfl, .created, Function.update_self _ _ _, .inl rfl⟩
  next kept =>
    refine ⟨covered.held, fun _ => ?_⟩
    obtain ⟨watchdog, named, undone⟩ :
        ∃ watchdog, b.watchdogTask = some watchdog ∧ b.watchdogDone watchdog = false := by
      cases named : b.watchdogTask with
      | none => simp [named] at kept
      | some watchdog =>
        refine ⟨watchdog, rfl, ?_⟩
        simpa [named, Bridge.watchdogDone, snapshot_teardowns] using kept
    obtain ⟨pc, found⟩ := covered.held watchdog named
    refine ⟨watchdog, named, pc, found, ?_⟩
    cases pc with
    | created => exact .inl rfl
    | sleeping => exact .inr rfl
    | tearingDown teardown => simp [named, Bridge.stopping, found, undone] at uncommitted
    | done =>
      unfold Bridge.watchdogDone at undone
      rw [found] at undone
      cases undone

theorem Covered.stopped {t : Bridge} (none : t.watchdogTask = none) (finished : t.engine.active = false) : Covered t := by
  constructor
  · intro watchdog named
    rw [none] at named
    cases named
  · intro active
    rw [finished] at active
    cases active

theorem Covered.step {b t : Bridge} {event : BridgeEvent} (covered : b.closing = false → Covered b)
    (uncommitted : StartsUncommitted b event) (stepped : bridge.step b event = some t) (loaded : t.closing = false) :
    Covered t := by
  change Wiring.step b event = some t at stepped
  cases event with
  | setActive active username =>
    cases stepped
    cases active with
    | false => exact .stopped (cancelWatchdog_task _) (restore_inactive _)
    | true =>
      have before : b.closing = false := by
        simp only [Bridge.setEntertainmentActive, Bridge.onEntertainmentStart, ↓reduceIte] at loaded
        split at loaded <;> exact loaded
      have flagged : Covered { b with entertainmentActive := true, entertainmentOwner := some username } :=
        ⟨(covered before).held, (covered before).polling⟩
      exact flagged.started uncommitted
  | release seconds =>
    cases stepped
    exact ⟨(covered loaded).held, (covered loaded).polling⟩
  | watchdog watchdog =>
    have held := fun loaded => (covered loaded).held watchdog
    cases watchdogStep_move stepped with
    | @cancelled pc found =>
      have other : b.watchdogTask ≠ some watchdog := by
        intro named
        obtain ⟨pc', found'⟩ := held loaded named
        rw [found] at found'
        cases found'
      exact (covered loaded).moved rfl rfl (fun named => absurd named other)
        (fun active => ⟨active, fun named => absurd named other⟩)
    | @looked pc after found polling halts still =>
      exact (covered loaded).moved rfl rfl (fun _ => rfl) (fun active => ⟨active, fun _ => .inr (still active)⟩)
    | timedOut found active silent =>
      refine (covered loaded).moved rfl rfl (fun _ => rfl) ?_
      intro active
      change b.engine.asyncRestoreLights.active = true at active
      rw [restore_inactive] at active
      cases active
  | engine event =>
    obtain ⟨own, moved, same, _⟩ := engineStep_eq stepped
    simp only [wires, Prod.mk.injEq] at same
    obtain ⟨_, _, task, watchdogs, _, closing⟩ := same
    have covered := covered (closing ▸ loaded)
    constructor
    · rw [task, watchdogs]
      exact covered.held
    · unfold Polling
      rw [(own_flags own moved).1, task, watchdogs]
      exact covered.polling
  | beginClosing =>
    cases stepped
    cases loaded
  | cancelTasks =>
    cases stepped
    cases loaded
  | restoreClosing =>
    simp only [Wiring.step] at stepped
    split at stepped
    next closing =>
      cases stepped
      change b.closing = false at loaded
      rw [closing] at loaded
      cases loaded
    next => cases stepped

/-- As long as no start is handled while the watchdog is in its own stop: before an unload or a
shutdown an active session has a live watchdog that is still polling. -/
theorem watched {b : Bridge} (reached : Reachable bridge StartsUncommitted b) (loaded : b.closing = false)
    (active : b.engine.active = true) : ∃ watchdog, Polling b watchdog := by
  have covered : b.closing = false → Covered b := by
    refine reached.invariant (fun x => x.closing = false → Covered x) ?_ ?_
    · rintro x ⟨engine, ⟨lights, states, now, rfl⟩, rfl⟩ _
      exact .stopped rfl rfl
    · intro x event y covered uncommitted stepped loaded
      exact Covered.step covered uncommitted stepped loaded
  obtain ⟨watchdog, _, polling⟩ := (covered loaded).polling active
  exact ⟨watchdog, polling⟩

def lightlessBridge : Bridge := { engine := lightless }

theorem lightlessBridge_start : bridge.Start lightlessBridge := ⟨lightless, ⟨_, _, _, rfl⟩, rfl⟩

/-- A session that the watchdog stops for want of frames, and a start while that stop waits for the
drain loop. -/
def lateStart : List BridgeEvent :=
  [.setActive true "tv", .watchdog 0, .engine (.drain 0 .returned), .engine (.tick 6), .watchdog 0,
    .setActive true "tv", .engine (.drain 0 .returned), .engine (.drained 0)]

/-- The watchdog is not done when the start is handled, so none is created; then its stop ends, it is
done, and nothing watches the session. -/
theorem lateStart_unwatched : ∃ b, play bridge Always lightlessBridge lateStart = some b ∧ b.closing = false ∧
    b.engine.active = true ∧ b.watchdogTask = some 0 ∧ b.watchdogDone 0 = true ∧
    ¬∃ watchdog, Polling b watchdog := by
  have final : (play bridge Always lightlessBridge lateStart).any (fun b => !b.closing && b.engine.active &&
      b.watchdogTask == some 0 && b.watchdogDone 0 && b.watchdogs 0 == some ⟨.tearingDown 0, false⟩ &&
      b.nextWatchdog == 1) = true := by decide +kernel
  obtain ⟨b, played, final⟩ := (Option.any_eq_true _ _).mp final
  simp only [Bool.and_eq_true, Bool.not_eq_true', beq_iff_eq] at final
  obtain ⟨⟨⟨⟨⟨loaded, active⟩, task⟩, finished⟩, stopping⟩, one⟩ := final
  refine ⟨b, played, loaded, active, task, finished, ?_⟩
  rintro ⟨watchdog, pc, found, polls⟩
  by_cases first : watchdog = 0
  · subst watchdog
    rw [stopping] at found
    cases found
    rcases polls with created | sleeping
    · cases created
    · cases sleeping
  · have gone := numbered (reachable_of_play lightlessBridge_start played) watchdog
      (one ▸ Nat.one_le_iff_ne_zero.mpr first)
    rw [found] at gone
    cases gone

/-- A start after the watchdog's stop is over. -/
def startAfterStop : List BridgeEvent :=
  [.setActive true "tv", .watchdog 0, .engine (.drain 0 .returned), .engine (.tick 6), .watchdog 0,
    .engine (.drain 0 .returned), .engine (.drained 0), .setActive true "tv"]

theorem watched_afterStop : ∃ b, Run bridge StartsUncommitted lightlessBridge startAfterStop b ∧
    b.engine.active = true ∧ ∃ watchdog, Polling b watchdog := by
  have final : (play bridge StartsUncommitted lightlessBridge startAfterStop).any
      (fun b => !b.closing && b.engine.active) = true := by decide +kernel
  obtain ⟨b, played, final⟩ := (Option.any_eq_true _ _).mp final
  rw [Bool.and_eq_true, Bool.not_eq_true'] at final
  exact ⟨b, run_of_play _ _ _ played, final.2, watched (reachable_of_play lightlessBridge_start played) final.1 final.2⟩

end HueEntertainment.WatchdogCoverage
