import HueEntertainment.EngineMoves

/-! The wiring of `async_setup_entry`: the streaming flags of the API server, the frame watchdog and the
engine behind both. A handler runs until it first suspends, which is inside `async_restore_lights`
or not at all, so each is one step. -/

namespace HueEntertainment.Wiring
open HueEntertainment.Const PyValue Entertainment EngineSteps EngineFrames EngineMoves TaskTable Runs

abbrev WatchdogId := Nat

/-- Where a `_frame_watchdog` task is suspended; `tearingDown` is in the stop that it called. -/
inductive WatchdogPc where
  | created
  | sleeping
  | tearingDown (teardown : TeardownId)
  | done
  deriving DecidableEq, Repr

structure Watchdog where
  pc : WatchdogPc
  cancelling : Bool
  deriving DecidableEq, Repr

/-- A loaded entry; `closing` is ghost and says that its unload or Home Assistant's shutdown has begun. -/
structure Bridge where
  engine : Engine
  entertainmentActive : Bool := false
  entertainmentOwner : Option String := none
  watchdogTask : Option WatchdogId := none
  watchdogs : WatchdogId → Option Watchdog := fun _ => none
  nextWatchdog : WatchdogId := 0
  closing : Bool := false

namespace Bridge

/-- `watchdog_task.done()`: a task whose stop is over has nothing left to do. -/
def watchdogDone (b : Bridge) (watchdog : WatchdogId) : Bool :=
  match b.watchdogs watchdog with
  | some ⟨.done, _⟩ => true
  | some ⟨.tearingDown teardown, _⟩ =>
      match b.engine.teardowns teardown with
      | some .done => true
      | _ => false
  | _ => false

@[simps]
def setWatchdog (b : Bridge) (watchdog : WatchdogId) (task : Watchdog) : Bridge :=
  { b with watchdogs := Function.update b.watchdogs watchdog (some task) }

/-- The watchdog is inside its stop. -/
def stopping (b : Bridge) (watchdog : WatchdogId) : Bool :=
  match b.watchdogs watchdog with
  | some ⟨.tearingDown _, _⟩ => !b.watchdogDone watchdog
  | _ => false

/-- The watchdog is inside the `async_reproduce_state` of its stop. -/
def reproducing (b : Bridge) (watchdog : WatchdogId) : Bool :=
  match b.watchdogs watchdog with
  | some ⟨.tearingDown teardown, _⟩ =>
      match b.engine.teardowns teardown with
      | some (.reproducing _) => true
      | _ => false
  | _ => false

/-- `watchdog_task.cancel()`. A task that waits for the drain task in `async_restore_lights` swallows
the cancellation there. -/
def cancelTask (b : Bridge) (watchdog : WatchdogId) : Bridge :=
  match b.watchdogs watchdog with
  | some ⟨.tearingDown teardown, cancelling⟩ =>
      b.setWatchdog watchdog ⟨.tearingDown teardown, cancelling || b.reproducing watchdog⟩
  | some ⟨pc, _⟩ => b.setWatchdog watchdog ⟨pc, true⟩
  | none => b

def cancelWatchdog (b : Bridge) : Bridge :=
  match b.watchdogTask with
  | some watchdog => { (if b.watchdogDone watchdog then b else b.cancelTask watchdog) with watchdogTask := none }
  | none => b

@[simps]
def clearEntertainment (b : Bridge) : Bridge :=
  { b with entertainmentActive := false, entertainmentOwner := none }

@[simps!]
def asyncStopEntertainmentSession (b : Bridge) : Bridge :=
  { b.clearEntertainment with engine := b.engine.asyncRestoreLights }

/-- `entry.async_create_background_task(hass, _frame_watchdog())`. -/
def createWatchdog (b : Bridge) : Bridge :=
  { b.setWatchdog b.nextWatchdog ⟨.created, false⟩ with
    watchdogTask := some b.nextWatchdog, nextWatchdog := b.nextWatchdog + 1 }

def onEntertainmentStart (b : Bridge) : Bridge :=
  let b := { b with engine := b.engine.asyncSnapshotLights }
  if b.watchdogTask.all b.watchdogDone then b.createWatchdog else b

def onEntertainmentStop (b : Bridge) : Bridge := b.cancelWatchdog.asyncStopEntertainmentSession

/-- `_set_entertainment_active`, with the callback it awaits. -/
def setEntertainmentActive (b : Bridge) (active : Bool) (username : String) : Bridge :=
  if active then
    onEntertainmentStart { b with entertainmentActive := true, entertainmentOwner := some username }
  else b.clearEntertainment.onEntertainmentStop

/-- The release service. -/
def asyncHandleRelease (b : Bridge) (seconds : ℚ) : Bridge :=
  { b.clearEntertainment with engine := b.engine.asyncRelease seconds }

/-- One step of a watchdog task, from its creation or its sleep to its next suspension or its end. -/
def watchdogStep (b : Bridge) (watchdog : WatchdogId) : Option Bridge :=
  match b.watchdogs watchdog with
  | some ⟨.created, true⟩ | some ⟨.sleeping, true⟩ => some (b.setWatchdog watchdog ⟨.done, true⟩)
  | some ⟨.created, false⟩ =>
      some (b.setWatchdog watchdog ⟨if b.engine.active then .sleeping else .done, false⟩)
  | some ⟨.sleeping, false⟩ =>
      if !b.engine.active then some (b.setWatchdog watchdog ⟨.done, false⟩)
      else if frameTimeout < b.engine.now - b.engine.lastFrameTime then
        some (b.asyncStopEntertainmentSession.setWatchdog watchdog ⟨.tearingDown b.engine.nextTeardown, false⟩)
      else some (b.setWatchdog watchdog ⟨.sleeping, false⟩)
  | _ => none

/-- The stop runs in a watchdog that was cancelled in it. -/
def stopCancelled (b : Bridge) (teardown : TeardownId) : Bool :=
  (List.range b.nextWatchdog).any (fun watchdog => b.watchdogs watchdog == some ⟨.tearingDown teardown, true⟩)

/-- What happens to the engine without going through the API server, the release service or a stop.
The `async_reproduce_state` of a stop ends cancelled when its task was cancelled, and only then. -/
def engineStep (b : Bridge) (event : Event) : Option Bridge :=
  match event with
  | .snapshot | .restore | .release _ => none
  | .reproduced teardown outcome =>
      if decide (outcome = .cancelled) = b.stopCancelled teardown then
        (EngineSteps.step b.engine (.reproduced teardown outcome)).map (fun engine => { b with engine := engine })
      else none
  | event => (EngineSteps.step b.engine event).map (fun engine => { b with engine := engine })

/-- The start of `async_unload_entry` or of `_async_stop`, before the servers are stopped. -/
def beginClosing (b : Bridge) : Bridge := { b.cancelWatchdog with closing := true }

/-- Home Assistant cancels the background tasks that belong to the entry: when it has unloaded it, and when it stops. -/
def cancelTasks (b : Bridge) : Bridge :=
  { b with
    watchdogs := fun watchdog =>
      if b.watchdogDone watchdog then b.watchdogs watchdog else (b.cancelTask watchdog).watchdogs watchdog
    closing := true }

/-- Their `async_restore_lights`, once the servers have been stopped. -/
def restoreClosing (b : Bridge) : Bridge := { b with engine := b.engine.asyncRestoreLights }

end Bridge

inductive BridgeEvent where
  | setActive (active : Bool) (username : String)
  | release (seconds : ℚ)
  | watchdog (watchdog : WatchdogId)
  | engine (event : Event)
  | beginClosing
  | cancelTasks
  | restoreClosing

def step (b : Bridge) : BridgeEvent → Option Bridge
  | .setActive active username => some (b.setEntertainmentActive active username)
  | .release seconds => some (b.asyncHandleRelease seconds)
  | .watchdog watchdog => b.watchdogStep watchdog
  | .engine event => b.engineStep event
  | .beginClosing => some b.beginClosing
  | .cancelTasks => some b.cancelTasks
  | .restoreClosing => if b.closing then some b.restoreClosing else none

/-- The entry from its setup on. -/
def bridge : Machine Bridge BridgeEvent where
  Start := fun b => ∃ engine, EngineSteps.machine.Start engine ∧ b = { engine := engine }
  step := step

/-- Everything of a bridge but its engine. -/
def wires (b : Bridge) :=
  (b.entertainmentActive, b.entertainmentOwner, b.watchdogTask, b.watchdogs, b.nextWatchdog, b.closing)

/-- What a step of the engine on its own is: no start, stop or release. -/
def Own : Event → Prop
  | .snapshot | .restore | .release _ => False
  | _ => True

theorem engineStep_eq {b t : Bridge} {event : Event} (step : b.engineStep event = some t) :
    Own event ∧ EngineSteps.machine.step b.engine event = some t.engine ∧ wires t = wires b ∧
      ∀ teardown outcome, event = .reproduced teardown outcome →
        (outcome = .cancelled ↔ b.stopCancelled teardown = true) := by
  have passed : ∀ event', (EngineSteps.step b.engine event').map (fun engine => { b with engine := engine }) = some t →
      EngineSteps.machine.step b.engine event' = some t.engine ∧ wires t = wires b := by
    intro event' passed
    obtain ⟨engine, moved, rfl⟩ := Option.map_eq_some_iff.mp passed
    exact ⟨moved, rfl⟩
  unfold Bridge.engineStep at step
  cases event with
  | snapshot => cases step
  | restore => cases step
  | release seconds => cases step
  | reproduced teardown outcome =>
    simp only [] at step
    split at step
    next owned =>
      obtain ⟨moved, same⟩ := passed _ step
      refine ⟨trivial, moved, same, ?_⟩
      intro teardown' outcome' here
      cases here
      rw [← owned]
      simp
    next => cases step
  | _ =>
    obtain ⟨moved, same⟩ := passed _ step
    exact ⟨trivial, moved, same, fun _ _ here => by cases here⟩

theorem own_bridge {b : Bridge} {event : Event} {s : Engine} (own : Own event)
    (owned : ∀ teardown outcome, event = .reproduced teardown outcome →
      (outcome = .cancelled ↔ b.stopCancelled teardown = true))
    (moved : EngineSteps.machine.step b.engine event = some s) :
    bridge.step b (.engine event) = some { b with engine := s } := by
  have passed : (EngineSteps.step b.engine event).map (fun engine => { b with engine := engine }) =
      some { b with engine := s } := by
    change EngineSteps.step b.engine event = some s at moved
    rw [moved]
    rfl
  cases event with
  | snapshot => exact own.elim
  | restore => exact own.elim
  | release seconds => exact own.elim
  | reproduced teardown outcome =>
    have ours : decide (outcome = .cancelled) = b.stopCancelled teardown := by
      rw [Bool.eq_iff_iff, decide_eq_true_iff]
      exact owned teardown outcome rfl
    exact (if_pos ours).trans passed
  | _ => exact passed

/-- The three kinds of step a watchdog takes. -/
inductive WatchdogMove (b : Bridge) (watchdog : WatchdogId) : Bridge → Prop where
  | cancelled {pc : WatchdogPc} (found : b.watchdogs watchdog = some ⟨pc, true⟩) :
      WatchdogMove b watchdog (b.setWatchdog watchdog ⟨.done, true⟩)
  | looked {pc after : WatchdogPc} (found : b.watchdogs watchdog = some ⟨pc, false⟩)
      (polling : pc = .created ∨ pc = .sleeping) (halts : after = .sleeping ∨ after = .done)
      (still : b.engine.active = true → after = .sleeping) :
      WatchdogMove b watchdog (b.setWatchdog watchdog ⟨after, false⟩)
  | timedOut (found : b.watchdogs watchdog = some ⟨.sleeping, false⟩) (active : b.engine.active = true)
      (silent : frameTimeout < b.engine.now - b.engine.lastFrameTime) :
      WatchdogMove b watchdog
        (b.asyncStopEntertainmentSession.setWatchdog watchdog ⟨.tearingDown b.engine.nextTeardown, false⟩)

theorem watchdogStep_move {b t : Bridge} {watchdog : WatchdogId} (stepped : b.watchdogStep watchdog = some t) :
    WatchdogMove b watchdog t := by
  unfold Bridge.watchdogStep at stepped
  split at stepped
  next found =>
    cases stepped
    exact .cancelled found
  next found =>
    cases stepped
    exact .cancelled found
  next found =>
    cases stepped
    refine .looked found (.inl rfl) ?_ (fun active => if_pos active)
    by_cases active : b.engine.active = true
    · exact .inl (if_pos active)
    · exact .inr (if_neg active)
  next found =>
    split at stepped
    next inactive =>
      cases stepped
      refine .looked found (.inr rfl) (.inr rfl) ?_
      intro active
      simp [active] at inactive
    next active =>
      split at stepped
      next silent =>
        cases stepped
        exact .timedOut found (by simpa using active) silent
      next =>
        cases stepped
        exact .looked found (.inr rfl) (.inl rfl) (fun _ => rfl)
  next => cases stepped

theorem cancelTask_eq (b : Bridge) (watchdog : WatchdogId) : b.cancelTask watchdog = b ∨
    ∃ pc cancelling marked, b.watchdogs watchdog = some ⟨pc, cancelling⟩ ∧
      b.cancelTask watchdog = b.setWatchdog watchdog ⟨pc, marked⟩ ∧
      (marked = true → cancelling = true ∨ b.reproducing watchdog = true ∨
        ∀ teardown, pc ≠ .tearingDown teardown) := by
  unfold Bridge.cancelTask
  split
  next teardown cancelling found =>
    refine .inr ⟨_, cancelling, cancelling || b.reproducing watchdog, found, rfl, ?_⟩
    intro marked
    rcases Bool.or_eq_true_iff.mp marked with before | now
    · exact .inl before
    · exact .inr (.inl now)
  next pc cancelling other found =>
    refine .inr ⟨pc, cancelling, true, found, rfl, fun _ => .inr (.inr ?_)⟩
    rintro teardown rfl
    exact other teardown rfl
  next => exact .inl rfl

theorem cancelWatchdog_eq (b : Bridge) : ∃ cancelled, b.cancelWatchdog = { cancelled with watchdogTask := none } ∧
    (cancelled = b ∨ ∃ watchdog, b.watchdogTask = some watchdog ∧ b.watchdogDone watchdog = false ∧
      cancelled = b.cancelTask watchdog) := by
  unfold Bridge.cancelWatchdog
  cases named : b.watchdogTask with
  | none =>
    have same : b = { b with watchdogTask := none } := by rw [← named]
    exact ⟨b, same, .inl rfl⟩
  | some watchdog =>
    cases finished : b.watchdogDone watchdog with
    | true => exact ⟨b, by simp [finished], .inl rfl⟩
    | false => exact ⟨b.cancelTask watchdog, by simp [finished], .inr ⟨watchdog, rfl, finished, rfl⟩⟩

/-- A cancellation of the watchdog touches nothing else. -/
theorem cancelWatchdog_frame (b : Bridge) :
    ∃ watchdogs, b.cancelWatchdog = { b with watchdogTask := none, watchdogs := watchdogs } := by
  obtain ⟨cancelled, same, rfl | ⟨watchdog, _, _, rfl⟩⟩ := cancelWatchdog_eq b
  · exact ⟨cancelled.watchdogs, same⟩
  · rcases cancelTask_eq b watchdog with kept | ⟨pc, cancelling, marked, found, marks, _⟩
    · exact ⟨b.watchdogs, by rw [same, kept]⟩
    · exact ⟨_, by rw [same, marks]; rfl⟩

@[simp]
theorem cancelWatchdog_engine (b : Bridge) : b.cancelWatchdog.engine = b.engine := by
  obtain ⟨watchdogs, same⟩ := cancelWatchdog_frame b
  rw [same]

theorem stopped_engine (b : Bridge) (username : String) :
    (b.setEntertainmentActive false username).engine = b.engine.asyncRestoreLights := by
  simp [Bridge.setEntertainmentActive, Bridge.onEntertainmentStop]

@[simp]
theorem cancelWatchdog_task (b : Bridge) : b.cancelWatchdog.watchdogTask = none := by
  obtain ⟨watchdogs, same⟩ := cancelWatchdog_frame b
  rw [same]

theorem cancelTasks_watchdogs (b : Bridge) (watchdog : WatchdogId) : b.cancelTasks.watchdogs watchdog =
    if b.watchdogDone watchdog then b.watchdogs watchdog else (b.cancelTask watchdog).watchdogs watchdog := rfl

/-- A task that Home Assistant cancels stays where it was, and is marked inside its stop only if that restores. -/
theorem cancelTasks_found {b : Bridge} {watchdog : WatchdogId} {pc : WatchdogPc} {marked : Bool}
    (found : b.cancelTasks.watchdogs watchdog = some ⟨pc, marked⟩) :
    ∃ cancelling, b.watchdogs watchdog = some ⟨pc, cancelling⟩ ∧
      (marked = true → cancelling = true ∨ b.reproducing watchdog = true ∨ ∀ teardown, pc ≠ .tearingDown teardown) := by
  rw [cancelTasks_watchdogs] at found
  split at found
  next => exact ⟨marked, found, .inl⟩
  next =>
    rcases cancelTask_eq b watchdog with kept | ⟨pc', cancelling, marked', before, marks, why⟩
    · rw [kept] at found
      exact ⟨marked, found, .inl⟩
    · rw [marks, Bridge.setWatchdog_watchdogs, Function.update_self] at found
      cases found
      exact ⟨cancelling, before, why⟩

/-- Watchdogs are numbered as they are created. -/
def Numbered (b : Bridge) : Prop := ∀ watchdog, b.nextWatchdog ≤ watchdog → b.watchdogs watchdog = none

theorem Numbered.set {b : Bridge} (numbered : Numbered b) {watchdog : WatchdogId} {old : Watchdog}
    (found : b.watchdogs watchdog = some old) (task : Watchdog) : Numbered (b.setWatchdog watchdog task) :=
  Fresh.replace numbered found _

theorem Numbered.cancel {b : Bridge} (numbered : Numbered b) : Numbered b.cancelWatchdog := by
  obtain ⟨cancelled, same, rfl | ⟨watchdog, _, _, rfl⟩⟩ := cancelWatchdog_eq b
  · rw [same]
    exact numbered
  · rw [same]
    rcases cancelTask_eq b watchdog with kept | ⟨pc, cancelling, marked, found, marks, _⟩
    · rw [kept]
      exact numbered
    · rw [marks]
      exact numbered.set found ⟨pc, marked⟩

theorem Numbered.cancelTasks {b : Bridge} (numbered : Numbered b) : Numbered b.cancelTasks := by
  intro watchdog later
  have unknown := numbered watchdog later
  have kept : b.cancelTask watchdog = b := by
    unfold Bridge.cancelTask
    rw [unknown]
  rw [cancelTasks_watchdogs, kept, unknown, ite_self]

theorem Numbered.started {b : Bridge} (numbered : Numbered b) : Numbered b.onEntertainmentStart := by
  unfold Bridge.onEntertainmentStart
  simp only []
  split
  next => exact Fresh.create numbered _
  next => exact numbered

theorem numbered {ok : Bridge → BridgeEvent → Prop} {b : Bridge} (reached : Reachable bridge ok b) : Numbered b := by
  apply reached.invariant Numbered
  · rintro b ⟨engine, start, rfl⟩ watchdog _
    rfl
  · intro x event y before _ stepped
    change step x event = some y at stepped
    cases event with
    | setActive active username =>
      cases stepped
      cases active with
      | true =>
        exact Numbered.started
          (b := { x with entertainmentActive := true, entertainmentOwner := some username }) before
      | false => exact Numbered.cancel (b := x.clearEntertainment) before
    | release seconds =>
      cases stepped
      exact before
    | watchdog watchdog =>
      cases watchdogStep_move stepped with
      | cancelled found => exact before.set found _
      | looked found polling halts still => exact before.set found _
      | timedOut found active silent => exact Numbered.set (b := x.asyncStopEntertainmentSession) before found _
    | engine event =>
      have same := (engineStep_eq stepped).2.2.1
      simp only [wires, Prod.mk.injEq] at same
      obtain ⟨_, _, _, watchdogs, next, _⟩ := same
      intro watchdog later
      rw [watchdogs]
      exact before watchdog (next ▸ later)
    | beginClosing =>
      cases stepped
      exact before.cancel
    | cancelTasks =>
      cases stepped
      exact before.cancelTasks
    | restoreClosing =>
      simp only [step] at stepped
      split at stepped
      · cases stepped
        exact before
      · cases stepped

/-- What the engine's step is a part of. -/
def Drives (event : BridgeEvent) : Event → Prop
  | .snapshot => ∃ username, event = .setActive true username
  | .restore | .release _ => True
  | own => event = .engine own

/-- A step of the bridge is a step of its engine, or leaves the engine alone. A restore that has begun ends cancelled
exactly when the task it runs in was cancelled. -/
theorem step_engine {b t : Bridge} {event : BridgeEvent} (stepped : bridge.step b event = some t) :
    t.engine = b.engine ∨ ∃ own, EngineSteps.machine.step b.engine own = some t.engine ∧ Drives event own ∧
      ∀ teardown outcome, own = .reproduced teardown outcome →
        (outcome = .cancelled ↔ b.stopCancelled teardown = true) := by
  change step b event = some t at stepped
  cases event with
  | setActive active username =>
    cases stepped
    right
    cases active with
    | true =>
      refine ⟨.snapshot, ?_, ⟨username, rfl⟩, fun _ _ here => by cases here⟩
      simp only [Bridge.setEntertainmentActive, Bridge.onEntertainmentStart, ↓reduceIte]
      split <;> rfl
    | false =>
      refine ⟨.restore, ?_, trivial, fun _ _ here => by cases here⟩
      simp [Bridge.setEntertainmentActive, Bridge.onEntertainmentStop, EngineSteps.machine, EngineSteps.step]
  | release seconds =>
    cases stepped
    exact .inr ⟨.release seconds, rfl, trivial, fun _ _ here => by cases here⟩
  | watchdog watchdog =>
    cases watchdogStep_move stepped with
    | cancelled found => exact .inl rfl
    | looked found polling halts still => exact .inl rfl
    | timedOut found active silent => exact .inr ⟨.restore, rfl, trivial, fun _ _ here => by cases here⟩
  | engine event =>
    obtain ⟨own, moved, _, owned⟩ := engineStep_eq stepped
    refine .inr ⟨event, moved, ?_, owned⟩
    cases event with
    | snapshot => exact own.elim
    | restore => exact own.elim
    | release seconds => exact own.elim
    | _ => rfl
  | beginClosing =>
    cases stepped
    exact .inl (cancelWatchdog_engine b)
  | cancelTasks =>
    cases stepped
    exact .inl rfl
  | restoreClosing =>
    simp only [step] at stepped
    split at stepped
    · cases stepped
      exact .inr ⟨.restore, rfl, trivial, fun _ _ here => by cases here⟩
    · cases stepped

/-- Runs of the bridge are runs of its engine. -/
theorem bridge_simulates : Simulation bridge EngineSteps.machine Bridge.engine where
  start := by
    rintro b ⟨engine, start, rfl⟩
    exact start
  step := by
    intro b event t stepped
    rcases step_engine stepped with same | ⟨own, moved, _, _⟩
    · exact ⟨[], same ▸ .nil _⟩
    · exact ⟨[own], .cons trivial moved (.nil _)⟩

theorem snapshot_flags (s : Engine) :
    s.asyncSnapshotLights.active = true ∧ s.asyncSnapshotLights.releasing = false := by
  have move := snapshot_move s
  generalize s.asyncSnapshotLights = t at move
  cases move with
  | snapshotKept closed =>
    unfold Opens at closed
    simp only [not_or, Bool.not_eq_true, Bool.not_eq_false] at closed
    exact ⟨closed.2, closed.1⟩
  | snapshotJoined unholds notices running => exact ⟨rfl, rfl⟩
  | snapshotStarted unholds notices idle notices' => exact ⟨rfl, rfl⟩

/-- A start leaves the stops that are under way alone. -/
theorem snapshot_teardowns (s : Engine) : s.asyncSnapshotLights.teardowns = s.teardowns := by
  have move := snapshot_move s
  generalize s.asyncSnapshotLights = t at move
  cases move with
  | snapshotKept closed => rfl
  | snapshotJoined unholds notices running => rfl
  | snapshotStarted unholds notices idle notices' => rfl

theorem restore_inactive (s : Engine) : s.asyncRestoreLights.active = false := by
  have move := restore_move s
  generalize s.asyncRestoreLights = t at move
  cases move with
  | restoreKept inactive => exact inactive
  | restoreSuspended active waits notices => rfl
  | restoreTook active free notices notices' => rfl

/-- On its own the engine neither begins nor ends a session, and resolves a release only without one. -/
theorem own_flags {s t : Engine} {event : Event} (own : Own event) (step : EngineSteps.machine.step s event = some t) :
    t.active = s.active ∧ (t.releasing = s.releasing ∨ s.active = false) := by
  cases step_move step with
  | snapshotKept closed => exact own.elim
  | snapshotJoined unholds notices running => exact own.elim
  | snapshotStarted unholds notices idle notices' => exact own.elim
  | restoreKept inactive => exact own.elim
  | restoreSuspended active waits notices => exact own.elim
  | restoreTook active free notices notices' => exact own.elim
  | released notices => exact own.elim
  | graceEnded pending releasing inactive notices => exact ⟨rfl, .inr inactive⟩
  | drain move =>
    obtain ⟨_, _, _, _, _, _, rfl⟩ := move.frame
    exact ⟨rfl, .inl rfl⟩
  | _ => exact ⟨rfl, .inl rfl⟩

end HueEntertainment.Wiring
