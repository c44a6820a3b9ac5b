import HueEntertainment.SessionModel
import HueEntertainment.Unload

/-! Runs with pauses against runs without. The session model has no pause, and every step of the bridge that the model
takes can be taken by any bridge with the same session, once its cancelled loop has ended. -/

namespace HueEntertainment.PauseTransparency
open HueStream LightCommand PyValue Entertainment EngineSteps EngineFrames DrainSteps EngineMoves EngineHistory DrainTask
  EngineSlots PauseRelease SavedStates SessionLoop SessionModel Unload BegunRestore TaskTable Wiring Runs
open ClassicCalls (redFrame)

/-- An event of the bridge without what is the engine's own affair. -/
inductive Kept where
  | setActive (active : Bool) (username : String)
  | release (seconds : ℚ)
  | watchdog (watchdog : WatchdogId)
  | session (event : SessionEvent)
  | beginClosing
  | cancelTasks
  | restoreClosing

/-- What remains of an event without the pauses and the steps of the drain loops. -/
def remains (b : Bridge) : BridgeEvent → Option Kept
  | .setActive active username => some (.setActive active username)
  | .release seconds => some (.release seconds)
  | .watchdog watchdog => some (.watchdog watchdog)
  | .engine event => (label b.engine event).map .session
  | .beginClosing => some .beginClosing
  | .cancelTasks => some .cancelTasks
  | .restoreClosing => some .restoreClosing

/-- The flags, the watchdogs and the session. -/
def shown (b : Bridge) := (wires b, view b.engine)

/-- The step is no pause, no resume and no expiry of a pause. -/
def Unpausing (b : Bridge) : BridgeEvent → Prop
  | .engine (.pause _) | .engine .resume => False
  | .engine (.fire timer) => ¬Pending b.engine.timers .pauseExpired timer
  | _ => True

/-- The step begins no session while an `async_restore_lights` waits for its drain task. -/
def Unrestarted (b : Bridge) : BridgeEvent → Prop
  | .setActive true _ => AwaitsDrain b.engine → ¬Opens b.engine
  | _ => True

theorem unrestarted_engine {b t : Bridge} {event : BridgeEvent} (unrestarted : Unrestarted b event)
    (stepped : bridge.step b event = some t) : t.engine = b.engine ∨
      ∃ own, UnrestartedWait b.engine own ∧ EngineSteps.machine.step b.engine own = some t.engine := by
  rcases step_engine stepped with same | ⟨own, moved, drives, _⟩
  · exact .inl same
  · refine .inr ⟨own, ?_, moved⟩
    intro awaits ⟨starts, opens⟩
    rw [starts] at drives
    obtain ⟨username, rfl⟩ := drives
    exact unrestarted awaits opens

theorem unrestarted_reachable {b : Bridge} (reached : Reachable bridge Unrestarted b) :
    Reachable EngineSteps.machine UnrestartedWait b.engine := by
  refine reached.invariant (fun b => Reachable EngineSteps.machine UnrestartedWait b.engine) ?_ ?_
  · intro b start
    obtain ⟨engine, start, rfl⟩ := start
    exact ⟨engine, [], start, .nil _⟩
  · intro b event t before unrestarted stepped
    rcases unrestarted_engine unrestarted stepped with same | ⟨own, quiet, moved⟩
    · rw [same]
      exact before
    · exact before.step quiet moved

/-- Two bridges that look the same, both reached without a restart in a wait. -/
structure Alike (p u : Bridge) : Prop where
  same : shown u = shown p
  left : Reachable bridge Unrestarted p
  right : Reachable bridge Unrestarted u

theorem Alike.wires {p u : Bridge} (alike : Alike p u) : wires u = wires p := (Prod.mk.inj alike.same).1

theorem Alike.view {p u : Bridge} (alike : Alike p u) : view u.engine = view p.engine := (Prod.mk.inj alike.same).2

theorem awaits_iff (s : Engine) : AwaitsDrain s ↔ ∃ stop, (view s).stops stop = some .waiting := by
  refine exists_congr fun stop => ?_
  rw [view_stops]
  cases s.teardowns stop with
  | none => simp
  | some pc => cases pc <;> simp [stopOf]

theorem refines {b : Bridge} (reached : Reachable bridge Unrestarted b) (event : Event) {t : Engine}
    (stepped : EngineSteps.machine.step b.engine event = some t) : Refines b.engine event t :=
  have engine := unrestarted_reachable reached
  view_step (timersOwned engine) (looped engine) stepped

/-- The same step of the session leads to the same session. -/
theorem view_congr {s s' t t' : Engine} {event event' : Event} (left : Refines s event t) (right : Refines s' event' t')
    (same : view s' = view s) (labels : label s' event' = label s event) : view t' = view t := by
  unfold Refines at left right
  rw [labels, same] at right
  cases visible : label s event with
  | none =>
    rw [visible] at left right
    exact right.trans left.symm
  | some taken =>
    rw [visible] at left right
    exact Option.some.inj (right.symm.trans left)

/-- The stop is over, as a watchdog that waits for it sees it. -/
def finished : Option Teardown → Bool
  | some .done => true
  | _ => false

/-- The stop sets the lights back, where a cancellation of the watchdog reaches it. -/
def restoring : Option Teardown → Bool
  | some (.reproducing _) => true
  | _ => false

section
variable {b : Bridge} {s : Engine} (same : view s = view b.engine)
include same

theorem stop_of_same (teardown : TeardownId) :
    (s.teardowns teardown).map stopOf = (b.engine.teardowns teardown).map stopOf :=
  congrFun (congrArg Session.stops same) teardown

omit same in
/-- What does not depend on the loop that a stop waits for is read off the stop as the view shows it. -/
theorem read_stop {α : Type} (read : Option Teardown → α)
    (blind : ∀ drain other, read (some (.awaitingDrain drain)) = read (some (.awaitingDrain other)))
    {mine theirs : Option Teardown} (stop : mine.map stopOf = theirs.map stopOf) : read mine = read theirs := by
  cases mine with
  | none =>
    cases theirs with
    | none => rfl
    | some theirs => cases stop
  | some mine =>
    cases theirs with
    | none => cases stop
    | some theirs =>
      have alike : stopOf mine = stopOf theirs := Option.some.inj stop
      cases mine <;> cases theirs <;> cases alike <;> first | rfl | exact blind _ _

theorem watchdogDone_on (watchdog : WatchdogId) : ({ b with engine := s } : Bridge).watchdogDone watchdog =
    b.watchdogDone watchdog := by
  unfold Bridge.watchdogDone
  simp only []
  split
  next => rfl
  next teardown _ found =>
    exact read_stop finished (fun _ _ => rfl) (stop_of_same same teardown)
  next => rfl

theorem reproducing_on (watchdog : WatchdogId) : ({ b with engine := s } : Bridge).reproducing watchdog =
    b.reproducing watchdog := by
  unfold Bridge.reproducing
  simp only []
  split
  next teardown _ found =>
    exact read_stop restoring (fun _ _ => rfl) (stop_of_same same teardown)
  next => rfl

theorem cancelTask_on (watchdog : WatchdogId) : ({ b with engine := s } : Bridge).cancelTask watchdog =
    { b.cancelTask watchdog with engine := s } := by
  unfold Bridge.cancelTask
  simp only []
  split
  next teardown cancelling found => rw [reproducing_on same]; rfl
  next => rfl
  next => rfl

theorem cancelWatchdog_on : ({ b with engine := s } : Bridge).cancelWatchdog =
    { b.cancelWatchdog with engine := s } := by
  unfold Bridge.cancelWatchdog
  simp only []
  split
  next watchdog named =>
    rw [watchdogDone_on same, cancelTask_on same]
    split <;> rfl
  next => rfl

theorem cancelTasks_on : ({ b with engine := s } : Bridge).cancelTasks = { b.cancelTasks with engine := s } := by
  have table : ({ b with engine := s } : Bridge).cancelTasks.watchdogs = b.cancelTasks.watchdogs := by
    funext watchdog
    rw [cancelTasks_watchdogs, cancelTasks_watchdogs, watchdogDone_on same, cancelTask_on same]
  exact congrArg (fun watchdogs => { b with engine := s, watchdogs := watchdogs, closing := true }) table

end

/-- A start shows the same on both engines, if their snapshots do. -/
theorem start_on {b : Bridge} {s : Engine} {username : String}
    (same : view s.asyncSnapshotLights = view b.engine.asyncSnapshotLights) :
    shown (({ b with engine := s } : Bridge).setEntertainmentActive true username) =
      shown (b.setEntertainmentActive true username) := by
  let begun : Bridge :=
    { b with engine := b.engine.asyncSnapshotLights, entertainmentActive := true, entertainmentOwner := some username }
  have finished : ({ begun with engine := s.asyncSnapshotLights } : Bridge).watchdogDone = begun.watchdogDone :=
    funext (watchdogDone_on (b := begun) same)
  have left : ({ b with engine := s } : Bridge).setEntertainmentActive true username =
      if begun.watchdogTask.all ({ begun with engine := s.asyncSnapshotLights } : Bridge).watchdogDone then
        ({ begun with engine := s.asyncSnapshotLights } : Bridge).createWatchdog
      else { begun with engine := s.asyncSnapshotLights } := rfl
  have right : b.setEntertainmentActive true username =
      if begun.watchdogTask.all begun.watchdogDone then begun.createWatchdog else begun := rfl
  rw [left, right, finished]
  split
  next => exact Prod.ext rfl same
  next => exact Prod.ext rfl same

/-- So does a stop. -/
theorem stop_on {b : Bridge} {s : Engine} {username : String} (before : view s = view b.engine)
    (same : view s.asyncRestoreLights = view b.engine.asyncRestoreLights) :
    shown (({ b with engine := s } : Bridge).setEntertainmentActive false username) =
      shown (b.setEntertainmentActive false username) := by
  let cleared : Bridge := b.clearEntertainment
  have left : ({ b with engine := s } : Bridge).setEntertainmentActive false username =
      ({ cleared with engine := s } : Bridge).cancelWatchdog.asyncStopEntertainmentSession := rfl
  have right : b.setEntertainmentActive false username = cleared.cancelWatchdog.asyncStopEntertainmentSession := rfl
  have engine : cleared.cancelWatchdog.engine = b.engine := cancelWatchdog_engine cleared
  rw [left, right, cancelWatchdog_on (b := cleared) before]
  refine Prod.ext rfl ?_
  simp only [shown, Bridge.asyncStopEntertainmentSession_engine, engine]
  exact same

/-- A watchdog reads nothing else of the engine. -/
theorem watchdog_on {b q : Bridge} {s : Engine} {watchdog : WatchdogId} (before : view s = view b.engine)
    (same : view s.asyncRestoreLights = view b.engine.asyncRestoreLights)
    (stepped : b.watchdogStep watchdog = some q) :
    ∃ v, ({ b with engine := s } : Bridge).watchdogStep watchdog = some v ∧ shown v = shown q := by
  have active : s.active = b.engine.active := congrArg Session.active before
  have now : s.now = b.engine.now := congrArg Session.now before
  have last : s.lastFrameTime = b.engine.lastFrameTime := congrArg Session.lastFrameTime before
  have stop : s.nextTeardown = b.engine.nextTeardown := congrArg Session.nextStop before
  have kept : ∀ task, shown (({ b with engine := s } : Bridge).setWatchdog watchdog task) =
      shown (b.setWatchdog watchdog task) := fun _ => Prod.ext rfl before
  unfold Bridge.watchdogStep at stepped ⊢
  simp only [active, now, last, stop]
  split at stepped
  next => exact ⟨_, rfl, Option.some.inj stepped ▸ kept _⟩
  next => exact ⟨_, rfl, Option.some.inj stepped ▸ kept _⟩
  next => exact ⟨_, rfl, Option.some.inj stepped ▸ kept _⟩
  next =>
    split at stepped
    next inactive => exact ⟨_, if_pos inactive, Option.some.inj stepped ▸ kept _⟩
    next streaming =>
      rw [if_neg streaming]
      split at stepped
      next silent => exact ⟨_, if_pos silent, Option.some.inj stepped ▸ Prod.ext rfl same⟩
      next fed => exact ⟨_, if_neg fed, Option.some.inj stepped ▸ kept _⟩
  next => cases stepped

/-- A step without pauses and without a restart in a wait. -/
def Plain (b : Bridge) (event : BridgeEvent) : Prop := Unpausing b event ∧ Unrestarted b event

/-- From `u` on some run does what `event` does to `p`. -/
def Matched (p u : Bridge) (event : BridgeEvent) (q : Bridge) : Prop :=
  ∃ events v, Run bridge Plain u events v ∧ shown v = shown q ∧
    trajectory remains shown bridge u events = trajectory remains shown bridge p [event]

section
variable {p u q v x : Bridge} {event event' : BridgeEvent}

theorem trajectory_one (stepped : bridge.step p event = some q) : trajectory remains shown bridge p [event] =
    (remains p event).toList.map (fun kept => (kept, shown p, shown q)) := by
  rw [trajectory_cons stepped, trajectory, List.append_nil]

theorem Matched.one (same : shown u = shown p) (stepped : bridge.step p event = some q)
    (stepped' : bridge.step u event' = some v) (plain : Plain u event') (kept : remains u event' = remains p event)
    (after : shown v = shown q) : Matched p u event q := by
  refine ⟨[event'], v, .cons plain stepped' (.nil v), after, ?_⟩
  rw [trajectory_one stepped, trajectory_one stepped', kept, same, after]

theorem Matched.silent (stepped : bridge.step p event = some q) (gone : remains p event = none)
    (after : shown u = shown q) : Matched p u event q := by
  refine ⟨[], u, .nil u, after, ?_⟩
  rw [trajectory_one stepped, gone]
  rfl

theorem Matched.later (stepped : bridge.step u event' = some x) (plain : Plain u event') (gone : remains u event' = none)
    (matched : Matched p x event q) : Matched p u event q := by
  obtain ⟨events, v, run, after, seen⟩ := matched
  refine ⟨event' :: events, v, .cons plain stepped run, after, ?_⟩
  rw [trajectory_cons stepped, gone, seen]
  rfl

end

section
variable {p u q : Bridge} (alike : Alike p u)
include alike

theorem Alike.eq : u = { p with engine := u.engine } := by
  have same := alike.wires
  obtain ⟨engine, active, owner, task, watchdogs, next, closing⟩ := u
  simp only [Wiring.wires, Prod.mk.injEq] at same
  obtain ⟨rfl, rfl, rfl, rfl, rfl, rfl⟩ := same
  rfl

/-- What is shown after the same step of both engines. -/
theorem Alike.stepped (event event' : Event) {s t : Engine} (left : EngineSteps.machine.step p.engine event = some s)
    (right : EngineSteps.machine.step u.engine event' = some t) (labels : label u.engine event' = label p.engine event) :
    SessionModel.view t = SessionModel.view s :=
  view_congr (refines alike.left event left) (refines alike.right event' right) alike.view labels

theorem Alike.unrestarted {username : String} (unrestarted : Unrestarted p (.setActive true username)) :
    Unrestarted u (.setActive true username) := by
  have active : u.engine.active = p.engine.active := congrArg Session.active alike.view
  have releasing : u.engine.releasing = p.engine.releasing := congrArg Session.releasing alike.view
  intro awaits
  rw [awaits_iff, alike.view, ← awaits_iff] at awaits
  unfold Opens
  rw [active, releasing]
  exact unrestarted awaits

theorem Alike.started {username : String} (unrestarted : Unrestarted p (.setActive true username))
    (stepped : bridge.step p (.setActive true username) = some q) : Matched p u (.setActive true username) q := by
  have views := alike.stepped .snapshot .snapshot (s := p.engine.asyncSnapshotLights)
    (t := u.engine.asyncSnapshotLights) rfl rfl rfl
  have plain : Plain u (.setActive true username) := ⟨trivial, alike.unrestarted unrestarted⟩
  refine .one alike.same stepped rfl plain rfl ?_
  cases stepped
  rw [alike.eq]
  exact start_on views

theorem Alike.stop {username : String} (stepped : bridge.step p (.setActive false username) = some q) :
    Matched p u (.setActive false username) q := by
  have views := alike.stepped .restore .restore (s := p.engine.asyncRestoreLights)
    (t := u.engine.asyncRestoreLights) rfl rfl rfl
  have plain : Plain u (.setActive false username) := ⟨trivial, trivial⟩
  refine .one alike.same stepped rfl plain rfl ?_
  cases stepped
  rw [alike.eq]
  exact stop_on alike.view views

theorem Alike.release {seconds : ℚ} (stepped : bridge.step p (.release seconds) = some q) :
    Matched p u (.release seconds) q := by
  have views := alike.stepped (.release seconds) (.release seconds) (s := p.engine.asyncRelease seconds)
    (t := u.engine.asyncRelease seconds) rfl rfl rfl
  have plain : Plain u (.release seconds) := ⟨trivial, trivial⟩
  refine .one alike.same stepped rfl plain rfl ?_
  cases stepped
  rw [alike.eq]
  exact Prod.ext rfl views

theorem Alike.beginClosing (stepped : bridge.step p .beginClosing = some q) : Matched p u .beginClosing q := by
  have plain : Plain u .beginClosing := ⟨trivial, trivial⟩
  refine .one alike.same stepped rfl plain rfl ?_
  cases stepped
  rw [alike.eq, Bridge.beginClosing, cancelWatchdog_on alike.view]
  refine Prod.ext rfl ?_
  simp only [shown, Bridge.beginClosing, cancelWatchdog_engine]
  exact alike.view

theorem Alike.cancelTasks (stepped : bridge.step p .cancelTasks = some q) : Matched p u .cancelTasks q := by
  have plain : Plain u .cancelTasks := ⟨trivial, trivial⟩
  refine .one alike.same stepped rfl plain rfl ?_
  cases stepped
  rw [alike.eq, cancelTasks_on alike.view]
  exact Prod.ext rfl alike.view

theorem Alike.restoreClosing (stepped : bridge.step p .restoreClosing = some q) : Matched p u .restoreClosing q := by
  have views := alike.stepped .restore .restore (s := p.engine.asyncRestoreLights)
    (t := u.engine.asyncRestoreLights) rfl rfl rfl
  have plain : Plain u .restoreClosing := ⟨trivial, trivial⟩
  have closing : p.closing = true ∧ q = p.restoreClosing := by
    change (if p.closing then some p.restoreClosing else Option.none) = some q at stepped
    split at stepped
    next closing =>
      cases stepped
      exact ⟨closing, rfl⟩
    next => cases stepped
  have stepped' : bridge.step u .restoreClosing = some u.restoreClosing := by
    rw [alike.eq]
    exact if_pos closing.1
  refine .one alike.same stepped stepped' plain rfl ?_
  rw [closing.2, alike.eq]
  exact Prod.ext rfl views

theorem Alike.watchdog {watchdog : WatchdogId} (stepped : bridge.step p (.watchdog watchdog) = some q) :
    Matched p u (.watchdog watchdog) q := by
  have views := alike.stepped .restore .restore (s := p.engine.asyncRestoreLights)
    (t := u.engine.asyncRestoreLights) rfl rfl rfl
  have plain : Plain u (.watchdog watchdog) := ⟨trivial, trivial⟩
  obtain ⟨v, moved, after⟩ := watchdog_on alike.view views stepped
  rw [← alike.eq] at moved
  have stepped' : bridge.step u (.watchdog watchdog) = some v := moved
  exact .one alike.same stepped stepped' plain rfl after

/-- A step of both engines on their own. -/
theorem Alike.own {event : Event} (event' : Event) {t : Engine} (stepped : bridge.step p (.engine event) = some q)
    (own : Own event') (owned : ∀ teardown outcome, event' = .reproduced teardown outcome →
      (outcome = .cancelled ↔ u.stopCancelled teardown = true))
    (moved : EngineSteps.machine.step u.engine event' = some t) (unpausing : Unpausing u (.engine event'))
    (labels : label u.engine event' = label p.engine event) : Matched p u (.engine event) q := by
  obtain ⟨_, ran, same, _⟩ := engineStep_eq stepped
  have plain : Plain u (.engine event') := ⟨unpausing, trivial⟩
  have kept : remains u (.engine event') = remains p (.engine event) := congrArg (Option.map Kept.session) labels
  refine .one alike.same stepped (own_bridge own owned moved) plain kept (Prod.ext ?_ (alike.stepped event event' ran moved labels))
  exact alike.wires.trans same.symm

theorem Alike.drained {teardown : TeardownId} {drain : DrainId}
    (stepped : bridge.step p (.engine (.drained teardown)) = some q)
    (waits : u.engine.teardowns teardown = some (.awaitingDrain drain)) (finished : u.engine.drainDone drain = true) :
    Matched p u (.engine (.drained teardown)) q := by
  have moved : EngineSteps.machine.step u.engine (.drained teardown) = some (u.engine.afterDrain teardown) := by
    change drainedStep u.engine teardown = _
    simp [drainedStep, waits, finished]
  exact alike.own (.drained teardown) stepped trivial (by rintro _ _ ⟨⟩) moved trivial rfl

end

theorem stop_waiting {s : Engine} {teardown : TeardownId} (waiting : (view s).stops teardown = some .waiting) :
    ∃ drain, s.teardowns teardown = some (.awaitingDrain drain) := by
  obtain ⟨pc, found, same⟩ := Option.map_eq_some_iff.mp waiting
  cases pc with
  | awaitingDrain drain => exact ⟨drain, found⟩
  | reproducing saved => cases same
  | done => cases same

theorem stop_reproducing {s : Engine} {teardown : TeardownId} {saved : Snapshot}
    (reproducing : (view s).stops teardown = some (.reproducing saved)) :
    s.teardowns teardown = some (.reproducing saved) := by
  obtain ⟨pc, found, same⟩ := Option.map_eq_some_iff.mp reproducing
  cases pc with
  | awaitingDrain drain => cases same
  | reproducing held =>
    cases same
    exact found
  | done => cases same

section
variable {p u q : Bridge} (alike : Alike p u)
include alike

/-- The cancelled loop that a stop waits for can end, and nothing of it is seen. -/
theorem Alike.ended {teardown : TeardownId} (stepped : bridge.step p (.engine (.drained teardown)) = some q) :
    Matched p u (.engine (.drained teardown)) q := by
  have own : p.engineStep (.drained teardown) = some q := stepped
  have ran : drainedStep p.engine teardown = some q.engine := (engineStep_eq own).2.1
  obtain ⟨_, waits, _, _⟩ := drainedStep_cases ran
  have waiting : (SessionModel.view u.engine).stops teardown = some .waiting := by
    rw [alike.view, view_stops, waits]
    rfl
  obtain ⟨drain, waits'⟩ := stop_waiting waiting
  by_cases finished : u.engine.drainDone drain = true
  · exact alike.drained stepped waits' finished
  · have engine := unrestarted_reachable alike.right
    obtain ⟨pc, cancelling, found, settled⟩ := (awaited engine).awaited teardown drain waits'
    have live : pc ≠ .done := by
      intro gone
      rw [gone] at found
      simp [Engine.drainDone, found] at finished
    obtain rfl := settled.resolve_left live
    obtain ⟨t, ends, gone, kept, _⟩ := cancelled_ends found live
    have drains : bridge.step u (.engine (.drain drain .returned)) = some { u with engine := t } := drain_bridge ends
    have plain : Plain u (.engine (.drain drain .returned)) := ⟨trivial, trivial⟩
    have unseen : SessionModel.view t = SessionModel.view u.engine :=
      refines alike.right (.drain drain .returned) ends
    have same : shown { u with engine := t } = shown u := Prod.ext rfl unseen
    have after : Alike p { u with engine := t } := ⟨same.trans alike.same, alike.left, alike.right.step plain.2 drains⟩
    have waits'' : t.teardowns teardown = some (.awaitingDrain drain) := kept ▸ waits'
    exact .later drains plain rfl (after.drained stepped waits'' gone)

/-- The grace timer of a release fires in both. -/
theorem Alike.fired {timer : TimerId} {due : ℚ} (pending : p.engine.timers timer = some ⟨.releaseGraceExpired, due⟩)
    (stepped : bridge.step p (.engine (.fire timer)) = some q) : Matched p u (.engine (.fire timer)) q := by
  have left := timersOwned (unrestarted_reachable alike.left)
  have right := timersOwned (unrestarted_reachable alike.right)
  have running : (SessionModel.view u.engine).graceRunning = true := by
    rw [alike.view, view_graceRunning, (left.grace timer).mp ⟨due, pending⟩]
    rfl
  obtain ⟨timer', held⟩ := Option.isSome_iff_exists.mp running
  obtain ⟨due', pending'⟩ := (right.grace timer').mpr held
  have moved : EngineSteps.machine.step u.engine (.fire timer') =
      some (u.engine.cancelTimer (some timer')).onReleaseGraceExpired := by
    change fireTimer u.engine timer' = _
    rw [fireTimer, pending']
  have unpausing : Unpausing u (.engine (.fire timer')) := by
    intro ⟨_, paused⟩
    rw [pending'] at paused
    cases paused
  exact alike.own (.fire timer') stepped trivial (by rintro _ _ ⟨⟩) moved unpausing (by simp only [label, pending, pending'])

theorem Alike.reproduced {teardown : TeardownId} {outcome : Outcome}
    (stepped : bridge.step p (.engine (.reproduced teardown outcome)) = some q) :
    Matched p u (.engine (.reproduced teardown outcome)) q := by
  have own : p.engineStep (.reproduced teardown outcome) = some q := stepped
  obtain ⟨_, ran, _, cancelled⟩ := engineStep_eq own
  have ran : reproducedStep p.engine teardown outcome = some q.engine := ran
  obtain ⟨saved, found, _⟩ := reproducedStep_cases ran
  have reproducing : (SessionModel.view u.engine).stops teardown = some (.reproducing saved) := by
    rw [alike.view, view_stops, found]
    rfl
  have moved : EngineSteps.machine.step u.engine (.reproduced teardown outcome) =
      some ((u.engine.observe (.reproduceEnded teardown outcome)).setTeardown teardown .done) := by
    change reproducedStep u.engine teardown outcome = _
    rw [reproducedStep, stop_reproducing reproducing]
  have owned : ∀ stop ended, Event.reproduced teardown outcome = .reproduced stop ended →
      (ended = .cancelled ↔ u.stopCancelled stop = true) := by
    rw [alike.eq]
    exact cancelled
  exact alike.own (.reproduced teardown outcome) stepped trivial owned moved trivial rfl

theorem Alike.engine {event : Event} (stepped : bridge.step p (.engine event) = some q) :
    Matched p u (.engine event) q := by
  obtain ⟨own, ran, same, _⟩ := engineStep_eq stepped
  have silent : label p.engine event = none → Matched p u (.engine event) q := by
    intro unseen
    have kept := refines alike.left event ran
    unfold Refines at kept
    rw [unseen] at kept
    exact .silent stepped (congrArg (Option.map Kept.session) unseen) (alike.same.trans (Prod.ext same.symm kept.symm))
  cases event with
  | snapshot => exact own.elim
  | restore => exact own.elim
  | release seconds => exact own.elim
  | pause seconds => exact silent rfl
  | resume => exact silent rfl
  | drain drain outcome => exact silent rfl
  | fire timer =>
    have fired : fireTimer p.engine timer = some q.engine := ran
    rcases fireTimer_cases fired with ⟨due, pending, _⟩ | ⟨due, pending, _⟩
    · exact silent (by simp only [label, pending])
    · exact alike.fired pending stepped
  | drained teardown => exact alike.ended stepped
  | reproduced teardown outcome => exact alike.reproduced stepped
  | tick elapsed =>
    have moved : EngineSteps.machine.step u.engine (.tick elapsed) =
        some { u.engine with now := u.engine.now + elapsed } := if_pos (tick_cases ran).1
    exact alike.own (.tick elapsed) stepped trivial (by rintro _ _ ⟨⟩) moved trivial rfl
  | frame data => exact alike.own (.frame data) stepped trivial (by rintro _ _ ⟨⟩) rfl trivial rfl
  | command lightId body =>
    exact alike.own (.command lightId body) stepped trivial (by rintro _ _ ⟨⟩) rfl trivial rfl
  | setState entityId state =>
    exact alike.own (.setState entityId state) stepped trivial (by rintro _ _ ⟨⟩) rfl trivial rfl

theorem Alike.step {event : BridgeEvent} (unrestarted : Unrestarted p event) (stepped : bridge.step p event = some q) :
    ∃ events v, Run bridge Plain u events v ∧ Alike q v ∧
      trajectory remains shown bridge u events = trajectory remains shown bridge p [event] := by
  have matched : Matched p u event q := by
    cases event with
    | setActive active username =>
      cases active with
      | true => exact alike.started unrestarted stepped
      | false => exact alike.stop stepped
    | release seconds => exact alike.release stepped
    | watchdog watchdog => exact alike.watchdog stepped
    | engine event => exact alike.engine stepped
    | beginClosing => exact alike.beginClosing stepped
    | cancelTasks => exact alike.cancelTasks stepped
    | restoreClosing => exact alike.restoreClosing stepped
  obtain ⟨events, v, run, after, seen⟩ := matched
  have reached : Reachable bridge Unrestarted v := alike.right.run (run.mono (fun _ _ plain => plain.2))
  exact ⟨events, v, run, ⟨after, alike.left.step unrestarted stepped, reached⟩, seen⟩

end

/-- Whatever a run with pauses shows, a run without them shows. -/
theorem pausing_shown {b p : Bridge} {events : List BridgeEvent} (start : bridge.Start b)
    (run : Run bridge Unrestarted b events p) : ∃ others u, Run bridge Unpausing b others u ∧
      trajectory remains shown bridge b others = trajectory remains shown bridge b events ∧ shown u = shown p := by
  have here : Reachable bridge Unrestarted b := ⟨b, [], start, .nil b⟩
  have itself : Alike b b := ⟨rfl, here, here⟩
  have each : ∀ x y event z, Alike x y → Unrestarted x event → bridge.step x event = some z →
      ∃ taken w, Run bridge Plain y taken w ∧ Alike z w ∧
        trajectory remains shown bridge y taken = trajectory remains shown bridge x [event] :=
    fun _ _ _ _ alike unrestarted stepped => alike.step unrestarted stepped
  obtain ⟨others, u, plain, alike, seen⟩ := run.matched each itself
  exact ⟨others, u, plain.mono (fun _ _ allowed => allowed.1), seen, alike.same⟩

/-- When the session starts and ends, what is restored, how a release resolves and what the watchdogs do. -/
def told (b : Bridge) :=
  (b.engine.active, b.engine.savedStates, b.engine.releasing, b.engine.releaseForcing, b.engine.lastFrameTime,
    b.engine.stats.totalFramesReceived, b.watchdogs)

/-- Some run without pauses has the remaining events of the run and tells the same. -/
def Transparent (b : Bridge) (events : List BridgeEvent) (p : Bridge) : Prop :=
  ∃ others u, Run bridge Unpausing b others u ∧
    trajectory remains told bridge b others = trajectory remains told bridge b events ∧ told u = told p

theorem pausing_transparent {b p : Bridge} {events : List BridgeEvent} (start : bridge.Start b)
    (run : Run bridge Unrestarted b events p) : Transparent b events p := by
  obtain ⟨others, u, plain, seen, after⟩ := pausing_shown start run
  obtain ⟨picture, less⟩ : ∃ picture, ∀ c, told c = picture (shown c) :=
    ⟨fun seen => (seen.2.active, seen.2.savedStates, seen.2.releasing, seen.2.releaseForcing, seen.2.lastFrameTime,
      seen.2.framesReceived, seen.1.2.2.2.1), fun _ => rfl⟩
  have tells : ∀ taken, trajectory remains told bridge b taken =
      (trajectory remains shown bridge b taken).map (fun seen => (seen.1, picture seen.2.1, picture seen.2.2)) :=
    fun taken => (congrArg (fun tell => trajectory remains tell bridge b taken) (funext less)).trans
      (trajectory_map picture b taken)
  refine ⟨others, u, plain, ?_, ?_⟩
  · rw [tells, tells, seen]
  · rw [less, less, after]

/-- A session that is paused and resumed, and paused again until after its stop. -/
def pausedSession : List BridgeEvent :=
  [.watchdog 0, .engine (.drain 0 .returned), .engine (.pause 2), .engine (.frame redFrame), .engine .resume,
    .engine (.pause 2), .engine (.tick 1), .setActive false "tv", .engine (.fire 1), .engine (.drain 0 .returned),
    .engine (.drained 0)]

/-- The event is no start. -/
def Onward (_ : Bridge) : BridgeEvent → Prop
  | .setActive true _ => False
  | _ => True

instance (b : Bridge) : (event : BridgeEvent) → Decidable (Onward b event)
  | .setActive true _ => .isFalse not_false
  | .setActive false _ | .release _ | .watchdog _ | .engine _ | .beginClosing | .cancelTasks | .restoreClosing => .isTrue trivial

theorem pausing_transparent_session : ∃ p, Run bridge Unrestarted oneLightBridge (.setActive true "tv" :: pausedSession) p ∧
    Transparent oneLightBridge (.setActive true "tv" :: pausedSession) p := by
  let begun := oneLightBridge.setEntertainmentActive true "tv"
  have first : Unrestarted oneLightBridge (.setActive true "tv") := fun awaits => absurd awaits (new_unawaited _ _ _)
  have onward : ∀ b event, Onward b event → Unrestarted b event := by
    intro b event onward
    unfold Unrestarted
    split
    next => exact onward.elim
    next => trivial
  obtain ⟨p, played⟩ := Option.isSome_iff_exists.mp
    (show (play bridge Onward begun pausedSession).isSome = true by decide +kernel)
  have run : Run bridge Unrestarted oneLightBridge (.setActive true "tv" :: pausedSession) p :=
    .cons first rfl ((run_of_play _ _ _ played).mono onward)
  exact ⟨p, run, pausing_transparent oneLightBridge_start run⟩

/-- A step of which nothing remains in a run without pauses is one of a drain loop. -/
theorem silent_drains {b t : Bridge} {event : BridgeEvent} (quiet : Unpausing b event ∧ remains b event = none)
    (stepped : bridge.step b event = some t) :
    ∃ drain outcome, DrainMove b.engine drain outcome t.engine := by
  obtain ⟨unpausing, silent⟩ := quiet
  cases event with
  | engine event =>
    obtain ⟨own, ran, _, _⟩ := engineStep_eq stepped
    have unseen : label b.engine event = none := Option.map_eq_none_iff.mp silent
    cases event with
    | drain drain outcome => exact ⟨drain, outcome, drainStep_move ran⟩
    | pause seconds => exact unpausing.elim
    | resume => exact unpausing.elim
    | fire timer =>
      have fired : fireTimer b.engine timer = some t.engine := ran
      rcases fireTimer_cases fired with ⟨due, pending, _⟩ | ⟨due, pending, _⟩
      · exact absurd ⟨due, pending⟩ unpausing
      · simp [label, pending] at unseen
    | _ => cases unseen
  | _ => cases silent

/-- The step of the engine that an event of the session is, but for the timers. -/
def ownOf : SessionEvent → Option Event
  | .frame data => some (.frame data)
  | .command lightId body => some (.command lightId body)
  | .start => some .snapshot
  | .stop => some .restore
  | .release seconds => some (.release seconds)
  | .graceExpired => none
  | .drained stop => some (.drained stop)
  | .reproduced stop outcome => some (.reproduced stop outcome)
  | .tick elapsed => some (.tick elapsed)
  | .setState entityId state => some (.setState entityId state)

theorem session_step {b t : Bridge} {event : BridgeEvent} {visible : SessionEvent} {own : Event}
    (stepped : bridge.step b event = some t) (kept : remains b event = some (.session visible))
    (named : ownOf visible = some own) : EngineSteps.machine.step b.engine own = some t.engine := by
  cases event with
  | engine event =>
    have moved := (engineStep_eq stepped).2.1
    obtain ⟨seen, labelled, same⟩ := Option.map_eq_some_iff.mp kept
    cases same
    have same : event = own := by
      cases event with
      | fire timer =>
        simp only [label] at labelled
        split at labelled
        next =>
          cases labelled
          cases named
        next => cases labelled
      | pause seconds => cases labelled
      | resume => cases labelled
      | drain drain outcome => cases labelled
      | _ =>
        cases labelled
        exact Option.some.inj named
    exact same ▸ moved
  | _ => cases kept

/-- The session is active and has a loop that nobody cancelled. -/
def HasLoop (s : Engine) : Prop :=
  s.active = true ∧ ∃ drain pc, s.drainTask = some drain ∧ s.drains drain = some ⟨pc, false⟩ ∧ pc ≠ .done

theorem HasLoop.live {s : Engine} (has : HasLoop s) : ∃ drain, s.liveDrainTask = some drain := by
  obtain ⟨_, drain, pc, named, found, live⟩ := has
  refine (loops_iff s).mpr ⟨drain, named, ?_⟩
  unfold Engine.drainDone
  rw [found]
  cases pc with
  | done => exact absurd rfl live
  | _ => rfl

/-- A stop of such a session waits for the loop. -/
theorem HasLoop.suspends {s : Engine} (has : HasLoop s) : s.asyncRestoreLights.stats = s.stats := by
  obtain ⟨drain, live⟩ := has.live
  have move := restore_move s
  generalize s.asyncRestoreLights = t at move ⊢
  cases move with
  | restoreKept inactive => rfl
  | restoreSuspended active waits notices => rfl
  | restoreTook active free notices notices' =>
    rw [live] at free
    cases free

theorem HasLoop.drain {s t : Engine} {drain : DrainId} {outcome : Outcome} (has : HasLoop s)
    (move : DrainMove s drain outcome t) : HasLoop t := by
  obtain ⟨active, held, pc, named, found, live⟩ := has
  cases move with
  | neverEntered found' =>
    have other : held ≠ drain := by
      rintro rfl
      rw [found] at found'
      cases found'
    refine ⟨active, held, pc, named, ?_, live⟩
    rw [setDrain_of_task found', Function.update_of_ne other]
    exact found
  | unwound found' live' entries notices =>
    have other : held ≠ drain := by
      rintro rfl
      rw [found] at found'
      cases found'
    refine ⟨active, held, pc, named, ?_, live⟩
    have table := setDrain_of_task found' .done
    exact (congrFun table held).trans ((Function.update_of_ne other _ _).trans found)
  | @ran pc' after mapping stats wake running begun drops entries found' live' ended sweep leaves =>
    by_cases here : held = drain
    · refine ⟨active, held, after, named, ?_, ?_⟩
      · rw [here]
        exact Function.update_self _ _ _
      · intro finished
        rw [finished] at leaves
        cases begun with
        | some call =>
          obtain ⟨⟨rest, calls⟩, _⟩ := leaves
          cases calls
        | none =>
          rcases leaves with ⟨⟨idleSince, waits⟩, _⟩ | ⟨_, _, inactive, _⟩
          · cases waits
          · have inactive : s.active = false := inactive
            rw [active] at inactive
            cases inactive
    · exact ⟨active, held, pc, named, (Function.update_of_ne here _ _).trans found, live⟩

theorem drain_idle {s t : Engine} {drain : DrainId} {outcome : Outcome} (move : DrainMove s drain outcome t)
    (idle : s.drainRunning = false) : t.drainRunning = false := by
  cases move with
  | neverEntered found => exact idle
  | unwound found live entries notices => rfl
  | @ran pc after mapping stats wake running begun drops entries found live ended sweep leaves =>
    change running = false
    cases begun with
    | some call => exact leaves.2.1.trans idle
    | none =>
      rcases leaves with ⟨_, same, _⟩ | ⟨_, down, _⟩
      · exact same.trans idle
      · exact down

/-- Without pauses nothing is paused. -/
theorem unpausing_unpaused {b t : Bridge} {event : BridgeEvent} (unpausing : Unpausing b event)
    (unpaused : b.engine.pausedUntil = none) (stepped : bridge.step b event = some t) : t.engine.pausedUntil = none := by
  rcases step_engine stepped with same | ⟨own, moved, drives, _⟩
  · rw [same]
    exact unpaused
  · generalize t.engine = after at moved ⊢
    cases step_move moved with
    | paused unreleased notices =>
      rw [show event = .engine (.pause _) from drives] at unpausing
      exact unpausing.elim
    | drain move =>
      obtain ⟨_, _, _, _, _, _, same⟩ := move.frame
      rw [same]
      exact unpaused
    | restoreSuspended active waits notices => exact unpaused
    | restoreTook active free notices notices' => exact unpaused
    | resumed unreleased notices => rfl
    | released notices => rfl
    | pauseExpired pending notices => rfl
    | _ => exact unpaused

/-- A classic command that turns a light off. -/
def offBody : Json := .object [("on", .bool false)]

theorem off_accepted (mapping : LightMapping) (lightId : Nat) :
    ∃ slot, mapping.commandSlot lightId offBody = .ok (some slot) := by
  obtain ⟨data, translated, off⟩ : ∃ data, v1StateToServiceData offBody = .ok data ∧ data.service = some .turnOff :=
    ⟨_, rfl, rfl⟩
  have nonempty : data ≠ {} := by
    rintro rfl
    cases off
  unfold LightMapping.commandSlot
  rw [translated]
  exact ⟨_, by simp [bind, Except.bind, nonempty, off]; rfl⟩

/-- A command that no pause drops starts a loop where none is running. -/
theorem command_starts_loop {s : Engine} (unpaused : s.pausedUntil = none) (unreleased : s.releasing = false)
    (active : s.active = true) (idle : s.drainRunning = false) (mapped : 1 ∈ s.channels) :
    HasLoop (s.handleLightCommand 1 offBody) := by
  have free : s.suppressed = false := by simp [Engine.suppressed, Engine.isPaused, unpaused, unreleased]
  obtain ⟨slot, accepted⟩ := off_accepted (s.mapping 1) 1
  rcases handleLightCommand_cases s 1 offBody with ⟨rejected, _⟩ | ⟨slot', _, same⟩
  · exact absurd ⟨free, mapped, accepted⟩ (rejected slot)
  · have idle' : (queued s 1 slot').drainRunning = false := idle
    rcases ensureDrainTask_cases (queued s 1 slot') with ⟨running, _⟩ | ⟨_, entries, _, created⟩
    · rw [idle'] at running
      cases running
    · rw [same, created]
      exact ⟨active, s.nextDrain, .created, rfl, Function.update_self _ _ _, by simp⟩

/-- A session that begins while the stop of the one before waits, a frame, a command that a pause drops and the
session's end. -/
def droppedStart : List BridgeEvent :=
  [.setActive true "tv", .engine (.drain 0 .returned), .setActive false "tv", .setActive true "tv",
    .engine (.drain 0 .returned), .engine (.drained 0), .engine (.frame redFrame), .engine (.pause 2),
    .engine (.command 1 offBody), .setActive false "tv"]

theorem droppedStart_tells : ∃ x₁ x₂ x₃ b₄ a₄ x₅ b₆ a₆ b₇ a₇,
    trajectory remains told bridge oneLightBridge droppedStart =
      [x₁, x₂, x₃, (.session (.drained 0), b₄, a₄), (.session (.frame redFrame), x₅),
        (.session (.command 1 offBody), b₆, a₆), (.setActive false "tv", b₇, a₇)] ∧
    a₄.1 = true ∧ b₆.1 = true ∧ b₆.2.2.1 = false ∧ b₇.2.2.2.2.2.1 = 1 ∧ a₇.2.2.2.2.2.1 = 0 := by
  refine ⟨_, _, _, _, _, _, _, _, _, _, rfl, ?_, ?_, ?_, ?_, ?_⟩
  all_goals decide +kernel

/-- Nothing is paused, and light 1 is mapped. -/
def Settled (b : Bridge) : Prop := b.engine.pausedUntil = none ∧ 1 ∈ b.engine.channels

theorem Settled.step {b t : Bridge} {event : BridgeEvent} (settled : Settled b) (unpausing : Unpausing b event)
    (stepped : bridge.step b event = some t) : Settled t := by
  refine ⟨unpausing_unpaused unpausing settled.1 stepped, ?_⟩
  rcases step_engine stepped with same | ⟨own, moved, _, _⟩
  · rw [same]
    exact settled.2
  · rw [channels_step (step_move moved)]
    exact settled.2

/-- The step is a drain loop's. -/
def Silent (b : Bridge) (event : BridgeEvent) : Prop := Unpausing b event ∧ remains b event = none

/-- The next event that is seen of a run without pauses, after steps of the drain loops. -/
theorem next_seen {b u : Bridge} {events : List BridgeEvent} {seen : Kept × _ × _} {later : List (Kept × _ × _)}
    (settled : Settled b) (run : Run bridge Unpausing b events u)
    (same : trajectory remains told bridge b events = seen :: later) :
    ∃ silent x event y rest, Run bridge Silent b silent x ∧ Settled x ∧ bridge.step x event = some y ∧
      remains x event = some seen.1 ∧ told x = seen.2.1 ∧ told y = seen.2.2 ∧ Settled y ∧
      Run bridge Unpausing y rest u ∧ trajectory remains told bridge y rest = later := by
  obtain ⟨silent, x, event, y, rest, quiet, unpausing, stepped, kept, before, after, onward, others⟩ :=
    run.trajectory_split same
  have there : Settled x :=
    quiet.invariant Settled (fun _ _ _ held silent stepped => held.step silent.1 stepped) settled
  exact ⟨silent, x, event, y, rest, quiet, there, stepped, kept, before, after, there.step unpausing stepped, onward, others⟩

/-- What the steps of the drain loops keep. -/
theorem silent_run (inv : Engine → Prop) (kept : ∀ s t drain outcome, inv s → DrainMove s drain outcome t → inv t)
    {b x : Bridge} {silent : List BridgeEvent} (run : Run bridge Silent b silent x) (here : inv b.engine) : inv x.engine := by
  refine run.invariant (fun b => inv b.engine) ?_ here
  intro c event t held quiet stepped
  obtain ⟨drain, outcome, move⟩ := silent_drains quiet stepped
  exact kept _ _ drain outcome held move

/-- The run without pauses has started a loop for the command, so its stop waits for that loop; the run with the
pause has none, and its stop has taken everything back at once. -/
theorem droppedStart_untransparent : ¬∀ b events p, bridge.Start b → Run bridge Always b events p →
    Transparent b events p := by
  intro claimed
  have plays : (play bridge Always oneLightBridge droppedStart).isSome = true := by decide +kernel
  obtain ⟨p, played⟩ := Option.isSome_iff_exists.mp plays
  obtain ⟨others, u, run, same, _⟩ := claimed _ _ p oneLightBridge_start (run_of_play _ _ _ played)
  obtain ⟨x₁, x₂, x₃, b₄, a₄, x₅, b₆, a₆, b₇, a₇, tells, streaming, active, unreleased, one, zero⟩ := droppedStart_tells
  rw [tells] at same
  have settled : Settled oneLightBridge := ⟨rfl, List.mem_singleton_self 1⟩
  obtain ⟨_, _, _, _, _, _, _, _, _, _, _, settled, run, same⟩ := next_seen settled run same
  obtain ⟨_, _, _, _, _, _, _, _, _, _, _, settled, run, same⟩ := next_seen settled run same
  obtain ⟨_, _, _, _, _, _, _, _, _, _, _, settled, run, same⟩ := next_seen settled run same
  -- the stop goes on and takes the flag down
  obtain ⟨_, _, _, y, _, _, _, stepped, kept, _, told₄, settled, run, same⟩ := next_seen settled run same
  have idle : y.engine.drainRunning = false := by
    have ran : drainedStep _ 0 = some y.engine := session_step stepped kept rfl
    have move := drained_move ran
    generalize y.engine = after at move ⊢
    cases move
    rfl
  -- the frame, and the loops around it, leave the flag down
  obtain ⟨_, x, _, y, _, quiet, _, stepped, kept, _, _, settled, run, same⟩ := next_seen settled run same
  have idle := silent_run (fun s => s.drainRunning = false) (fun _ _ _ _ down move => drain_idle move down) quiet idle
  have idle : y.engine.drainRunning = false := by
    have ran : some (x.engine.handleFrame redFrame) = some y.engine := session_step stepped kept rfl
    obtain ⟨_, _, _, _, _, _, wrote, _⟩ := handleFrame_eq x.engine redFrame
    rw [← Option.some.inj ran, wrote]
    exact idle
  -- the command starts a loop
  obtain ⟨_, x, _, y, _, quiet, ⟨unpaused, mapped⟩, stepped, kept, told₆, _, settled, run, same⟩ := next_seen settled run same
  have idle := silent_run (fun s => s.drainRunning = false) (fun _ _ _ _ down move => drain_idle move down) quiet idle
  have has : HasLoop y.engine := by
    have ran : some (x.engine.handleLightCommand 1 offBody) = some y.engine := session_step stepped kept rfl
    have released : x.engine.releasing = false := (congrArg (fun tell => tell.2.2.1) told₆).trans unreleased
    have running : x.engine.active = true := (congrArg (fun tell => tell.1) told₆).trans active
    rw [← Option.some.inj ran]
    exact command_starts_loop unpaused released running idle mapped
  -- the stop suspends, so the frame stays counted
  obtain ⟨_, x, event, y, _, quiet, _, stepped, kept, told₇, told₇', _, _, _⟩ := next_seen settled run same
  have has := silent_run HasLoop (fun _ _ _ _ has move => has.drain move) quiet has
  have stays : y.engine.stats = x.engine.stats := by
    cases event with
    | setActive on username =>
      cases kept
      cases stepped
      rw [stopped_engine, has.suspends]
    | engine own =>
      obtain ⟨_, _, same⟩ := Option.map_eq_some_iff.mp kept
      cases same
    | _ => cases kept
  have counted : x.engine.stats.totalFramesReceived = 1 := (congrArg (fun tell => tell.2.2.2.2.2.1) told₇).trans one
  have taken : y.engine.stats.totalFramesReceived = 0 := (congrArg (fun tell => tell.2.2.2.2.2.1) told₇').trans zero
  rw [stays, counted] at taken
  cases taken

end HueEntertainment.PauseTransparency
