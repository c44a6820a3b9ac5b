import HueEntertainment.DrainSteps
import HueEntertainment.TaskTable

/-! Everything one step of the engine can do, as one case analysis. Each case says when the step
takes it and what the engine is afterwards. -/

namespace HueEntertainment.EngineMoves
open HueStream LightCommand PyValue Entertainment EngineSteps EngineFrames DrainSteps TaskTable Runs

/-- The engine with a drain loop just created. -/
def started (s : Engine) (entries : List Obs) : Engine :=
  { s.createDrainTask with drainRunning := true, log := entries ++ s.log }

theorem started_drains {s t : Engine} (drains : t.drains = s.drains) (next : t.nextDrain = s.nextDrain)
    (entries : List Obs) :
    (started t entries).drains = Function.update s.drains s.nextDrain (some ⟨.created, false⟩) := by
  rw [← drains, ← next]
  rfl

/-- The engine past the resolution of a release by a new session. -/
def unheld (s : Engine) (releaseForcing : Bool) (releaseCancel : Option TimerId)
    (timers : TimerId → Option Timer) (entries : List Obs) : Engine :=
  { s with
    releasing := false, releaseForcing := releaseForcing, releaseCancel := releaseCancel
    timers := timers, log := entries ++ s.log }

/-- The ways to open a session: out of a release, which is resolved first, or from no session. -/
inductive Unholds (s : Engine) : Bool → Option TimerId → (TimerId → Option Timer) → List Obs → Prop where
  | release {entries : List Obs} (releasing : s.releasing = true) (notices : Notices entries) :
      Unholds s false none (s.cancelTimer s.releaseCancel).timers entries
  | fresh (unreleased : s.releasing = false) (inactive : s.active = false) :
      Unholds s s.releaseForcing s.releaseCancel s.timers []

theorem opens_of_unholds {s : Engine} {forcing : Bool} {cancel : Option TimerId}
    {timers : TimerId → Option Timer} {entries : List Obs} (unholds : Unholds s forcing cancel timers entries) :
    Opens s := by
  cases unholds with
  | release releasing notices => exact .inl releasing
  | fresh unreleased inactive => exact .inr inactive

/-- The engine after a teardown took the saved states. -/
def took (s : Engine) (teardown : TeardownId) (entries : List Obs) : Engine :=
  { s with
    drainRunning := false, savedStates := none, stats := { fpsTime := s.now }
    mapping := fun channelId => (s.mapping channelId).forget
    teardowns := Function.update s.teardowns teardown (some (afterTaking teardown s.savedStates).1)
    log := (afterTaking teardown s.savedStates).2 ++
      .flushed :: .savedTaken teardown s.savedStates :: (entries ++ s.log) }

/-- The engine at the start of a pause. -/
def pausing (s : Engine) (seconds : ℚ) (entries : List Obs) : Engine :=
  { s with
    mapping := fun channelId => (s.mapping channelId).forget
    pausedUntil := some (s.now + Engine.resolvedSeconds seconds)
    pauseCancel := some s.nextTimer, nextTimer := s.nextTimer + 1
    timers := Function.update (s.cancelTimer s.pauseCancel).timers s.nextTimer
      (some ⟨.pauseExpired, s.now + Engine.resolvedSeconds seconds⟩)
    log := entries ++ .flushed :: s.log }

/-- The engine at the start of a release. -/
def releasing (s : Engine) (seconds : ℚ) (entries : List Obs) : Engine :=
  { s with
    mapping := fun channelId => (s.mapping channelId).forget
    savedStates := none, releasing := true, releaseForcing := false
    pausedUntil := none, pauseCancel := none
    releaseCancel := some s.nextTimer, nextTimer := s.nextTimer + 1
    timers := Function.update ((s.cancelTimer s.pauseCancel).cancelTimer s.releaseCancel).timers
      s.nextTimer (some ⟨.releaseGraceExpired, s.now + Engine.resolvedSeconds seconds⟩)
    log := entries ++ .released :: .flushed :: s.log }

/-- The engine without its pause. -/
def unpaused (s : Engine) (handle : Option TimerId) (entries : List Obs) : Engine :=
  { s with
    pausedUntil := none, pauseCancel := none
    timers := (s.cancelTimer handle).timers, log := entries ++ s.log }

/-- The engine after the grace timer of a release fired. -/
def graceOver (s : Engine) (timer : TimerId) (releasing releaseForcing : Bool) (entries : List Obs) :
    Engine :=
  { s with
    releasing := releasing, releaseForcing := releaseForcing, releaseCancel := none
    timers := (s.cancelTimer (some timer)).timers, log := entries ++ s.log }

/-- `Move s event t`: the step of `event` in `s` leads to `t`. -/
inductive Move (s : Engine) : Event → Engine → Prop where
  | frame {data : Bytes} {mapping : ChannelId → LightMapping} {wake : Bool} {stats : Stats}
      {lastFrameTime : ℚ} {entries : List Obs} (wrote : FrameEntries entries)
      (held : s.suppressed = true → mapping = s.mapping ∧ entries = [])
      (same : s.handleFrame data = { s with
        mapping := mapping, wake := wake, stats := stats, lastFrameTime := lastFrameTime
        log := entries ++ s.log }) :
      Move s (.frame data) { s with
        mapping := mapping, wake := wake, stats := stats, lastFrameTime := lastFrameTime
        log := entries ++ s.log }
  | commandKept {lightId : Nat} {body : Json} (rejected : ∀ slot, ¬Accepts s lightId body slot) :
      Move s (.command lightId body) s
  | commandJoined {lightId : Nat} {body : Json} {slot : ServiceData × List Write}
      (accepted : Accepts s lightId body slot) (running : s.drainRunning = true) :
      Move s (.command lightId body) (queued s lightId slot)
  | commandStarted {lightId : Nat} {body : Json} {slot : ServiceData × List Write} {entries : List Obs}
      (accepted : Accepts s lightId body slot) (idle : s.drainRunning = false) (notices : Notices entries) :
      Move s (.command lightId body) (started (queued s lightId slot) entries)
  | snapshotKept (closed : ¬Opens s) : Move s .snapshot s
  | snapshotJoined {forcing : Bool} {cancel : Option TimerId} {timers : TimerId → Option Timer}
      {first entries : List Obs} (unholds : Unholds s forcing cancel timers first)
      (notices : Notices entries) (running : s.drainRunning = true) :
      Move s .snapshot (sessionOpened (unheld s forcing cancel timers first) entries)
  | snapshotStarted {forcing : Bool} {cancel : Option TimerId} {timers : TimerId → Option Timer}
      {first entries more : List Obs} (unholds : Unholds s forcing cancel timers first)
      (notices : Notices entries) (idle : s.drainRunning = false) (notices' : Notices more) :
      Move s .snapshot (started (sessionOpened (unheld s forcing cancel timers first) entries) more)
  | restoreKept (inactive : s.active = false) : Move s .restore s
  | restoreSuspended {drain : DrainId} {entries : List Obs} (active : s.active = true)
      (waits : s.liveDrainTask = some drain) (notices : Notices entries) :
      Move s .restore
        (((sessionClosed s entries).cancelDrain drain).setTeardown s.nextTeardown (.awaitingDrain drain))
  | restoreTook {entries more : List Obs} (active : s.active = true) (free : s.liveDrainTask = none)
      (notices : Notices entries) (notices' : Notices more) :
      Move s .restore (took (sessionClosed s entries) s.nextTeardown more)
  | pauseKept {seconds : ℚ} (releasing : s.releasing = true) : Move s (.pause seconds) s
  | paused {seconds : ℚ} {entries : List Obs} (unreleased : s.releasing = false) (notices : Notices entries) :
      Move s (.pause seconds) (pausing s seconds entries)
  | resumeKept : Move s .resume s
  | resumed {entries : List Obs} (unreleased : s.releasing = false) (notices : Notices entries) :
      Move s .resume (unpaused s s.pauseCancel entries)
  | released {seconds : ℚ} {entries : List Obs} (notices : Notices entries) :
      Move s (.release seconds) (releasing s seconds entries)
  | pauseExpired {timer : TimerId} {due : ℚ} {entries : List Obs}
      (pending : s.timers timer = some ⟨.pauseExpired, due⟩) (notices : Notices entries) :
      Move s (.fire timer) (unpaused s (some timer) entries)
  | graceStale {timer : TimerId} {due : ℚ} (pending : s.timers timer = some ⟨.releaseGraceExpired, due⟩)
      (unreleased : s.releasing = false) :
      Move s (.fire timer) (graceOver s timer s.releasing s.releaseForcing [])
  | graceEnded {timer : TimerId} {due : ℚ} {entries : List Obs}
      (pending : s.timers timer = some ⟨.releaseGraceExpired, due⟩) (releasing : s.releasing = true)
      (inactive : s.active = false) (notices : Notices entries) :
      Move s (.fire timer) (graceOver s timer false false entries)
  | graceForced {timer : TimerId} {due : ℚ} {entries : List Obs}
      (pending : s.timers timer = some ⟨.releaseGraceExpired, due⟩) (releasing : s.releasing = true)
      (active : s.active = true) (notices : Notices entries) :
      Move s (.fire timer) (graceOver s timer s.releasing true entries)
  | drain {drain : DrainId} {outcome : Outcome} {t : Engine} (move : DrainMove s drain outcome t) :
      Move s (.drain drain outcome) t
  | drained {teardown : TeardownId} {drain : DrainId} {entries : List Obs}
      (found : s.teardowns teardown = some (.awaitingDrain drain)) (finished : s.drainDone drain = true)
      (notices : Notices entries) :
      Move s (.drained teardown) (took { s with drainTask := none } teardown entries)
  | reproduced {teardown : TeardownId} {saved : Snapshot} {outcome : Outcome}
      (found : s.teardowns teardown = some (.reproducing saved)) :
      Move s (.reproduced teardown outcome)
        ((s.observe (.reproduceEnded teardown outcome)).setTeardown teardown .done)
  | tick {elapsed : ℚ} (forward : 0 ≤ elapsed) : Move s (.tick elapsed) { s with now := s.now + elapsed }
  | setState {entityId : String} {state : Option LightState} :
      Move s (.setState entityId state) { s with states := Function.update s.states entityId state }

theorem unholds_eq (s : Engine) (opens : Opens s) : ∃ forcing cancel timers first,
    Unholds s forcing cancel timers first ∧
      s.asyncSnapshotLights = (unheld s forcing cancel timers first).beginSession := by
  rcases asyncSnapshotLights_cases s with ⟨closed, _⟩ | ⟨releasing, same⟩ | ⟨unreleased, inactive, same⟩
  · exact absurd opens closed
  · obtain ⟨entries, notices, cancelled⟩ := cancelRelease_eq s
    exact ⟨_, _, _, entries, .release releasing notices, same.trans (congrArg Engine.beginSession cancelled)⟩
  · refine ⟨_, _, _, [], .fresh unreleased inactive, same.trans (congrArg Engine.beginSession ?_)⟩
    unfold unheld
    rw [← unreleased]
    rfl

theorem snapshot_move (s : Engine) : Move s .snapshot s.asyncSnapshotLights := by
  by_cases opens : Opens s
  · obtain ⟨forcing, cancel, timers, first, unholds, same⟩ := unholds_eq s opens
    obtain ⟨entries, notices, begun⟩ := beginSession_eq (unheld s forcing cancel timers first)
    rw [same, begun]
    rcases ensureDrainTask_cases (sessionOpened (unheld s forcing cancel timers first) entries) with
      ⟨running, joined⟩ | ⟨idle, more, notices', created⟩
    · rw [joined]
      exact .snapshotJoined unholds notices running
    · rw [created]
      exact .snapshotStarted unholds notices idle notices'
  · rcases asyncSnapshotLights_cases s with ⟨_, same⟩ | ⟨releasing, _⟩ | ⟨_, inactive, _⟩
    · rw [same]
      exact .snapshotKept opens
    · exact absurd (.inl releasing) opens
    · exact absurd (.inr inactive) opens

theorem restore_move (s : Engine) : Move s .restore s.asyncRestoreLights := by
  rcases asyncRestoreLights_cases s with
    ⟨inactive, same⟩ | ⟨active, entries, notices, ⟨drain, waits, same⟩ | ⟨free, same⟩⟩
  · rw [same]
    exact .restoreKept inactive
  · rw [same]
    exact .restoreSuspended active waits notices
  · obtain ⟨more, notices', taken⟩ := takeSaved_eq (sessionClosed s entries) s.nextTeardown
    rw [same, taken]
    exact .restoreTook active free notices notices'

theorem command_move (s : Engine) (lightId : Nat) (body : Json) :
    Move s (.command lightId body) (s.handleLightCommand lightId body) := by
  rcases handleLightCommand_cases s lightId body with ⟨rejected, same⟩ | ⟨slot, accepted, same⟩
  · rw [same]
    exact .commandKept rejected
  · rw [same]
    rcases ensureDrainTask_cases (queued s lightId slot) with ⟨running, joined⟩ | ⟨idle, entries, notices, created⟩
    · rw [joined]
      exact .commandJoined accepted running
    · rw [created]
      exact .commandStarted accepted idle notices

/-- A timer that fires was pending, and its callback runs. -/
theorem fireTimer_cases {s t : Engine} {timer : TimerId} (fired : fireTimer s timer = some t) :
    (∃ due, s.timers timer = some ⟨.pauseExpired, due⟩ ∧ t = (s.cancelTimer (some timer)).onPauseExpired) ∨
    ∃ due, s.timers timer = some ⟨.releaseGraceExpired, due⟩ ∧
      t = (s.cancelTimer (some timer)).onReleaseGraceExpired := by
  unfold fireTimer at fired
  split at fired
  next => cases fired
  next due pending =>
    cases fired
    exact .inl ⟨due, pending, rfl⟩
  next due pending =>
    cases fired
    exact .inr ⟨due, pending, rfl⟩

theorem drainedStep_cases {s t : Engine} {teardown : TeardownId} (stepped : drainedStep s teardown = some t) :
    ∃ drain, s.teardowns teardown = some (.awaitingDrain drain) ∧ s.drainDone drain = true ∧
      t = s.afterDrain teardown := by
  unfold drainedStep at stepped
  split at stepped
  next drain found =>
    split at stepped
    next finished =>
      cases stepped
      exact ⟨drain, found, finished, rfl⟩
    next => cases stepped
  next => cases stepped

theorem reproducedStep_cases {s t : Engine} {teardown : TeardownId} {outcome : Outcome}
    (stepped : reproducedStep s teardown outcome = some t) :
    ∃ saved, s.teardowns teardown = some (.reproducing saved) ∧
      t = (s.observe (.reproduceEnded teardown outcome)).setTeardown teardown .done := by
  unfold reproducedStep at stepped
  split at stepped
  next saved found =>
    cases stepped
    exact ⟨saved, found, rfl⟩
  next => cases stepped

theorem tick_cases {s t : Engine} {elapsed : ℚ} (stepped : EngineSteps.step s (.tick elapsed) = some t) :
    0 ≤ elapsed ∧ t = { s with now := s.now + elapsed } := by
  change (if 0 ≤ elapsed then some { s with now := s.now + elapsed } else none) = some t at stepped
  split at stepped
  next forward =>
    cases stepped
    exact ⟨forward, rfl⟩
  next => cases stepped

theorem fire_move {s t : Engine} {timer : TimerId} (fired : fireTimer s timer = some t) :
    Move s (.fire timer) t := by
  rcases fireTimer_cases fired with ⟨due, pending, rfl⟩ | ⟨due, pending, rfl⟩
  · exact .pauseExpired pending (.one _ _)
  · rcases onReleaseGraceExpired_cases (s.cancelTimer (some timer)) with
      ⟨unreleased, same⟩ | ⟨releasing, entries, notices, ⟨inactive, same⟩ | ⟨active, same⟩⟩
    · rw [same]
      exact .graceStale pending unreleased
    · rw [same]
      exact .graceEnded pending releasing inactive notices
    · rw [same]
      exact .graceForced pending releasing active notices

theorem drained_move {s t : Engine} {teardown : TeardownId} (step : drainedStep s teardown = some t) :
    Move s (.drained teardown) t := by
  obtain ⟨drain, found, finished, rfl⟩ := drainedStep_cases step
  obtain ⟨entries, notices, taken⟩ := takeSaved_eq { s with drainTask := none } teardown
  rw [Engine.afterDrain, taken]
  exact .drained found finished notices

theorem step_move {s t : Engine} {event : Event} (step : machine.step s event = some t) :
    Move s event t := by
  change EngineSteps.step s event = some t at step
  cases event with
  | frame data =>
    cases step
    obtain ⟨mapping, wake, stats, last, entries, wrote, same, held⟩ := handleFrame_eq s data
    rw [same]
    exact .frame wrote held same
  | command lightId body =>
    cases step
    exact command_move s lightId body
  | snapshot =>
    cases step
    exact snapshot_move s
  | restore =>
    cases step
    exact restore_move s
  | pause seconds =>
    cases step
    rcases asyncPause_cases s seconds with ⟨releasing, same⟩ | ⟨unreleased, entries, notices, same⟩
    · rw [same]
      exact .pauseKept releasing
    · rw [same]
      exact .paused unreleased notices
  | resume =>
    cases step
    rcases asyncResume_cases s with same | ⟨unreleased, entries, notices, same⟩
    · rw [same]
      exact .resumeKept
    · rw [same]
      exact .resumed unreleased notices
  | release seconds =>
    cases step
    obtain ⟨entries, notices, same⟩ := asyncRelease_eq s seconds
    rw [same]
    exact .released notices
  | fire timer => exact fire_move step
  | drain drain outcome => exact .drain (drainStep_move step)
  | drained teardown => exact drained_move step
  | reproduced teardown outcome =>
    obtain ⟨saved, found, rfl⟩ := reproducedStep_cases step
    exact .reproduced found
  | tick elapsed =>
    obtain ⟨forward, rfl⟩ := tick_cases step
    exact .tick forward
  | setState entityId state =>
    cases step
    exact .setState

/-- The drain loop awaits this light service call. -/
def InFlight (s : Engine) (drain : DrainId) (call : Call) : Prop :=
  ∃ rest cancelling, s.drains drain = some ⟨.calling call rest, cancelling⟩

theorem inFlight_of_update {s : Engine} {drains : DrainId → Option Drain} {drain : DrainId} {call : Call}
    (other : DrainId) (task : Option Drain) (updated : drains = Function.update s.drains other task)
    (quiet : ∀ rest cancelling, task = some ⟨.calling call rest, cancelling⟩ → InFlight s other call) :
    (∃ rest cancelling, drains drain = some ⟨.calling call rest, cancelling⟩) → InFlight s drain call := by
  rintro ⟨rest, cancelling, found⟩
  rw [updated] at found
  rcases update_eq_some found with ⟨rfl, new⟩ | ⟨_, before⟩
  · exact quiet rest cancelling new
  · exact ⟨rest, cancelling, before⟩

/-- A call that is in flight after a step was so before it, unless the step took it from a dirty slot. -/
theorem inFlight_step {s t : Engine} {event : Event} (move : Move s event t) {drain : DrainId} {call : Call}
    (flying : InFlight t drain call) :
    InFlight s drain call ∨ (s.mapping call.channelId).dirty = true := by
  have created : ∀ (u : Engine) (entries : List Obs), InFlight (started u entries) drain call →
      u.drains = s.drains → u.nextDrain = s.nextDrain → InFlight s drain call := by
    intro u entries flying drains next
    revert flying
    refine inFlight_of_update s.nextDrain (some ⟨.created, false⟩) ?_ ?_
    · rw [← drains, ← next]
      rfl
    · intro rest cancelling found
      cases found
  cases move with
  | frame wrote held same => exact .inl flying
  | commandKept rejected => exact .inl flying
  | commandJoined accepted running => exact .inl flying
  | commandStarted accepted idle notices => exact .inl (created _ _ flying rfl rfl)
  | snapshotKept closed => exact .inl flying
  | snapshotJoined unholds notices running => exact .inl flying
  | snapshotStarted unholds notices idle notices' => exact .inl (created _ _ flying rfl rfl)
  | restoreKept inactive => exact .inl flying
  | @restoreSuspended waited entries active waits notices =>
    refine .inl (inFlight_of_update _ _ rfl ?_ flying)
    intro rest cancelling found
    obtain ⟨⟨pc, old⟩, before, marked⟩ := Option.map_eq_some_iff.mp found
    simp only [Drain.mk.injEq] at marked
    exact ⟨rest, old, before.trans (by rw [marked.1])⟩
  | restoreTook active free notices notices' => exact .inl flying
  | pauseKept releasing => exact .inl flying
  | paused unreleased notices => exact .inl flying
  | resumeKept => exact .inl flying
  | resumed unreleased notices => exact .inl flying
  | released notices => exact .inl flying
  | pauseExpired pending notices => exact .inl flying
  | graceStale pending unreleased => exact .inl flying
  | graceEnded pending releasing inactive notices => exact .inl flying
  | graceForced pending releasing active notices => exact .inl flying
  | drain move =>
    cases move with
    | neverEntered found =>
      refine .inl (inFlight_of_update _ _ rfl ?_ flying)
      intro rest cancelling done
      rw [found] at done
      cases done
    | unwound found live entries notices =>
      refine .inl (inFlight_of_update _ _ rfl ?_ flying)
      intro rest cancelling done
      rw [found] at done
      cases done
    | @ran pc after mapping stats wake running begun drops entries found live ended sweep leaves =>
      obtain ⟨rest, cancelling, found'⟩ := flying
      rcases update_eq_some found' with ⟨_, new⟩ | ⟨_, before⟩
      · simp only [Option.some.injEq, Drain.mk.injEq] at new
        cases begun with
        | none =>
          rcases leaves with ⟨⟨idleSince, waits⟩, _⟩ | ⟨finished, _⟩
          · rw [waits] at new
            cases new.1
          · rw [finished] at new
            cases new.1
        | some begun =>
          obtain ⟨⟨rest', calls⟩, _⟩ := leaves
          rw [calls] at new
          simp only [DrainPc.calling.injEq] at new
          have dirty := (sweep.call begun rfl).1
          rw [new.1.1] at dirty
          exact .inr dirty
      · exact .inl ⟨rest, cancelling, before⟩
  | drained found finished notices => exact .inl flying
  | reproduced found => exact .inl flying
  | tick forward => exact .inl flying
  | setState => exact .inl flying

end HueEntertainment.EngineMoves
