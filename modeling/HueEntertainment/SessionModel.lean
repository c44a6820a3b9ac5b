import HueEntertainment.Addressing
import HueEntertainment.PauseRelease
import HueEntertainment.SessionLoop
import HueEntertainment.WatchdogClock

/-! What a session is, apart from the lights: when it starts and ends, what it has saved, how a release resolves and
what the watchdog reads. The engine refines this model, and its drain loops and pauses are steps that the model does
not take. -/

namespace HueEntertainment.SessionModel
open HueStream LightCommand PyValue Entertainment EngineSteps EngineFrames DrainSteps EngineMoves EngineSlots Addressing
  PauseRelease SavedStates SessionLoop WatchdogClock TaskTable Runs

/-- Where a stop is, whichever loop it waits for. -/
inductive Stop where
  | waiting
  | reproducing (saved : Snapshot)
  | done
  deriving DecidableEq

@[ext]
structure Session where
  lights : List String
  states : String → Option LightState
  now : ℚ
  active : Bool
  savedStates : Option Snapshot
  releasing : Bool
  releaseForcing : Bool
  graceRunning : Bool
  lastFrameTime : ℚ
  framesReceived : Nat
  sessions : Nat
  stops : TeardownId → Option Stop
  nextStop : TeardownId

/-- What happens to a session; a classic command does nothing to it. -/
inductive SessionEvent where
  | frame (data : Bytes)
  | command (lightId : Nat) (body : Json)
  | start
  | stop
  | release (seconds : ℚ)
  | graceExpired
  | drained (stop : TeardownId)
  | reproduced (stop : TeardownId) (outcome : Outcome)
  | tick (elapsed : ℚ)
  | setState (entityId : String) (state : Option LightState)

namespace Session

def frame (v : Session) (data : Bytes) : Session :=
  if validFrame data then
    { v with
      lastFrameTime := if v.releaseForcing then v.lastFrameTime else v.now
      framesReceived := v.framesReceived + 1 }
  else v

/-- A start takes a fresh snapshot unless a session is active that nobody has released. -/
def start (v : Session) : Session :=
  if v.releasing || !v.active then
    { v with
      savedStates := some ⟨v.sessions + 1, v.lights.filterMap v.states⟩
      sessions := v.sessions + 1, active := true, lastFrameTime := v.now
      releasing := false, releaseForcing := false, graceRunning := false }
  else v

/-- The stop of an active session waits for the session's loop. -/
def stop (v : Session) : Session :=
  if v.active then
    { v with
      active := false, releasing := false, releaseForcing := false, graceRunning := false
      stops := Function.update v.stops v.nextStop (some .waiting), nextStop := v.nextStop + 1 }
  else v

def release (v : Session) : Session :=
  { v with savedStates := none, releasing := true, releaseForcing := false, graceRunning := true }

def graceExpired (v : Session) : Option Session :=
  if v.graceRunning then
    some (if v.active then { v with graceRunning := false, releaseForcing := true }
      else { v with graceRunning := false, releasing := false, releaseForcing := false })
  else none

/-- The stop takes the saved states, and restores them if there are any. -/
def drained (v : Session) (stop : TeardownId) : Option Session :=
  if v.stops stop = some .waiting then
    let next := match v.savedStates with
      | some saved => if saved.states = [] then Stop.done else .reproducing saved
      | none => .done
    some { v with savedStates := none, framesReceived := 0, stops := Function.update v.stops stop (some next) }
  else none

def reproduced (v : Session) (stop : TeardownId) : Option Session :=
  match v.stops stop with
  | some (.reproducing _) => some { v with stops := Function.update v.stops stop (some .done) }
  | _ => none

def step (v : Session) : SessionEvent → Option Session
  | .frame data => some (v.frame data)
  | .command _ _ => some v
  | .start => some v.start
  | .stop => some v.stop
  | .release _ => some v.release
  | .graceExpired => v.graceExpired
  | .drained stop => v.drained stop
  | .reproduced stop _ => v.reproduced stop
  | .tick elapsed => if 0 ≤ elapsed then some { v with now := v.now + elapsed } else none
  | .setState entityId state => some { v with states := Function.update v.states entityId state }

end Session

def stopOf : Teardown → Stop
  | .awaitingDrain _ => .waiting
  | .reproducing saved => .reproducing saved
  | .done => .done

/-- The session of an engine. -/
@[simps]
def view (s : Engine) : Session where
  lights := s.channels.map (fun channelId => (s.mapping channelId).entityId)
  states := s.states
  now := s.now
  active := s.active
  savedStates := s.savedStates
  releasing := s.releasing
  releaseForcing := s.releaseForcing
  graceRunning := s.releaseCancel.isSome
  lastFrameTime := s.lastFrameTime
  framesReceived := s.stats.totalFramesReceived
  sessions := s.sessions
  stops := fun teardown => (s.teardowns teardown).map stopOf
  nextStop := s.nextTeardown

/-- What a step of the engine is to its session, if it is anything. -/
def label (s : Engine) : Event → Option SessionEvent
  | .frame data => some (.frame data)
  | .command lightId body => some (.command lightId body)
  | .snapshot => some .start
  | .restore => some .stop
  | .pause _ | .resume | .drain _ _ => none
  | .release seconds => some (.release seconds)
  | .fire timer =>
      match s.timers timer with
      | some ⟨.releaseGraceExpired, _⟩ => some .graceExpired
      | _ => none
  | .drained teardown => some (.drained teardown)
  | .reproduced teardown outcome => some (.reproduced teardown outcome)
  | .tick elapsed => some (.tick elapsed)
  | .setState entityId state => some (.setState entityId state)

/-- The step is the session's, or none of the session's. -/
def Refines (s : Engine) (event : Event) (t : Engine) : Prop :=
  match label s event with
  | none => view t = view s
  | some visible => (view s).step visible = some (view t)

theorem lights_step {s t : Engine} {event : Event} (move : Move s event t) : (view t).lights = (view s).lights := by
  rw [view_lights, view_lights, channels_step move]
  exact List.map_congr_left (fun channelId _ => entityId_step move channelId)

theorem stops_set (s : Engine) (teardown : TeardownId) (pc : Teardown) :
    (fun stop => (Function.update s.teardowns teardown (some pc) stop).map stopOf) =
      Function.update (view s).stops teardown (some (stopOf pc)) := by
  funext stop
  by_cases here : stop = teardown
  · subst here
    rw [Function.update_self, Function.update_self]
    rfl
  · rw [Function.update_of_ne here, Function.update_of_ne here]
    rfl

/-- The counter of the frames is not the drain loop's. -/
theorem scan_received (drain : DrainId) (channels : List ChannelId) (s : Engine) :
    (s.scan drain channels).1.stats.totalFramesReceived = s.stats.totalFramesReceived := by
  induction channels generalizing s with
  | nil => rfl
  | cons channelId rest ih =>
    unfold Engine.scan
    simp only []
    split
    next =>
      split
      next => exact ih _
      next =>
        split
        next => rfl
        next => exact ih _
    next => exact ih _

theorem drainPass_received (s : Engine) (drain : DrainId) (idleSince : Option ℚ) :
    (s.drainPass drain idleSince).stats.totalFramesReceived = s.stats.totalFramesReceived := by
  have received := scan_received drain s.channels { s with wake := false }
  unfold Engine.drainPass
  rcases scanned : Engine.scan { s with wake := false } drain s.channels with ⟨next, _ | ⟨call, rest⟩⟩
  · rw [scanned] at received
    simp only []
    split
    next => exact received
    next =>
      split
      next => exact received
      next => split <;> exact received
  · rw [scanned] at received
    exact received

theorem drainAfterCall_received (s : Engine) (drain : DrainId) (rest : List ChannelId) :
    (s.drainAfterCall drain rest).stats.totalFramesReceived = s.stats.totalFramesReceived := by
  have received := scan_received drain rest s
  unfold Engine.drainAfterCall
  rcases scanned : s.scan drain rest with ⟨next, _ | ⟨call, later⟩⟩
  · rw [scanned] at received
    exact (drainPass_received next drain none).trans received
  · rw [scanned] at received
    exact received

theorem drainStep_received {s t : Engine} {drain : DrainId} {outcome : Outcome}
    (stepped : s.drainStep drain outcome = some t) : t.stats.totalFramesReceived = s.stats.totalFramesReceived := by
  unfold Engine.drainStep at stepped
  split at stepped
  next => cases stepped
  next => cases stepped
  next =>
    cases stepped
    rfl
  next =>
    cases stepped
    exact drainPass_received _ _ _
  next =>
    cases stepped
    rfl
  next =>
    split at stepped
    next =>
      cases stepped
      exact drainAfterCall_received _ _ _
    next => cases stepped
  next =>
    cases stepped
    rfl
  next =>
    cases stepped
    exact drainPass_received _ _ _

/-- The counter of the frames after one. -/
theorem handleFrame_received (s : Engine) (data : Bytes) : (s.handleFrame data).stats.totalFramesReceived =
    if validFrame data then s.stats.totalFramesReceived + 1 else s.stats.totalFramesReceived := by
  unfold Engine.handleFrame validFrame
  rcases parseHuestreamFrame data with error | frame | frame
  · rfl
  · rfl
  · have counted : s.countFrame.stats.totalFramesReceived = s.stats.totalFramesReceived + 1 := by
      rw [Engine.countFrame_stats]
      unfold Stats.logFps
      split <;> rfl
    simp only [↓reduceIte]
    split
    next => exact counted
    next =>
      obtain ⟨_, _, _, _, scheduled⟩ := scheduleAll_eq frame.channels frame.colorSpace s.countFrame
      rw [scheduled]
      exact counted

/-- A step that keeps everything of the session but perhaps the mappings of its lights. -/
theorem view_of_kept {s t : Engine} {event : Event} {v : Session} (move : Move s event t)
    (lights : v.lights = (view s).lights) (rest : { view t with lights := v.lights } = v) : view t = v := by
  rw [← rest, lights, ← lights_step move]

theorem frame_view {s t : Engine} {data : Bytes} (same : s.handleFrame data = t)
    (move : Move s (.frame data) t) (kept : { view t with
      lights := (view s).lights, lastFrameTime := s.lastFrameTime, framesReceived := s.stats.totalFramesReceived } =
      view s) : view t = (view s).frame data := by
  obtain ⟨_, _, _, last⟩ := handleFrame_clock s data
  have received := handleFrame_received s data
  rw [same] at last received
  have rest : view t = { view s with lastFrameTime := t.lastFrameTime, framesReceived := t.stats.totalFramesReceived } := by
    rw [← kept, ← lights_step move]
    rfl
  rw [rest, last, received]
  unfold Session.frame
  cases validFrame data with
  | false => rfl
  | true => cases forcing : s.releaseForcing <;> simp [forcing]

/-- A start: of the session that it opens and of the release that it resolves nothing is left of before. -/
theorem opened_view {s t : Engine} {forcing : Bool} {cancel : Option TimerId} {timers : TimerId → Option Timer}
    {first : List Obs} (owned : TimersOwned s) (unholds : Unholds s forcing cancel timers first)
    (move : Move s .snapshot t) (kept : { view t with lights := (view s).lights } = { view s with
      savedStates := some (freshSnapshot s), sessions := s.sessions + 1, active := true, lastFrameTime := s.now
      releasing := false, releaseForcing := forcing, graceRunning := cancel.isSome }) :
    view t = (view s).start := by
  have resolved : forcing = false ∧ cancel = none := by
    cases unholds with
    | release releasing notices => exact ⟨rfl, rfl⟩
    | fresh unreleased inactive => exact (owned.unreleased unreleased).symm
  obtain ⟨rfl, rfl⟩ := resolved
  have opens : ((view s).releasing || !(view s).active) = true := by
    rcases opens_of_unholds unholds with releasing | inactive
    · simp [releasing]
    · simp [inactive]
  have fresh : (freshSnapshot s) = ⟨s.sessions + 1, (view s).lights.filterMap (view s).states⟩ := by
    simp [freshSnapshot, Engine.lightStates, List.filterMap_map]
  unfold Session.start
  rw [if_pos opens]
  refine view_of_kept move rfl ?_
  rw [kept, fresh]
  rfl

/-- A stop that suspends. -/
theorem closed_view {s t : Engine} {drain : DrainId} {entries : List Obs} (active : s.active = true)
    (move : Move s .restore t)
    (same : t = ((sessionClosed s entries).cancelDrain drain).setTeardown s.nextTeardown (.awaitingDrain drain)) :
    view t = (view s).stop := by
  have stops : (view t).stops = Function.update (view s).stops s.nextTeardown (some .waiting) := by
    rw [same]
    exact stops_set s s.nextTeardown (.awaitingDrain drain)
  have closes : (view s).stop = { view s with
      active := false, releasing := false, releaseForcing := false, graceRunning := false
      stops := Function.update (view s).stops s.nextTeardown (some .waiting), nextStop := s.nextTeardown + 1 } :=
    if_pos active
  rw [closes, ← stops]
  refine view_of_kept move rfl ?_
  rw [same]
  rfl

/-- A stop that goes on takes the saved states. -/
theorem drained_view {s t : Engine} {teardown : TeardownId} {drain : DrainId} {entries : List Obs}
    (found : s.teardowns teardown = some (.awaitingDrain drain)) (move : Move s (.drained teardown) t)
    (same : t = took { s with drainTask := none } teardown entries) :
    (view s).drained teardown = some (view t) := by
  have waiting : (view s).stops teardown = some .waiting := by
    rw [view_stops, found]
    rfl
  have stops : (view t).stops =
      Function.update (view s).stops teardown (some (stopOf (afterTaking teardown s.savedStates).1)) := by
    rw [same]
    exact stops_set s teardown _
  have next : stopOf (afterTaking teardown s.savedStates).1 = match (view s).savedStates with
      | some saved => if saved.states = [] then Stop.done else .reproducing saved
      | none => .done := by
    rw [view_savedStates]
    unfold afterTaking
    cases s.savedStates with
    | none => rfl
    | some saved =>
      simp only []
      split <;> rfl
  unfold Session.drained
  rw [if_pos waiting, ← next]
  simp only []
  rw [← stops]
  refine congrArg some (Eq.symm ?_)
  refine view_of_kept move rfl ?_
  rw [same]
  rfl

theorem reproduced_view {s t : Engine} {teardown : TeardownId} {saved : Snapshot} {outcome : Outcome}
    (found : s.teardowns teardown = some (.reproducing saved))
    (same : t = (s.observe (.reproduceEnded teardown outcome)).setTeardown teardown .done) :
    (view s).reproduced teardown = some (view t) := by
  have reproducing : (view s).stops teardown = some (.reproducing saved) := by
    rw [view_stops, found]
    rfl
  have stops : (view t).stops = Function.update (view s).stops teardown (some .done) := by
    rw [same]
    exact stops_set s teardown .done
  unfold Session.reproduced
  rw [reproducing, ← stops, same]
  rfl

theorem expired_view {s t : Engine} {timer : TimerId} {due : ℚ} {releasing forcing : Bool} {entries : List Obs}
    (owned : TimersOwned s) (pending : s.timers timer = some ⟨.releaseGraceExpired, due⟩)
    (move : Move s (.fire timer) t) (same : t = graceOver s timer releasing forcing entries)
    (resolves : (releasing, forcing) = if s.active then (s.releasing, true) else (false, false)) :
    (view s).graceExpired = some (view t) := by
  have running : (view s).graceRunning = true := by
    rw [view_graceRunning, (owned.grace timer).mp ⟨due, pending⟩]
    rfl
  unfold Session.graceExpired
  rw [if_pos running]
  refine congrArg some (Eq.symm ?_)
  cases active : s.active with
  | true =>
    rw [active] at resolves
    cases resolves
    rw [if_pos (show (view s).active = true from active)]
    refine view_of_kept move rfl ?_
    rw [same]
    rfl
  | false =>
    rw [active] at resolves
    cases resolves
    rw [if_neg (show ¬(view s).active = true by simp [active])]
    refine view_of_kept move rfl ?_
    rw [same]
    rfl

/-- The engine refines the session model, as long as an active session has its loop. -/
theorem view_step {s t : Engine} {event : Event} (owned : TimersOwned s) (looped : Looped s)
    (stepped : EngineSteps.machine.step s event = some t) : Refines s event t := by
  have whole := step_move stepped
  have some_of : ∀ v : Session, view t = v → some v = some (view t) := fun _ same => congrArg some same.symm
  unfold Refines
  cases step_move stepped with
  | frame wrote held same => exact some_of _ (frame_view same whole rfl)
  | commandKept rejected => rfl
  | commandJoined accepted running => exact some_of _ (view_of_kept whole rfl rfl)
  | commandStarted accepted idle notices => exact some_of _ (view_of_kept whole rfl rfl)
  | snapshotKept closed =>
    have kept : ¬((view s).releasing || !(view s).active) = true := by
      intro opens
      simp only [view_releasing, view_active, Bool.or_eq_true, Bool.not_eq_true'] at opens
      exact closed opens
    exact congrArg some (if_neg kept)
  | snapshotJoined unholds notices running => exact some_of _ (opened_view owned unholds whole rfl)
  | snapshotStarted unholds notices idle notices' => exact some_of _ (opened_view owned unholds whole rfl)
  | restoreKept inactive => exact congrArg some (if_neg (by simp [inactive]))
  | restoreSuspended active waits notices => exact some_of _ (closed_view active whole rfl)
  | restoreTook active free notices notices' =>
    obtain ⟨drain, live⟩ := (looped.streaming active).2
    rw [free] at live
    cases live
  | pauseKept releasing => rfl
  | paused unreleased notices => exact view_of_kept whole rfl rfl
  | resumeKept => rfl
  | resumed unreleased notices => exact view_of_kept whole rfl rfl
  | released notices => exact some_of _ (view_of_kept whole rfl rfl)
  | pauseExpired pending notices =>
    simp only [label, pending]
    exact view_of_kept whole rfl rfl
  | graceStale pending unreleased =>
    have held := (owned.grace _).mp ⟨_, pending⟩
    rw [(owned.unreleased unreleased).1] at held
    cases held
  | graceEnded pending releasing inactive notices =>
    simp only [label, pending]
    exact expired_view owned pending whole rfl (by rw [inactive]; rfl)
  | graceForced pending releasing active notices =>
    simp only [label, pending]
    exact expired_view owned pending whole rfl (by rw [active]; rfl)
  | drain move =>
    have counted : { view s with framesReceived := t.stats.totalFramesReceived } = view s := by
      rw [drainStep_received stepped]
      rfl
    apply view_of_kept whole rfl
    rw [← counted]
    obtain ⟨_, _, _, _, _, _, rfl⟩ := move.frame
    rfl
  | drained found finished notices => exact drained_view found whole rfl
  | reproduced found => exact reproduced_view found rfl
  | tick forward =>
    simp only [label, Session.step, if_pos forward]
    rfl
  | setState => rfl

end HueEntertainment.SessionModel
