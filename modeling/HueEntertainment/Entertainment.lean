import HueEntertainment.LightCommand
import Mathlib.Logic.Function.Basic
import Mathlib.Tactic.Simps.Basic

/-! The `EntertainmentEngine` with the part of Home Assistant and of the event loop it acts on:
the clock, the state machine, the timers of `async_call_later`, the drain-loop tasks and the
suspended calls of `async_restore_lights`. Each function here is code that runs without
suspending, so it is one atomic step of the event loop, at one reading of the clock. -/

namespace HueEntertainment.Entertainment
open HueEntertainment.Const HueStream LightCommand PyValue

abbrev DrainId := Nat
abbrev TimerId := Nat
abbrev TeardownId := Nat

/-- The `State` object of one light; its attributes are only handed back to Home Assistant. -/
structure LightState where
  entityId : String
  state : String
  deriving DecidableEq, Repr

def stateUnavailable : String := "unavailable"

/-- `_saved_states`, with the ghost number of the session whose start took them. -/
structure Snapshot where
  session : Nat
  states : List LightState
  deriving DecidableEq, Repr

inductive Status where
  | idle | streaming | classic | paused | releasing
  deriving DecidableEq, Repr

/-- A `light.turn_on` or `light.turn_off` call of a drain loop, with the ghost list of the writes
whose data it carries. -/
structure Call where
  channelId : ChannelId
  service : Service
  data : ServiceData
  source : List Write

inductive Outcome where
  | returned | raised | timedOut | cancelled
  deriving DecidableEq, Repr

/-- Where a drain-loop task is suspended. -/
inductive DrainPc where
  | created
  | calling (call : Call) (rest : List ChannelId)
  | waiting (idleSince : Option ℚ)
  | done

structure Drain where
  pc : DrainPc
  cancelling : Bool

/-- Where a call of `async_restore_lights` is suspended, once it has cleared `_active`. -/
inductive Teardown where
  | awaitingDrain (drain : DrainId)
  | reproducing (saved : Snapshot)
  | done

inductive TimerAction where
  | pauseExpired
  | releaseGraceExpired
  deriving DecidableEq, Repr

structure Timer where
  action : TimerAction
  due : ℚ
  deriving DecidableEq, Repr

/-- Ghost history of what the engine did, newest first. -/
inductive Obs where
  | notified (status : Status) (driving : Bool)
  | flushed
  | frameWrote (channel : ChannelColor) (colorSpace : Nat)
  | frameKept (channel : ChannelColor) (colorSpace : Nat) (against : Option Nat)
  | putWrote (channelId : ChannelId)
  | dropped (channelId : ChannelId)
  | callBegun (drain : DrainId) (call : Call) (begun : ℚ)
  | callEnded (drain : DrainId) (call : Call) (outcome : Outcome)
  | sessionBegun (saved : Snapshot)
  | sessionEnded (teardown : TeardownId) (session : Nat)
  | savedTaken (teardown : TeardownId) (saved : Option Snapshot)
  | reproduceBegun (teardown : TeardownId) (saved : Snapshot)
  | reproduceEnded (teardown : TeardownId) (outcome : Outcome)
  | released

/-- The counters behind the diagnostics and the periodic log line. -/
structure Stats where
  totalFramesReceived : Nat := 0
  totalCommandsSent : Nat := 0
  windowReceived : Nat := 0
  windowCommands : Nat := 0
  fpsTime : ℚ
  firstFrameLogged : Bool := false

/-- `_log_fps`: a new window every five seconds. -/
def Stats.logFps (stats : Stats) (now : ℚ) : Stats :=
  if now - stats.fpsTime < 5 then stats
  else { stats with windowReceived := 0, windowCommands := 0, fpsTime := now }

def Stats.frameReceived (stats : Stats) : Stats :=
  { stats with
    totalFramesReceived := stats.totalFramesReceived + 1
    windowReceived := stats.windowReceived + 1
    firstFrameLogged := true }

def Stats.commandSent (stats : Stats) : Stats :=
  { stats with
    totalCommandsSent := stats.totalCommandsSent + 1
    windowCommands := stats.windowCommands + 1 }

/-- The fields of the engine, then what it uses of Home Assistant and of the event loop, then the
ghost session counter and history. The dictionary `_mappings` is its keys in insertion order,
`channels`, and the value of each key, `mapping`. -/
structure Engine where
  channels : List ChannelId
  mapping : ChannelId → LightMapping
  stats : Stats
  lastFrameTime : ℚ := 0
  active : Bool := false
  savedStates : Option Snapshot := none
  drainTask : Option DrainId := none
  drainRunning : Bool := false
  wake : Bool := false
  pausedUntil : Option ℚ := none
  pauseCancel : Option TimerId := none
  releasing : Bool := false
  releaseForcing : Bool := false
  releaseCancel : Option TimerId := none
  now : ℚ
  states : String → Option LightState
  timers : TimerId → Option Timer := fun _ => none
  nextTimer : TimerId := 0
  drains : DrainId → Option Drain := fun _ => none
  nextDrain : DrainId := 0
  teardowns : TeardownId → Option Teardown := fun _ => none
  nextTeardown : TeardownId := 0
  sessions : Nat := 0
  log : List Obs := []

namespace Engine

/-- `EntertainmentEngine(hass, light_mappings)`: of two mappings with one channel id the later one
replaces the earlier one in its place. -/
def new (lightMappings : List LightMapping) (states : String → Option LightState) (now : ℚ) :
    Engine where
  channels := (lightMappings.map LightMapping.channelId).eraseDups
  mapping := fun channelId =>
    (lightMappings.reverse.find? (fun mapping => mapping.channelId == channelId)).getD
      { channelId := channelId, entityId := "" }
  stats := { fpsTime := now }
  now := now
  states := states

/-- `self._mappings.get(channel_id)`. -/
def mappingOf (s : Engine) (channelId : ChannelId) : Option LightMapping :=
  if channelId ∈ s.channels then some (s.mapping channelId) else none

@[simps]
def setMapping (s : Engine) (channelId : ChannelId) (mapping : LightMapping) : Engine :=
  { s with mapping := Function.update s.mapping channelId mapping }

@[simps]
def observe (s : Engine) (obs : Obs) : Engine := { s with log := obs :: s.log }

def isPaused (s : Engine) : Bool :=
  match s.pausedUntil with
  | some deadline => s.now < deadline
  | none => false

def suppressed (s : Engine) : Bool := s.isPaused || s.releasing

def isDrivingLights (s : Engine) : Bool := !s.suppressed && (s.active || s.drainRunning)

def status (s : Engine) : Status :=
  if s.releasing then .releasing
  else if s.isPaused then .paused
  else if s.active then .streaming
  else if s.drainRunning then .classic
  else .idle

/-- `self._notify()`: the listeners read the two properties at once. -/
@[simps]
def notify (s : Engine) : Engine := { s with log := .notified s.status s.isDrivingLights :: s.log }

/-- `async_call_later(hass, delay, action)`; the handle it returns is the timer's number. -/
@[simps]
def asyncCallLater (s : Engine) (delay : ℚ) (action : TimerAction) : Engine :=
  { s with
    timers := Function.update s.timers s.nextTimer (some ⟨action, s.now + delay⟩)
    nextTimer := s.nextTimer + 1 }

/-- Calling a cancel handle, when there is one. -/
@[simps]
def cancelTimer (s : Engine) (handle : Option TimerId) : Engine :=
  { s with timers := handle.elim s.timers (fun timer => Function.update s.timers timer none) }

@[simps]
def resetMappings (s : Engine) : Engine :=
  { s with mapping := fun channelId => (s.mapping channelId).forget, log := .flushed :: s.log }

def resetStats (s : Engine) : Engine :=
  resetMappings { s with stats := { fpsTime := s.now } }

/-- `hass.async_create_task(self._drain_loop())`. The task's first step is an event of its own: the
next one where Home Assistant starts tasks eagerly. -/
@[simps]
def createDrainTask (s : Engine) : Engine :=
  { s with
    drains := Function.update s.drains s.nextDrain (some ⟨.created, false⟩)
    nextDrain := s.nextDrain + 1
    drainTask := some s.nextDrain }

def ensureDrainTask (s : Engine) : Engine :=
  if s.drainRunning then s else notify { s.createDrainTask with drainRunning := true }

def cancelPause (s : Engine) : Engine :=
  let s := { s with pausedUntil := none }
  { s.cancelTimer s.pauseCancel with pauseCancel := none }

def cancelRelease (s : Engine) : Engine :=
  let wasReleasing := s.releasing
  let s := { s with releasing := false, releaseForcing := false }
  let s := { s.cancelTimer s.releaseCancel with releaseCancel := none }
  if wasReleasing then s.notify else s

/-- The states found for the mapped lights, in the order of the mappings. -/
def lightStates (s : Engine) : List LightState :=
  s.channels.filterMap (fun channelId => s.states (s.mapping channelId).entityId)

/-- A fresh snapshot: the part of `async_snapshot_lights` past its two guards. -/
def beginSession (s : Engine) : Engine :=
  let saved : Snapshot := ⟨s.sessions + 1, s.lightStates⟩
  let s := { s with savedStates := some saved, sessions := s.sessions + 1 }
  let s := (s.observe (.sessionBegun saved)).resetMappings
  let s := { s with active := true, lastFrameTime := s.now }
  s.notify.ensureDrainTask

def asyncSnapshotLights (s : Engine) : Engine :=
  if s.releasing then s.cancelRelease.beginSession
  else if s.active then s
  else s.beginSession

def drainDone (s : Engine) (drain : DrainId) : Bool :=
  match s.drains drain with
  | some ⟨.done, _⟩ => true
  | _ => false

/-- The drain task that `async_restore_lights` has to cancel, if it is not done. -/
def liveDrainTask (s : Engine) : Option DrainId :=
  s.drainTask.filter (fun drain => !s.drainDone drain)

/-- `task.cancel()`: the task gets its `CancelledError` when it next runs. -/
@[simps]
def cancelDrain (s : Engine) (drain : DrainId) : Engine :=
  { s with drains := Function.update s.drains drain ((s.drains drain).map ({ · with cancelling := true })) }

@[simps]
def setTeardown (s : Engine) (teardown : TeardownId) (pc : Teardown) : Engine :=
  { s with teardowns := Function.update s.teardowns teardown (some pc) }

/-- `async_restore_lights` from `_drain_running = False` up to the call of `async_reproduce_state`. -/
def takeSaved (s : Engine) (teardown : TeardownId) : Engine :=
  let s := notify { s with drainRunning := false }
  let saved := s.savedStates
  let s := ({ s with savedStates := none }.observe (.savedTaken teardown saved)).resetStats
  match saved with
  | some saved =>
      if saved.states = [] then s.setTeardown teardown .done
      else (s.observe (.reproduceBegun teardown saved)).setTeardown teardown (.reproducing saved)
  | none => s.setTeardown teardown .done

/-- `async_restore_lights` up to `self._cancel_release()`. -/
def stopSession (s : Engine) : Engine :=
  let s := { s with active := false, nextTeardown := s.nextTeardown + 1 }
  (s.observe (.sessionEnded (s.nextTeardown - 1) s.sessions)).cancelRelease

/-- `async_restore_lights` from there to its first suspension: the wait for the cancelled drain
task, or without one the call of `async_reproduce_state`. -/
def leaveDrain (s : Engine) (teardown : TeardownId) : Engine :=
  match s.liveDrainTask with
  | some drain => (s.cancelDrain drain).setTeardown teardown (.awaitingDrain drain)
  | none => s.takeSaved teardown

/-- `async_restore_lights` up to its first suspension. -/
def asyncRestoreLights (s : Engine) : Engine :=
  if s.active then s.stopSession.leaveDrain s.nextTeardown else s

/-- `async_restore_lights` once its drain task is done. A cancellation of the caller that arrives
during that wait is swallowed there, so it changes nothing. -/
def afterDrain (s : Engine) (teardown : TeardownId) : Engine :=
  takeSaved { s with drainTask := none } teardown

def resolvedSeconds (seconds : ℚ) : ℚ := if 0 < seconds then seconds else defaultYieldSeconds

def asyncPause (s : Engine) (seconds : ℚ) : Engine :=
  if s.releasing then s
  else
    let s := s.cancelPause.resetMappings
    let s := notify { s with pausedUntil := some (s.now + resolvedSeconds seconds) }
    { s.asyncCallLater (resolvedSeconds seconds) .pauseExpired with pauseCancel := some s.nextTimer }

def asyncResume (s : Engine) : Engine :=
  if s.releasing || s.pausedUntil.isNone then s else s.cancelPause.notify

/-- `async_release` up to its optional settle sleep, after which it does nothing more. -/
def asyncRelease (s : Engine) (seconds : ℚ) : Engine :=
  let s := s.cancelPause.resetMappings
  let s := { s with savedStates := none, releasing := true, releaseForcing := false }
  let s := (s.observe .released).notify
  let s := s.cancelTimer s.releaseCancel
  { s.asyncCallLater (resolvedSeconds seconds) .releaseGraceExpired with
    releaseCancel := some s.nextTimer }

def onPauseExpired (s : Engine) : Engine :=
  notify { s with pausedUntil := none, pauseCancel := none }

def onReleaseGraceExpired (s : Engine) : Engine :=
  let s := { s with releaseCancel := none }
  if !s.releasing then s
  else if !s.active then s.cancelRelease
  else notify { s with releaseForcing := true }

def scheduleUpdate (s : Engine) (channel : ChannelColor) (colorSpace : Nat) : Engine :=
  match s.mappingOf channel.channelId with
  | none => s
  | some mapping =>
      if mapping.withinTolerance channel colorSpace then
        s.observe (.frameKept channel colorSpace mapping.lastSpace)
      else
        { (s.setMapping channel.channelId (mapping.schedule channel colorSpace)).observe
            (.frameWrote channel colorSpace) with wake := true }

/-- The clock and the counters that `handle_frame` keeps whether or not the frame takes effect. A
release that is being forced stops the clock. -/
@[simps]
def countFrame (s : Engine) : Engine :=
  { s with
    lastFrameTime := if s.releaseForcing then s.lastFrameTime else s.now
    stats := s.stats.frameReceived.logFps s.now }

def handleFrame (s : Engine) (data : Bytes) : Engine :=
  match parseHuestreamFrame data with
  | .ok (some frame) =>
      if s.countFrame.suppressed then s.countFrame
      else frame.channels.foldl (fun s channel => s.scheduleUpdate channel frame.colorSpace) s.countFrame
  | _ => s

/-- `handle_light_command`; a body that raises does so before anything is written. -/
def handleLightCommand (s : Engine) (lightId : Nat) (body : Json) : Engine :=
  if s.suppressed then s
  else match s.mappingOf lightId with
    | none => s
    | some mapping =>
        match mapping.commandSlot lightId body with
        | .ok (some slot) =>
            ensureDrainTask
              { (s.setMapping lightId (mapping.queue slot)).observe (.putWrote lightId) with wake := true }
        | _ => s

/-- `state is not None and state.state == STATE_UNAVAILABLE`. -/
def reportedUnavailable (s : Engine) (entityId : String) : Bool :=
  (s.states entityId).any (fun state => state.state == stateUnavailable)

/-- `_light_available`, with the flag that keeps its warning to one per unavailable spell. -/
def lightAvailable (s : Engine) (mapping : LightMapping) : Bool × LightMapping :=
  if s.reportedUnavailable mapping.entityId then (false, mapping.noted true)
  else (true, mapping.noted false)

/-- The service call that the drain loop makes of grabbed data. -/
def callOf (s : Engine) (channelId : ChannelId) (mapping : LightMapping) (data : ServiceData) : Call where
  channelId := channelId
  service := data.service.getD .turnOn
  data :=
    let data := { data with service := none }
    if mapping.explicitTransition then data
    else { data with transition := some (dynamicTransition s.now mapping.lastSent) }
  source := mapping.pendingFrom

/-- The rest of a pass over the mappings, up to the first service call it begins: that call and the
mappings the pass still has to visit after it. -/
def scan (s : Engine) (drain : DrainId) : List ChannelId → Engine × Option (Call × List ChannelId)
  | [] => (s, none)
  | channelId :: rest =>
      let mapping := s.mapping channelId
      if mapping.dirty then
        match mapping.pendingData with
        | none => scan (s.setMapping channelId mapping.grab) drain rest
        | some data =>
            let (available, seen) := s.lightAvailable mapping.grab
            if available then
              let call := s.callOf channelId mapping data
              let s := s.setMapping channelId (seen.sentAt s.now)
              let s := { s with stats := s.stats.commandSent }
              (s.observe (.callBegun drain call s.now), some (call, rest))
            else scan ((s.setMapping channelId seen).observe (.dropped channelId)) drain rest
      else scan s drain rest

@[simps]
def setDrain (s : Engine) (drain : DrainId) (pc : DrainPc) : Engine :=
  { s with drains := Function.update s.drains drain ((s.drains drain).map ({ · with pc := pc })) }

/-- The `finally` of `_drain_loop`, and with it the end of the task. -/
def drainFinally (s : Engine) (drain : DrainId) : Engine :=
  notify { s.setDrain drain .done with drainRunning := false }

/-- From the top of the `while` loop to the next suspension or to the idle exit. -/
def drainPass (s : Engine) (drain : DrainId) (idleSince : Option ℚ) : Engine :=
  match scan { s with wake := false } drain s.channels with
  | (s, some (call, rest)) => s.setDrain drain (.calling call rest)
  | (s, none) =>
      if s.active then s.setDrain drain (.waiting idleSince)
      else match idleSince with
        | none => s.setDrain drain (.waiting (some s.now))
        | some since =>
            if classicDrainIdle < s.now - since then s.drainFinally drain
            else s.setDrain drain (.waiting idleSince)

/-- From the return of a service call, in the middle of a pass, to the next suspension. -/
def drainAfterCall (s : Engine) (drain : DrainId) (rest : List ChannelId) : Engine :=
  match s.scan drain rest with
  | (s, some (call, rest)) => s.setDrain drain (.calling call rest)
  | (s, none) => s.drainPass drain none

/-- One step of a drain-loop task: its first one, or the one after the await it is suspended in is
over, with the outcome of the service call if that is what it awaited. A task that was cancelled
gets the `CancelledError` there: before its first step the coroutine is never entered, anywhere
else the loop returns through its `finally`. -/
def drainStep (s : Engine) (drain : DrainId) (outcome : Outcome) : Option Engine :=
  match s.drains drain with
  | none => none
  | some ⟨.done, _⟩ => none
  | some ⟨.created, true⟩ => some (s.setDrain drain .done)
  | some ⟨.created, false⟩ => some (s.drainPass drain none)
  | some ⟨.calling call _, true⟩ =>
      some ((s.observe (.callEnded drain call .cancelled)).drainFinally drain)
  | some ⟨.calling call rest, false⟩ =>
      if outcome = .returned ∨ outcome = .raised then
        some ((s.observe (.callEnded drain call outcome)).drainAfterCall drain rest)
      else none
  | some ⟨.waiting _, true⟩ => some (s.drainFinally drain)
  | some ⟨.waiting idleSince, false⟩ => some (s.drainPass drain idleSince)

end Engine

end HueEntertainment.Entertainment
