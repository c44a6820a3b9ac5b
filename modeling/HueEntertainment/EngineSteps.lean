import HueEntertainment.Entertainment
import HueEntertainment.Runs

/-! Runs of the engine. An event is one atomic piece of the event loop's work: a call into the
engine, a timer that fires, a task that resumes where it was suspended, or a change around the
engine. Whoever calls the engine, and in whatever order its tasks run, is a list of events. -/

namespace HueEntertainment.EngineSteps
open HueStream LightCommand PyValue Entertainment Runs

inductive Event where
  | frame (data : Bytes)
  | command (lightId : Nat) (body : Json)
  | snapshot
  | restore
  | pause (seconds : ℚ)
  | resume
  | release (seconds : ℚ)
  | fire (timer : TimerId)
  | drain (drain : DrainId) (outcome : Outcome)
  | drained (teardown : TeardownId)
  | reproduced (teardown : TeardownId) (outcome : Outcome)
  | tick (elapsed : ℚ)
  | setState (entityId : String) (state : Option LightState)

/-- A pending timer runs its action and is pending no more. The event loop may run a timer within
its clock resolution of being due, so a run is not bound to `due`. -/
def fireTimer (s : Engine) (timer : TimerId) : Option Engine :=
  match s.timers timer with
  | none => none
  | some ⟨.pauseExpired, _⟩ => some (s.cancelTimer (some timer)).onPauseExpired
  | some ⟨.releaseGraceExpired, _⟩ => some (s.cancelTimer (some timer)).onReleaseGraceExpired

/-- A call of `async_restore_lights` that waits for its drain task goes on once that task is done. -/
def drainedStep (s : Engine) (teardown : TeardownId) : Option Engine :=
  match s.teardowns teardown with
  | some (.awaitingDrain drain) => if s.drainDone drain then some (s.afterDrain teardown) else none
  | _ => none

/-- The bounded `async_reproduce_state` of a teardown is over, in any way. -/
def reproducedStep (s : Engine) (teardown : TeardownId) (outcome : Outcome) : Option Engine :=
  match s.teardowns teardown with
  | some (.reproducing _) =>
      some ((s.observe (.reproduceEnded teardown outcome)).setTeardown teardown .done)
  | _ => none

def step (s : Engine) : Event → Option Engine
  | .frame data => some (s.handleFrame data)
  | .command lightId body => some (s.handleLightCommand lightId body)
  | .snapshot => some s.asyncSnapshotLights
  | .restore => some s.asyncRestoreLights
  | .pause seconds => some (s.asyncPause seconds)
  | .resume => some s.asyncResume
  | .release seconds => some (s.asyncRelease seconds)
  | .fire timer => fireTimer s timer
  | .drain drain outcome => s.drainStep drain outcome
  | .drained teardown => drainedStep s teardown
  | .reproduced teardown outcome => reproducedStep s teardown outcome
  | .tick elapsed => if 0 ≤ elapsed then some { s with now := s.now + elapsed } else none
  | .setState entityId state => some { s with states := Function.update s.states entityId state }

/-- The engine that `async_setup_entry` builds for its lights: their mappings are fresh. -/
def engineOf (lights : List (ChannelId × String)) (states : String → Option LightState) (now : ℚ) : Engine :=
  Engine.new (lights.map (fun light => { channelId := light.1, entityId := light.2 })) states now

/-- The engine from its construction on, for any lights, any states and any clock. -/
def machine : Machine Engine Event where
  Start := fun s => ∃ lights states now, s = engineOf lights states now
  step := step

/-- An engine without lights, for runs in which only the session matters. -/
def lightless : Engine := engineOf [] (fun _ => none) 0

/-- An engine with one light that Home Assistant reports as on. -/
def oneLight : Engine := engineOf [(1, "light.one")] (fun entityId => some ⟨entityId, "on"⟩) 0

end HueEntertainment.EngineSteps
