import HueEntertainment.Runs
import Mathlib.Logic.Function.Basic

/-! The pairing step of the config flow, which runs a temporary API server and advertises it until a TV has paired,
and the flow manager of Home Assistant that calls the steps of the flow. -/

namespace HueEntertainment.PairingWizard
open Runs

/-- A call of `async_step_pairing`. The server, the advertisement and the task that it makes go by its number. -/
abbrev CallId := Nat

/-- What `_cleanup_temp_servers` was called for. -/
inductive After where
  | abort | progressDone
  deriving DecidableEq, Repr

/-- What a call is waiting for. -/
inductive Pc where
  | sourceIp | apiStart | zeroconf | discoveryStart
  | apiStop (api : CallId) (after : After)
  | discoveryStop (discovery : CallId) (after : After)
  deriving DecidableEq, Repr

/-- A pairing task; the result is `none` when the task raised. -/
inductive Task where
  | running | cancelling
  | done (result : Option Bool)
  | cancelled
  deriving DecidableEq, Repr

inductive StepId where
  | user | prePairing | pairing | paired | notPaired
  deriving DecidableEq, Repr

inductive Ending where
  | entry | aborted | dropped
  deriving DecidableEq, Repr

/-- The temporary servers as they are, whoever has a reference to them, and what the flow has come to: the server that
answers on the port, the advertised bridges, how the flow ended, and whether its last step raised. -/
structure World where
  serving : Option CallId := none
  advertised : List CallId := []
  ended : Option Ending := none
  raised : Bool := false
  deriving DecidableEq, Repr

/-- The config flow, the calls of `async_step_pairing` that have not returned, and what the flow manager knows. -/
structure Wizard where
  pairingTask : Option CallId := none
  tempApi : Option CallId := none
  tempDiscovery : Option CallId := none
  paired : Bool := false
  calls : List (CallId × Pc) := []
  nextCall : CallId := 0
  tasks : CallId → Option Task := fun _ => none
  curStep : StepId := .user
  progressTask : Option CallId := none
  world : World := {}

def World.finish (world : World) (ending : Ending) : World :=
  if world.ended = none then { world with ended := some ending } else world

namespace Wizard

def enter (w : Wizard) (call : CallId) (pc : Pc) : Wizard :=
  { w with calls := (call, pc) :: w.calls.filter (fun entry => entry.1 ≠ call) }

def leave (w : Wizard) (call : CallId) : Wizard :=
  { w with calls := w.calls.filter (fun entry => entry.1 ≠ call) }

/-- The step raises; the flow manager keeps the flow where it was. -/
def raise (w : Wizard) (call : CallId) : Wizard := { w.leave call with world := { w.world with raised := true } }

/-- `task.cancel()`. -/
def cancel (w : Wizard) (task : CallId) : Wizard :=
  if w.tasks task = some .running then { w with tasks := Function.update w.tasks task (some .cancelling) } else w

/-- `flow.async_cancel_progress_task()`. -/
def cancelProgress (w : Wizard) : Wizard :=
  match w.progressTask with
  | some task => { w.cancel task with progressTask := none }
  | none => w

/-- A form, or `async_show_progress_done`. For a flow that is gone the flow manager raises `UnknownFlow`. -/
def showStep (w : Wizard) (step : StepId) : Wizard :=
  if w.world.ended = none then { w.cancelProgress with curStep := step } else w

/-- `async_show_progress`. -/
def showProgress (w : Wizard) (task : CallId) : Wizard :=
  if w.world.ended = none then { w with curStep := .pairing, progressTask := some task } else w

/-- `async_abort`, `async_create_entry`, or the flow is dropped: it calls `async_remove`, which the class does not
define. -/
def finish (w : Wizard) (ending : Ending) : Wizard :=
  if w.world.ended = none then { w.cancelProgress with world := w.world.finish ending } else w

/-- The task of the flow exists and is not done. -/
def taskPending (w : Wizard) : Bool :=
  match w.pairingTask with
  | some task => w.tasks task = some .running || w.tasks task = some .cancelling
  | none => false

/-- `_pairing_task.result()` raises `CancelledError`, which is not an `Exception`. -/
def taskCancelled (w : Wizard) : Bool :=
  match w.pairingTask with
  | some task => w.tasks task = some .cancelled
  | none => false

/-- The end of `_cleanup_temp_servers`, and what the step returns after it. -/
def cleanupTask (w : Wizard) (call : CallId) (after : After) : Wizard :=
  let w :=
    match w.pairingTask with
    | some task => if w.taskPending then { w.cancel task with pairingTask := none } else w
    | none => w
  match after with
  | .abort => (w.leave call).finish .aborted
  | .progressDone => (w.leave call).showStep (if w.paired then .paired else .notPaired)

def cleanupDiscovery (w : Wizard) (call : CallId) (after : After) : Wizard :=
  match w.tempDiscovery with
  | some discovery => w.enter call (.discoveryStop discovery after)
  | none => w.cleanupTask call after

/-- `_cleanup_temp_servers`, up to its first `await`. -/
def cleanupTempServers (w : Wizard) (call : CallId) (after : After) : Wizard :=
  match w.tempApi with
  | some api => w.enter call (.apiStop api after)
  | none => w.cleanupDiscovery call after

/-- `async_step_pairing` from `if not self._pairing_task.done()` on. -/
def checkTask (w : Wizard) (call : CallId) : Wizard :=
  match w.pairingTask with
  | none => w.raise call
  | some task =>
      match w.tasks task with
      | some (.done result) => { w with paired := result.getD false }.cleanupTempServers call .progressDone
      | some .cancelled => w.raise call
      | _ => (w.leave call).showProgress task

/-- A call of `async_step_pairing`, up to its first `await`. -/
def asyncStepPairing (w : Wizard) : Wizard :=
  let call := w.nextCall
  let w := { w with nextCall := w.nextCall + 1 }
  if w.pairingTask = none then w.enter call .sourceIp else w.checkTask call

/-- `async_configure`: the flow manager calls the current step. `unique` tells that the unique id of the flow is not
taken. -/
def asyncConfigure (w : Wizard) (input unique : Bool) : Wizard :=
  match w.curStep with
  | .user => if input then (if unique then w.showStep .prePairing else w.finish .aborted) else w.showStep .user
  | .prePairing => if input then w.asyncStepPairing else w.showStep .prePairing
  | .pairing => w.asyncStepPairing
  | .paired => w.finish .entry
  | .notPaired => if input then w.finish .entry else w.showStep .notPaired

end Wizard

/-- How `HueAPIServer.async_start` comes out. -/
inductive ApiStart where
  | started | osError | error
  deriving DecidableEq, Repr

/-- A submission of the user or a progress callback, what a call was waiting for, the end of a pairing task, and the
drop of the flow. -/
inductive Event where
  | configure (input unique : Bool)
  | sourceIp (call : CallId) (found : Bool)
  | apiStart (call : CallId) (outcome : ApiStart)
  | zeroconf (call : CallId) (found : Bool)
  | discoveryStart (call : CallId) (registered : Bool)
  | apiStop (call : CallId)
  | discoveryStop (call : CallId)
  | taskEnd (task : CallId) (result : Option Bool)
  | drop
  deriving Repr

/-- What `call` was waiting for has come. -/
def resume (w : Wizard) (call : CallId) (go : Pc → Option Wizard) : Option Wizard := (w.calls.lookup call).bind go

/-- When Home Assistant's own server is `hosted` there, attaching replaces the attached server; otherwise the port is
bound, which fails as long as another server has it. -/
def step (hosted : Bool) (w : Wizard) : Event → Option Wizard
  | .configure input unique =>
      if w.world.ended = none then some ({ w with world := { w.world with raised := false } }.asyncConfigure input unique)
      else none
  | .sourceIp call found => resume w call fun
      | .sourceIp => some (if found then { w with tempApi := some call }.enter call .apiStart else w.raise call)
      | _ => none
  | .apiStart call outcome => resume w call fun
      | .apiStart =>
          match outcome with
          | .started =>
              if hosted ∨ w.world.serving = none then
                let w := { w with world := { w.world with serving := some call } }
                -- `self._temp_api.set_link_button(True)`
                some (if w.tempApi = none then w.raise call else w.enter call .zeroconf)
              else none
          | .osError => some (w.cleanupTempServers call .abort)
          | .error => some (w.raise call)
      | _ => none
  | .zeroconf call found => resume w call fun
      | .zeroconf =>
          some (if found then { w with tempDiscovery := some call }.enter call .discoveryStart else w.raise call)
      | _ => none
  | .discoveryStart call registered => resume w call fun
      | .discoveryStart =>
          if registered then
            some ({ w with
              world := { w.world with advertised := call :: w.world.advertised }
              pairingTask := some call
              tasks := Function.update w.tasks call (some .running) }.checkTask call)
          else some (w.raise call)
      | _ => none
  | .apiStop call => resume w call fun
      | .apiStop api after =>
          let serving := if w.world.serving = some api then none else w.world.serving
          some ({ w with world := { w.world with serving }, tempApi := none }.cleanupDiscovery call after)
      | _ => none
  | .discoveryStop call => resume w call fun
      | .discoveryStop discovery after =>
          let advertised := w.world.advertised.filter (fun other => other ≠ discovery)
          some ({ w with world := { w.world with advertised }, tempDiscovery := none }.cleanupTask call after)
      | _ => none
  | .taskEnd task result =>
      match w.tasks task with
      | some .running => some { w with tasks := Function.update w.tasks task (some (.done result)) }
      | some .cancelling => some { w with tasks := Function.update w.tasks task (some .cancelled) }
      | _ => none
  | .drop => if w.world.ended = none then some (w.finish .dropped) else none

def machine (hosted : Bool) : Machine Wizard Event := ⟨fun w => w = {}, step hosted⟩

/-- `HueAPIServer.async_stop` of the server: a server that is attached in its place stays. -/
def World.stopApi (world : World) (api : CallId) : World :=
  { world with serving := if world.serving = some api then none else world.serving }

/-- `HueDiscovery.async_stop`. -/
def World.stopDiscovery (world : World) (discovery : CallId) : World :=
  { world with advertised := world.advertised.filter (fun other => other ≠ discovery) }

/-- What each event can do, and when. -/
inductive Move (hosted : Bool) (w : Wizard) : Event → Wizard → Prop where
  | configured {input unique : Bool} : w.world.ended = none → Move hosted w (.configure input unique)
      ({ w with world := { w.world with raised := false } }.asyncConfigure input unique)
  | located {call : CallId} : w.calls.lookup call = some .sourceIp →
      Move hosted w (.sourceIp call true) ({ w with tempApi := some call }.enter call .apiStart)
  | unlocated {call : CallId} : w.calls.lookup call = some .sourceIp → Move hosted w (.sourceIp call false) (w.raise call)
  | served {call : CallId} : w.calls.lookup call = some .apiStart → w.tempApi ≠ none →
      Move hosted w (.apiStart call .started)
        ({ w with world := { w.world with serving := some call } }.enter call .zeroconf)
  | servedUnheld {call : CallId} : w.calls.lookup call = some .apiStart → w.tempApi = none →
      Move hosted w (.apiStart call .started) ({ w with world := { w.world with serving := some call } }.raise call)
  | portTaken {call : CallId} : w.calls.lookup call = some .apiStart →
      Move hosted w (.apiStart call .osError) (w.cleanupTempServers call .abort)
  | unserved {call : CallId} : w.calls.lookup call = some .apiStart → Move hosted w (.apiStart call .error) (w.raise call)
  | zeroconfFound {call : CallId} : w.calls.lookup call = some .zeroconf →
      Move hosted w (.zeroconf call true) ({ w with tempDiscovery := some call }.enter call .discoveryStart)
  | zeroconfMissing {call : CallId} : w.calls.lookup call = some .zeroconf →
      Move hosted w (.zeroconf call false) (w.raise call)
  | registered {call : CallId} : w.calls.lookup call = some .discoveryStart → Move hosted w (.discoveryStart call true)
      ({ w with
        world := { w.world with advertised := call :: w.world.advertised }
        pairingTask := some call
        tasks := Function.update w.tasks call (some .running) }.checkTask call)
  | unregistered {call : CallId} : w.calls.lookup call = some .discoveryStart →
      Move hosted w (.discoveryStart call false) (w.raise call)
  | apiStopped {call api : CallId} {after : After} : w.calls.lookup call = some (.apiStop api after) →
      Move hosted w (.apiStop call)
        ({ w with world := w.world.stopApi api, tempApi := none }.cleanupDiscovery call after)
  | discoveryStopped {call discovery : CallId} {after : After} :
      w.calls.lookup call = some (.discoveryStop discovery after) → Move hosted w (.discoveryStop call)
        ({ w with world := w.world.stopDiscovery discovery, tempDiscovery := none }.cleanupTask call after)
  | taskDone {task : CallId} {result : Option Bool} : w.tasks task = some .running → Move hosted w (.taskEnd task result)
      { w with tasks := Function.update w.tasks task (some (.done result)) }
  | taskCancelled {task : CallId} {result : Option Bool} : w.tasks task = some .cancelling →
      Move hosted w (.taskEnd task result) { w with tasks := Function.update w.tasks task (some .cancelled) }
  | dropped : w.world.ended = none → Move hosted w .drop (w.finish .dropped)

theorem resume_eq_some {w v : Wizard} {call : CallId} {go : Pc → Option Wizard} (moved : resume w call go = some v) :
    ∃ pc, w.calls.lookup call = some pc ∧ go pc = some v :=
  Option.bind_eq_some_iff.mp moved

theorem step_move {hosted : Bool} {w v : Wizard} {event : Event} (moved : step hosted w event = some v) :
    Move hosted w event v := by
  cases event with
  | configure input unique =>
    simp only [step] at moved
    split at moved
    · next going => exact Option.some.inj moved ▸ .configured going
    · cases moved
  | sourceIp call found =>
    obtain ⟨pc, here, moved⟩ := resume_eq_some moved
    cases pc with
    | sourceIp =>
      cases moved
      cases found with
      | true => exact .located here
      | false => exact .unlocated here
    | _ => cases moved
  | apiStart call outcome =>
    obtain ⟨pc, here, moved⟩ := resume_eq_some moved
    cases pc with
    | apiStart =>
      cases outcome with
      | started =>
        dsimp only at moved
        split at moved
        · cases moved
          by_cases gone : w.tempApi = none
          · simp only [if_pos gone]
            exact .servedUnheld here gone
          · simp only [if_neg gone]
            exact .served here gone
        · cases moved
      | osError => exact Option.some.inj moved ▸ .portTaken here
      | error => exact Option.some.inj moved ▸ .unserved here
    | _ => cases moved
  | zeroconf call found =>
    obtain ⟨pc, here, moved⟩ := resume_eq_some moved
    cases pc with
    | zeroconf =>
      cases moved
      cases found with
      | true => exact .zeroconfFound here
      | false => exact .zeroconfMissing here
    | _ => cases moved
  | discoveryStart call registered =>
    obtain ⟨pc, here, moved⟩ := resume_eq_some moved
    cases pc with
    | discoveryStart =>
      cases registered with
      | true => exact Option.some.inj moved ▸ .registered here
      | false => exact Option.some.inj moved ▸ .unregistered here
    | _ => cases moved
  | apiStop call =>
    obtain ⟨pc, here, moved⟩ := resume_eq_some moved
    cases pc with
    | apiStop api after => exact Option.some.inj moved ▸ .apiStopped here
    | _ => cases moved
  | discoveryStop call =>
    obtain ⟨pc, here, moved⟩ := resume_eq_some moved
    cases pc with
    | discoveryStop discovery after => exact Option.some.inj moved ▸ .discoveryStopped here
    | _ => cases moved
  | taskEnd task result =>
    simp only [step] at moved
    split at moved
    · next running => exact Option.some.inj moved ▸ .taskDone running
    · next cancelling => exact Option.some.inj moved ▸ .taskCancelled cancelling
    · cases moved
  | drop =>
    simp only [step] at moved
    split at moved
    · next going => exact Option.some.inj moved ▸ .dropped going
    · cases moved

/-- The server or the advertisement that this call has started is running. -/
def World.Running (world : World) (call : CallId) : Prop := world.serving = some call ∨ call ∈ world.advertised

/-- Nothing is running. -/
def World.Idle (world : World) : Prop := world.serving = none ∧ world.advertised = []

/-- The flow goes on, and its last step did not raise. -/
def World.Open (world : World) : Prop := world.ended = none ∧ world.raised = false

/-- What runs belongs to one call, and nothing runs once the flow has ended or a step of it has raised. -/
structure World.Unleaked (world : World) : Prop where
  onePair : ∀ call other, world.Running call → world.Running other → call = other
  closed : ¬world.Open → world.Idle

def Unleaked (w : Wizard) : Prop := w.world.Unleaked

instance (world : World) : Decidable world.Idle :=
  inferInstanceAs (Decidable (world.serving = none ∧ world.advertised = []))

instance (world : World) : Decidable world.Open :=
  inferInstanceAs (Decidable (world.ended = none ∧ world.raised = false))

/-- The flow manager would end the flow, or the step would raise, at once. -/
def concludes (w : Wizard) (input unique : Bool) : Bool :=
  match w.curStep with
  | .user => input && !unique
  | .prePairing => input && w.taskCancelled
  | .pairing => w.taskCancelled
  | .paired => true
  | .notPaired => input

/-- The stop that ends the cleanup of an aborting call stops the last thing that runs. -/
def StopsAll (w : Wizard) : Option Pc → Prop
  | some (.apiStop api .abort) =>
      w.tempDiscovery = none → (∀ other ∈ w.world.serving, other = api) ∧ w.world.advertised = []
  | some (.discoveryStop discovery .abort) =>
      w.world.serving = none ∧ ∀ other ∈ w.world.advertised, other = discovery
  | _ => True

instance (w : Wizard) : (pc : Option Pc) → Decidable (StopsAll w pc)
  | some (.apiStop api .abort) => inferInstanceAs (Decidable (w.tempDiscovery = none →
      (∀ other ∈ w.world.serving, other = api) ∧ w.world.advertised = []))
  | some (.discoveryStop discovery .abort) =>
      inferInstanceAs (Decidable (w.world.serving = none ∧ ∀ other ∈ w.world.advertised, other = discovery))
  | some (.apiStop _ .progressDone) | some (.discoveryStop _ .progressDone) | some .sourceIp | some .apiStart
  | some .zeroconf | some .discoveryStart | none => .isTrue trivial

/-- A flow is dropped, ends otherwise or has a step that raises only while nothing is running, except what its cleanup
is stopping; a server or an advertisement starts only in a flow that goes on, beside nothing that another call has
started, and a server only while the flow still refers to one. -/
def Good (w : Wizard) : Event → Prop
  | .configure input unique => concludes w input unique = true → w.world.Idle
  | .sourceIp _ found | .zeroconf _ found => found = false → w.world.Idle
  | .apiStart call .started => w.world.Open ∧ w.tempApi ≠ none ∧ ∀ other ∈ w.world.advertised, other = call
  | .apiStart _ .osError => w.tempApi = none → w.tempDiscovery = none → w.world.Idle
  | .apiStart _ .error => w.world.Idle
  | .discoveryStart call registered =>
      if registered then w.world.Open ∧ (∀ other ∈ w.world.serving, other = call) ∧
        ∀ other ∈ w.world.advertised, other = call
      else w.world.Idle
  | .apiStop call | .discoveryStop call => StopsAll w (w.calls.lookup call)
  | .taskEnd _ _ => True
  | .drop => w.world.Idle

instance (w : Wizard) : (event : Event) → Decidable (Good w event)
  | .configure input unique => inferInstanceAs (Decidable (concludes w input unique = true → w.world.Idle))
  | .sourceIp _ found | .zeroconf _ found => inferInstanceAs (Decidable (found = false → w.world.Idle))
  | .apiStart call .started => inferInstanceAs (Decidable (w.world.Open ∧ w.tempApi ≠ none ∧
      ∀ other ∈ w.world.advertised, other = call))
  | .apiStart _ .osError => inferInstanceAs (Decidable (w.tempApi = none → w.tempDiscovery = none → w.world.Idle))
  | .apiStart _ .error => inferInstanceAs (Decidable w.world.Idle)
  | .discoveryStart call true => inferInstanceAs (Decidable (w.world.Open ∧ (∀ other ∈ w.world.serving, other = call) ∧
      ∀ other ∈ w.world.advertised, other = call))
  | .discoveryStart _ false => inferInstanceAs (Decidable w.world.Idle)
  | .apiStop call | .discoveryStop call => inferInstanceAs (Decidable (StopsAll w (w.calls.lookup call)))
  | .taskEnd _ _ => .isTrue trivial
  | .drop => inferInstanceAs (Decidable w.world.Idle)

section
variable {world : World} {call : CallId}

theorem World.Idle.unleaked (idle : world.Idle) : world.Unleaked := by
  refine ⟨?_, fun _ => idle⟩
  intro first _ running
  rcases running with serving | advertised
  · cases idle.1.symm.trans serving
  · rw [idle.2] at advertised
    cases advertised

/-- Where the flow is over or a step has raised, nothing may run. -/
theorem unleaked_of_closed (closed : ¬world.Open) : world.Unleaked ↔ world.Idle :=
  ⟨fun unleaked => unleaked.closed closed, World.Idle.unleaked⟩

theorem unleaked_raised : ({ world with raised := true } : World).Unleaked ↔ world.Idle :=
  unleaked_of_closed (fun opened => by cases opened.2)

theorem unleaked_finish (ending : Ending) : (world.finish ending).Unleaked ↔ world.Idle := by
  unfold World.finish
  split
  · exact unleaked_of_closed (fun opened => by cases opened.1)
  · next past => exact unleaked_of_closed (fun opened => past opened.1)

/-- Less runs, in the same flow. -/
theorem World.Unleaked.stopped {other : World} (unleaked : world.Unleaked)
    (serving : ∀ api, other.serving = some api → world.serving = some api)
    (advertised : ∀ discovery ∈ other.advertised, discovery ∈ world.advertised)
    (same : other.Open ↔ world.Open) : other.Unleaked := by
  have less (call : CallId) (running : other.Running call) : world.Running call :=
    running.imp (serving call) (advertised call)
  constructor
  · intro first second running running'
    exact unleaked.onePair first second (less first running) (less second running')
  · intro closed
    have idle := unleaked.closed (mt same.mpr closed)
    constructor
    · rw [Option.eq_none_iff_forall_ne_some]
      intro api held
      cases idle.1.symm.trans (serving api held)
    · rw [List.eq_nil_iff_forall_not_mem]
      intro discovery member
      have before := advertised discovery member
      rw [idle.2] at before
      cases before

/-- Where something of a call runs, nothing of another one may. -/
theorem unleaked_running (running : world.Running call) :
    world.Unleaked ↔ world.Open ∧ ∀ other, world.Running other → other = call := by
  have busy : ¬world.Idle := by
    intro idle
    rcases running with serving | advertised
    · cases idle.1.symm.trans serving
    · rw [idle.2] at advertised
      cases advertised
  constructor
  · intro unleaked
    refine ⟨?_, fun other running' => unleaked.onePair other call running' running⟩
    by_contra closed
    exact busy (unleaked.closed closed)
  · intro alone
    refine ⟨?_, fun closed => absurd alone.1 closed⟩
    intro first second running' running''
    exact (alone.2 first running').trans (alone.2 second running'').symm

theorem unleaked_started : ({ world with serving := some call } : World).Unleaked ↔
    world.Open ∧ ∀ other ∈ world.advertised, other = call := by
  rw [unleaked_running (.inl rfl)]
  refine and_congr_right (fun _ => ⟨fun alone other member => alone other (.inr member), ?_⟩)
  intro alone other running
  rcases running with serving | advertised
  · exact (Option.some.inj serving).symm
  · exact alone other advertised

theorem unleaked_advertised : ({ world with advertised := call :: world.advertised } : World).Unleaked ↔
    world.Open ∧ (∀ other ∈ world.serving, other = call) ∧ ∀ other ∈ world.advertised, other = call := by
  rw [unleaked_running (.inr (List.mem_cons_self))]
  refine and_congr_right (fun _ => ⟨fun alone => ⟨?_, ?_⟩, ?_⟩)
  · intro other serving
    exact alone other (.inl serving)
  · intro other member
    exact alone other (.inr (List.mem_cons_of_mem _ member))
  · intro alone other running
    rcases running with serving | advertised
    · exact alone.1 other serving
    · rcases List.mem_cons.mp advertised with rfl | member
      · rfl
      · exact alone.2 other member

end

section
variable {w : Wizard} {call : CallId} {after : After}

@[simp] theorem enter_world (pc : Pc) : (w.enter call pc).world = w.world := rfl

@[simp] theorem leave_world : (w.leave call).world = w.world := rfl

@[simp] theorem raise_world : (w.raise call).world = { w.world with raised := true } := rfl

@[simp] theorem cancel_world (task : CallId) : (w.cancel task).world = w.world := by
  unfold Wizard.cancel
  split <;> rfl

@[simp] theorem cancelProgress_world : w.cancelProgress.world = w.world := by
  unfold Wizard.cancelProgress
  split
  · exact cancel_world _
  · rfl

@[simp] theorem showStep_world (step : StepId) : (w.showStep step).world = w.world := by
  unfold Wizard.showStep
  split
  · exact cancelProgress_world
  · rfl

@[simp] theorem showProgress_world (task : CallId) : (w.showProgress task).world = w.world := by
  unfold Wizard.showProgress
  split <;> rfl

@[simp] theorem finish_world (ending : Ending) : (w.finish ending).world = w.world.finish ending := by
  unfold Wizard.finish
  split
  · rfl
  · next past => exact (if_neg past).symm

theorem cleanupTask_abort : (w.cleanupTask call .abort).world = w.world.finish .aborted := by
  simp only [Wizard.cleanupTask, finish_world, leave_world]
  split
  · split
    · rw [cancel_world]
    · rfl
  · rfl

theorem cleanupTask_done : (w.cleanupTask call .progressDone).world = w.world := by
  simp only [Wizard.cleanupTask, showStep_world, leave_world]
  split
  · split
    · exact cancel_world _
    · rfl
  · rfl

theorem cleanupDiscovery_done : (w.cleanupDiscovery call .progressDone).world = w.world := by
  unfold Wizard.cleanupDiscovery
  split
  · rfl
  · exact cleanupTask_done

theorem cleanupDiscovery_abort : (w.cleanupDiscovery call .abort).world =
    if w.tempDiscovery = none then w.world.finish .aborted else w.world := by
  unfold Wizard.cleanupDiscovery
  split
  · next held => rw [if_neg (by simp [held])]; rfl
  · next nothing => rw [if_pos nothing, cleanupTask_abort]

theorem cleanupTempServers_done : (w.cleanupTempServers call .progressDone).world = w.world := by
  unfold Wizard.cleanupTempServers
  split
  · rfl
  · exact cleanupDiscovery_done

theorem cleanupTempServers_abort : (w.cleanupTempServers call .abort).world =
    if w.tempApi = none ∧ w.tempDiscovery = none then w.world.finish .aborted else w.world := by
  unfold Wizard.cleanupTempServers
  split
  · next held => rw [if_neg (by simp [held])]; rfl
  · next nothing => simp only [cleanupDiscovery_abort, nothing, true_and]

theorem checkTask_world : (w.checkTask call).world =
    if w.pairingTask = none ∨ w.taskCancelled then { w.world with raised := true } else w.world := by
  unfold Wizard.checkTask Wizard.taskCancelled
  cases w.pairingTask with
  | none => rfl
  | some task =>
    dsimp only
    split
    · next result found =>
      rw [cleanupTempServers_done, if_neg (by simp [found])]
    · next found => rw [raise_world, if_pos (by simp [found])]
    · next unended other =>
      rw [showProgress_world, leave_world, if_neg (by simpa using other)]

theorem asyncStepPairing_world : w.asyncStepPairing.world =
    if w.taskCancelled then { w.world with raised := true } else w.world := by
  simp only [Wizard.asyncStepPairing]
  split
  · next nothing =>
    rw [enter_world, if_neg (by simp [Wizard.taskCancelled, nothing])]
  · next held =>
    have started : ¬w.pairingTask = none := held
    simp only [checkTask_world, started, false_or]
    rfl

/-- The call of the current step either changes nothing outside or ends the flow or raises. -/
theorem asyncConfigure_world (input unique : Bool) :
    if concludes w input unique then (w.asyncConfigure input unique).world.Unleaked ↔ w.world.Idle
    else (w.asyncConfigure input unique).world = w.world := by
  have pairing : if w.taskCancelled then w.asyncStepPairing.world.Unleaked ↔ w.world.Idle
      else w.asyncStepPairing.world = w.world := by
    rw [asyncStepPairing_world]
    split
    · exact unleaked_raised
    · rfl
  unfold concludes Wizard.asyncConfigure
  cases w.curStep with
  | user =>
    cases input with
    | false => exact showStep_world _
    | true =>
      cases unique with
      | true => exact showStep_world _
      | false => exact (congrArg World.Unleaked (finish_world _)).to_iff.trans (unleaked_finish _)
  | prePairing =>
    cases input with
    | false => exact showStep_world _
    | true => exact pairing
  | pairing => exact pairing
  | paired => exact (congrArg World.Unleaked (finish_world _)).to_iff.trans (unleaked_finish _)
  | notPaired =>
    cases input with
    | false => exact showStep_world _
    | true => exact (congrArg World.Unleaked (finish_world _)).to_iff.trans (unleaked_finish _)

theorem unleaked_iff {v : Wizard} {world : World} (same : v.world = world) : Unleaked v ↔ world.Unleaked := by
  rw [Unleaked, same]

theorem stopApi_idle {api : CallId} {world : World} :
    (world.stopApi api).Idle ↔ (∀ other ∈ world.serving, other = api) ∧ world.advertised = [] := by
  refine and_congr_left' ⟨?_, ?_⟩
  · intro stopped other serving
    have held : world.serving = some other := serving
    simp only [World.stopApi, held, ite_eq_left_iff, reduceCtorEq, imp_false, not_not] at stopped
    exact Option.some.inj stopped
  · intro same
    cases held : world.serving with
    | none => simp only [World.stopApi, held, reduceCtorEq, if_false]
    | some other => rw [World.stopApi, held, same other held, if_pos rfl]

theorem stopDiscovery_idle {discovery : CallId} {world : World} :
    (world.stopDiscovery discovery).Idle ↔ world.serving = none ∧ ∀ other ∈ world.advertised, other = discovery := by
  refine and_congr_right' (List.filter_eq_nil_iff.trans ?_)
  simp only [ne_eq, decide_not, Bool.not_eq_true', decide_eq_false_iff_not, not_not]

theorem World.Unleaked.stopApi {world : World} (unleaked : world.Unleaked) (api : CallId) :
    (world.stopApi api).Unleaked := by
  refine unleaked.stopped ?_ (fun _ member => member) Iff.rfl
  intro other held
  unfold World.stopApi at held
  split at held
  · cases held
  · exact held

theorem World.Unleaked.stopDiscovery {world : World} (unleaked : world.Unleaked) (discovery : CallId) :
    (world.stopDiscovery discovery).Unleaked :=
  unleaked.stopped (fun _ held => held) (fun _ member => (List.mem_filter.mp member).1) Iff.rfl

theorem unleaked_configured (unleaked : Unleaked w) (going : w.world.ended = none) (input unique : Bool) :
    Unleaked ({ w with world := { w.world with raised := false } }.asyncConfigure input unique) ↔
      (concludes w input unique = true → w.world.Idle) := by
  have result := @asyncConfigure_world { w with world := { w.world with raised := false } } input unique
  have reset : ({ w.world with raised := false } : World).Unleaked :=
    ⟨unleaked.onePair, fun closed => absurd ⟨going, rfl⟩ closed⟩
  change (if concludes w input unique then _ else _) at result
  split at result
  · next ends => exact result.trans ⟨fun idle _ => idle, fun idle => idle ends⟩
  · next goes => exact iff_of_true ((unleaked_iff result).mpr reset) (fun ends => absurd ends goes)

theorem unleaked_portTaken (unleaked : Unleaked w) : Unleaked (w.cleanupTempServers call .abort) ↔
    (w.tempApi = none → w.tempDiscovery = none → w.world.Idle) := by
  have result : (w.cleanupTempServers call .abort).world = _ := cleanupTempServers_abort
  split at result
  · next nothing =>
    refine (unleaked_iff result).trans ((unleaked_finish _).trans ⟨fun idle _ _ => idle, ?_⟩)
    exact fun idle => idle nothing.1 nothing.2
  · next held =>
    exact iff_of_true ((unleaked_iff result).mpr unleaked) (fun api discovery => absurd ⟨api, discovery⟩ held)

theorem unleaked_apiStopped (unleaked : Unleaked w) (api : CallId) :
    Unleaked ({ w with world := w.world.stopApi api, tempApi := none }.cleanupDiscovery call after) ↔
      StopsAll w (some (.apiStop api after)) := by
  cases after with
  | progressDone => exact iff_of_true ((unleaked_iff cleanupDiscovery_done).mpr (unleaked.stopApi api)) trivial
  | abort =>
    refine (unleaked_iff cleanupDiscovery_abort).trans ?_
    by_cases nothing : w.tempDiscovery = none
    · simp only [if_pos nothing]
      exact (unleaked_finish _).trans (stopApi_idle.trans ⟨fun stops _ => stops, fun stops => stops nothing⟩)
    · simp only [if_neg nothing]
      exact iff_of_true (unleaked.stopApi api) (fun gone => absurd gone nothing)

theorem unleaked_discoveryStopped (unleaked : Unleaked w) (discovery : CallId) :
    Unleaked ({ w with world := w.world.stopDiscovery discovery, tempDiscovery := none }.cleanupTask call after) ↔
      StopsAll w (some (.discoveryStop discovery after)) := by
  cases after with
  | progressDone => exact iff_of_true ((unleaked_iff cleanupTask_done).mpr (unleaked.stopDiscovery discovery)) trivial
  | abort => exact (unleaked_iff cleanupTask_abort).trans ((unleaked_finish _).trans stopDiscovery_idle)

/-- Each step keeps the property exactly when it is good. -/
theorem unleaked_step {hosted : Bool} {v : Wizard} {event : Event} (unleaked : Unleaked w)
    (moved : step hosted w event = some v) : Unleaked v ↔ Good w event := by
  cases step_move moved with
  | configured going => exact unleaked_configured unleaked going _ _
  | located here => exact iff_of_true unleaked nofun
  | unlocated here => exact unleaked_raised.trans ⟨fun idle _ => idle, fun idle => idle rfl⟩
  | served here held => exact unleaked_started.trans (and_congr_right' ⟨fun alone => ⟨held, alone⟩, And.right⟩)
  | servedUnheld here gone =>
    refine iff_of_false ?_ (fun good => good.2.1 gone)
    intro unleaked'
    cases (unleaked_raised.mp unleaked').1
  | portTaken here => exact unleaked_portTaken unleaked
  | unserved here => exact unleaked_raised
  | zeroconfFound here => exact iff_of_true unleaked nofun
  | zeroconfMissing here => exact unleaked_raised.trans ⟨fun idle _ => idle, fun idle => idle rfl⟩
  | registered here =>
    refine (unleaked_iff ?_).trans unleaked_advertised
    rw [checkTask_world]
    exact if_neg (by simp [Wizard.taskCancelled])
  | unregistered here => exact unleaked_raised
  | apiStopped here =>
    change _ ↔ StopsAll w _
    rw [here]
    exact unleaked_apiStopped unleaked _
  | discoveryStopped here =>
    change _ ↔ StopsAll w _
    rw [here]
    exact unleaked_discoveryStopped unleaked _
  | taskDone running => exact iff_of_true unleaked trivial
  | taskCancelled cancelling => exact iff_of_true unleaked trivial
  | dropped going => exact (unleaked_iff (finish_world _)).trans (unleaked_finish _)

end

/-- In all states of a run what runs belongs to one call and nothing runs in a flow that is over or whose last step has
raised, if and only if all steps of the run are good. -/
theorem wizard_exact {hosted : Bool} {s t : Wizard} {events : List Event} (start : (machine hosted).Start s)
    (run : Run (machine hosted) Always s events t) :
    Throughout (machine hosted) Unleaked s events ↔ Run (machine hosted) Good s events t := by
  refine run.throughout_iff ?_ ⟨s, [], start, .nil s⟩ ?_
  · intro x event y _ unleaked moved
    exact unleaked_step unleaked moved
  · cases start
    exact World.Idle.unleaked ⟨rfl, rfl⟩

/-- The user closes the dialog while the TV is awaited. -/
def closedEarly : List Event :=
  [.configure true true, .configure true true, .sourceIp 0 true, .apiStart 0 .started, .zeroconf 0 true,
    .discoveryStart 0 true, .drop]

/-- The mDNS registration raises, and when the user tries again the port is still taken. -/
def triedAgain : List Event :=
  [.configure true true, .configure true true, .sourceIp 0 true, .apiStart 0 .started, .zeroconf 0 true,
    .discoveryStart 0 false, .configure true true, .sourceIp 1 true, .apiStart 1 .osError, .apiStop 1,
    .discoveryStop 1]

theorem closedEarly_leaks :
    (∃ t, Run (machine false) Always {} closedEarly t ∧ t.world = ⟨some 0, [0], some .dropped, false⟩) ∧
    (∃ t, Run (machine false) Always {} triedAgain t ∧ t.world = ⟨some 0, [], some .aborted, false⟩ ∧
      t.tempApi = none) ∧
    ¬∀ s t events, (machine false).Start s → Run (machine false) Always s events t →
      Throughout (machine false) Unleaked s events := by
  have closed : (play (machine false) Always {} closedEarly).any
      (fun t => t.world = ⟨some 0, [0], some .dropped, false⟩) = true := by
    decide +kernel
  have again : (play (machine false) Always {} triedAgain).any
      (fun t => t.world = ⟨some 0, [], some .aborted, false⟩ ∧ t.tempApi = none) = true := by
    decide +kernel
  obtain ⟨t, play, world⟩ := (Option.any_eq_true _ _).mp closed
  obtain ⟨u, play', world'⟩ := (Option.any_eq_true _ _).mp again
  have run := run_of_play _ _ _ play
  have left := of_decide_eq_true world
  refine ⟨⟨t, run, left⟩, ⟨u, run_of_play _ _ _ play', of_decide_eq_true world'⟩, ?_⟩
  intro claimed
  have unleaked : Unleaked t := claimed {} t closedEarly rfl run closedEarly [] t (List.append_nil _).symm run
  rw [Unleaked, left] at unleaked
  cases (unleaked.closed (fun opened => by cases opened.1)).1

/-- A step is called only when the last one has returned, the flow is dropped only between steps and while no pairing
window is open, and nothing raises once the server has started. -/
def Orderly (w : Wizard) : Event → Prop
  | .configure _ _ => w.calls = []
  | .zeroconf _ found => found = true
  | .discoveryStart _ registered => registered = true
  | .drop => w.calls = [] ∧ w.curStep ≠ .pairing
  | _ => True

instance (w : Wizard) : (event : Event) → Decidable (Orderly w event)
  | .configure _ _ => inferInstanceAs (Decidable (w.calls = []))
  | .zeroconf _ found => inferInstanceAs (Decidable (found = true))
  | .discoveryStart _ registered => inferInstanceAs (Decidable (registered = true))
  | .drop => inferInstanceAs (Decidable (_ ∧ _))
  | .sourceIp .. | .apiStart .. | .apiStop _ | .discoveryStop _ | .taskEnd .. => .isTrue trivial

/-- The flow refers to all that the call has started. -/
structure Window (w : Wizard) (call : CallId) : Prop where
  serving : w.world.serving = some call
  advertised : w.world.advertised = [call]
  api : w.tempApi = some call
  discovery : w.tempDiscovery = some call

/-- The flow has no pairing task and no advertisement yet. -/
structure Unstarted (w : Wizard) : Prop where
  task : w.pairingTask = none
  discovery : w.tempDiscovery = none
  advertised : w.world.advertised = []
  curStep : w.curStep = .prePairing

/-- What holds while the only call waits. -/
def Waiting (w : Wizard) (call : CallId) : Pc → Prop
  | .sourceIp => Unstarted w ∧ w.world.serving = none
  | .apiStart => Unstarted w ∧ w.world.serving = none ∧ w.tempApi = some call
  | .zeroconf => Unstarted w ∧ w.world.serving = some call ∧ w.tempApi = some call
  | .discoveryStart =>
      w.world.serving = some call ∧ w.world.advertised = [] ∧ w.tempApi = some call ∧ w.tempDiscovery = some call
  | .apiStop _ .abort => w.world.serving = none ∧ w.world.advertised = [] ∧ w.tempDiscovery = none
  | .apiStop api .progressDone => Window w api
  | .discoveryStop _ .abort => False
  | .discoveryStop discovery .progressDone => w.world.serving = none ∧ w.world.advertised = [discovery]

/-- What an orderly run keeps. -/
inductive Tidy (w : Wizard) : Prop where
  | resting (returned : w.calls = []) (idle : w.world.Idle)
      (next : w.world.ended = none → w.curStep = .user ∨ w.curStep = .prePairing →
        w.pairingTask = none ∧ w.tempDiscovery = none)
      (past : w.world.ended = none → w.curStep ≠ .pairing)
  | window (call : CallId) (returned : w.calls = []) (opened : w.world.Open) (curStep : w.curStep = .pairing)
      (window : Window w call) (task : w.pairingTask = some call)
      (live : w.tasks call = some .running ∨ ∃ result, w.tasks call = some (.done result))
  | waiting (call : CallId) (pc : Pc) (only : w.calls = [(call, pc)]) (opened : w.world.Open)
      (waiting : Waiting w call pc)

section
variable {w : Wizard} {call : CallId} {pc : Pc}

theorem Unstarted.keep {v : Wizard} (unstarted : Unstarted w) (task : v.pairingTask = w.pairingTask)
    (discovery : v.tempDiscovery = w.tempDiscovery) (advertised : v.world.advertised = w.world.advertised)
    (curStep : v.curStep = w.curStep) : Unstarted v :=
  ⟨task.trans unstarted.task, discovery.trans unstarted.discovery, advertised.trans unstarted.advertised,
    curStep.trans unstarted.curStep⟩

theorem Window.keep {v : Wizard} (window : Window w call) (serving : v.world.serving = w.world.serving)
    (advertised : v.world.advertised = w.world.advertised) (api : v.tempApi = w.tempApi)
    (discovery : v.tempDiscovery = w.tempDiscovery) : Window v call :=
  ⟨serving.trans window.serving, advertised.trans window.advertised, api.trans window.api,
    discovery.trans window.discovery⟩

theorem leave_calls (only : w.calls = [(call, pc)]) : (w.leave call).calls = [] := by
  simp [Wizard.leave, only]

theorem enter_calls (only : w.calls = [(call, pc)]) (next : Pc) : (w.enter call next).calls = [(call, next)] := by
  simp [Wizard.enter, only]

theorem enter_calls_nil (returned : w.calls = []) (next : Pc) : (w.enter call next).calls = [(call, next)] := by
  simp [Wizard.enter, returned]

theorem cancelProgress_eq (w : Wizard) : ∃ tasks progressTask, w.cancelProgress = { w with tasks, progressTask } := by
  unfold Wizard.cancelProgress
  split
  · unfold Wizard.cancel
    split
    · exact ⟨_, _, rfl⟩
    · exact ⟨w.tasks, none, rfl⟩
  · exact ⟨w.tasks, w.progressTask, rfl⟩

theorem showStep_eq (going : w.world.ended = none) (curStep : StepId) :
    ∃ tasks progressTask, w.showStep curStep = { w with tasks, progressTask, curStep } := by
  obtain ⟨tasks, progressTask, same⟩ := cancelProgress_eq w
  rw [Wizard.showStep, if_pos going, same]
  exact ⟨tasks, progressTask, rfl⟩

theorem finish_eq (going : w.world.ended = none) (ending : Ending) : ∃ tasks progressTask,
    w.finish ending = { w with tasks, progressTask, world := { w.world with ended := some ending } } := by
  obtain ⟨tasks, progressTask, same⟩ := cancelProgress_eq w
  rw [Wizard.finish, if_pos going, same, World.finish, if_pos going]
  exact ⟨tasks, progressTask, rfl⟩

/-- A flow with nothing running ends. -/
theorem tidy_finish (returned : w.calls = []) (idle : w.world.Idle) (going : w.world.ended = none) (ending : Ending) :
    Tidy (w.finish ending) := by
  obtain ⟨tasks, progressTask, same⟩ := finish_eq going ending
  rw [same]
  exact .resting returned idle nofun nofun

/-- A form of the flow is shown while nothing runs. -/
theorem tidy_showStep (returned : w.calls = []) (idle : w.world.Idle) (going : w.world.ended = none) {curStep : StepId}
    (next : curStep = .user ∨ curStep = .prePairing → w.pairingTask = none ∧ w.tempDiscovery = none)
    (past : curStep ≠ .pairing) : Tidy (w.showStep curStep) := by
  obtain ⟨tasks, progressTask, same⟩ := showStep_eq going curStep
  rw [same]
  exact .resting returned idle (fun _ => next) (fun _ => past)

/-- In a flow that goes on one call may have started all that runs. -/
theorem unleaked_of_owner {world : World} (opened : world.Open) (serving : ∀ other ∈ world.serving, other = call)
    (advertised : ∀ other ∈ world.advertised, other = call) : world.Unleaked := by
  have own (other : CallId) (running : world.Running other) : other = call :=
    running.elim (serving other) (advertised other)
  refine ⟨?_, fun closed => absurd opened closed⟩
  intro first second running running'
  exact (own first running).trans (own second running').symm

theorem Window.unleaked (opened : w.world.Open) (window : Window w call) : Unleaked w := by
  apply unleaked_of_owner opened
  · intro other serving
    exact Option.some.inj (serving.symm.trans window.serving)
  · intro other member
    rw [window.advertised] at member
    exact List.mem_singleton.mp member

theorem Tidy.unleaked (tidy : Tidy w) : Unleaked w := by
  cases tidy with
  | resting returned idle next past => exact idle.unleaked
  | window call returned opened curStep window task live => exact window.unleaked opened
  | waiting call pc only opened waiting =>
    have served {owner : CallId} (serving : w.world.serving = some owner) : ∀ other ∈ w.world.serving, other = owner :=
      fun other held => Option.some.inj (held.symm.trans serving)
    have unserved (serving : w.world.serving = none) : ∀ other ∈ w.world.serving, other = call := by
      rw [serving]
      exact nofun
    have unadvertised (advertised : w.world.advertised = []) : ∀ other ∈ w.world.advertised, other = call := by
      rw [advertised]
      exact nofun
    cases pc with
    | sourceIp => exact unleaked_of_owner opened (unserved waiting.2) (unadvertised waiting.1.advertised)
    | apiStart => exact unleaked_of_owner opened (unserved waiting.2.1) (unadvertised waiting.1.advertised)
    | zeroconf => exact unleaked_of_owner opened (served waiting.2.1) (unadvertised waiting.1.advertised)
    | discoveryStart => exact unleaked_of_owner opened (served waiting.1) (unadvertised waiting.2.1)
    | apiStop api after =>
      cases after with
      | abort => exact unleaked_of_owner opened (unserved waiting.1) (unadvertised waiting.2.1)
      | progressDone => exact Window.unleaked opened waiting
    | discoveryStop discovery after =>
      cases after with
      | abort => exact waiting.elim
      | progressDone =>
        apply unleaked_of_owner opened
        · rw [waiting.1]
          exact nofun
        · intro other member
          rw [waiting.2] at member
          exact List.mem_singleton.mp member

/-- The call that is resumed is the only one. -/
theorem Tidy.resumed (tidy : Tidy w) (here : w.calls.lookup call = some pc) :
    w.calls = [(call, pc)] ∧ w.world.Open ∧ Waiting w call pc := by
  cases tidy with
  | resting returned => rw [returned] at here; cases here
  | window other returned => rw [returned] at here; cases here
  | waiting other pc' only opened waiting =>
    rw [only, List.lookup_cons, List.lookup_nil] at here
    split at here
    · next same =>
      cases LawfulBEq.eq_of_beq same
      cases here
      exact ⟨only, opened, waiting⟩
    · cases here

/-- A step raises before it has started anything. -/
theorem tidy_raise (only : w.calls = [(call, pc)]) (unstarted : Unstarted w) (idle : w.world.serving = none) :
    Tidy (w.raise call) := by
  refine .resting (leave_calls only) ⟨idle, unstarted.advertised⟩ (fun _ _ => ⟨unstarted.task, unstarted.discovery⟩) ?_
  intro _ pairing
  cases unstarted.curStep.symm.trans pairing

theorem checkTask_running {task : CallId} (held : w.pairingTask = some task) (running : w.tasks task = some .running) :
    w.checkTask call = (w.leave call).showProgress task := by
  unfold Wizard.checkTask
  split
  · next nothing => cases held.symm.trans nothing
  · next task' held' =>
    cases held.symm.trans held'
    rw [running]

theorem checkTask_done {task : CallId} {result : Option Bool} (held : w.pairingTask = some task)
    (done : w.tasks task = some (.done result)) :
    w.checkTask call = { w with paired := result.getD false }.cleanupTempServers call .progressDone := by
  unfold Wizard.checkTask
  split
  · next nothing => cases held.symm.trans nothing
  · next task' held' =>
    cases held.symm.trans held'
    rw [done]

theorem cleanupTempServers_some {api : CallId} {after : After} (held : w.tempApi = some api) :
    w.cleanupTempServers call after = w.enter call (.apiStop api after) := by
  unfold Wizard.cleanupTempServers
  rw [held]

theorem cleanupDiscovery_some {discovery : CallId} {after : After} (held : w.tempDiscovery = some discovery) :
    w.cleanupDiscovery call after = w.enter call (.discoveryStop discovery after) := by
  unfold Wizard.cleanupDiscovery
  rw [held]

theorem cleanupDiscovery_none {after : After} (nothing : w.tempDiscovery = none) :
    w.cleanupDiscovery call after = w.cleanupTask call after := by
  unfold Wizard.cleanupDiscovery
  rw [nothing]

/-- The end of the cleanup touches the task only. -/
theorem cleanupTask_eq (w : Wizard) (call : CallId) : ∃ tasks pairingTask,
    w.cleanupTask call .abort = ({ w with tasks, pairingTask }.leave call).finish .aborted ∧
    w.cleanupTask call .progressDone =
      ({ w with tasks, pairingTask }.leave call).showStep (if w.paired then .paired else .notPaired) := by
  have cancelled (task : CallId) : ∃ tasks, w.cancel task = { w with tasks } := by
    unfold Wizard.cancel
    split
    · exact ⟨_, rfl⟩
    · exact ⟨w.tasks, rfl⟩
  unfold Wizard.cleanupTask
  split
  · next task held =>
    obtain ⟨tasks, same⟩ := cancelled task
    split
    · rw [same]
      exact ⟨tasks, none, rfl, rfl⟩
    · exact ⟨w.tasks, w.pairingTask, rfl, rfl⟩
  · exact ⟨w.tasks, w.pairingTask, rfl, rfl⟩

/-- An aborting call has stopped all that was running. -/
theorem tidy_abort (only : w.calls = [(call, pc)]) (idle : w.world.Idle) (going : w.world.ended = none)
    (nothing : w.tempDiscovery = none) : Tidy (w.cleanupDiscovery call .abort) := by
  obtain ⟨tasks, pairingTask, same, _⟩ := cleanupTask_eq w call
  have left : ({ w with tasks, pairingTask }.leave call).calls = [] := leave_calls only
  rw [cleanupDiscovery_none nothing, same]
  exact tidy_finish left idle going .aborted

/-- So has one that is done with its task. -/
theorem tidy_progressDone (only : w.calls = [(call, pc)]) (idle : w.world.Idle) (going : w.world.ended = none) :
    Tidy (w.cleanupTask call .progressDone) := by
  obtain ⟨tasks, pairingTask, _, same⟩ := cleanupTask_eq w call
  have left : ({ w with tasks, pairingTask }.leave call).calls = [] := leave_calls only
  rw [same]
  apply tidy_showStep left idle going
  · split <;> exact nofun
  · split <;> exact nofun

/-- The advertisement is stopped after the server. -/
theorem tidy_apiStopped {api : CallId} (only : w.calls = [(call, pc)]) (opened : w.world.Open)
    (discovery : w.tempDiscovery = some api) (unserved : w.world.serving = none)
    (advertised : w.world.advertised = [api]) : Tidy (w.cleanupDiscovery call .progressDone) := by
  rw [cleanupDiscovery_some discovery]
  exact .waiting call (.discoveryStop api .progressDone) (enter_calls only _) opened ⟨unserved, advertised⟩

/-- The window stays open while its task runs and is closed when the task is done. -/
theorem Window.check (window : Window w call) (opened : w.world.Open) (task : w.pairingTask = some call)
    (live : w.tasks call = some .running ∨ ∃ result, w.tasks call = some (.done result)) {other : CallId}
    (returned : (w.leave other).calls = []) : Tidy (w.checkTask other) := by
  rcases live with running | ⟨result, done⟩
  · have going : (w.leave other).world.ended = none := opened.1
    rw [checkTask_running task running, Wizard.showProgress, if_pos going]
    exact .window call returned opened rfl (window.keep rfl rfl rfl rfl) task
      (.inl running)
  · have held : ({ w with paired := result.getD false } : Wizard).tempApi = some call := window.api
    rw [checkTask_done task done, cleanupTempServers_some held]
    exact .waiting other (.apiStop call .progressDone) (congrArg (List.cons _) returned) opened
      (window.keep rfl rfl rfl rfl)

/-- The flow manager forgets that the last step raised. -/
theorem Tidy.reset (tidy : Tidy w) (returned : w.calls = []) (going : w.world.ended = none) :
    Tidy { w with world := { w.world with raised := false } } := by
  cases tidy with
  | resting _ idle next past => exact .resting returned idle next past
  | window call _ opened curStep window task live =>
    exact .window call returned ⟨going, rfl⟩ curStep
      (window.keep rfl rfl rfl rfl) task live
  | waiting call pc only =>
    rw [returned] at only
    cases only

/-- The flow manager calls a step while no other one is under way. -/
theorem Tidy.configure (tidy : Tidy w) (returned : w.calls = []) (opened : w.world.Open) (input unique : Bool) :
    Tidy (w.asyncConfigure input unique) := by
  unfold Wizard.asyncConfigure
  cases tidy with
  | resting _ idle next past =>
    have shown {curStep : StepId} (next : curStep = .user ∨ curStep = .prePairing →
        w.pairingTask = none ∧ w.tempDiscovery = none) (past : curStep ≠ .pairing) : Tidy (w.showStep curStep) :=
      tidy_showStep returned idle opened.1 next past
    have ends (ending : Ending) : Tidy (w.finish ending) := tidy_finish returned idle opened.1 ending
    split
    · next curStep =>
      have fresh := next opened.1 (.inl curStep)
      split
      · split
        · exact shown (fun _ => fresh) nofun
        · exact ends .aborted
      · exact shown (fun _ => fresh) nofun
    · next curStep =>
      have fresh := next opened.1 (.inr curStep)
      split
      · rw [Wizard.asyncStepPairing, if_pos fresh.1]
        exact .waiting w.nextCall .sourceIp (enter_calls_nil returned _) opened
          ⟨⟨fresh.1, fresh.2, idle.2, curStep⟩, idle.1⟩
      · exact shown (fun _ => fresh) nofun
    · next curStep => exact absurd curStep (past opened.1)
    · exact ends .entry
    · split
      · exact ends .entry
      · exact shown nofun nofun
  | window call _ _ curStep window task live =>
    have held : ¬w.pairingTask = none := by rw [task]; exact nofun
    rw [curStep]
    dsimp only
    rw [Wizard.asyncStepPairing, if_neg held]
    have next : Window { w with nextCall := w.nextCall + 1 } call :=
      (window.keep rfl rfl rfl rfl)
    exact next.check opened task live (by simp [Wizard.leave, returned])
  | waiting call pc only =>
    rw [returned] at only
    cases only

theorem Waiting.with_tasks (waiting : Waiting w call pc) (tasks : CallId → Option Task) :
    Waiting { w with tasks } call pc := by
  cases pc with
  | sourceIp => exact ⟨waiting.1.keep rfl rfl rfl rfl, waiting.2⟩
  | apiStart => exact ⟨waiting.1.keep rfl rfl rfl rfl, waiting.2⟩
  | zeroconf => exact ⟨waiting.1.keep rfl rfl rfl rfl, waiting.2⟩
  | discoveryStart => exact waiting
  | apiStop api after =>
    cases after with
    | abort => exact waiting
    | progressDone => exact Window.keep waiting rfl rfl rfl rfl
  | discoveryStop discovery after => cases after <;> exact waiting

/-- A task that is done was running; the task of an open window is not being cancelled. -/
theorem Tidy.with_task {task : CallId} {old new : Task} (tidy : Tidy w) (found : w.tasks task = some old)
    (ends : (old = .running ∧ ∃ result, new = .done result) ∨ old = .cancelling) :
    Tidy { w with tasks := Function.update w.tasks task (some new) } := by
  cases tidy with
  | resting returned idle next past => exact .resting returned idle next past
  | window call returned opened curStep window held live =>
    refine .window call returned opened curStep
      (window.keep rfl rfl rfl rfl) held ?_
    by_cases same : call = task
    · subst same
      rcases ends with ⟨_, result, rfl⟩ | rfl
      · exact .inr ⟨result, Function.update_self _ _ _⟩
      · rw [found] at live
        rcases live with live | ⟨_, live⟩ <;> cases live
    · have other : Function.update w.tasks task (some new) call = w.tasks call := Function.update_of_ne same _ _
      dsimp only
      rwa [other]
  | waiting call pc only opened waiting => exact .waiting call pc only opened (waiting.with_tasks _)

/-- Once the pairing task exists, the window of the call is open. -/
theorem tidy_registered (only : w.calls = [(call, pc)]) (opened : w.world.Open)
    (waiting : Waiting w call .discoveryStart) : Tidy ({ w with
      world := { w.world with advertised := call :: w.world.advertised }
      pairingTask := some call
      tasks := Function.update w.tasks call (some .running) }.checkTask call) := by
  obtain ⟨serving, advertised, api, discovery⟩ := waiting
  have window : Window { w with
      world := { w.world with advertised := call :: w.world.advertised }
      pairingTask := some call
      tasks := Function.update w.tasks call (some .running) } call :=
    ⟨serving, congrArg (List.cons call) advertised, api, discovery⟩
  exact window.check opened rfl (.inl (Function.update_self _ _ _)) (leave_calls only)

theorem tidy_apiStop {api : CallId} {after : After} (only : w.calls = [(call, pc)]) (opened : w.world.Open)
    (waiting : Waiting w call (.apiStop api after)) :
    Tidy ({ w with world := w.world.stopApi api, tempApi := none }.cleanupDiscovery call after) := by
  cases after with
  | abort =>
    obtain ⟨unserved, advertised, discovery⟩ := waiting
    refine tidy_abort only ⟨?_, advertised⟩ opened.1 discovery
    exact (if_neg (by rw [unserved]; exact nofun)).trans unserved
  | progressDone => exact tidy_apiStopped only opened waiting.discovery (if_pos waiting.serving) waiting.advertised

theorem tidy_discoveryStop {discovery : CallId} {after : After} (only : w.calls = [(call, pc)]) (opened : w.world.Open)
    (waiting : Waiting w call (.discoveryStop discovery after)) :
    Tidy ({ w with world := w.world.stopDiscovery discovery, tempDiscovery := none }.cleanupTask call after) := by
  cases after with
  | abort => exact waiting.elim
  | progressDone =>
    obtain ⟨unserved, advertised⟩ := waiting
    exact tidy_progressDone only ⟨unserved, by simp [World.stopDiscovery, advertised]⟩ opened.1

/-- A flow that is dropped between its steps has no open window. -/
theorem Tidy.drop (tidy : Tidy w) (returned : w.calls = []) (past : w.curStep ≠ .pairing)
    (going : w.world.ended = none) : Tidy (w.finish .dropped) := by
  cases tidy with
  | resting _ idle next past => exact tidy_finish returned idle going .dropped
  | window call _ opened curStep => exact absurd curStep past
  | waiting call pc only =>
    rw [returned] at only
    cases only

theorem Tidy.step {hosted : Bool} {v : Wizard} {event : Event} (tidy : Tidy w) (orderly : Orderly w event)
    (moved : step hosted w event = some v) : Tidy v := by
  cases step_move moved with
  | configured going => exact (tidy.reset orderly going).configure orderly ⟨going, rfl⟩ _ _
  | located here =>
    obtain ⟨only, opened, unstarted, unserved⟩ := tidy.resumed here
    exact .waiting _ .apiStart (enter_calls only _) opened ⟨unstarted.keep rfl rfl rfl rfl, unserved, rfl⟩
  | unlocated here =>
    obtain ⟨only, opened, unstarted, unserved⟩ := tidy.resumed here
    exact tidy_raise only unstarted unserved
  | served here held =>
    obtain ⟨only, opened, unstarted, unserved, api⟩ := tidy.resumed here
    exact .waiting _ .zeroconf (enter_calls only _) opened ⟨unstarted.keep rfl rfl rfl rfl, rfl, api⟩
  | servedUnheld here gone =>
    obtain ⟨only, opened, unstarted, unserved, api⟩ := tidy.resumed here
    cases gone.symm.trans api
  | portTaken here =>
    obtain ⟨only, opened, unstarted, unserved, api⟩ := tidy.resumed here
    rw [cleanupTempServers_some api]
    exact .waiting _ (.apiStop _ .abort) (enter_calls only _) opened
      ⟨unserved, unstarted.advertised, unstarted.discovery⟩
  | unserved here =>
    obtain ⟨only, opened, unstarted, unserved, api⟩ := tidy.resumed here
    exact tidy_raise only unstarted unserved
  | zeroconfFound here =>
    obtain ⟨only, opened, unstarted, serving, api⟩ := tidy.resumed here
    exact .waiting _ .discoveryStart (enter_calls only _) opened ⟨serving, unstarted.advertised, api, rfl⟩
  | zeroconfMissing here => cases orderly
  | registered here =>
    obtain ⟨only, opened, waiting⟩ := tidy.resumed here
    exact tidy_registered only opened waiting
  | unregistered here => cases orderly
  | apiStopped here =>
    obtain ⟨only, opened, waiting⟩ := tidy.resumed here
    exact tidy_apiStop only opened waiting
  | discoveryStopped here =>
    obtain ⟨only, opened, waiting⟩ := tidy.resumed here
    exact tidy_discoveryStop only opened waiting
  | taskDone running => exact tidy.with_task running (.inl ⟨rfl, _, rfl⟩)
  | taskCancelled cancelling => exact tidy.with_task cancelling (.inr rfl)
  | dropped going => exact tidy.drop orderly.1 orderly.2 going

end

/-- In an orderly run the servers never leak. -/
theorem orderly_unleaked {hosted : Bool} {s t : Wizard} {events : List Event} (start : (machine hosted).Start s)
    (run : Run (machine hosted) Orderly s events t) : Throughout (machine hosted) Unleaked s events := by
  refine run.throughout ?_ ⟨s, [], start, .nil s⟩
  intro x reached
  have tidy : Tidy x := by
    apply reached.invariant Tidy
    · intro s start
      cases start
      exact .resting rfl ⟨rfl, rfl⟩ (fun _ _ => ⟨rfl, rfl⟩) (fun _ => nofun)
    · intro s event t before orderly moved
      exact before.step orderly moved
  exact tidy.unleaked

/-- Starting the server raises once, the user tries again, and the TV pairs. -/
def pairedAtLast : List Event :=
  [.configure true true, .configure true true, .sourceIp 0 true, .apiStart 0 .error, .configure true true,
    .sourceIp 1 true, .apiStart 1 .started, .zeroconf 1 true, .discoveryStart 1 true, .taskEnd 1 (some true),
    .configure false true, .apiStop 2, .discoveryStop 2, .configure false true]

theorem orderly_unleaked_paired : ∃ t, Run (machine false) Orderly {} pairedAtLast t ∧
    t.world.ended = some .entry ∧ Throughout (machine false) Unleaked {} pairedAtLast := by
  have played : (play (machine false) Orderly {} pairedAtLast).any (fun t => t.world.ended = some .entry) = true := by
    decide +kernel
  obtain ⟨t, play, ended⟩ := (Option.any_eq_true _ _).mp played
  have run := run_of_play _ _ _ play
  exact ⟨t, run, of_decide_eq_true ended, orderly_unleaked rfl run⟩

end HueEntertainment.PairingWizard
