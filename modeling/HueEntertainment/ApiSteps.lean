import HueEntertainment.ApiServer
import HueEntertainment.Runs

/-! A request to the API server as steps of the two machines behind it: the bridge that its callbacks lead to, and
the pairing of clients. -/

namespace HueEntertainment.ApiSteps
open PyValue LightCommand Entertainment HueApi UserStore Pairing ApiServer HueApiServer Wiring Runs

/-- The step of the bridge that a callback takes, with what its handler did to the flags before. -/
def bridgeEvent : Callback → BridgeEvent
  | .entertainmentStart username => .setActive true username
  | .entertainmentStop => .setActive false ""
  | .lightCommand lightId body => .engine (.command lightId body)

/-- The callbacks that a handler calls are the steps that the bridge takes. -/
def Drives (s : HueApiServer) (handled : Handled) : Prop :=
  Run Wiring.bridge Always s.bridge (handled.callbacks.map bridgeEvent) handled.server.bridge

/-- The pairing of clients goes through a run. -/
def Pairs (s : HueApiServer) (handled : Handled) : Prop :=
  ∃ events, Run Pairing.machine Always s.pairing events handled.server.pairing

section
variable {s : HueApiServer} {info : MatchInfo} {body : Body}

theorem answer_drives (response : Except PyError Response) : Drives s (s.answer response) := .nil s.bridge

theorem switchStream_drives (wired : s.onEntertainment = true) (stream reply : Json) :
    Drives s (s.switchStream info stream reply) := by
  unfold Drives HueApiServer.switchStream HueApiServer.setEntertainmentActive
  rw [if_pos wired]
  cases truthy (HueApiServer.activeOf stream) with
  | true => exact .cons trivial rfl (.nil _)
  | false => exact .cons trivial rfl (.nil _)

/-- A command that raises does so before it writes anything. -/
theorem handleLightCommand_of_error {engine : Engine} {lightId : Nat} {given : Json} {error : PyError}
    (raised : commandError engine lightId given = some error) : engine.handleLightCommand lightId given = engine := by
  unfold commandError at raised
  unfold Engine.handleLightCommand
  by_cases suppressed : engine.suppressed = true
  · rw [if_pos suppressed]
  · rw [if_neg suppressed] at raised ⊢
    cases found : engine.mappingOf lightId with
    | none => rfl
    | some mapping =>
      rw [found] at raised
      simp only [] at raised ⊢
      cases slot : mapping.commandSlot lightId given with
      | error error' => rfl
      | ok slot' =>
        rw [slot] at raised
        cases raised

theorem commandLight_drives (paired : s.checkUsername info ≠ none) (given : Json) :
    Drives s (s.commandLight info given) := by
  unfold HueApiServer.commandLight
  split
  next =>
    unfold Drives HueApi.handleV1LightState HueApiServer.lightCommands
    simp only [if_pos (paired_of_checkUsername paired)]
    cases isdigit (parameter info "light_id") with
    | false => exact .nil _
    | true =>
      cases intOfString (parameter info "light_id") with
      | error error => exact .nil _
      | ok light =>
        refine .cons trivial rfl ?_
        simp only [if_true]
        cases raised : commandError s.bridge.engine light.toNat given with
        | none => exact .nil _
        | some error =>
          rw [handleLightCommand_of_error raised]
          exact .nil _
  next => exact answer_drives _

/-- Every request to a server with its callbacks set is a run of the bridge, with a step for each callback. -/
theorem handle_drives (uuid5Hex : String → String) (wired : s.onEntertainment = true) (handler : Handler)
    (readings : Readings) : Drives s (s.handle uuid5Hex handler info body readings) :=
  handle_rule uuid5Hex answer_drives (.nil _) (.nil _) commandLight_drives (switchStream_drives wired) handler

/-- A request leaves the callbacks set or unset. -/
theorem handle_wired (uuid5Hex : String → String) (handler : Handler) (readings : Readings) :
    (s.handle uuid5Hex handler info body readings).server.onEntertainment = s.onEntertainment := by
  apply HueApiServer.handle_rule (motive := fun handled => handled.server.onEntertainment = s.onEntertainment)
  · exact fun _ => rfl
  · rfl
  · rfl
  · intro _ given
    unfold HueApiServer.commandLight
    split
    next => rfl
    next => rfl
  · intro stream reply
    unfold HueApiServer.switchStream HueApiServer.setEntertainmentActive
    by_cases wired : s.onEntertainment = true
    · rw [if_pos wired]
    · rw [if_neg wired]

/-- The request of a client that pairs arrives, is read and, for a new user, waits for the save. -/
theorem createUser_pairs (readings : Readings) : Pairs s (s.handleCreateUser body readings) := by
  have reading : s.arrived.requests s.pairing.nextRequest = some .reading := Function.update_self ..
  have arrives : Pairing.machine.step s.pairing .arrive = some s.arrived := rfl
  have reads : Pairing.machine.step s.arrived
      (.read s.pairing.nextRequest body readings.uuid4Hex readings.tokenHex) =
        some (s.arrived.handleCreateUser s.pairing.nextRequest body readings.uuid4Hex readings.tokenHex) := by
    change Pairing.step s.arrived (.read ..) = _
    simp only [Pairing.step, reading]
  have read : Run Pairing.machine Always s.pairing _ _ := .cons trivial arrives (.cons trivial reads (.nil _))
  unfold Pairs HueApiServer.handleCreateUser HueApiServer.afterSave
  simp only []
  split
  next credentials snapshot saving =>
    have saves : ∀ r : Server, r.requests s.pairing.nextRequest = some (.saving credentials snapshot) →
        Pairing.machine.step r (.saved s.pairing.nextRequest readings.save) =
          some (r.saved s.pairing.nextRequest credentials snapshot readings.save) := by
      intro r saving
      change Pairing.step r (.saved ..) = _
      simp only [Pairing.step, saving]
    exact ⟨_, read.snoc trivial (saves _ saving)⟩
  next => exact ⟨_, read⟩

theorem switchStream_pairs (stream reply : Json) : Pairs s (s.switchStream info stream reply) := by
  unfold Pairs HueApiServer.switchStream HueApiServer.setEntertainmentActive
  by_cases wired : s.onEntertainment = true
  · rw [if_pos wired]
    exact ⟨[], .nil _⟩
  · rw [if_neg wired]
    exact ⟨[], .nil _⟩

theorem commandLight_pairs (given : Json) : Pairs s (s.commandLight info given) := by
  unfold HueApiServer.commandLight
  split <;> exact ⟨[], .nil _⟩

/-- Every request is a run of the pairing, in which only a client that pairs takes a step. -/
theorem handle_pairs (uuid5Hex : String → String) (handler : Handler) (readings : Readings) :
    Pairs s (s.handle uuid5Hex handler info body readings) :=
  handle_rule uuid5Hex (fun _ => ⟨[], .nil _⟩) ⟨[], .nil _⟩ (createUser_pairs readings) (fun _ => commandLight_pairs)
    switchStream_pairs handler

end

end HueEntertainment.ApiSteps
