import HueEntertainment.BridgeId
import HueEntertainment.DottedQuad
import HueEntertainment.HttpHost
import HueEntertainment.Provenance

/-! The options flows of an entry, any number of them open at once, and what `async_setup_entry` makes of the options
that they save. -/

namespace HueEntertainment.OptionsFlow
open HueEntertainment.Const PyValue LightCommand Entertainment ApiServer Runs TaskTable DottedQuad
open HttpHost (resolveUseHaHttp)

abbrev FlowId := Nat

/-- `_is_ipv4`. -/
def isIpv4 (value : String) : Bool := (parse value.toList).isSome

/-- The data or the options of an entry, by the keys that the code reads; the bind IP can be there and be `None`. -/
structure Settings where
  lights : Option (List String) := none
  bindIp : Option (Option String) := none
  httpMode : Option String := none
  entertainmentPort : Option Nat := none
  apiPort : Option Nat := none
  deriving DecidableEq, Repr

structure ConfigEntry where
  data : Settings
  options : Settings := {}
  deriving DecidableEq, Repr

/-- What the user submits in the first step; a key that is missing is `none`. -/
structure Input where
  lights : List String
  pairNow : Option Bool := none
  bindIp : Option String := none
  httpMode : Option String := none
  deriving DecidableEq, Repr

/-- The pairing task; the result is `none` when it raised an `Exception`. -/
inductive Task where
  | running
  | done (result : Option Bool)
  deriving DecidableEq, Repr

structure OptionsFlowHandler where
  lights : List String := []
  bindIp : Option String := none
  httpMode : String := defaultHttpMode
  paired : Bool := false
  pairingTask : Option Task := none
  deriving DecidableEq, Repr

/-- The form of the first step: the defaults of its fields and whether the bind IP is marked as invalid. -/
structure Form where
  lights : List String
  pairNow : Bool := false
  bindIp : String
  httpMode : String
  invalidIp : Bool := false
  deriving DecidableEq, Repr

/-- What a step returns. -/
inductive Result where
  | form (form : Form)
  | progress
  | progressDone (paired : Bool)
  | notPaired
  | createEntry (data : Settings)
  deriving DecidableEq, Repr

/-- `(user_input.get(CONF_BIND_IP) or "").strip()`. -/
def rawIp (input : Input) : String := String.ofList (strip (input.bindIp.getD "").toList)

/-- `current_lights`, `current_bind_ip` and `current_mode` of an entry. -/
def currentForm (entry : ConfigEntry) : Form where
  lights := entry.options.lights.getD (entry.data.lights.getD [])
  bindIp := (entry.options.bindIp.getD (entry.data.bindIp.getD (some ""))).getD ""
  httpMode := entry.options.httpMode.getD (entry.data.httpMode.getD defaultHttpMode)

namespace OptionsFlowHandler

/-- `_options`. -/
def options (h : OptionsFlowHandler) : Settings where
  lights := some h.lights
  bindIp := some h.bindIp
  httpMode := some h.httpMode

/-- `async_step_pairing`. -/
def asyncStepPairing (h : OptionsFlowHandler) : OptionsFlowHandler × Result :=
  match h.pairingTask with
  | none => ({ h with pairingTask := some .running }, .progress)
  | some .running => (h, .progress)
  | some (.done result) => ({ h with paired := result.getD false }, .progressDone (result.getD false))

/-- `async_step_init`. -/
def asyncStepInit (h : OptionsFlowHandler) (entry : ConfigEntry) : Option Input → OptionsFlowHandler × Result
  | none => (h, .form (currentForm entry))
  | some input =>
      let h := { h with lights := input.lights, httpMode := input.httpMode.getD defaultHttpMode }
      if rawIp input ≠ "" ∧ isIpv4 (rawIp input) = false then
        (h, .form { currentForm entry with
          lights := input.lights
          bindIp := input.bindIp.getD ""
          httpMode := input.httpMode.getD (currentForm entry).httpMode
          invalidIp := true })
      else
        let h := { h with bindIp := if rawIp input = "" then none else some (rawIp input) }
        if input.pairNow.getD false then h.asyncStepPairing else (h, .createEntry h.options)

/-- `async_step_not_paired`. -/
def asyncStepNotPaired (h : OptionsFlowHandler) (acknowledged : Bool) : OptionsFlowHandler × Result :=
  (h, if acknowledged then .createEntry h.options else .notPaired)

end OptionsFlowHandler

inductive StepId where
  | init | pairing | paired | notPaired
  deriving DecidableEq, Repr

/-- A flow and the step that the flow manager calls next for it. -/
structure Flow where
  handler : OptionsFlowHandler := {}
  curStep : StepId := .init
  deriving DecidableEq, Repr

structure World where
  entry : ConfigEntry
  flows : FlowId → Option Flow := fun _ => none
  nextFlow : FlowId := 0

def World.put (w : World) (flow : FlowId) (value : Option Flow) : World :=
  { w with flows := Function.update w.flows flow value }

/-- What the flow manager does with the result of a step: the options of a flow that creates its entry become the
options of the entry. -/
def World.take (w : World) (flow : FlowId) : OptionsFlowHandler × Result → World
  | (handler, .form _) => w.put flow (some { handler, curStep := .init })
  | (handler, .progress) => w.put flow (some { handler, curStep := .pairing })
  | (handler, .progressDone paired) => w.put flow (some { handler, curStep := if paired then .paired else .notPaired })
  | (handler, .notPaired) => w.put flow (some { handler, curStep := .notPaired })
  | (_, .createEntry options) => { w.put flow none with entry := { w.entry with options := options } }

/-- The step that a flow is at, called with what the user submitted. -/
def Flow.call (f : Flow) (entry : ConfigEntry) (input : Option Input) : OptionsFlowHandler × Result :=
  match f.curStep with
  | .init => f.handler.asyncStepInit entry input
  | .pairing => f.handler.asyncStepPairing
  | .paired => (f.handler, .createEntry f.handler.options)
  | .notPaired => f.handler.asyncStepNotPaired input.isSome

inductive Event where
  | start
  | configure (flow : FlowId) (input : Option Input)
  | pairingEnds (flow : FlowId) (result : Option Bool)
  | abort (flow : FlowId)
  deriving DecidableEq, Repr

def step (w : World) : Event → Option World
  | .start =>
      some ({ w with nextFlow := w.nextFlow + 1 }.take w.nextFlow
        (({} : OptionsFlowHandler).asyncStepInit w.entry none))
  | .configure flow input => (w.flows flow).map (fun f => w.take flow (f.call w.entry input))
  | .pairingEnds flow result =>
      (w.flows flow).bind (fun f =>
        if f.handler.pairingTask = some .running then
          some (w.put flow (some { f with handler := { f.handler with pairingTask := some (.done result) } }))
        else none)
  | .abort flow => (w.flows flow).map (fun _ => w.put flow none)

/-- The data of an entry is what `_create_entry` of the config flow made of the lights. -/
def created (lights : List String) : Settings := { lights := some lights }

def machine : Machine World Event where
  Start := fun w => ∃ lights, w = { entry := { data := created lights } }
  step := step

/-- The bind IP is left out, or an address. -/
def Accepted (input : Input) : Prop := rawIp input = "" ∨ isIpv4 (rawIp input) = true

/-- The options that a user who submits this has chosen. -/
def chosen (input : Input) : Settings where
  lights := some input.lights
  bindIp := some (if rawIp input = "" then none else some (rawIp input))
  httpMode := some (input.httpMode.getD defaultHttpMode)

/-- In the run the flow was shown its form, and this was submitted and accepted. -/
def Submitted (s : World) (events : List Event) (flow : FlowId) (input : Input) : Prop :=
  ∃ before after mid f, events = before ++ .configure flow (some input) :: after ∧ Run machine Always s before mid ∧
    mid.flows flow = some f ∧ f.curStep = .init ∧ Accepted input

theorem Submitted.later {s : World} {events : List Event} {flow : FlowId} {input : Input}
    (submitted : Submitted s events flow input) (event : Event) : Submitted s (events ++ [event]) flow input := by
  obtain ⟨before, after, mid, f, rfl, rest⟩ := submitted
  exact ⟨before, after ++ [event], mid, f, by simp, rest⟩

/-- A flow that is past its form has what was submitted. -/
def Past (asked : Input → Prop) (f : Flow) : Prop :=
  f.curStep ≠ .init → ∃ input, asked input ∧ f.handler.options = chosen input

/-- What a step of a flow may come to. -/
def Fits (asked : Input → Prop) : OptionsFlowHandler × Result → Prop
  | (_, .form _) => True
  | (handler, .progress) | (handler, .progressDone _) | (handler, .notPaired) =>
      ∃ input, asked input ∧ handler.options = chosen input
  | (_, .createEntry options) => ∃ input, asked input ∧ options = chosen input

theorem pairing_fits {asked : Input → Prop} {h : OptionsFlowHandler}
    (held : ∃ input, asked input ∧ h.options = chosen input) : Fits asked h.asyncStepPairing := by
  unfold OptionsFlowHandler.asyncStepPairing
  split
  · exact held
  · exact held
  · exact held

theorem init_fits {asked : Input → Prop} {h : OptionsFlowHandler} {entry : ConfigEntry} {input : Option Input}
    (accepted : ∀ given, input = some given → Accepted given → asked given) :
    Fits asked (h.asyncStepInit entry input) := by
  unfold OptionsFlowHandler.asyncStepInit
  split
  next => trivial
  next given =>
    simp only []
    split
    next => trivial
    next valid =>
      have fine : Accepted given := by
        by_cases empty : rawIp given = ""
        · exact .inl empty
        · exact .inr (by simpa [empty] using valid)
      split
      next => exact pairing_fits ⟨given, accepted given rfl fine, rfl⟩
      next => exact ⟨given, accepted given rfl fine, rfl⟩

theorem call_fits {asked : Input → Prop} {f : Flow} {entry : ConfigEntry} {input : Option Input}
    (past : Past asked f) (accepted : f.curStep = .init → ∀ given, input = some given → Accepted given → asked given) :
    Fits asked (f.call entry input) := by
  unfold Flow.call
  split
  next shown => exact init_fits (accepted shown)
  next waiting => exact pairing_fits (past (by simp [waiting]))
  next paired => exact past (by simp [paired])
  next unpaired =>
    have held := past (by simp [unpaired])
    unfold OptionsFlowHandler.asyncStepNotPaired
    cases input.isSome with
    | true => exact held
    | false => exact held

/-- Every flow that is past its form has what was submitted there, and so have the options of the entry. -/
structure Sound (lights : List String) (asked : FlowId → Input → Prop) (w : World) : Prop where
  data : w.entry.data = created lights
  flows : ∀ flow f, w.flows flow = some f → Past (asked flow) f
  options : w.entry.options = {} ∨ ∃ flow input, asked flow input ∧ w.entry.options = chosen input

theorem Past.mono {asked wider : Input → Prop} {f : Flow} (weaker : ∀ input, asked input → wider input)
    (past : Past asked f) : Past wider f := by
  intro shown
  obtain ⟨input, given, same⟩ := past shown
  exact ⟨input, weaker input given, same⟩

theorem Sound.mono {lights : List String} {asked wider : FlowId → Input → Prop} {w : World}
    (weaker : ∀ flow input, asked flow input → wider flow input) (sound : Sound lights asked w) :
    Sound lights wider w := by
  refine ⟨sound.data, fun flow f found => (sound.flows flow f found).mono (weaker flow), ?_⟩
  rcases sound.options with unsaved | ⟨flow, input, given, same⟩
  · exact .inl unsaved
  · exact .inr ⟨flow, input, weaker flow input given, same⟩

/-- A flow is replaced, or gone. -/
theorem Sound.put {lights : List String} {asked : FlowId → Input → Prop} {w : World} {flow : FlowId}
    {value : Option Flow} (sound : Sound lights asked w) (past : ∀ f, value = some f → Past (asked flow) f) :
    Sound lights asked (w.put flow value) := by
  refine ⟨sound.data, ?_, sound.options⟩
  intro other f found
  rcases update_eq_some found with ⟨rfl, here⟩ | ⟨_, there⟩
  · exact past f here
  · exact sound.flows other f there

theorem Sound.take {lights : List String} {asked : FlowId → Input → Prop} {w : World} {flow : FlowId}
    {result : OptionsFlowHandler × Result} (sound : Sound lights asked w) (fits : Fits (asked flow) result) :
    Sound lights asked (w.take flow result) := by
  obtain ⟨handler, result⟩ := result
  cases result with
  | form form =>
    apply sound.put
    rintro _ ⟨⟩ past
    exact absurd rfl past
  | progress =>
    apply sound.put
    rintro _ ⟨⟩ _
    exact fits
  | progressDone paired =>
    apply sound.put
    rintro _ ⟨⟩ _
    exact fits
  | notPaired =>
    apply sound.put
    rintro _ ⟨⟩ _
    exact fits
  | createEntry options =>
    have gone : Sound lights asked (w.put flow none) := sound.put (fun _ none => nomatch none)
    obtain ⟨input, given, same⟩ := fits
    exact ⟨gone.data, gone.flows, .inr ⟨flow, input, given, same⟩⟩

theorem Sound.step {lights : List String} {asked : FlowId → Input → Prop} {w v : World} {event : Event}
    (sound : Sound lights asked w)
    (accepted : ∀ flow given f, event = .configure flow (some given) → w.flows flow = some f → f.curStep = .init →
      Accepted given → asked flow given)
    (moved : step w event = some v) : Sound lights asked v := by
  cases event with
  | start =>
    cases moved
    exact Sound.take ⟨sound.data, sound.flows, sound.options⟩ (init_fits (fun _ none => nomatch none))
  | configure flow input =>
    obtain ⟨f, found, rfl⟩ := Option.map_eq_some_iff.mp moved
    refine sound.take (call_fits (sound.flows flow f found) ?_)
    rintro shown given rfl fine
    exact accepted flow given f rfl found shown fine
  | pairingEnds flow result =>
    obtain ⟨f, found, ended⟩ := Option.bind_eq_some_iff.mp moved
    split at ended
    next running =>
      cases ended
      apply sound.put
      rintro _ ⟨⟩ past
      exact sound.flows flow f found past
    next => cases ended
  | abort flow =>
    obtain ⟨f, found, rfl⟩ := Option.map_eq_some_iff.mp moved
    exact sound.put (fun _ none => nomatch none)

/-- All of it was submitted in the run. -/
theorem sound {lights : List String} {s t : World} {events : List Event} (start : s = { entry := { data := created lights } })
    (run : Run machine Always s events t) : Sound lights (Submitted s events) t := by
  apply run.history (fun events t => Sound lights (Submitted s events) t)
  · rw [start]
    exact ⟨rfl, nofun, .inl rfl⟩
  · intro before mid event next led held _ moved
    refine (held.mono (fun _ _ submitted => submitted.later event)).step ?_ moved
    rintro flow given f rfl found shown fine
    exact ⟨before, [], mid, f, rfl, led, found, shown, fine⟩

theorem take_entry (w : World) (flow : FlowId) (result : OptionsFlowHandler × Result) :
    (w.take flow result).entry = w.entry ∨ ∃ handler options, result = (handler, .createEntry options) ∧
      (w.take flow result).flows flow = none ∧ (w.take flow result).entry = ⟨w.entry.data, options⟩ := by
  obtain ⟨handler, result⟩ := result
  cases result with
  | createEntry options => exact .inr ⟨handler, options, rfl, Function.update_self .., rfl⟩
  | _ => exact .inl rfl

/-- The options of the entry change only when a flow ends by saving, and to just what was submitted in its form and
accepted, whatever other flows are open, end without success or are closed. -/
theorem saved_chosen {s t u : World} {events : List Event} {event : Event} (start : machine.Start s)
    (run : Run machine Always s events t) (moved : machine.step t event = some u) :
    u.entry = t.entry ∨ ∃ flow given input, event = .configure flow given ∧
      Submitted s (events ++ [event]) flow input ∧ u.flows flow = none ∧
        u.entry = ⟨s.entry.data, chosen input⟩ := by
  obtain ⟨lights, fresh⟩ := start
  have held := sound fresh run
  change OptionsFlow.step t event = some u at moved
  cases event with
  | start =>
    cases moved
    exact .inl rfl
  | configure flow given =>
    obtain ⟨f, found, rfl⟩ := Option.map_eq_some_iff.mp moved
    rcases take_entry t flow (f.call t.entry given) with same | ⟨handler, options, called, gone, saved⟩
    · exact .inl same
    · have past : Past (Submitted s (events ++ [.configure flow given]) flow) f :=
        (held.flows flow f found).mono (fun _ submitted => submitted.later _)
      have fits : Fits (Submitted s (events ++ [.configure flow given]) flow) (f.call t.entry given) := by
        apply call_fits past
        rintro shown input rfl fine
        exact ⟨events, [], t, f, rfl, run, found, shown, fine⟩
      rw [called] at fits
      obtain ⟨input, submitted, rfl⟩ := fits
      refine .inr ⟨flow, given, input, rfl, submitted, gone, ?_⟩
      rw [saved, held.data, fresh]
  | pairingEnds flow result =>
    obtain ⟨f, found, ended⟩ := Option.bind_eq_some_iff.mp moved
    split at ended
    next =>
      cases ended
      exact .inl rfl
    next => cases ended
  | abort flow =>
    obtain ⟨f, found, rfl⟩ := Option.map_eq_some_iff.mp moved
    exact .inl rfl

def oneEntry : World := { entry := { data := created ["light.one"] } }

/-- Two flows: one submits a wrong address, then a good one with pairing, and saves after the other. -/
def twoFlows : List Event :=
  [.start, .start, .configure 0 (some { lights := ["light.two"], bindIp := some "192.168.1.300" }),
    .configure 0 (some { lights := ["light.one", "light.two"], pairNow := some true, bindIp := some " 192.168.1.3 " }),
    .configure 1 (some { lights := [] }), .pairingEnds 0 (some true), .configure 0 none]

theorem saved_chosen_two : ∃ t u, Run machine Always oneEntry twoFlows t ∧ machine.step t (.configure 0 none) = some u ∧
    u.entry.options.bindIp = some (some "192.168.1.3") ∧
      (u.entry = t.entry ∨ ∃ flow given input, Event.configure 0 none = .configure flow given ∧
        Submitted oneEntry (twoFlows ++ [.configure 0 none]) flow input ∧ u.flows flow = none ∧
          u.entry = ⟨oneEntry.entry.data, chosen input⟩) := by
  have played : (play machine Always oneEntry twoFlows).any (fun t => (machine.step t (.configure 0 none)).any (fun u =>
      decide (u.entry.options.bindIp = some (some "192.168.1.3")))) = true := by
    decide +kernel
  obtain ⟨t, run, found⟩ := (Option.any_eq_true _ _).mp played
  obtain ⟨u, moved, saved⟩ := (Option.any_eq_true _ _).mp found
  have led : Run machine Always oneEntry twoFlows t := run_of_play _ _ _ run
  exact ⟨t, u, led, moved, of_decide_eq_true saved, saved_chosen ⟨["light.one"], rfl⟩ led moved⟩

/-- What `async_setup_entry` asks Home Assistant for: the host of its internal URL if there is one, whether a text is
an address and a loopback one, its source IP, and its HTTP server. -/
structure Surroundings where
  internalHost : Option String
  isIp : String → Bool
  isLoopback : String → Bool
  sourceIp : String
  serverPort : Nat
  certificate : Bool

/-- `_async_get_host_ip`. -/
def asyncGetHostIp (env : Surroundings) : String :=
  match env.internalHost with
  | some host => if host ≠ "" ∧ env.isIp host ∧ env.isLoopback host = false then host else env.sourceIp
  | none => env.sourceIp

/-- `first or second` of two texts or `None`s. -/
def orText (first second : Option String) : Option String := if first.getD "" = "" then second else first

/-- What `async_setup_entry` resolves first. -/
structure Resolved where
  lightEntities : List String
  bindIp : Option String
  hostIp : String
  entPort : Nat
  useHaHttp : Bool
  httpPort : Nat
  deriving DecidableEq, Repr

def resolve (env : Surroundings) (entry : ConfigEntry) : Resolved :=
  let bindIp := orText (entry.options.bindIp.getD none) (entry.data.bindIp.getD none)
  let httpMode := entry.options.httpMode.getD (entry.data.httpMode.getD defaultHttpMode)
  let useHaHttp := resolveUseHaHttp httpMode env.serverPort env.certificate
  { lightEntities := entry.options.lights.getD (entry.data.lights.getD [])
    bindIp := bindIp
    hostIp := if bindIp.getD "" = "" then asyncGetHostIp env else bindIp.getD ""
    entPort := entry.options.entertainmentPort.getD (entry.data.entertainmentPort.getD defaultEntertainmentPort)
    useHaHttp := useHaHttp
    httpPort := if useHaHttp then env.serverPort else entry.options.apiPort.getD (entry.data.apiPort.getD defaultApiPort) }

/-- The host that the DTLS server binds, and the API server when it has a server of its own. -/
def Resolved.bindHost (r : Resolved) : String := if r.bindIp.getD "" = "" then "0.0.0.0" else r.bindIp.getD ""

/-- The channels of the lights, from 1 on. -/
def mappings (lights : List String) : List (ChannelId × String) :=
  lights.mapIdx (fun i entityId => (i + 1, entityId))

/-- The API server and its engine that `async_setup_entry` makes, with its callbacks set. -/
def apiServerOf (r : Resolved) (bridgeId : String) (pairing : Pairing.Server) (states : String → Option LightState)
    (now : ℚ) : HueApiServer where
  bridgeId := bridgeId
  mac := BridgeId.macFromBridgeId bridgeId
  hostIp := r.hostIp
  httpPort := r.httpPort
  channelCount := r.lightEntities.length
  lightEntities := r.lightEntities
  pairing := pairing
  bridge := { engine := EngineSteps.engineOf (mappings r.lightEntities) states now }
  onEntertainment := true
  onLightCommand := true

/-- The options of an entry accept just the dotted quads, each for one address. -/
theorem isIpv4_exact (value : String) :
    isIpv4 value = true ↔ ∃! octets, IsQuad octets ∧ value.toList = format octets := by
  unfold isIpv4
  rw [Option.isSome_iff_exists]
  constructor
  · rintro ⟨octets, read⟩
    refine ⟨octets, parse_iff.mp read, ?_⟩
    rintro others ⟨quad, same⟩
    exact format_inj quad (parse_iff.mp read).1 (same.symm.trans (parse_iff.mp read).2)
  · rintro ⟨octets, read, _⟩
    exact ⟨octets, parse_iff.mpr read⟩

theorem isSpace_format {octets : List Nat} {c : Char} (member : c ∈ format octets) : isSpace c = false := by
  rcases mem_format member with digit | rfl
  · have range : 48 ≤ c.toNat ∧ c.toNat ≤ 57 := by
      simpa [Char.isDigit, UInt32.le_iff_toNat_le] using digit
    simp [isSpace]
    omega
  · decide

/-- An address stays as it is when it is submitted again. -/
theorem rawIp_quad {input : Input} {octets : List Nat} {text : String} (given : input.bindIp = some text)
    (same : text.toList = format octets) : rawIp input = text := by
  unfold rawIp
  rw [given, Option.getD_some, strip, trim_eq_self (fun c member => isSpace_format (same ▸ member)), String.ofList_toList]

/-- What a form shows, submitted as it is. -/
def Form.asShown (form : Form) : Input where
  lights := form.lights
  pairNow := some form.pairNow
  bindIp := some form.bindIp
  httpMode := some form.httpMode

/-- What a saved bind IP is. -/
theorem chosen_bindIp {input : Input} (accepted : Accepted input) :
    (chosen input).bindIp = some none ∨
      ∃ octets text, IsQuad octets ∧ text.toList = format octets ∧ (chosen input).bindIp = some (some text) := by
  unfold chosen
  by_cases empty : rawIp input = ""
  · simp [empty]
  · have address : isIpv4 (rawIp input) = true := accepted.resolve_left empty
    obtain ⟨octets, ⟨quad, same⟩, _⟩ := (isIpv4_exact _).mp address
    exact .inr ⟨octets, rawIp input, quad, same, by simp [empty]⟩

/-- The entry as it was created, or with options that somebody chose. -/
theorem reached_entry {w : World} (reached : Reachable machine Always w) : ∃ lights, w.entry.data = created lights ∧
    (w.entry.options = {} ∨ ∃ input, Accepted input ∧ w.entry.options = chosen input) := by
  obtain ⟨first, events, ⟨lights, fresh⟩, run⟩ := reached
  have held := sound fresh run
  refine ⟨lights, held.data, ?_⟩
  rcases held.options with unsaved | ⟨flow, input, ⟨_, _, _, _, _, _, _, _, accepted⟩, same⟩
  · exact .inl unsaved
  · exact .inr ⟨input, accepted, same⟩

theorem chosen_same {input other : Input} (lights : other.lights = input.lights) (raw : rawIp other = rawIp input)
    (httpMode : other.httpMode.getD defaultHttpMode = input.httpMode.getD defaultHttpMode) :
    chosen other = chosen input := by
  unfold chosen
  rw [lights, raw, httpMode]

theorem asShown_saved (data : Settings) {input : Input} (accepted : Accepted input) :
    Accepted (currentForm ⟨data, chosen input⟩).asShown ∧
      chosen (currentForm ⟨data, chosen input⟩).asShown = chosen input := by
  by_cases empty : rawIp input = ""
  · have blank : (currentForm ⟨data, chosen input⟩).bindIp = "" := by simp [currentForm, chosen, empty]
    have raw : rawIp (currentForm ⟨data, chosen input⟩).asShown = "" := by
      unfold rawIp Form.asShown
      rw [blank]
      rfl
    exact ⟨.inl raw, chosen_same rfl (raw.trans empty.symm) rfl⟩
  · have address : isIpv4 (rawIp input) = true := accepted.resolve_left empty
    obtain ⟨octets, ⟨quad, same⟩, _⟩ := (isIpv4_exact _).mp address
    have kept : (currentForm ⟨data, chosen input⟩).bindIp = rawIp input := by simp [currentForm, chosen, empty]
    have given : (currentForm ⟨data, chosen input⟩).asShown.bindIp = some (rawIp input) := by
      rw [← kept]
      rfl
    have raw : rawIp (currentForm ⟨data, chosen input⟩).asShown = rawIp input := rawIp_quad given same
    exact ⟨.inr ((congrArg isIpv4 raw).trans address), chosen_same rfl raw rfl⟩

theorem asShown_created (lights : List String) :
    Accepted (currentForm ⟨created lights, {}⟩).asShown ∧
      chosen (currentForm ⟨created lights, {}⟩).asShown = ⟨some lights, some none, some defaultHttpMode, none, none⟩ :=
  ⟨.inl rfl, rfl⟩

/-- Whoever opens the options and submits an acceptable form without pairing has saved it. -/
theorem submit_saves (w : World) {input : Input} (accepted : Accepted input) (unpaired : input.pairNow.getD false = false) :
    ∃ v, Run machine Always w [.start, .configure w.nextFlow (some input)] v ∧ v.flows w.nextFlow = none ∧
      v.entry = ⟨w.entry.data, chosen input⟩ := by
  have valid : ¬(rawIp input ≠ "" ∧ isIpv4 (rawIp input) = false) := by
    rintro ⟨filled, invalid⟩
    rcases accepted with empty | address
    · exact filled empty
    · rw [address] at invalid
      cases invalid
  have called : ∃ handler, ({} : OptionsFlowHandler).asyncStepInit w.entry (some input) =
      (handler, .createEntry (chosen input)) := by
    unfold OptionsFlowHandler.asyncStepInit
    simp only [if_neg valid, unpaired]
    exact ⟨_, rfl⟩
  obtain ⟨handler, called⟩ := called
  let opened : World := { w with nextFlow := w.nextFlow + 1 }.put w.nextFlow (some {})
  have found : opened.flows w.nextFlow = some {} := Function.update_self ..
  have configured : machine.step opened (.configure w.nextFlow (some input)) =
      some (opened.take w.nextFlow (handler, .createEntry (chosen input))) := by
    change (opened.flows w.nextFlow).map _ = _
    rw [found, ← called]
    rfl
  exact ⟨_, .cons trivial rfl (.cons trivial configured (.nil _)), Function.update_self .., rfl⟩

/-- Opening the options and submitting them as they are shown saves, and changes nothing for the entry. -/
theorem resubmit_keeps {w : World} (reached : Reachable machine Always w) : ∃ form v,
    (({} : OptionsFlowHandler).asyncStepInit w.entry none).2 = .form form ∧
      Run machine Always w [.start, .configure w.nextFlow (some form.asShown)] v ∧ v.flows w.nextFlow = none ∧
      (∀ env, resolve env v.entry = resolve env w.entry) ∧ (w.entry.options ≠ {} → v.entry = w.entry) := by
  obtain ⟨lights, data, unsaved | ⟨input, accepted, saved⟩⟩ := reached_entry reached
  · have entry : w.entry = ⟨created lights, {}⟩ := by rw [← data, ← unsaved]
    obtain ⟨again, same⟩ := asShown_created lights
    rw [← entry] at again same
    obtain ⟨v, run, gone, after⟩ := submit_saves w again rfl
    refine ⟨_, v, rfl, run, gone, ?_, fun chose => absurd unsaved chose⟩
    intro env
    rw [after, same, entry]
    rfl
  · have entry : w.entry = ⟨w.entry.data, chosen input⟩ := by rw [← saved]
    obtain ⟨again, same⟩ := asShown_saved w.entry.data accepted
    rw [← entry] at again same
    obtain ⟨v, run, gone, after⟩ := submit_saves w again rfl
    have unchanged : v.entry = w.entry := by rw [after, same, ← entry]
    exact ⟨_, v, rfl, run, gone, fun env => by rw [unchanged], fun _ => unchanged⟩

theorem oneEntry_bound : ∃ w, Reachable machine Always w ∧ w.entry.options.bindIp = some (some "192.168.1.3") := by
  have played : (play machine Always oneEntry (twoFlows ++ [.configure 0 none])).any (fun w =>
      decide (w.entry.options.bindIp = some (some "192.168.1.3"))) = true := by
    decide +kernel
  obtain ⟨w, run, saved⟩ := (Option.any_eq_true _ _).mp played
  exact ⟨w, reachable_of_play ⟨["light.one"], rfl⟩ run, of_decide_eq_true saved⟩

theorem resubmit_keeps_bound : ∃ (w v : World), Reachable machine Always w ∧
    w.entry.options.bindIp = some (some "192.168.1.3") ∧ v.flows w.nextFlow = none ∧ v.entry = w.entry := by
  obtain ⟨w, reached, saved⟩ := oneEntry_bound
  obtain ⟨form, v, _, _, gone, _, unchanged⟩ := resubmit_keeps reached
  refine ⟨w, v, reached, saved, gone, unchanged ?_⟩
  intro none
  rw [none] at saved
  cases saved

theorem beforeLastDot_append {before last : List Char} {text : String} (same : text.toList = before ++ '.' :: last)
    (plain : '.' ∉ last) : beforeLastDot text = String.ofList before := by
  have dropped : text.toList.reverse.dropWhile (fun c => c ≠ '.') = '.' :: before.reverse := by
    rw [same, List.reverse_append, List.reverse_cons, List.append_assoc,
      List.dropWhile_append_of_pos (fun c member => by
        simp only [decide_not, Bool.not_eq_eq_eq_not, Bool.not_true, decide_eq_false_iff_not]
        rintro rfl
        exact plain (List.mem_reverse.mp member))]
    rfl
  unfold beforeLastDot
  rw [dropped]
  exact congrArg String.ofList (List.reverse_reverse before)

/-- The gateway that the API tells of an address. -/
theorem gateway_format {first second third last : Nat} {text : String}
    (same : text.toList = format [first, second, third, last]) :
    (beforeLastDot text ++ ".1").toList = format [first, second, third, 1] := by
  have split : text.toList = format [first, second, third] ++ '.' :: Nat.toDigits 10 last := by
    rw [same]
    simp [format, List.intercalate_cons_cons]
  have plain : '.' ∉ Nat.toDigits 10 last := dot_notMem [last] _ (List.mem_singleton_self _)
  rw [beforeLastDot_append split plain]
  have one : Nat.toDigits 10 1 = ['1'] := rfl
  simp [format, List.intercalate_cons_cons, one]

/-- Whatever options were saved: the servers bind every address, or one address that is also the one advertised, and
the API's config names a gateway in its network. -/
theorem bound_address {w : World} (reached : Reachable machine Always w) (env : Surroundings) (bridgeId : String)
    (pairing : Pairing.Server) (states : String → Option LightState) (now : ℚ) (readings : Readings) :
    (resolve env w.entry).bindHost = "0.0.0.0" ∧ (resolve env w.entry).hostIp = asyncGetHostIp env ∨
      ∃ first second third last gateway, IsQuad [first, second, third, last] ∧
        (resolve env w.entry).bindHost = (resolve env w.entry).hostIp ∧
        (resolve env w.entry).hostIp.toList = format [first, second, third, last] ∧
        field (.object ((apiServerOf (resolve env w.entry) bridgeId pairing states now).buildV1Config readings))
          "gateway" = some (.str gateway) ∧
        gateway.toList = format [first, second, third, 1] := by
  obtain ⟨lights, data, unsaved | ⟨input, accepted, saved⟩⟩ := reached_entry reached
  · have entry : w.entry = ⟨created lights, {}⟩ := by rw [← data, ← unsaved]
    rw [entry]
    exact .inl ⟨rfl, rfl⟩
  · have entry : w.entry = ⟨created lights, chosen input⟩ := by rw [← data, ← saved]
    rcases chosen_bindIp accepted with nowhere | ⟨octets, text, quad, same, here⟩
    · refine .inl ?_
      have bindIp : (resolve env w.entry).bindIp = none := by
        simp only [resolve, entry, nowhere]
        rfl
      constructor
      · simp [Resolved.bindHost, bindIp]
      · simp [resolve, entry, nowhere, created, orText]
    · have filled : text ≠ "" := by
        rintro rfl
        exact format_ne_nil quad same.symm
      have bindIp : (resolve env w.entry).bindIp = some text := by
        simp [resolve, entry, here, orText, filled]
      have hostIp : (resolve env w.entry).hostIp = text := by
        simp [resolve, entry, here, orText, filled]
      obtain ⟨first, second, third, last, rfl⟩ := List.length_eq_four.mp quad.1
      refine .inr ⟨first, second, third, last, beforeLastDot text ++ ".1", quad, ?_, ?_, ?_, gateway_format same⟩
      · simp [Resolved.bindHost, bindIp, hostIp, filled]
      · rw [hostIp, same]
      · rw [← hostIp]
        rfl

/-- Home Assistant at 192.168.1.2, on a port of its own. -/
def atHome : Surroundings := ⟨none, fun _ => false, fun _ => false, "192.168.1.2", 8123, false⟩

/-- The API server there before anybody is paired. -/
def unpaired (entry : ConfigEntry) : HueApiServer :=
  apiServerOf (resolve atHome entry) "001788FFFE123456" (Pairing.serverOf [] true 0) (fun _ => none) 0

theorem bound_address_bound : ∃ w, Reachable machine Always w ∧ (resolve atHome w.entry).hostIp = "192.168.1.3" ∧
    ∃ first second third last gateway, (resolve atHome w.entry).bindHost = (resolve atHome w.entry).hostIp ∧
      (resolve atHome w.entry).hostIp.toList = format [first, second, third, last] ∧
      field (.object ((unpaired w.entry).buildV1Config newYear)) "gateway" = some (.str gateway) ∧
      gateway.toList = format [first, second, third, 1] := by
  obtain ⟨w, reached, saved⟩ := oneEntry_bound
  have hostIp : (resolve atHome w.entry).hostIp = "192.168.1.3" := by simp [resolve, saved, orText]
  refine ⟨w, reached, hostIp, ?_⟩
  rcases bound_address reached atHome "001788FFFE123456" (Pairing.serverOf [] true 0) (fun _ => none) 0 newYear with
    ⟨_, elsewhere⟩ | ⟨first, second, third, last, gateway, _, bound, same, told⟩
  · rw [hostIp] at elsewhere
    exact absurd elsewhere (by decide)
  · exact ⟨first, second, third, last, gateway, bound, same, told⟩

end HueEntertainment.OptionsFlow
