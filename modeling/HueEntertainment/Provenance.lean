import HueEntertainment.ApiSteps
import HueEntertainment.ServiceCalls
import HueEntertainment.Strangers

/-! The entry with its API server, its bridge and the frames that its mailbox hands on. What a light is told, and who
owns the session, is traced to the clients that asked for it. -/

namespace HueEntertainment.Provenance
open HueStream LightCommand PyValue Entertainment UserStore ApiServer ApiSteps Wiring Runs
open EngineSlots (fresh_mapping)
open EngineHistory (begins begins_iff)
open ServiceCalls (slots_kept)

/-- The API server; as ghosts, the frames handed to the engine and the light commands of the requests, each with the
username in its path. -/
structure Serving where
  server : HueApiServer
  frames : List Bytes := []
  puts : List (String × Nat × Json) := []

/-- A request is handled, or something happens to the bridge or to the pairing without one. -/
inductive Event where
  | request (handler : Handler) (info : MatchInfo) (body : HueApi.Body) (readings : Readings)
  | bridge (event : BridgeEvent)
  | pairing (event : Pairing.Event)

/-- Only the handlers of requests start or stop a session by name and command single lights. -/
def requested : BridgeEvent → Bool
  | .setActive _ _ => true
  | .engine (.command _ _) => true
  | _ => false

def frameOf : BridgeEvent → Option Bytes
  | .engine (.frame data) => some data
  | _ => none

def putOf (username : String) : Callback → Option (String × Nat × Json)
  | .lightCommand lightId body => some (username, lightId, body)
  | .entertainmentStart _ | .entertainmentStop => none

section
variable (uuid5Hex : String → String)

def step (s : Serving) : Event → Option Serving
  | .request handler info body readings =>
      let handled := s.server.handle uuid5Hex handler info body readings
      some { s with
        server := handled.server
        puts := handled.callbacks.filterMap (putOf (parameter info "username")) ++ s.puts }
  | .bridge event =>
      if requested event then none
      else (Wiring.step s.server.bridge event).map (fun bridge =>
        { s with server := { s.server with bridge := bridge }, frames := (frameOf event).toList ++ s.frames })
  | .pairing event =>
      (Pairing.step s.server.pairing event).map (fun pairing =>
        { s with server := { s.server with pairing := pairing } })

/-- An entry from its setup on, with its callbacks set. -/
def serving : Machine Serving Event where
  Start := fun s => ∃ server : HueApiServer, Wiring.bridge.Start server.bridge ∧ server.onEntertainment = true ∧
    s = { server := server }
  step := step uuid5Hex

/-- What each step can do. -/
inductive Move (s : Serving) : Event → Serving → Prop where
  | request (handler : Handler) (info : MatchInfo) (body : HueApi.Body) (readings : Readings) {handled : Handled} :
      s.server.handle uuid5Hex handler info body readings = handled →
      Move s (.request handler info body readings)
        { s with server := handled.server
                 puts := handled.callbacks.filterMap (putOf (parameter info "username")) ++ s.puts }
  | bridge {event : BridgeEvent} {bridge : Bridge} : requested event = false →
      Wiring.step s.server.bridge event = some bridge →
      Move s (.bridge event)
        { s with server := { s.server with bridge := bridge }, frames := (frameOf event).toList ++ s.frames }
  | pairing {event : Pairing.Event} {pairing : Pairing.Server} : Pairing.step s.server.pairing event = some pairing →
      Move s (.pairing event) { s with server := { s.server with pairing := pairing } }

variable {uuid5Hex}

theorem step_move {s t : Serving} {event : Event} (stepped : step uuid5Hex s event = some t) :
    Move uuid5Hex s event t := by
  cases event with
  | request handler info body readings => exact Option.some.inj stepped ▸ .request handler info body readings rfl
  | bridge event =>
    simp only [step] at stepped
    split at stepped
    next => cases stepped
    next own =>
      obtain ⟨bridge, moved, rfl⟩ := Option.map_eq_some_iff.mp stepped
      exact .bridge (by simpa using own) moved
  | pairing event =>
    obtain ⟨pairing, moved, rfl⟩ := Option.map_eq_some_iff.mp stepped
    exact .pairing moved

end

theorem known_iff {users : Users} {known : String} :
    (getPsk users known).isSome = true ↔ known ∈ users.map Prod.fst := by
  rw [getPsk, Option.isSome_map]
  constructor
  · intro found
    by_contra unknown
    rw [lookup_eq_none_of_notMem unknown] at found
    cases found
  · intro member
    obtain ⟨entry, held, rfl⟩ := List.mem_map.mp member
    cases same : users.lookup entry.1 with
    | some user => rfl
    | none => simpa using List.lookup_eq_none_iff.mp same entry held

/-- A username that is known stays so. -/
theorem add_known {users : Users} {known : String} (found : (getPsk users known).isSome) (username clientkey : String)
    (devicetype : Json) : (getPsk (add users username clientkey devicetype) known).isSome := by
  rw [known_iff] at *
  obtain ⟨entry, held, rfl⟩ := List.mem_map.mp found
  unfold add
  split
  next =>
    rw [List.map_map]
    refine List.mem_map.mpr ⟨entry, held, ?_⟩
    by_cases same : entry.1 = username
    · simp [same]
    · simp [same]
  next =>
    rw [List.map_append]
    exact List.mem_append_left _ found

theorem pairing_known {s t : Pairing.Server} {event : Pairing.Event} {known : String}
    (found : (getPsk s.users known).isSome) (move : Pairing.Move s event t) : (getPsk t.users known).isSome := by
  cases move with
  | @added request body credentials reading active unmatched unknown asks =>
    have users : ∀ r : Pairing.Server, (r.addUser request credentials).users =
        add r.users credentials.username credentials.clientkey credentials.devicetype := by
      intro r
      rcases Pairing.addUser_cases r request credentials with ⟨_, same⟩ | ⟨_, same⟩
      · rw [same]
        rfl
      · rw [same]
        rfl
    rw [users]
    exact add_known found _ _ _
  | saved outcome saving => cases outcome <;> exact found
  | _ => exact found

theorem pairing_known_run {ok : Pairing.Server → Pairing.Event → Prop} {s t : Pairing.Server}
    {events : List Pairing.Event} {known : String} (found : (getPsk s.users known).isSome)
    (run : Run Pairing.machine ok s events t) : (getPsk t.users known).isSome :=
  run.invariant (fun s => (getPsk s.users known).isSome)
    (fun _ _ _ before _ moved => pairing_known before (Pairing.step_move moved)) found

section
variable {uuid5Hex : String → String}

/-- Nobody is unpaired. -/
theorem paired_step {s t : Serving} {event : Event} {known : String} (paired : s.server.paired known = true)
    (move : Move uuid5Hex s event t) : t.server.paired known = true := by
  cases move with
  | request handler info body readings same =>
    subst same
    have pairs : Pairs s.server (s.server.handle uuid5Hex handler info body readings) :=
      handle_pairs uuid5Hex handler readings
    obtain ⟨events, run⟩ := pairs
    exact pairing_known_run paired run
  | bridge own moved => exact paired
  | pairing moved => exact pairing_known paired (Pairing.step_move moved)

end

/-- A write that was asked for: a frame's channel by the frame, a light's body by a request for the light. -/
def Asked (s : Serving) : Write → Prop
  | .frame color colorSpace => ∃ data ∈ s.frames, ∃ frame, parseHuestreamFrame data = .ok (some frame) ∧
      color ∈ frame.channels ∧ frame.colorSpace = colorSpace
  | .put lightId body => ∃ username, (username, lightId, body) ∈ s.puts

/-- The light that a write is for. -/
def lightOf : Write → ChannelId
  | .frame color _ => color.channelId
  | .put lightId _ => lightId

/-- All that waits in a slot was written by such a write, and something was. -/
def SlotFrom (allowed : Write → Prop) (mapping : LightMapping) : Prop :=
  ∀ data, mapping.pendingData = some data → mapping.pendingFrom ≠ [] ∧ ∀ write ∈ mapping.pendingFrom, allowed write

/-- The same of every slot and of every call that was begun, by writes for its light. -/
structure From (allowed : ChannelId → Write → Prop) (s : Engine) : Prop where
  slots : ∀ channelId, SlotFrom (allowed channelId) (s.mapping channelId)
  calls : ∀ drain call begun, .callBegun drain call begun ∈ s.log →
    call.source ≠ [] ∧ ∀ write ∈ call.source, allowed call.channelId write

theorem From.mono {allowed wider : ChannelId → Write → Prop} {s : Engine}
    (weaker : ∀ channelId write, allowed channelId write → wider channelId write) (sourced : From allowed s) : From wider s := by
  constructor
  · intro channelId data waiting
    obtain ⟨some, each⟩ := sourced.slots channelId data waiting
    exact ⟨some, fun write member => weaker _ write (each write member)⟩
  · intro drain call begun member
    obtain ⟨some, each⟩ := sourced.calls drain call begun member
    exact ⟨some, fun write member => weaker _ write (each write member)⟩

theorem start_from {allowed : ChannelId → Write → Prop} {s : Engine} (start : EngineSteps.machine.Start s) :
    From allowed s := by
  obtain ⟨lights, states, now, rfl⟩ := start
  constructor
  · intro channelId data waiting
    obtain ⟨other, entityId, empty⟩ := fresh_mapping lights states now channelId
    rw [empty] at waiting
    cases waiting
  · intro drain call begun sent
    have silent : (EngineSteps.engineOf lights states now).log = [] := rfl
    rw [silent] at sent
    cases sent

/-- What a step of the engine writes. -/
def Writes (allowed : ChannelId → Write → Prop) : EngineSteps.Event → Prop
  | .frame data => ∀ frame channel, parseHuestreamFrame data = .ok (some frame) → channel ∈ frame.channels →
      allowed channel.channelId (.frame channel frame.colorSpace)
  | .command lightId body => allowed lightId (.put lightId body)
  | _ => True

theorem slotFrom_queue {allowed : Write → Prop} {mapping : LightMapping} {lightId : Nat} {body : Json}
    {slot : ServiceData × List Write} (held : SlotFrom allowed mapping) (asked : allowed (.put lightId body))
    (accepted : mapping.commandSlot lightId body = .ok (some slot)) : SlotFrom allowed (mapping.queue slot) := by
  obtain ⟨data, pending, older, _, _, rfl, merged⟩ := commandSlot_eq accepted
  rintro _ ⟨⟩
  refine ⟨List.cons_ne_nil _ _, ?_⟩
  intro write member
  rcases List.mem_cons.mp member with rfl | earlier
  · exact asked
  · rcases merged with ⟨_, rfl⟩ | ⟨_, found, rfl⟩
    · cases earlier
    · exact (held pending found).2 write earlier

theorem From.step {allowed : ChannelId → Write → Prop} {s t : Engine} {event : EngineSteps.Event} (sourced : From allowed s)
    (writes : Writes allowed event) (moved : EngineSteps.machine.step s event = some t) : From allowed t := by
  have move := EngineMoves.step_move moved
  constructor
  · refine slots_kept (fun channelId mapping => SlotFrom (allowed channelId) mapping) ?_ ?_ move ?_ ?_ sourced.slots
    · intro _ mapping _ data waiting
      cases waiting
    · rintro _ mapping _ _ ⟨logged, sent, rfl⟩ data waiting
      cases waiting
    · rintro data frame channel mapping rfl parsed member _ _ ⟨⟩
      refine ⟨List.cons_ne_nil _ _, ?_⟩
      intro write same
      rw [List.mem_singleton.mp same]
      exact writes frame channel parsed member
    · rintro channelId body slot rfl accepted before
      exact slotFrom_queue before writes accepted.2.2
  · obtain ⟨new, logged, emitted⟩ := EngineHistory.move_adds move
    intro drain call begun member
    rw [logged] at member
    rcases List.mem_append.mp member with now | before
    · cases emitted _ now with
      | callBegun outcome found live dirty pending same =>
        rw [same]
        exact sourced.slots _ _ pending
    · exact sourced.calls drain call begun before

theorem bridge_from {allowed : ChannelId → Write → Prop} {b c : Bridge} {event : BridgeEvent} (sourced : From allowed b.engine)
    (writes : ∀ own, event = .engine own → Writes allowed own) (moved : Wiring.bridge.step b event = some c) :
    From allowed c.engine := by
  rcases step_engine moved with same | ⟨own, stepped, drives, _⟩
  · rw [same]
    exact sourced
  · refine sourced.step ?_ stepped
    cases own with
    | frame data => exact writes _ drives
    | command lightId body => exact writes _ drives
    | _ => trivial

theorem bridge_from_run {allowed : ChannelId → Write → Prop} {b c : Bridge} {events : List BridgeEvent}
    (run : Run Wiring.bridge Always b events c) (sourced : From allowed b.engine)
    (writes : ∀ own, .engine own ∈ events → Writes allowed own) : From allowed c.engine := by
  induction run with
  | nil _ => exact sourced
  | cons _ moved _ ih =>
    refine ih (bridge_from sourced ?_ moved) (fun own member => writes own (List.mem_cons_of_mem _ member))
    rintro own rfl
    exact writes own List.mem_cons_self

/-- Callbacks are called for paired clients only. -/
theorem callbacks_paired (uuid5Hex : String → String) {server : HueApiServer} {handler : Handler} {info : MatchInfo}
    {body : HueApi.Body} {readings : Readings} {callback : Callback}
    (called : callback ∈ (server.handle uuid5Hex handler info body readings).callbacks) :
    server.paired (parameter info "username") = true := by
  by_contra unpaired
  have unchecked : server.checkUsername info = none := if_neg unpaired
  cases opened : Strangers.isOpen handler with
  | false =>
    rw [Strangers.handle_unchecked uuid5Hex body readings opened unchecked] at called
    cases called
  | true =>
    by_cases creating : handler = .handleCreateUser
    · subst handler
      cases called
    · rw [(Strangers.handle_open uuid5Hex server info body readings opened creating).2] at called
      cases called

theorem start_named {server : HueApiServer} {active : Bool} {username asking : String}
    (called : .entertainmentStart username ∈ (server.setEntertainmentActive active asking).2) : username = asking := by
  unfold HueApiServer.setEntertainmentActive at called
  split at called
  next =>
    have same := List.mem_singleton.mp called
    cases active with
    | true => exact Callback.entertainmentStart.inj same
    | false => cases same
  next => cases called

/-- A session is started in the name of the client that asks for it. -/
theorem callbacks_named (uuid5Hex : String → String) {server : HueApiServer} {handler : Handler} {info : MatchInfo}
    {body : HueApi.Body} {readings : Readings} {username : String}
    (called : .entertainmentStart username ∈ (server.handle uuid5Hex handler info body readings).callbacks) :
    username = parameter info "username" := by
  have all : ∀ callback ∈ (server.handle uuid5Hex handler info body readings).callbacks,
      callback = .entertainmentStart username → username = parameter info "username" := by
    apply HueApiServer.handle_rule (motive := fun handled => ∀ callback ∈ handled.callbacks,
      callback = .entertainmentStart username → username = parameter info "username")
    · exact fun _ => nofun
    · exact nofun
    · exact nofun
    · intro _ given
      unfold HueApiServer.commandLight HueApiServer.lightCommands
      split
      next =>
        rintro callback member rfl
        simp only [] at member
        split at member
        · cases List.mem_singleton.mp member
        · cases member
      next => exact nofun
    · intro stream reply callback member same
      exact start_named (same ▸ member)
  exact all _ called rfl

theorem closing_owner (b : Bridge) : b.beginClosing.entertainmentOwner = b.entertainmentOwner := by
  change b.cancelWatchdog.entertainmentOwner = b.entertainmentOwner
  obtain ⟨watchdogs, same⟩ := cancelWatchdog_frame b
  rw [same]

/-- Only a start makes somebody the owner. -/
theorem owner_step {b c : Bridge} {event : BridgeEvent} {owner : String} (moved : Wiring.bridge.step b event = some c)
    (owned : c.entertainmentOwner = some owner) :
    b.entertainmentOwner = some owner ∨ event = .setActive true owner := by
  change Wiring.step b event = some c at moved
  cases event with
  | setActive active username =>
    cases moved
    cases active with
    | true =>
      have named : some username = some owner := by
        unfold Bridge.setEntertainmentActive Bridge.onEntertainmentStart at owned
        simp only [↓reduceIte] at owned
        split at owned
        · exact owned
        · exact owned
      exact .inr (Option.some.inj named ▸ rfl)
    | false => cases owned
  | release seconds =>
    cases moved
    cases owned
  | watchdog watchdog =>
    cases watchdogStep_move moved with
    | cancelled found => exact .inl owned
    | looked found polling halts still => exact .inl owned
    | timedOut found active silent => cases owned
  | engine event =>
    have same := (engineStep_eq moved).2.2.1
    simp only [wires, Prod.mk.injEq] at same
    exact .inl (same.2.1 ▸ owned)
  | beginClosing =>
    cases moved
    exact .inl ((closing_owner b).symm.trans owned)
  | cancelTasks =>
    cases moved
    exact .inl owned
  | restoreClosing =>
    simp only [Wiring.step] at moved
    split at moved
    · cases moved
      exact .inl owned
    · cases moved

theorem owner_run {ok : Bridge → BridgeEvent → Prop} {b c : Bridge} {events : List BridgeEvent} {owner : String}
    (run : Run Wiring.bridge ok b events c) (owned : c.entertainmentOwner = some owner) :
    b.entertainmentOwner = some owner ∨ .setActive true owner ∈ events := by
  induction run with
  | nil _ => exact .inl owned
  | cons _ moved _ ih =>
    rcases ih owned with before | later
    · rcases owner_step moved before with earlier | rfl
      · exact .inl earlier
      · exact .inr List.mem_cons_self
    · exact .inr (List.mem_cons_of_mem _ later)

/-- Everybody the entry has served by name is paired. -/
structure Known (s : Serving) : Prop where
  wired : s.server.onEntertainment = true
  owner : ∀ owner, s.server.bridge.entertainmentOwner = some owner → s.server.paired owner = true
  puts : ∀ put ∈ s.puts, s.server.paired put.1 = true

section
variable {uuid5Hex : String → String}

theorem Known.step {s t : Serving} {event : Event} (known : Known s)
    (move : Move uuid5Hex s event t) : Known t := by
  have still : ∀ username, s.server.paired username = true → t.server.paired username = true :=
    fun _ paired => paired_step paired move
  cases move with
  | request handler info body readings same =>
    subst same
    refine ⟨?_, ?_, ?_⟩
    · exact (handle_wired uuid5Hex handler readings).trans known.wired
    · intro owner owned
      rcases owner_run (handle_drives uuid5Hex known.wired handler readings) owned with before | started
      · exact still owner (known.owner owner before)
      · obtain ⟨callback, member, same⟩ := List.mem_map.mp started
        cases callback with
        | entertainmentStart username =>
          cases same
          have paired := callbacks_paired uuid5Hex member
          rw [← callbacks_named uuid5Hex member] at paired
          exact still _ paired
        | entertainmentStop => cases same
        | lightCommand lightId given => cases same
    · intro put member
      rcases List.mem_append.mp member with new | old
      · obtain ⟨callback, called, made⟩ := List.mem_filterMap.mp new
        have paired := callbacks_paired uuid5Hex called
        cases callback with
        | lightCommand lightId given =>
          cases made
          exact still _ paired
        | entertainmentStart _ => cases made
        | entertainmentStop => cases made
      · exact still put.1 (known.puts put old)
  | bridge own moved =>
    refine ⟨known.wired, ?_, known.puts⟩
    intro owner owned
    rcases owner_step moved owned with before | rfl
    · exact known.owner owner before
    · cases own
  | pairing moved =>
    exact ⟨known.wired, fun owner owned => still owner (known.owner owner owned),
      fun put member => still put.1 (known.puts put member)⟩

theorem known {ok : Serving → Event → Prop} {s : Serving} (reached : Reachable (serving uuid5Hex) ok s) : Known s := by
  apply reached.invariant Known
  · rintro s ⟨server, ⟨engine, _, same⟩, wired, rfl⟩
    refine ⟨wired, ?_, nofun⟩
    intro owner owned
    rw [same] at owned
    cases owned
  · intro s event t before _ moved
    exact before.step (step_move moved)

/-- The owner of a session that the bridge reports is a paired client, and so is everybody whose request has ever
commanded a light: whoever else sends requests, and whatever happens between them. -/
theorem owner_paired {s : Serving} (reached : Reachable (serving uuid5Hex) Always s) :
    (∀ owner, s.server.bridge.entertainmentOwner = some owner → s.server.paired owner = true) ∧
      ∀ put ∈ s.puts, s.server.paired put.1 = true :=
  ⟨(known reached).owner, (known reached).puts⟩

/-- Two clients, of whom one has paired. -/
def living : Serving := { server := oneLightServer [("tv", ⟨"aa", .str "tv#living"⟩)] }

theorem living_start : (serving id).Start living := ⟨_, ⟨_, ⟨_, _, _, rfl⟩, rfl⟩, rfl, rfl⟩

/-- Both ask for the stream and for the light, and the loop drains what waits. -/
def bothAsk : List Event :=
  [.request .handleV1GroupPut [("username", "guest"), ("group_id", "1")] (.ok startBody) newYear,
    .request .handleV1GroupPut [("username", "tv"), ("group_id", "1")] (.ok startBody) newYear,
    .request .handleV1LightState [("username", "guest"), ("light_id", "1")] (.ok (.object [("on", .bool false)]))
      newYear,
    .request .handleV1LightState [("username", "tv"), ("light_id", "1")] (.ok (.object [("on", .bool true)])) newYear,
    .bridge (.engine (.drain 0 .returned))]

theorem owner_paired_both : ∃ s, Reachable (serving id) Always s ∧
    s.server.bridge.entertainmentOwner = some "tv" ∧ s.server.paired "tv" = true ∧ s.puts.map Prod.fst = ["tv"] := by
  have played : (play (serving id) Always living bothAsk).any (fun s =>
      decide (s.server.bridge.entertainmentOwner = some "tv") && decide (s.puts.map Prod.fst = ["tv"])) = true := by
    decide +kernel
  obtain ⟨s, run, found⟩ := (Option.any_eq_true _ _).mp played
  simp only [Bool.and_eq_true, decide_eq_true_eq] at found
  have reached : Reachable (serving id) Always s := reachable_of_play living_start run
  exact ⟨s, reached, found.1, (owner_paired reached).1 "tv" found.1, found.2⟩

theorem Asked.later {s t : Serving} {event : Event} (move : Move uuid5Hex s event t) :
    ∀ write, Asked s write → Asked t write := by
  intro write asked
  cases write with
  | frame color colorSpace =>
    obtain ⟨data, member, frame⟩ := asked
    cases move with
    | request handler info body readings same => exact ⟨data, member, frame⟩
    | bridge own moved => exact ⟨data, List.mem_append_right _ member, frame⟩
    | pairing moved => exact ⟨data, member, frame⟩
  | put lightId body =>
    obtain ⟨username, member⟩ := asked
    cases move with
    | request handler info body readings same => exact ⟨username, List.mem_append_right _ member⟩
    | bridge own moved => exact ⟨username, member⟩
    | pairing moved => exact ⟨username, member⟩

/-- A write that was asked for and is for the light. -/
def AskedFor (s : Serving) (channelId : ChannelId) (write : Write) : Prop := lightOf write = channelId ∧ Asked s write

/-- Whatever is written, was asked for. -/
theorem asked_step {s t : Serving} {event : Event} (known : Known s)
    (sourced : From (AskedFor s) s.server.bridge.engine) (move : Move uuid5Hex s event t) :
    From (AskedFor t) t.server.bridge.engine := by
  have before : From (AskedFor t) s.server.bridge.engine :=
    sourced.mono (fun _ write asked => ⟨asked.1, Asked.later move write asked.2⟩)
  cases move with
  | request handler info body readings same =>
    subst same
    refine bridge_from_run (handle_drives uuid5Hex known.wired handler readings) before ?_
    intro own called
    obtain ⟨callback, member, same⟩ := List.mem_map.mp called
    cases callback with
    | lightCommand lightId given =>
      cases same
      exact ⟨rfl, _, List.mem_append_left _ (List.mem_filterMap.mpr ⟨_, member, rfl⟩)⟩
    | entertainmentStart _ => cases same
    | entertainmentStop => cases same
  | bridge own moved =>
    refine bridge_from before ?_ moved
    rintro event rfl
    cases event with
    | frame data =>
      intro frame channel parsed member
      exact ⟨rfl, data, List.mem_cons_self, frame, parsed, member, rfl⟩
    | command lightId body => cases own
    | _ => trivial
  | pairing moved => exact before

theorem known_from {s : Serving} (reached : Reachable (serving uuid5Hex) Always s) :
    Known s ∧ From (AskedFor s) s.server.bridge.engine := by
  apply reached.invariant (fun s => Known s ∧ From (AskedFor s) s.server.bridge.engine)
  · intro s start
    have fresh : Reachable (serving uuid5Hex) Always s := ⟨s, [], start, .nil s⟩
    refine ⟨known fresh, ?_⟩
    obtain ⟨server, ⟨engine, empty, same⟩, _, rfl⟩ := start
    have engine_same : server.bridge.engine = engine := congrArg Bridge.engine same
    exact engine_same ▸ start_from empty
  · intro s event t before _ moved
    have move := step_move moved
    exact ⟨before.1.step move, asked_step before.1 before.2 move⟩

/-- No light is told anything that nobody asked for: the data of every call was written by channels of frames that
came through the DTLS server and by bodies that clients sent, all for the light that is called, and each of these
clients is paired. -/
theorem calls_authorized {s : Serving} (reached : Reachable (serving uuid5Hex) Always s) {drain : DrainId} {call : Call}
    {begun : ℚ} (sent : .callBegun drain call begun ∈ s.server.bridge.engine.log) :
    call.source ≠ [] ∧ ∀ write ∈ call.source, Asked s write ∧ lightOf write = call.channelId ∧
      ∀ lightId body, write = .put lightId body →
        ∃ username, (username, lightId, body) ∈ s.puts ∧ s.server.paired username = true := by
  obtain ⟨named, each⟩ := (known_from reached).2.calls drain call begun sent
  refine ⟨named, fun write member => ⟨(each write member).2, (each write member).1, ?_⟩⟩
  rintro lightId body rfl
  obtain ⟨_, username, put⟩ := each _ member
  exact ⟨username, put, (known reached).puts _ put⟩

def isPut : Write → Bool
  | .put _ _ => true
  | .frame _ _ => false

theorem isPut_iff {write : Write} : isPut write = true ↔ ∃ lightId body, write = .put lightId body := by
  cases write with
  | put lightId body => exact iff_of_true rfl ⟨lightId, body, rfl⟩
  | frame color colorSpace => exact iff_of_false nofun (fun ⟨_, _, same⟩ => nomatch same)

theorem calls_authorized_both : ∃ s drain call begun lightId body username, Reachable (serving id) Always s ∧
    .callBegun drain call begun ∈ s.server.bridge.engine.log ∧ .put lightId body ∈ call.source ∧
      lightId = call.channelId ∧ (username, lightId, body) ∈ s.puts ∧ s.server.paired username = true := by
  have played : (play (serving id) Always living bothAsk).any (fun s => s.server.bridge.engine.log.any
      (begins (fun call => call.source.any isPut))) = true := by
    decide +kernel
  obtain ⟨s, run, found⟩ := (Option.any_eq_true _ _).mp played
  obtain ⟨entry, logged, sent⟩ := List.any_eq_true.mp found
  obtain ⟨drain, call, begun, rfl, puts⟩ := begins_iff.mp sent
  obtain ⟨write, member, put⟩ := List.any_eq_true.mp puts
  obtain ⟨lightId, body, rfl⟩ := isPut_iff.mp put
  have reached : Reachable (serving id) Always s := reachable_of_play living_start run
  obtain ⟨_, same, put⟩ := (calls_authorized reached logged).2 _ member
  obtain ⟨username, asked, paired⟩ := put lightId body rfl
  exact ⟨s, drain, call, begun, lightId, body, username, reached, logged, member, same, asked, paired⟩

end

end HueEntertainment.Provenance
