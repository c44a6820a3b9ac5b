import HueEntertainment.ApiServer
import HueEntertainment.ClassicErrors

/-! Which requests with a body are replied to, and that a body an endpoint does not understand changes nothing. -/

namespace HueEntertainment.Replies
open PyValue LightCommand Entertainment HueApi UserStore Pairing ApiServer HueApiServer ClassicErrors

/-- The handlers that read the body. -/
def readsBody : Handler → Bool
  | .handleCreateUser | .handleV1LightState | .handleV1GroupPut | .handleV1Stream | .handleV1PutCatchall => true
  | _ => false

def IsObject (body : Json) : Prop := ∃ fields, body = .object fields

/-- What an endpoint takes for one of its bodies: an object, with a stream and light values that it can read. -/
def Understands (handler : Handler) (body : Json) : Prop :=
  IsObject body ∧
    match handler with
    | .handleV1LightState => Translatable body
    | .handleV1GroupPut => ∀ stream, field body "stream" = some stream → stream ≠ .null → IsObject stream
    | .handleV1Stream => ∀ stream, field body "stream" = some stream → IsObject stream
    | _ => True

/-- The request is JSON, not null, that the endpoint understands. -/
def Understood (handler : Handler) (body : Body) : Prop :=
  ∃ given, safeJson body = .ok (some given) ∧ Understands handler given

/-- The flags, the user store and the engine with all its slots are the same. -/
structure Kept (s t : HueApiServer) : Prop where
  active : t.bridge.entertainmentActive = s.bridge.entertainmentActive
  owner : t.bridge.entertainmentOwner = s.bridge.entertainmentOwner
  users : t.users = s.users
  engine : t.bridge.engine = s.bridge.engine

/-- A reply is given, and a body that is not understood changes nothing. -/
structure Serves (s : HueApiServer) (handler : Handler) (body : Body) (handled : Handled) : Prop where
  replied : handled.reply.isSome
  kept : ¬Understood handler body → Kept s handled.server

/-- A client with this body would be a new user, which the server has to save. -/
def SavesUser (s : HueApiServer) (body : Json) : Prop :=
  s.pairing.persistent = true ∧ s.pairing.linkButtonActive = true ∧
    getByDevicetype s.users ((field body "devicetype").getD (.str "unknown")) = none

/-- Decimal digits, and no more of them than `int` reads. -/
def Decimal (text : String) : Prop := (∀ c ∈ text.toList, (digitValue c).isSome) ∧ text.toList.length ≤ 4300

/-- The light id is a number if it passes for one, and the body can be translated if it is for a light of the bridge
that takes commands now. -/
def LightAccepts (s : HueApiServer) (lightId : String) (body : Json) : Prop :=
  s.onLightCommand = true → isdigit lightId = true → Decimal lightId ∧
    ∀ light mapping, intOfString lightId = .ok light → s.bridge.engine.mappingOf light.toNat = some mapping →
      s.bridge.engine.suppressed = false → Translatable body

/-- What the handler of an object needs besides. -/
def Accepts (s : HueApiServer) (handler : Handler) (info : MatchInfo) (body : Json) (readings : Readings) : Prop :=
  match handler with
  | .handleCreateUser => ¬(SavesUser s body ∧ readings.save = .raised)
  | .handleV1LightState => LightAccepts s (parameter info "light_id") body
  | .handleV1GroupPut => ∀ stream, field body "stream" = some stream → stream ≠ .null → IsObject stream
  | .handleV1Stream => ∀ stream, field body "stream" = some stream → IsObject stream
  | _ => True

/-- The body of a client that may make the request is no JSON, null or an object that the handler accepts; in particular
it is read without another error than that of malformed input. -/
def Answerable (s : HueApiServer) (handler : Handler) (info : MatchInfo) (body : Body) (readings : Readings) : Prop :=
  handler = .handleCreateUser ∨ s.checkUsername info ≠ none →
    ∃ read, safeJson body = .ok read ∧ ∀ given, read = some given → IsObject given ∧ Accepts s handler info given readings

theorem Kept.refl (s : HueApiServer) : Kept s s := ⟨rfl, rfl, rfl, rfl⟩

section
variable {s : HueApiServer} {info : MatchInfo} {body : Body}

theorem ifPaired_replied (handled : Handled) :
    (s.ifPaired info handled).reply.isSome ↔ (s.checkUsername info ≠ none → handled.reply.isSome) := by
  unfold HueApiServer.ifPaired
  by_cases unpaired : s.checkUsername info = none
  · rw [if_pos unpaired]
    exact iff_of_true rfl (fun paired => absurd unpaired paired)
  · rw [if_neg unpaired]
    exact ⟨fun replied _ => replied, fun replied => replied unpaired⟩

theorem withBody_replied (handle : Json → Handled) :
    (s.withBody body handle).reply.isSome ↔
      ∃ read, safeJson body = .ok read ∧ ∀ given, read = some given → (handle given).reply.isSome := by
  unfold HueApiServer.withBody
  cases safeJson body with
  | error error => exact iff_of_false nofun nofun
  | ok read =>
    cases read with
    | none => exact iff_of_true rfl ⟨none, rfl, nofun⟩
    | some given => simp

/-- A handler that checks the username and reads the body replies if and only if what follows does. -/
theorem guarded_replied {handle : Json → Handled} {accepts : Json → Prop}
    (exactly : s.checkUsername info ≠ none →
      ∀ given, (handle given).reply.isSome ↔ IsObject given ∧ accepts given) :
    (s.ifPaired info (s.withBody body handle)).reply.isSome ↔
      (s.checkUsername info ≠ none →
        ∃ read, safeJson body = .ok read ∧ ∀ given, read = some given → IsObject given ∧ accepts given) := by
  rw [ifPaired_replied]
  refine imp_congr_right (fun paired => ?_)
  rw [withBody_replied]
  exact exists_congr fun read => and_congr_right fun _ =>
    forall_congr' fun given => imp_congr_right fun _ => exactly paired given

theorem guarded_kept {handle : Json → Handled}
    (kept : ∀ given, safeJson body = .ok (some given) → Kept s (handle given).server) :
    Kept s (s.ifPaired info (s.withBody body handle)).server :=
  ifPaired_rule (motive := fun handled => Kept s handled.server) (fun _ => .refl s)
    (fun _ => withBody_rule (motive := fun handled => Kept s handled.server) (fun _ => .refl s) kept)

theorem answer_replied (response : Except PyError Response) :
    (s.answer response).reply.isSome ↔ Returns response := by
  change (response.toOption.map Reply.json).isSome ↔ _
  rw [Option.isSome_map]
  cases response with
  | error error => simp [Except.toOption]
  | ok response => simp [Except.toOption]

/-- An object that the endpoint understands is replied to, anything else raises at once. -/
def Lands (s : HueApiServer) (handler : Handler) (given : Json) (handled : Handled) : Prop :=
  (Understands handler given ∧ handled.reply.isSome) ∨
    (¬Understands handler given ∧ handled = s.answer (.error .attributeError))

theorem Lands.replied {handler : Handler} {given : Json} {handled : Handled} (lands : Lands s handler given handled) :
    handled.reply.isSome ↔ Understands handler given := by
  obtain ⟨understood, replied⟩ | ⟨strange, rfl⟩ := lands
  · exact iff_of_true replied understood
  · refine iff_of_false ?_ strange
    rw [answer_replied]
    exact not_returns_error _

theorem Lands.kept {handler : Handler} {given : Json} {handled : Handled} (lands : Lands s handler given handled)
    (strange : ¬Understands handler given) : Kept s handled.server := by
  obtain ⟨understood, _⟩ | ⟨_, rfl⟩ := lands
  · exact absurd understood strange
  · exact .refl s

theorem echoResource_lands (given : Json) : Lands s .handleV1PutCatchall given (s.echoResource info given) := by
  cases given with
  | object fields => exact .inl ⟨⟨⟨fields, rfl⟩, trivial⟩, rfl⟩
  | _ => exact .inr ⟨by simp [Understands, IsObject], rfl⟩

theorem updateGroup_lands (given : Json) : Lands s .handleV1GroupPut given (s.updateGroup info given) := by
  cases given with
  | object fields =>
    unfold Lands Understands
    simp only [HueApiServer.updateGroup]
    cases field (.object fields) "stream" with
    | none => exact .inl ⟨⟨⟨fields, rfl⟩, by simp⟩, rfl⟩
    | some stream =>
      cases stream with
      | null => exact .inl ⟨⟨⟨fields, rfl⟩, by simp⟩, rfl⟩
      | object inner => exact .inl ⟨⟨⟨fields, rfl⟩, by simp [IsObject]⟩, rfl⟩
      | _ => exact .inr ⟨by simp [IsObject], rfl⟩
  | _ => exact .inr ⟨by simp [Understands, IsObject], rfl⟩

theorem updateStream_lands (given : Json) : Lands s .handleV1Stream given (s.updateStream info given) := by
  cases given with
  | object fields =>
    unfold Lands Understands
    simp only [HueApiServer.updateStream]
    cases field (.object fields) "stream" with
    | none => exact .inl ⟨⟨⟨fields, rfl⟩, by simp⟩, rfl⟩
    | some stream =>
      cases stream with
      | object inner => exact .inl ⟨⟨⟨fields, rfl⟩, by simp [IsObject]⟩, rfl⟩
      | _ => exact .inr ⟨by simp [IsObject], rfl⟩
  | _ => exact .inr ⟨by simp [Understands, IsObject], rfl⟩

theorem returns_stateResponse (lightId : String) (given : Json) :
    Returns (stateResponse lightId given) ↔ IsObject given := by
  cases given with
  | object fields => exact iff_of_true (returns_ok _) ⟨fields, rfl⟩
  | _ => exact iff_of_false (not_returns_error _) (by simp [IsObject])

/-- The slot of a light is computed if and only if the body is translated. -/
theorem returns_commandSlot (mapping : LightMapping) (lightId : Nat) (given : Json) :
    Returns (mapping.commandSlot lightId given) ↔ Translatable given := by
  rw [← returns_translation]
  unfold LightMapping.commandSlot
  refine returns_bind_of (fun data => ?_)
  obtain ⟨pending, written⟩ := mapping.queued
  simp only []
  split_ifs <;> exact returns_pure _

theorem commandError_none (engine : Engine) (lightId : Nat) (given : Json) :
    commandError engine lightId given = none ↔
      ∀ mapping, engine.mappingOf lightId = some mapping → engine.suppressed = false → Translatable given := by
  unfold commandError
  cases engine.suppressed with
  | true => simp
  | false =>
    cases engine.mappingOf lightId with
    | none => simp
    | some mapping =>
      have same := returns_commandSlot mapping lightId given
      simp only []
      cases slot : mapping.commandSlot lightId given with
      | error error =>
        rw [slot] at same
        simpa using same
      | ok slot' =>
        rw [slot] at same
        simpa using same

/-- A body that is not translated queues nothing. -/
theorem handleLightCommand_raised (engine : Engine) (lightId : Nat) {given : Json} (strange : ¬Translatable given) :
    engine.handleLightCommand lightId given = engine := by
  unfold Engine.handleLightCommand
  split
  next => rfl
  next =>
    cases engine.mappingOf lightId with
    | none => rfl
    | some mapping =>
      simp only []
      cases slot : mapping.commandSlot lightId given with
      | error error => rfl
      | ok slot' => exact absurd ((returns_commandSlot mapping lightId given).mp ⟨_, slot⟩) strange

theorem commandLight_replied (paired : s.checkUsername info ≠ none) (given : Json) :
    (s.commandLight info given).reply.isSome ↔ IsObject given ∧ LightAccepts s (parameter info "light_id") given := by
  unfold HueApiServer.commandLight LightAccepts
  generalize parameter info "light_id" = lightId
  cases wired : s.onLightCommand with
  | false =>
    simp only [Bool.false_eq_true, if_false]
    rw [answer_replied, returns_stateResponse]
    simp
  | true =>
    simp only [if_true]
    rw [Option.isSome_map]
    have replied : ∀ response : Except PyError Response, response.toOption.isSome ↔ Returns response := by
      intro response
      cases response <;> simp [Except.toOption]
    rw [replied]
    unfold HueApi.handleV1LightState
    rw [if_pos (paired_of_checkUsername paired)]
    simp only []
    cases digits : isdigit lightId with
    | false =>
      simp only [Bool.false_eq_true, if_false]
      rw [returns_stateResponse]
      simp
    | true =>
      have decimal : (∃ light, intOfString lightId = .ok light) ↔ Decimal lightId := intOfString_isdigit digits
      simp only [if_true]
      cases read : intOfString lightId with
      | error error =>
        rw [read] at decimal
        refine iff_of_false (not_returns_error _) (fun both => ?_)
        obtain ⟨light, same⟩ := decimal.mpr (both.2 trivial trivial).1
        cases same
      | ok light =>
        have number : Decimal lightId := decimal.mp ⟨light, read⟩
        have quiet := commandError_none s.bridge.engine light.toNat given
        simp only []
        cases raised : commandError s.bridge.engine light.toNat given with
        | some error =>
          rw [raised] at quiet
          refine iff_of_false (not_returns_error _) (fun both => ?_)
          have none := quiet.mpr (fun mapping found awake => (both.2 trivial trivial).2 light mapping rfl found awake)
          cases none
        | none =>
          rw [returns_stateResponse]
          refine (and_iff_left (fun _ _ => ⟨number, ?_⟩)).symm
          intro light' mapping same found awake
          cases same
          exact quiet.mp raised mapping found awake

theorem commandLight_kept {given : Json} (strange : ¬Understands .handleV1LightState given) :
    Kept s (s.commandLight info given).server := by
  have untranslated : ¬Translatable given := fun reads => strange ⟨reads.object, reads⟩
  unfold HueApiServer.commandLight
  split
  next =>
    refine ⟨rfl, rfl, rfl, ?_⟩
    change (HueApi.handleV1LightState _ _ _ _ (some given)).1 = _
    unfold HueApi.handleV1LightState
    split
    next =>
      simp only []
      split
      next =>
        split
        next => rfl
        next =>
          split
          next => rfl
          next => exact handleLightCommand_raised _ _ untranslated
      next => rfl
    next => rfl
  next => exact .refl s

/-- The handler of a client that pairs, once its request is over in the server that has read the body. -/
theorem createUser_over {readings : Readings} {read : Server} {response : Option Response}
    (handled : s.arrived.handleCreateUser s.pairing.nextRequest body readings.uuid4Hex readings.tokenHex = read)
    (ended : read.requests s.pairing.nextRequest = some .done)
    (replied : read.responses.lookup s.pairing.nextRequest = some response) :
    s.handleCreateUser body readings = { server := { s with pairing := read }, reply := response.map .json } := by
  have saved : HueApiServer.afterSave read s.pairing.nextRequest readings.save = read := by
    unfold HueApiServer.afterSave
    rw [ended]
  unfold HueApiServer.handleCreateUser
  simp only [handled, saved]
  rw [replied]
  rfl

/-- The handler of a new user replies once the store has saved the user. -/
theorem createUser_saved {readings : Readings} {read : Server} {credentials : Credentials} {snapshot : Save}
    (handled : s.arrived.handleCreateUser s.pairing.nextRequest body readings.uuid4Hex readings.tokenHex = read)
    (saving : read.requests s.pairing.nextRequest = some (.saving credentials snapshot)) :
    (s.handleCreateUser body readings).reply.isSome ↔ readings.save ≠ .raised := by
  have saved : HueApiServer.afterSave read s.pairing.nextRequest readings.save =
      read.saved s.pairing.nextRequest credentials snapshot readings.save := by
    unfold HueApiServer.afterSave
    rw [saving]
  unfold HueApiServer.handleCreateUser
  simp only [handled, saved, Option.isSome_map]
  cases readings.save with
  | persisted => exact iff_of_true (by simp [Server.saved, Server.succeed, Server.finish]) nofun
  | raised => exact iff_of_false (by simp [Server.saved, Server.finish]) (fun other => other rfl)

theorem createUser_finish {readings : Readings} {response : Option Response}
    (handled : s.arrived.handleCreateUser s.pairing.nextRequest body readings.uuid4Hex readings.tokenHex =
      s.arrived.finish s.pairing.nextRequest response) {replied : Prop} (given : response.isSome ↔ replied) :
    ((s.handleCreateUser body readings).reply.isSome ↔ replied) ∧
      Kept s (s.handleCreateUser body readings).server := by
  have ended := createUser_over handled (Function.update_self ..) List.lookup_cons_self
  rw [ended, ← given, Option.isSome_map]
  exact ⟨Iff.rfl, rfl, rfl, rfl, rfl⟩

/-- Without an object there is nobody to pair. -/
theorem createUser_refused (readings : Readings) (strange : ¬Understood .handleCreateUser body) :
    ((s.handleCreateUser body readings).reply.isSome ↔ safeJson body = .ok none) ∧
      Kept s (s.handleCreateUser body readings).server := by
  cases body with
  | error error => cases error <;> exact createUser_finish rfl (by simp [safeJson])
  | ok given => cases given with
    | null => exact createUser_finish rfl (by simp [safeJson])
    | object fields => exact absurd ⟨_, rfl, ⟨fields, rfl⟩, trivial⟩ strange
    | _ => exact createUser_finish rfl (by simp [safeJson])

/-- The handler of an object finds the button not pressed, the client known, or a new user. -/
theorem handleCreateUser_cases (server : Server) (request : RequestId) (fields : List (String × Json))
    (uuid4Hex tokenHex : String) :
    let handled := server.handleCreateUser request (.ok (.object fields)) uuid4Hex tokenHex
    let existing := getByDevicetype server.users ((field (.object fields) "devicetype").getD (.str "unknown"))
    (server.linkButtonActive = false ∧ handled = server.finish request (some linkButtonResponse)) ∨
      (server.linkButtonActive = true ∧ ∃ credentials,
        (existing.isSome = true ∧ handled = (passing server request).succeed request credentials) ∨
          (existing = none ∧ handled = (passing server request).addUser request credentials)) := by
  unfold Server.handleCreateUser
  simp only [safeJson]
  change _ ∨ (_ ∧ ∃ credentials, ((getByDevicetype server.users (deviceType fields)).isSome = true ∧ _) ∨
    (getByDevicetype server.users (deviceType fields) = none ∧ _))
  cases pressed : server.linkButtonActive with
  | false => exact .inl ⟨rfl, if_neg (by simp)⟩
  | true =>
    refine .inr ⟨rfl, ?_⟩
    simp only [if_true]
    cases known : getByDevicetype server.users (deviceType fields) with
    | some known => exact ⟨_, .inl ⟨rfl, rfl⟩⟩
    | none => exact ⟨_, .inr ⟨rfl, rfl⟩⟩

/-- A client that pairs is replied to unless its save raises. -/
theorem createUser_replied (readings : Readings) (fields : List (String × Json)) :
    (s.handleCreateUser (.ok (.object fields)) readings).reply.isSome ↔
      ¬(SavesUser s (.object fields) ∧ readings.save = .raised) := by
  -- every case but that of a new user who is saved is over at once
  have atOnce : ∀ {read : Server} {response : Response},
      s.arrived.handleCreateUser s.pairing.nextRequest (.ok (.object fields)) readings.uuid4Hex readings.tokenHex =
        read → read.requests s.pairing.nextRequest = some .done →
      read.responses.lookup s.pairing.nextRequest = some (some response) →
      (s.handleCreateUser (.ok (.object fields)) readings).reply.isSome := by
    intro read response handled ended replied
    rw [createUser_over handled ended replied]
    rfl
  obtain ⟨inactive, handled⟩ | ⟨active, credentials, ⟨known, handled⟩ | ⟨unknown, handled⟩⟩ :=
    handleCreateUser_cases s.arrived s.pairing.nextRequest fields readings.uuid4Hex readings.tokenHex
  · refine iff_of_true (atOnce handled (Function.update_self ..) List.lookup_cons_self) ?_
    intro ⟨⟨_, pressed, _⟩, _⟩
    rw [show s.arrived.linkButtonActive = s.pairing.linkButtonActive from rfl, pressed] at inactive
    cases inactive
  · refine iff_of_true (atOnce handled (Function.update_self ..) List.lookup_cons_self) ?_
    intro ⟨⟨_, _, unknown⟩, _⟩
    rw [show s.arrived.users = s.users from rfl, unknown] at known
    cases known
  · obtain ⟨persistent, added⟩ | ⟨transient, added⟩ :=
      addUser_cases (passing s.arrived s.pairing.nextRequest) s.pairing.nextRequest credentials
    · rw [added] at handled
      rw [createUser_saved handled (Function.update_self ..)]
      have saves : SavesUser s (.object fields) := ⟨persistent, active, unknown⟩
      simp [saves]
    · rw [added] at handled
      refine iff_of_true (atOnce handled (Function.update_self ..) List.lookup_cons_self) ?_
      intro ⟨⟨persistent, _⟩, _⟩
      rw [show (passing s.arrived s.pairing.nextRequest).persistent = s.pairing.persistent from rfl, persistent]
        at transient
      cases transient

/-- The condition on the request of a handler that checks the username. -/
theorem answerable_guarded {handler : Handler} (guarded : handler ≠ .handleCreateUser) (readings : Readings) :
    Answerable s handler info body readings ↔ (s.checkUsername info ≠ none →
      ∃ read, safeJson body = .ok read ∧
        ∀ given, read = some given → IsObject given ∧ Accepts s handler info given readings) := by
  unfold Answerable
  rw [or_iff_right guarded]

theorem createUser_exact (readings : Readings) : (s.handleCreateUser body readings).reply.isSome ↔
    Answerable s .handleCreateUser info body readings := by
  by_cases understood : Understood .handleCreateUser body
  · obtain ⟨given, read, ⟨fields, rfl⟩, _⟩ := understood
    obtain rfl : body = .ok (.object fields) := by
      unfold safeJson at read
      split at read
      next => cases read
      next =>
        cases read
        rfl
      next => cases read
      next => cases read
    rw [createUser_replied]
    constructor
    · intro saved _
      refine ⟨_, rfl, fun given' same => ?_⟩
      cases same
      exact ⟨⟨fields, rfl⟩, saved⟩
    · intro answerable
      obtain ⟨read, found, each⟩ := answerable (.inl rfl)
      cases found
      exact (each _ rfl).2
  · rw [(createUser_refused readings understood).1]
    constructor
    · intro unread _
      exact ⟨none, unread, nofun⟩
    · intro answerable
      obtain ⟨read, found, each⟩ := answerable (.inl rfl)
      cases read with
      | none => exact found
      | some given => exact absurd ⟨given, found, (each given rfl).1, trivial⟩ understood

/-- A handler that reads the body replies to exactly the requests that can be answered. -/
theorem handle_replied (uuid5Hex : String → String) {handler : Handler} (reads : readsBody handler = true)
    (readings : Readings) : (s.handle uuid5Hex handler info body readings).reply.isSome ↔
      Answerable s handler info body readings := by
  cases handler with
  | handleCreateUser => exact createUser_exact readings
  | handleV1LightState =>
    rw [answerable_guarded (by decide)]
    exact guarded_replied commandLight_replied
  | handleV1GroupPut =>
    rw [answerable_guarded (by decide)]
    exact guarded_replied (fun _ given => (updateGroup_lands given).replied)
  | handleV1Stream =>
    rw [answerable_guarded (by decide)]
    exact guarded_replied (fun _ given => (updateStream_lands given).replied)
  | handleV1PutCatchall =>
    rw [answerable_guarded (by decide)]
    exact guarded_replied (fun _ given => (echoResource_lands given).replied)
  | _ => cases reads

/-- A body that the endpoint does not understand changes nothing, replied to or not. -/
theorem handle_kept (uuid5Hex : String → String) {handler : Handler} (reads : readsBody handler = true)
    (readings : Readings) (strange : ¬Understood handler body) :
    Kept s (s.handle uuid5Hex handler info body readings).server := by
  have unread : ∀ given, safeJson body = .ok (some given) → ¬Understands handler given :=
    fun given read understands => strange ⟨given, read, understands⟩
  cases handler with
  | handleCreateUser => exact (createUser_refused readings strange).2
  | handleV1LightState => exact guarded_kept (fun given read => commandLight_kept (unread given read))
  | handleV1GroupPut => exact guarded_kept (fun given read => (updateGroup_lands given).kept (unread given read))
  | handleV1Stream => exact guarded_kept (fun given read => (updateStream_lands given).kept (unread given read))
  | handleV1PutCatchall => exact guarded_kept (fun given read => (echoResource_lands given).kept (unread given read))
  | _ => cases reads

end

/-- The server of an entry with one light and one paired TV. -/
def tvServer : HueApiServer := oneLightServer [("tv", ⟨"aa", .str "tv#living"⟩)]

end HueEntertainment.Replies
