import HueEntertainment.HueApi
import HueEntertainment.Runs
import HueEntertainment.TaskTable
import HueEntertainment.UserStore

/-! POST /api from the arrival of a request to its response. A handler is suspended while it reads the body and
while the store saves, so the interleavings of any number of requests with the saves, the link button and the
clock are lists of events. -/

namespace HueEntertainment.Pairing
open HueEntertainment.Const PyValue LightCommand HueApi UserStore TaskTable Runs

abbrev RequestId := Nat

/-- A snapshot given to the store; saves are numbered in the order in which they begin. -/
structure Save where
  number : Nat
  users : Users

inductive SaveOutcome where
  | persisted
  | raised
  deriving DecidableEq

/-- What a success response is made of; the client key is shown to a client that asked for one. -/
structure Credentials where
  username : String
  clientkey : String
  devicetype : Json
  shown : Bool

inductive Request where
  | reading
  | saving (credentials : Credentials) (save : Save)
  | done

/-- The users and the link button of the API server and its requests. Of the last four fields, all ghost, the
first is the responses, `none` for a handler that raised; then the credentials that were confirmed, those whose
save failed, and the requests that found the link button pressed, with the time. All have the newest first. -/
structure Server where
  users : Users
  persistent : Bool
  persisted : Save
  nextSave : Nat := 1
  linkButtonExpires : ℚ := 0
  now : ℚ
  requests : RequestId → Option Request := fun _ => none
  nextRequest : RequestId := 0
  responses : List (RequestId × Option Response) := []
  confirmed : List (RequestId × Credentials) := []
  failed : List Credentials := []
  passed : List (RequestId × ℚ) := []

/-- The truth value of a JSON value. -/
def truthy : Json → Bool
  | .null => false
  | .bool value => value
  | .int value => value ≠ 0
  | .float (.finite value) => value ≠ 0
  | .float _ => true
  | .str value => value ≠ ""
  | .array items => !items.isEmpty
  | .object fields => !fields.isEmpty

/-- `body.get("devicetype", "unknown")`. -/
def deviceType (fields : List (String × Json)) : Json := (field (.object fields) "devicetype").getD (.str "unknown")

/-- The truth value of `body.get("generateclientkey", False)`. -/
def generateClientkey (fields : List (String × Json)) : Bool :=
  truthy ((field (.object fields) "generateclientkey").getD (.bool false))

def linkButtonResponse : Response := { body := errorBody 101 "" "link button not pressed" }

def successResponse (credentials : Credentials) : Response :=
  let clientkey := if credentials.shown then [("clientkey", Json.str credentials.clientkey)] else []
  { body := .array [.object [("success", .object (("username", .str credentials.username) :: clientkey))]] }

namespace Server

def linkButtonActive (s : Server) : Bool := s.now < s.linkButtonExpires

def setLinkButton (s : Server) (active : Bool) : Server :=
  { s with linkButtonExpires := if active then s.now + linkButtonTimeout else 0 }

/-- The handler is over. -/
def finish (s : Server) (request : RequestId) (response : Option Response) : Server :=
  { s with
    requests := Function.update s.requests request (some .done)
    responses := (request, response) :: s.responses }

def succeed (s : Server) (request : RequestId) (credentials : Credentials) : Server :=
  { s.finish request (some (successResponse credentials)) with
    confirmed := (request, credentials) :: s.confirmed }

/-- `add`, then `async_save` up to its first suspension; without a Home Assistant store it has none. -/
def addUser (s : Server) (request : RequestId) (credentials : Credentials) : Server :=
  let users := add s.users credentials.username credentials.clientkey credentials.devicetype
  let s := { s with users := users }
  if s.persistent then
    { s with
      requests := Function.update s.requests request (some (.saving credentials ⟨s.nextSave, users⟩))
      nextSave := s.nextSave + 1 }
  else s.succeed request credentials

/-- `_handle_create_user` from the body of the request, with what `uuid4` and `token_hex` give it; `get` is a method
of an object only. -/
def handleCreateUser (s : Server) (request : RequestId) (body : Body) (uuid4Hex tokenHex : String) : Server :=
  match safeJson body with
  | .error _ => s.finish request none
  | .ok none => s.finish request (some invalidJsonResponse)
  | .ok (some (.object fields)) =>
      if s.linkButtonActive then
        let s := { s with passed := (request, s.now) :: s.passed }
        match getByDevicetype s.users (deviceType fields) with
        | some (username, clientkey) =>
            s.succeed request ⟨username, clientkey, deviceType fields, generateClientkey fields⟩
        | none => s.addUser request ⟨uuid4Hex, tokenHex, deviceType fields, generateClientkey fields⟩
      else s.finish request (some linkButtonResponse)
  | .ok (some _) => s.finish request none

/-- The store persisted the snapshot, unless it has persisted a later one, or the save raised. -/
def saved (s : Server) (request : RequestId) (credentials : Credentials) (save : Save) : SaveOutcome → Server
  | .persisted =>
      { s with persisted := if s.persisted.number ≤ save.number then save else s.persisted }.succeed request credentials
  | .raised => { s with failed := credentials :: s.failed }.finish request none

end Server

inductive Event where
  | arrive
  | read (request : RequestId) (body : Body) (uuid4Hex tokenHex : String)
  | saved (request : RequestId) (outcome : SaveOutcome)
  | setLinkButton (active : Bool)
  | tick (elapsed : ℚ)

def step (s : Server) : Event → Option Server
  | .arrive => some { s with
      requests := Function.update s.requests s.nextRequest (some .reading), nextRequest := s.nextRequest + 1 }
  | .read request body uuid4Hex tokenHex =>
      match s.requests request with
      | some .reading => some (s.handleCreateUser request body uuid4Hex tokenHex)
      | _ => none
  | .saved request outcome =>
      match s.requests request with
      | some (.saving credentials save) => some (s.saved request credentials save outcome)
      | _ => none
  | .setLinkButton active => some (s.setLinkButton active)
  | .tick elapsed => if 0 ≤ elapsed then some { s with now := s.now + elapsed } else none

/-- A server whose users are those that its store holds, if it has one. -/
def serverOf (users : Users) (persistent : Bool) (now : ℚ) : Server where
  users := users
  persistent := persistent
  persisted := ⟨0, users⟩
  now := now

/-- The server from its construction on. A dictionary has no key twice. -/
def machine : Machine Server Event where
  Start := fun s => ∃ users persistent now, (users.map Prod.fst).Nodup ∧ s = serverOf users persistent now
  step := step

/-- `uuid4` gives no username that was given before. -/
def FreshNames (s : Server) : Event → Prop
  | .read _ _ uuid4Hex _ => uuid4Hex ∉ s.users.map Prod.fst
  | _ => True

instance (s : Server) : (event : Event) → Decidable (FreshNames s event)
  | .read _ _ uuid4Hex _ => inferInstanceAs (Decidable (uuid4Hex ∉ s.users.map Prod.fst))
  | .arrive | .saved .. | .setLinkButton _ | .tick _ => .isTrue trivial

/-- A response that reports success. -/
def IsSuccess (response : Response) : Prop := ∃ result, response.body = .array [.object [("success", result)]]

theorem errorBody_isSuccess (kind : ℤ) (address description : String) (status : Nat) :
    ¬IsSuccess { status := status, body := errorBody kind address description } := by
  intro ⟨result, same⟩
  simp [errorBody] at same

/-- The credentials that a request with this body would be confirmed with and that are known already. -/
def existing (s : Server) : Body → Option Credentials
  | .ok (.object fields) =>
      if s.linkButtonActive then
        (getByDevicetype s.users (deviceType fields)).map (fun known =>
          ⟨known.1, known.2, deviceType fields, generateClientkey fields⟩)
      else none
  | _ => none

/-- The credentials are for a request with this body. -/
def Asks (credentials : Credentials) : Body → Prop
  | .ok (.object fields) =>
      credentials.devicetype = deviceType fields ∧ credentials.shown = generateClientkey fields
  | _ => False

theorem existing_cases {s : Server} {body : Body} {credentials : Credentials}
    (known : existing s body = some credentials) : ∃ fields, body = .ok (.object fields) ∧ s.linkButtonActive = true ∧
      getByDevicetype s.users (deviceType fields) = some (credentials.username, credentials.clientkey) ∧
      credentials.shown = generateClientkey fields ∧ credentials.devicetype = deviceType fields := by
  unfold existing at known
  split at known
  next fields =>
    split at known
    next active =>
      obtain ⟨found, here, rfl⟩ := Option.map_eq_some_iff.mp known
      exact ⟨fields, rfl, active, here, rfl, rfl⟩
    next => cases known
  next => cases known

theorem asks_existing {s : Server} {body : Body} {credentials : Credentials}
    (known : existing s body = some credentials) : Asks credentials body := by
  obtain ⟨fields, rfl, _, _, shown, devicetype⟩ := existing_cases known
  exact ⟨devicetype, shown⟩

/-- The server in which the request has found the link button pressed. -/
def passing (s : Server) (request : RequestId) : Server := { s with passed := (request, s.now) :: s.passed }

/-- `Move s event t`: the step of `event` in `s` leads to `t`. -/
inductive Move (s : Server) : Event → Server → Prop where
  | arrived : Move s .arrive { s with
      requests := Function.update s.requests s.nextRequest (some .reading), nextRequest := s.nextRequest + 1 }
  | refused {request : RequestId} {body : Body} {uuid4Hex tokenHex : String} {response : Option Response}
      (refusal : ∀ given, response = some given → ¬IsSuccess given) (reading : s.requests request = some .reading)
      (unmatched : existing s body = none) :
      Move s (.read request body uuid4Hex tokenHex) (s.finish request response)
  | known {request : RequestId} {body : Body} {uuid4Hex tokenHex : String} (credentials : Credentials)
      (reading : s.requests request = some .reading) (active : s.linkButtonActive = true)
      (known : existing s body = some credentials)
      (found : getByDevicetype s.users credentials.devicetype = some (credentials.username, credentials.clientkey)) :
      Move s (.read request body uuid4Hex tokenHex) ((passing s request).succeed request credentials)
  | added {request : RequestId} {body : Body} (credentials : Credentials)
      (reading : s.requests request = some .reading) (active : s.linkButtonActive = true)
      (unmatched : existing s body = none) (unknown : getByDevicetype s.users credentials.devicetype = none)
      (asks : Asks credentials body) :
      Move s (.read request body credentials.username credentials.clientkey)
        ((passing s request).addUser request credentials)
  | saved {request : RequestId} {credentials : Credentials} {save : Save} (outcome : SaveOutcome)
      (saving : s.requests request = some (.saving credentials save)) :
      Move s (.saved request outcome) (s.saved request credentials save outcome)
  | setLinkButton (active : Bool) : Move s (.setLinkButton active) (s.setLinkButton active)
  | tick {elapsed : ℚ} (forward : 0 ≤ elapsed) : Move s (.tick elapsed) { s with now := s.now + elapsed }

theorem handleCreateUser_move {s : Server} {request : RequestId} (reading : s.requests request = some .reading)
    (body : Body) (uuid4Hex tokenHex : String) :
    Move s (.read request body uuid4Hex tokenHex) (s.handleCreateUser request body uuid4Hex tokenHex) := by
  have errors : ∀ kind address description given,
      some ({ body := errorBody kind address description } : Response) = some given → ¬IsSuccess given := by
    intro kind address description given same
    cases same
    exact errorBody_isSuccess kind address description 200
  have raises : ∀ given, none = some given → ¬IsSuccess given := nofun
  cases body with
  | error error => cases error with
    | valueError => exact .refused (errors _ _ _) reading rfl
    | _ => exact .refused raises reading rfl
  | ok given => cases given with
    | null => exact .refused (errors _ _ _) reading rfl
    | object fields =>
      unfold Server.handleCreateUser
      simp only [safeJson]
      have known : existing s (.ok (.object fields)) = if s.linkButtonActive then
          (getByDevicetype s.users (deviceType fields)).map (fun known =>
            ⟨known.1, known.2, deviceType fields, generateClientkey fields⟩)
          else none := rfl
      by_cases active : s.linkButtonActive = true
      · rw [if_pos active] at known ⊢
        cases found : getByDevicetype s.users (deviceType fields) with
        | some existing =>
          rw [found] at known
          exact .known ⟨existing.1, existing.2, deviceType fields, generateClientkey fields⟩ reading active known found
        | none =>
          rw [found] at known
          exact .added ⟨uuid4Hex, tokenHex, deviceType fields, generateClientkey fields⟩ reading active known found
            ⟨rfl, rfl⟩
      · rw [if_neg active] at known ⊢
        exact .refused (errors _ _ _) reading known
    | _ => exact .refused raises reading rfl

theorem step_move {s t : Server} {event : Event} (stepped : machine.step s event = some t) : Move s event t := by
  change step s event = some t at stepped
  unfold step at stepped
  split at stepped
  next =>
    cases stepped
    exact .arrived
  next request body uuid4Hex tokenHex =>
    split at stepped
    next reading =>
      cases stepped
      exact handleCreateUser_move reading body uuid4Hex tokenHex
    next => cases stepped
  next request outcome =>
    split at stepped
    next credentials save saving =>
      cases stepped
      exact .saved outcome saving
    next => cases stepped
  next active =>
    cases stepped
    exact .setLinkButton active
  next elapsed =>
    split at stepped
    next forward =>
      cases stepped
      exact .tick forward
    next => cases stepped

/-- No two users have equal device types. -/
def OnePerDevice (users : Users) : Prop :=
  ∀ first ∈ users, ∀ second ∈ users, pyEq first.2.devicetype second.2.devicetype = true → first = second

/-- The user of the credentials, whose device type may be spelled in another way. -/
def Holds (users : Users) (credentials : Credentials) : Prop :=
  ∃ devicetype, (credentials.username, ⟨credentials.clientkey, devicetype⟩) ∈ users ∧
    (devicetype = credentials.devicetype ∨ pyEq devicetype credentials.devicetype = true)

theorem Holds.mono {users later : Users} {credentials : Credentials} (holds : Holds users credentials)
    (grown : users <+: later) : Holds later credentials := by
  obtain ⟨devicetype, member, same⟩ := holds
  exact ⟨devicetype, grown.subset member, same⟩

theorem getPsk_of_holds {users : Users} {credentials : Credentials} (distinct : (users.map Prod.fst).Nodup)
    (holds : Holds users credentials) : getPsk users credentials.username = some credentials.clientkey := by
  obtain ⟨devicetype, member, _⟩ := holds
  exact getPsk_of_mem distinct member

/-- What is known of the users of a server and of the credentials it has given out. -/
structure Sound (s : Server) : Prop where
  distinct : (s.users.map Prod.fst).Nodup
  saving : ∀ request credentials save, s.requests request = some (.saving credentials save) → Holds s.users credentials
  confirmed : ∀ request credentials, (request, credentials) ∈ s.confirmed → Holds s.users credentials

theorem Sound.of_users {s t : Server} (sound : Sound s) (users : t.users = s.users)
    (saving : ∀ request credentials save, t.requests request = some (.saving credentials save) →
      s.requests request = some (.saving credentials save))
    (confirmed : ∀ request credentials, (request, credentials) ∈ t.confirmed →
      (request, credentials) ∈ s.confirmed ∨ Holds s.users credentials) : Sound t where
  distinct := users ▸ sound.distinct
  saving := by
    intro request credentials save found
    rw [users]
    exact sound.saving request credentials save (saving request credentials save found)
  confirmed := by
    intro request credentials member
    rw [users]
    rcases confirmed request credentials member with before | holds
    · exact sound.confirmed request credentials before
    · exact holds

/-- A finished request saves nothing. -/
theorem finish_saving {requests : RequestId → Option Request} {request other : RequestId} {credentials : Credentials}
    {save : Save} (found : Function.update requests request (some .done) other = some (.saving credentials save)) :
    requests other = some (.saving credentials save) := by
  rcases update_eq_some found with ⟨_, new⟩ | ⟨_, before⟩
  · cases new
  · exact before

theorem Sound.succeed {s t : Server} (sound : Sound s) (users : t.users = s.users)
    (requests : t.requests = s.requests) (confirmed : t.confirmed = s.confirmed) {credentials : Credentials}
    (holds : Holds s.users credentials) (request : RequestId) : Sound (t.succeed request credentials) := by
  refine sound.of_users users ?_ ?_
  · intro other credentials save found
    exact requests ▸ finish_saving found
  · intro other credentials' member
    rcases List.mem_cons.mp member with same | before
    · cases same
      exact .inr holds
    · exact .inl (confirmed ▸ before)

/-- The server with the user of the credentials. -/
def withUser (s : Server) (credentials : Credentials) : Server :=
  { s with users := add s.users credentials.username credentials.clientkey credentials.devicetype }

theorem addUser_cases (s : Server) (request : RequestId) (credentials : Credentials) :
    (s.persistent = true ∧ s.addUser request credentials = { withUser s credentials with
      requests := Function.update s.requests request
        (some (.saving credentials ⟨s.nextSave, (withUser s credentials).users⟩))
      nextSave := s.nextSave + 1 }) ∨
    (s.persistent = false ∧ s.addUser request credentials = (withUser s credentials).succeed request credentials) := by
  cases persistent : s.persistent with
  | true => exact .inl ⟨rfl, if_pos persistent⟩
  | false => exact .inr ⟨rfl, if_neg (by simp [persistent])⟩

theorem withUser_users {s : Server} {credentials : Credentials} (fresh : credentials.username ∉ s.users.map Prod.fst) :
    (withUser s credentials).users =
      s.users ++ [(credentials.username, ⟨credentials.clientkey, credentials.devicetype⟩)] :=
  add_new (lookup_eq_none_of_notMem fresh)

theorem holds_added {s : Server} {credentials : Credentials} (fresh : credentials.username ∉ s.users.map Prod.fst) :
    Holds (withUser s credentials).users credentials := by
  rw [withUser_users fresh]
  exact ⟨credentials.devicetype, List.mem_append_right _ (List.mem_singleton_self _), .inl rfl⟩

/-- A step leaves the users as they are or adds the user of credentials for a device type that none has. -/
theorem users_step {s t : Server} {event : Event} (fresh : FreshNames s event) (move : Move s event t) :
    t.users = s.users ∨ ∃ credentials, credentials.username ∉ s.users.map Prod.fst ∧
      getByDevicetype s.users credentials.devicetype = none ∧ t.users = (withUser s credentials).users := by
  cases move with
  | @added request body credentials reading active unmatched unknown asks =>
    refine .inr ⟨credentials, fresh, unknown, ?_⟩
    rcases addUser_cases (passing s request) request credentials with ⟨_, same⟩ | ⟨_, same⟩
    · rw [same]
      rfl
    · rw [same]
      rfl
  | saved outcome saving => cases outcome <;> exact .inl rfl
  | arrived => exact .inl rfl
  | refused refusal reading unmatched => exact .inl rfl
  | known credentials reading active known found => exact .inl rfl
  | setLinkButton active => exact .inl rfl
  | tick forward => exact .inl rfl

theorem users_extend {s t : Server} {event : Event} (fresh : FreshNames s event) (move : Move s event t) :
    s.users <+: t.users := by
  rcases users_step fresh move with same | ⟨credentials, unknown, _, added⟩
  · rw [same]
  · rw [added, withUser_users unknown]
    exact List.prefix_append _ _

theorem users_grow {s t : Server} {events : List Event} (run : Run machine FreshNames s events t) :
    s.users <+: t.users :=
  run.invariant (fun x => s.users <+: x.users)
    (fun _ _ _ grown fresh stepped => grown.trans (users_extend fresh (step_move stepped))) List.prefix_rfl

theorem OnePerDevice.add {s : Server} {credentials : Credentials} (one : OnePerDevice s.users)
    (fresh : credentials.username ∉ s.users.map Prod.fst)
    (unknown : getByDevicetype s.users credentials.devicetype = none) :
    OnePerDevice (withUser s credentials).users := by
  have different := getByDevicetype_none unknown
  rw [withUser_users fresh]
  intro first member second member' equal
  rcases List.mem_append.mp member with old | new
  · rcases List.mem_append.mp member' with old' | new'
    · exact one first old second old' equal
    · cases List.mem_singleton.mp new'
      rw [different first old] at equal
      cases equal
  · cases List.mem_singleton.mp new
    rcases List.mem_append.mp member' with old' | new'
    · have flipped := pyEq_symm equal
      rw [different second old'] at flipped
      cases flipped
    · exact (List.mem_singleton.mp new').symm

theorem onePerDevice_run {s t : Server} {events : List Event} (one : OnePerDevice s.users)
    (run : Run machine FreshNames s events t) : OnePerDevice t.users := by
  refine run.invariant (fun x => OnePerDevice x.users) ?_ one
  intro x event y held fresh stepped
  rcases users_step fresh (step_move stepped) with same | ⟨credentials, unknown, absent, added⟩
  · rw [same]
    exact held
  · rw [added]
    exact held.add unknown absent

theorem Sound.withUser {s : Server} (sound : Sound s) (credentials : Credentials)
    (fresh : credentials.username ∉ s.users.map Prod.fst) : Sound (withUser s credentials) where
  distinct := by
    rw [withUser_users fresh, List.map_append, List.map_singleton]
    exact List.nodup_append.mpr ⟨sound.distinct, by simp, by
      intro name member other last same
      have named : name = credentials.username := same.trans (List.mem_singleton.mp last)
      exact fresh (named ▸ member)⟩
  saving := by
    intro request credentials' save found
    rw [withUser_users fresh]
    exact (sound.saving request credentials' save found).mono (List.prefix_append _ _)
  confirmed := by
    intro request credentials' member
    rw [withUser_users fresh]
    exact (sound.confirmed request credentials' member).mono (List.prefix_append _ _)

theorem Sound.step {s t : Server} {event : Event} (sound : Sound s) (fresh : FreshNames s event)
    (move : Move s event t) : Sound t := by
  cases move with
  | arrived =>
    refine sound.of_users rfl ?_ (fun _ _ member => .inl member)
    intro request credentials save found
    rcases update_eq_some found with ⟨_, new⟩ | ⟨_, before⟩
    · cases new
    · exact before
  | refused refusal reading unmatched =>
    exact sound.of_users rfl (fun _ _ _ found => finish_saving found) (fun _ _ member => .inl member)
  | @known request body uuid4Hex tokenHex credentials reading active known found =>
    obtain ⟨known, member, equal⟩ := getByDevicetype_mem found
    exact Sound.succeed (t := passing s request) sound rfl rfl rfl ⟨known, member, .inr equal⟩ request
  | @added request body credentials reading active unmatched unknown asks =>
    have next : Sound (passing s request) :=
      sound.of_users rfl (fun _ _ _ found => found) (fun _ _ member => .inl member)
    have added := next.withUser credentials fresh
    have holds : Holds (Pairing.withUser (passing s request) credentials).users credentials := holds_added fresh
    rcases addUser_cases (passing s request) request credentials with ⟨_, same⟩ | ⟨_, same⟩
    · rw [same]
      refine ⟨added.distinct, ?_, added.confirmed⟩
      intro other credentials' save found
      rcases update_eq_some found with ⟨_, new⟩ | ⟨_, before⟩
      · cases new
        exact holds
      · exact added.saving other credentials' save before
    · rw [same]
      exact added.succeed rfl rfl rfl holds request
  | @saved request credentials save outcome saving =>
    cases outcome with
    | persisted =>
      have holds := sound.saving request credentials save saving
      let next : Server := { s with persisted := if s.persisted.number ≤ save.number then save else s.persisted }
      exact Sound.succeed (t := next) sound rfl rfl rfl holds request
    | raised =>
      exact sound.of_users rfl (fun _ _ _ found => finish_saving found) (fun _ _ member => .inl member)
  | setLinkButton active => exact sound.of_users rfl (fun _ _ _ found => found) (fun _ _ member => .inl member)
  | tick forward => exact sound.of_users rfl (fun _ _ _ found => found) (fun _ _ member => .inl member)

theorem sound_start {s : Server} (start : machine.Start s) : Sound s := by
  obtain ⟨users, persistent, now, distinct, rfl⟩ := start
  refine ⟨distinct, ?_, ?_⟩
  · intro request credentials save found
    cases found
  · intro request credentials member
    cases member

theorem sound_run {s t : Server} {events : List Event} (sound : Sound s) (run : Run machine FreshNames s events t) :
    Sound t :=
  run.invariant Sound (fun _ _ _ held fresh stepped => held.step fresh (step_move stepped)) sound

/-- Credentials for equal device types are the same. -/
theorem Holds.agree {users : Users} (one : OnePerDevice users) {first second : Credentials} (left : Holds users first)
    (right : Holds users second) (equal : pyEq first.devicetype second.devicetype = true) :
    first.username = second.username ∧ first.clientkey = second.clientkey := by
  obtain ⟨known, member, same⟩ := left
  obtain ⟨known', member', same'⟩ := right
  have before : pyEq known second.devicetype = true := by
    rcases same with rfl | same
    · exact equal
    · exact pyEq_trans same equal
  have both : pyEq known known' = true := by
    rcases same' with rfl | same'
    · exact before
    · exact pyEq_trans before (pyEq_symm same')
  have entries := one _ member _ member' both
  simp only [Prod.mk.injEq, User.mk.injEq] at entries
  exact ⟨entries.1, entries.2.1⟩

/-- A step replaces the state of one request, which is not one that reads again, or creates one that reads. -/
theorem requests_step {s t : Server} {event : Event} (move : Move s event t) :
    (t.requests = s.requests ∧ t.nextRequest = s.nextRequest) ∨
    (t.requests = Function.update s.requests s.nextRequest (some .reading) ∧ t.nextRequest = s.nextRequest + 1) ∨
    ∃ request before after, s.requests request = some before ∧ after ≠ .reading ∧
      t.requests = Function.update s.requests request (some after) ∧ t.nextRequest = s.nextRequest := by
  cases move with
  | arrived => exact .inr (.inl ⟨rfl, rfl⟩)
  | refused refusal reading unmatched => exact .inr (.inr ⟨_, _, .done, reading, by simp, rfl, rfl⟩)
  | known given reading active known found => exact .inr (.inr ⟨_, _, .done, reading, by simp, rfl, rfl⟩)
  | @added read body given reading active unmatched unknown asks =>
    rcases addUser_cases (passing s read) read given with ⟨_, same⟩ | ⟨_, same⟩
    · rw [same]
      exact .inr (.inr ⟨_, _, .saving given _, reading, by simp, rfl, rfl⟩)
    · rw [same]
      exact .inr (.inr ⟨_, _, .done, reading, by simp, rfl, rfl⟩)
  | saved outcome saving => cases outcome <;> exact .inr (.inr ⟨_, _, .done, saving, by simp, rfl, rfl⟩)
  | setLinkButton active => exact .inl ⟨rfl, rfl⟩
  | tick forward => exact .inl ⟨rfl, rfl⟩

/-- The requests are those that have arrived. -/
theorem requests_fresh {ok : Server → Event → Prop} {s : Server} (reached : Reachable machine ok s) :
    Fresh s.requests s.nextRequest := by
  refine reached.invariant (fun x => Fresh x.requests x.nextRequest) ?_ ?_
  · rintro s ⟨users, persistent, now, _, rfl⟩ request _
    rfl
  · intro x event y fresh _ stepped
    rcases requests_step (step_move stepped) with ⟨same, next⟩ | ⟨same, next⟩ | ⟨other, before, after, found, _, same, next⟩
    · rw [same, next]
      exact fresh
    · rw [same, next]
      exact fresh.create _
    · rw [same, next]
      exact fresh.replace found _

/-- A request that saves goes on doing so until its save is over. -/
theorem saving_kept {s t : Server} {event : Event} (unused : Fresh s.requests s.nextRequest) (move : Move s event t)
    {request : RequestId} {credentials : Credentials} {save : Save}
    (saving : s.requests request = some (.saving credentials save)) :
    t.requests request = some (.saving credentials save) ∨ ∃ outcome, event = .saved request outcome := by
  have other : ∀ {read : RequestId} (found : Option Request), s.requests read = some .reading →
      Function.update s.requests read found request = some (.saving credentials save) := by
    intro read found reading
    rw [Function.update_of_ne, saving]
    rintro rfl
    rw [reading] at saving
    cases saving
  cases move with
  | arrived => exact .inl ((Function.update_of_ne (Nat.ne_of_lt (Fresh.lt unused saving)) _ _).trans saving)
  | refused refusal reading unmatched => exact .inl (other _ reading)
  | known given reading active known found => exact .inl (other _ reading)
  | @added read body given reading active unmatched unknown asks =>
    rcases addUser_cases (passing s read) read given with ⟨_, same⟩ | ⟨_, same⟩
    · rw [same]
      exact .inl (other _ reading)
    · rw [same]
      exact .inl (other _ reading)
  | @saved saver given save' outcome saving' =>
    by_cases here : request = saver
    · subst here
      exact .inr ⟨outcome, rfl⟩
    · cases outcome <;> exact .inl ((Function.update_of_ne here _ _).trans saving)
  | setLinkButton active => exact .inl saving
  | tick forward => exact .inl saving

theorem confirmed_kept {s t : Server} {event : Event} (move : Move s event t) {answer : RequestId × Credentials}
    (member : answer ∈ s.confirmed) : answer ∈ t.confirmed := by
  cases move with
  | known given reading active known found => exact List.mem_cons_of_mem _ member
  | @added read body given reading active unmatched unknown asks =>
    rcases addUser_cases (passing s read) read given with ⟨_, same⟩ | ⟨_, same⟩
    · rw [same]
      exact member
    · rw [same]
      exact List.mem_cons_of_mem _ member
  | saved outcome saving =>
    cases outcome with
    | persisted => exact List.mem_cons_of_mem _ member
    | raised => exact member
  | _ => exact member

/-- The request brings these credentials: it has been answered with them, or saves them. -/
def Brings (s : Server) (request : RequestId) (credentials : Credentials) : Prop :=
  (∃ save, s.requests request = some (.saving credentials save)) ∨ (request, credentials) ∈ s.confirmed

/-- What a step lets a request bring: what it brought before, credentials that are known, or those of a new user. -/
inductive Gains (s : Server) (event : Event) (t : Server) (request : RequestId) (credentials : Credentials) : Prop where
  | before (brings : Brings s request credentials) : Gains s event t request credentials
  | known {body : Body} {uuid4Hex tokenHex : String} (read : event = .read request body uuid4Hex tokenHex)
      (reading : s.requests request = some .reading) (known : existing s body = some credentials)
      (found : getByDevicetype s.users credentials.devicetype = some (credentials.username, credentials.clientkey))
      (passes : t.passed = (request, s.now) :: s.passed) : Gains s event t request credentials
  | added {body : Body} (read : event = .read request body credentials.username credentials.clientkey)
      (reading : s.requests request = some .reading) (asks : Asks credentials body)
      (users : t.users = (withUser s credentials).users) (passes : t.passed = (request, s.now) :: s.passed) :
      Gains s event t request credentials

theorem brings_finish {s t : Server} {request other : RequestId} {credentials : Credentials}
    (brings : Brings t other credentials) (requests : t.requests = Function.update s.requests request (some .done))
    (confirmed : t.confirmed = s.confirmed) : Brings s other credentials := by
  rcases brings with ⟨save, saving⟩ | member
  · rw [requests] at saving
    exact .inl ⟨save, finish_saving saving⟩
  · exact .inr (confirmed ▸ member)

theorem brings_succeed {s t : Server} {request other : RequestId} {credentials given : Credentials}
    (requests : t.requests = Function.update s.requests request (some .done))
    (confirmed : t.confirmed = (request, given) :: s.confirmed) (brings : Brings t other credentials) :
    Brings s other credentials ∨ (other = request ∧ credentials = given) := by
  rcases brings with ⟨save, saving⟩ | member
  · rw [requests] at saving
    exact .inl (.inl ⟨save, finish_saving saving⟩)
  · rw [confirmed] at member
    rcases List.mem_cons.mp member with same | before
    · exact .inr (Prod.mk.inj same)
    · exact .inl (.inr before)

theorem brings_step {s t : Server} {event : Event} (move : Move s event t) {request : RequestId}
    {credentials : Credentials} (brings : Brings t request credentials) :
    Gains s event t request credentials := by
  cases move with
  | arrived =>
    rcases brings with ⟨save, saving⟩ | member
    · rcases update_eq_some saving with ⟨_, new⟩ | ⟨_, before⟩
      · cases new
      · exact .before (.inl ⟨save, before⟩)
    · exact .before (.inr member)
  | refused refusal reading unmatched => exact .before (brings_finish brings rfl rfl)
  | known given reading active known found =>
    rcases brings_succeed rfl rfl brings with before | ⟨rfl, rfl⟩
    · exact .before before
    · exact .known rfl reading known found rfl
  | @added read body given reading active unmatched unknown asks =>
    rcases addUser_cases (passing s read) read given with ⟨_, same⟩ | ⟨_, same⟩
    · rw [same] at brings ⊢
      rcases brings with ⟨save, saving⟩ | member
      · rcases update_eq_some saving with ⟨rfl, new⟩ | ⟨_, before⟩
        · cases new
          exact .added rfl reading asks rfl rfl
        · exact .before (.inl ⟨save, before⟩)
      · exact .before (.inr member)
    · rw [same] at brings ⊢
      rcases brings_succeed (s := withUser (passing s read) given) rfl rfl brings with before | ⟨rfl, rfl⟩
      · exact .before before
      · exact .added rfl reading asks rfl rfl
  | @saved saver given save outcome saving =>
    cases outcome with
    | persisted =>
      let next : Server := { s with persisted := if s.persisted.number ≤ save.number then save else s.persisted }
      rcases brings_succeed (s := next) rfl rfl brings with before | ⟨rfl, rfl⟩
      · exact .before before
      · exact .before (.inl ⟨save, saving⟩)
    | raised => exact .before (brings_finish brings rfl rfl)
  | setLinkButton active => exact .before brings
  | tick forward => exact .before brings

theorem successResponse_isSuccess (credentials : Credentials) : IsSuccess (successResponse credentials) := ⟨_, rfl⟩

/-- The success responses are those that show the credentials that were confirmed. -/
structure Answered (s : Server) : Prop where
  shows : ∀ request response, (request, some response) ∈ s.responses → IsSuccess response →
    ∃ credentials, (request, credentials) ∈ s.confirmed ∧ response = successResponse credentials
  confirmed : ∀ request credentials, (request, credentials) ∈ s.confirmed →
    (request, some (successResponse credentials)) ∈ s.responses

theorem Answered.finish {s t : Server} (answered : Answered s) {request : RequestId} {response : Option Response}
    (refusal : ∀ given, response = some given → ¬IsSuccess given)
    (responses : t.responses = (request, response) :: s.responses) (confirmed : t.confirmed = s.confirmed) :
    Answered t := by
  constructor
  · intro other given member success
    rw [responses] at member
    rw [confirmed]
    rcases List.mem_cons.mp member with same | before
    · exact absurd success (refusal given (Prod.mk.inj same).2.symm)
    · exact answered.shows other given before success
  · intro other credentials member
    rw [responses]
    rw [confirmed] at member
    exact List.mem_cons_of_mem _ (answered.confirmed other credentials member)

theorem Answered.succeed {s t : Server} (answered : Answered s) {request : RequestId} {credentials : Credentials}
    (responses : t.responses = (request, some (successResponse credentials)) :: s.responses)
    (confirmed : t.confirmed = (request, credentials) :: s.confirmed) : Answered t := by
  constructor
  · intro other given member success
    rw [responses] at member
    rw [confirmed]
    rcases List.mem_cons.mp member with same | before
    · cases same
      exact ⟨credentials, List.mem_cons_self, rfl⟩
    · obtain ⟨credentials', known, shape⟩ := answered.shows other given before success
      exact ⟨credentials', List.mem_cons_of_mem _ known, shape⟩
  · intro other credentials' member
    rw [responses]
    rw [confirmed] at member
    rcases List.mem_cons.mp member with same | before
    · cases same
      exact List.mem_cons_self
    · exact List.mem_cons_of_mem _ (answered.confirmed other credentials' before)

theorem Answered.step {s t : Server} {event : Event} (answered : Answered s) (move : Move s event t) : Answered t := by
  cases move with
  | arrived => exact ⟨answered.shows, answered.confirmed⟩
  | refused refusal reading unmatched => exact answered.finish refusal rfl rfl
  | known credentials reading active known found => exact answered.succeed rfl rfl
  | @added request body credentials reading active unmatched unknown asks =>
    rcases addUser_cases (passing s request) request credentials with ⟨_, same⟩ | ⟨_, same⟩
    · rw [same]
      exact ⟨answered.shows, answered.confirmed⟩
    · rw [same]
      exact answered.succeed rfl rfl
  | saved outcome saving =>
    cases outcome with
    | persisted => exact answered.succeed rfl rfl
    | raised => exact answered.finish (fun _ raised => by cases raised) rfl rfl
  | setLinkButton active => exact ⟨answered.shows, answered.confirmed⟩
  | tick forward => exact ⟨answered.shows, answered.confirmed⟩

theorem answered_start {s : Server} (start : machine.Start s) : Answered s := by
  obtain ⟨users, persistent, now, distinct, rfl⟩ := start
  constructor
  · intro request response member
    cases member
  · intro request credentials member
    cases member

theorem answered_run {ok : Server → Event → Prop} {s t : Server} {events : List Event} (start : machine.Start s)
    (run : Run machine ok s events t) : Answered t :=
  run.invariant Answered (fun _ _ _ held _ stepped => held.step (step_move stepped)) (answered_start start)

/-- Credentials are brought by a request that was read with a body that asks for them. -/
theorem brings_asked {ok : Server → Event → Prop} {s t : Server} {events : List Event} (start : machine.Start s)
    (run : Run machine ok s events t) {request : RequestId} {credentials : Credentials}
    (brings : Brings t request credentials) :
    ∃ body uuid4Hex tokenHex, .read request body uuid4Hex tokenHex ∈ events ∧ Asks credentials body := by
  refine run.history (fun before mid => Brings mid request credentials → ∃ body uuid4Hex tokenHex,
    .read request body uuid4Hex tokenHex ∈ before ∧ Asks credentials body) ?_ ?_ brings
  · obtain ⟨users, persistent, now, distinct, rfl⟩ := start
    rintro (⟨save, saving⟩ | member)
    · cases saving
    · cases member
  · intro before mid event next _ asked _ stepped brings
    cases brings_step (step_move stepped) brings with
    | before brings =>
      obtain ⟨body, uuid4Hex, tokenHex, member, asks⟩ := asked brings
      exact ⟨body, uuid4Hex, tokenHex, List.mem_append_left _ member, asks⟩
    | known read reading known found passes =>
      exact ⟨_, _, _, List.mem_append_right _ (List.mem_singleton.mpr read.symm), asks_existing known⟩
    | added read reading asks users passes =>
      exact ⟨_, _, _, List.mem_append_right _ (List.mem_singleton.mpr read.symm), asks⟩

/-- A burst of requests is answered with one set of credentials for each device type, and these are good for the DTLS
server in every later state. What is confirmed is exactly what success responses show, and that for the device type, and
with the client key, that the body asked for. -/
theorem pairing_agrees {s t : Server} {events : List Event} (start : machine.Start s) (one : OnePerDevice s.users)
    (run : Run machine FreshNames s events t) :
    (∀ request response, (request, some response) ∈ t.responses ∧ IsSuccess response ↔
      ∃ credentials, (request, credentials) ∈ t.confirmed ∧
        response = { body := .array [.object [("success", .object (("username", .str credentials.username) ::
          if credentials.shown then [("clientkey", .str credentials.clientkey)] else []))]] }) ∧
    (∀ request credentials, (request, credentials) ∈ t.confirmed → ∃ body uuid4Hex tokenHex,
      .read request body uuid4Hex tokenHex ∈ events ∧ Asks credentials body) ∧
    (∀ request credentials request' credentials', (request, credentials) ∈ t.confirmed →
      (request', credentials') ∈ t.confirmed → pyEq credentials.devicetype credentials'.devicetype = true →
      credentials.username = credentials'.username ∧ credentials.clientkey = credentials'.clientkey) ∧
    OnePerDevice t.users ∧
    (∀ request credentials, (request, credentials) ∈ t.confirmed → ∀ later u, Run machine FreshNames t later u →
      getPsk u.users credentials.username = some credentials.clientkey ∧
      pskLookup u.users credentials.username = some (bytesFromHex credentials.clientkey.toList)) := by
  have sound := sound_run (sound_start start) run
  have single := onePerDevice_run one run
  have answered := answered_run start run
  refine ⟨?_, ?_, ?_, single, ?_⟩
  · intro request response
    constructor
    · intro ⟨member, success⟩
      exact answered.shows request response member success
    · rintro ⟨credentials, member, rfl⟩
      exact ⟨answered.confirmed request credentials member, successResponse_isSuccess credentials⟩
  · intro request credentials member
    exact brings_asked start run (.inr member)
  · intro request credentials request' credentials' member member' equal
    exact (sound.confirmed request credentials member).agree single (sound.confirmed request' credentials' member') equal
  · intro request credentials member later u onward
    have known := getPsk_of_prefix (users_grow onward) (getPsk_of_holds sound.distinct (sound.confirmed request credentials member))
    refine ⟨known, ?_⟩
    unfold pskLookup
    rw [known]
    rfl

/-- The body of a TV's request. -/
def tvBody : Json := .object [("devicetype", .str "tv#living"), ("generateclientkey", .bool true)]

/-- Two requests of one TV, the second of which is read while the first one's user is being saved. -/
def burst : List Event :=
  [.setLinkButton true, .arrive, .arrive, .read 1 (.ok tvBody) "first" "aa", .read 0 (.ok tvBody) "second" "bb",
   .saved 1 .persisted]

/-- Two responses were sent, the later request's first, and both name the same device. -/
def burstConfirmed (t : Server) : Bool :=
  match t.confirmed with
  | [(1, first), (0, second)] => pyEq first.devicetype second.devicetype
  | _ => false

theorem pairing_agrees_burst : ∃ t first second, Run machine FreshNames (serverOf [] true 0) burst t ∧
    (1, first) ∈ t.confirmed ∧ (0, second) ∈ t.confirmed ∧ first.username = second.username ∧
    first.clientkey = second.clientkey ∧ (1, some { body := .array [.object [("success", .object (
      ("username", .str first.username) :: if first.shown then [("clientkey", .str first.clientkey)] else []))]] }) ∈
        t.responses := by
  have played : (play machine FreshNames (serverOf [] true 0) burst).any burstConfirmed = true := by decide +kernel
  obtain ⟨t, toT, shape⟩ := (Option.any_eq_true _ _).mp played
  have run := run_of_play _ _ _ toT
  unfold burstConfirmed at shape
  split at shape
  next first second confirmed =>
    have here : (1, first) ∈ t.confirmed := by rw [confirmed]; exact List.mem_cons_self
    have there : (0, second) ∈ t.confirmed := by
      rw [confirmed]
      exact List.mem_cons_of_mem _ (List.mem_singleton_self _)
    have start : machine.Start (serverOf [] true 0) := ⟨[], true, 0, List.nodup_nil, rfl⟩
    obtain ⟨answers, _, agree, _⟩ := pairing_agrees start (fun _ member => by cases member) run
    obtain ⟨username, clientkey⟩ := agree _ _ _ _ here there shape
    exact ⟨t, first, second, run, here, there, username, clientkey, ((answers 1 _).mpr ⟨first, here, rfl⟩).1⟩
  next => cases shape

end HueEntertainment.Pairing
