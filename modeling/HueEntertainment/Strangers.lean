import HueEntertainment.ApiServer

/-! What the API server does for a client that is not paired, and what it lets the client see. -/

namespace HueEntertainment.Strangers
open PyValue HueApi UserStore Pairing ApiServer

/-- The path has no username segment, or one that is no username of the server. -/
def Stranger (s : HueApiServer) (info : MatchInfo) : Prop :=
  ∀ username, info.lookup "username" = some username → getPsk s.users username = none

/-- Two servers that differ in their user stores at most. -/
def SameButStore (s t : HueApiServer) : Prop :=
  t = { s with
    pairing := { s.pairing with
      users := t.pairing.users
      persistent := t.pairing.persistent
      persisted := t.pairing.persisted
      nextSave := t.pairing.nextSave } }

/-- The handlers whose routes have no username. -/
def isOpen : Handler → Bool
  | .handleDescriptionXml | .handleConfig | .handleCreateUser => true
  | _ => false

/-- Every route but those of the open handlers has a username segment. -/
theorem routes_named : ∀ route ∈ routes, isOpen route.handler = true ∨
    Segment.parameter "username" ∈ route.path := by decide

/-- Users are created on one route only. -/
theorem routes_create : ∀ route ∈ routes, route.handler = .handleCreateUser →
    route = ⟨.post, [.literal "api"], .handleCreateUser⟩ := by decide

/-- A path that matches has a text for every parameter. -/
theorem matchPath_lookup {pattern : List Segment} {path : List String} {info : MatchInfo}
    (matched : matchPath pattern path = some info) {name : String} (named : Segment.parameter name ∈ pattern) :
    (info.lookup name).isSome := by
  induction pattern generalizing path info with
  | nil => cases named
  | cons segment pattern ih =>
    cases path with
    | nil => cases segment <;> cases matched
    | cons text rest =>
      cases segment with
      | literal expected =>
        have later : Segment.parameter name ∈ pattern := by simpa using named
        unfold matchPath at matched
        split at matched
        next => exact ih matched later
        next => cases matched
      | parameter other =>
        obtain ⟨before, found, rfl⟩ := Option.map_eq_some_iff.mp matched
        rw [List.lookup_cons]
        by_cases same : name = other
        · simp [same]
        · have later : Segment.parameter name ∈ pattern := by simpa [same] using named
          simpa [beq_false_of_ne same] using ih found later

/-- The check of the username fails. -/
theorem Stranger.unchecked {s : HueApiServer} {info : MatchInfo} (stranger : Stranger s info)
    (named : (info.lookup "username").isSome) : s.checkUsername info = none := by
  obtain ⟨username, found⟩ := Option.isSome_iff_exists.mp named
  unfold HueApiServer.checkUsername HueApiServer.paired parameter
  rw [found, Option.getD_some, stranger username found]
  rfl

section
variable (uuid5Hex : String → String) {s : HueApiServer} {info : MatchInfo} (body : Body) (readings : Readings)

/-- Every handler that is not open checks the username before anything else. -/
theorem handle_unchecked {handler : Handler} (guarded : isOpen handler = false)
    (unchecked : s.checkUsername info = none) :
    s.handle uuid5Hex handler info body readings = s.answer (.ok unauthorizedResponse) := by
  have refused : ∀ handled, s.ifPaired info handled = s.answer (.ok unauthorizedResponse) :=
    fun handled => if_pos unchecked
  have unpaired : s.paired (parameter info "username") = false := by
    unfold HueApiServer.checkUsername at unchecked
    split at unchecked
    next => cases unchecked
    next unpaired => exact Bool.eq_false_iff.mpr unpaired
  cases handler with
  | handleDescriptionXml => cases guarded
  | handleConfig => cases guarded
  | handleCreateUser => cases guarded
  | handleV1LightById =>
    change s.answer (handleV1LightById uuid5Hex s.paired s.lightEntities _ _) = _
    unfold handleV1LightById
    rw [unpaired]
    rfl
  | handleV1GroupById =>
    change s.answer (handleV1GroupById s.paired s.lightEntities _ _ _ _) = _
    unfold handleV1GroupById
    rw [unpaired]
    rfl
  | _ => exact refused _

variable (s info) in
/-- The discovery requests change nothing. -/
theorem handle_open {handler : Handler} (opened : isOpen handler = true)
    (other : handler ≠ .handleCreateUser) :
    (s.handle uuid5Hex handler info body readings).server = s ∧
      (s.handle uuid5Hex handler info body readings).callbacks = [] := by
  cases handler with
  | handleDescriptionXml => exact ⟨rfl, rfl⟩
  | handleConfig => exact ⟨rfl, rfl⟩
  | handleCreateUser => exact absurd rfl other
  | _ => cases opened

/-- Without its whitelist the config tells nothing of the users. -/
theorem config_store {t : HueApiServer} (same : SameButStore s t) :
    (t.buildV1Config readings).filter (fun field => field.1 ≠ "whitelist") =
      (s.buildV1Config readings).filter (fun field => field.1 ≠ "whitelist") := by
  rw [same]
  simp [HueApiServer.buildV1Config, Server.linkButtonActive]

/-- The replies to discovery requests do not depend on the user store. -/
theorem handle_open_store {handler : Handler} (opened : isOpen handler = true)
    (other : handler ≠ .handleCreateUser) {t : HueApiServer} (same : SameButStore s t) :
    (t.handle uuid5Hex handler info body readings).reply = (s.handle uuid5Hex handler info body readings).reply := by
  cases handler with
  | handleDescriptionXml =>
    rw [same]
    rfl
  | handleConfig =>
    change (t.handleConfig readings).reply = (s.handleConfig readings).reply
    unfold HueApiServer.handleConfig
    rw [config_store readings same]
    rfl
  | handleCreateUser => exact absurd rfl other
  | _ => cases opened

end

/-- A client that is not paired changes nothing, calls nothing and gets a reply that does not depend on who is. -/
theorem stranger_learns_nothing (uuid5Hex : String → String) {route : Route} (routed : route ∈ routes)
    (other : route ≠ ⟨.post, [.literal "api"], .handleCreateUser⟩) {path : List String} {info : MatchInfo}
    (matched : matchPath route.path path = some info) (body : Body) (readings : Readings) {s : HueApiServer}
    (stranger : Stranger s info) :
    (s.handle uuid5Hex route.handler info body readings).server = s ∧
      (s.handle uuid5Hex route.handler info body readings).callbacks = [] ∧
      ∀ t, SameButStore s t → Stranger t info →
        (t.handle uuid5Hex route.handler info body readings).reply =
          (s.handle uuid5Hex route.handler info body readings).reply := by
  have pairing : route.handler ≠ .handleCreateUser := fun create => other (routes_create route routed create)
  cases guard : isOpen route.handler with
  | true =>
    obtain ⟨kept, silent⟩ := handle_open uuid5Hex s info body readings guard pairing
    exact ⟨kept, silent, fun t same _ => handle_open_store uuid5Hex body readings guard pairing same⟩
  | false =>
    have named : (info.lookup "username").isSome := by
      rcases routes_named route routed with opened | named
      · rw [guard] at opened
        cases opened
      · exact matchPath_lookup matched named
    rw [handle_unchecked uuid5Hex body readings guard (stranger.unchecked named)]
    refine ⟨rfl, rfl, fun t _ strange => ?_⟩
    rw [handle_unchecked uuid5Hex body readings guard (strange.unchecked named)]
    rfl

theorem stranger_learns_nothing_start :
    let s := oneLightServer [("tv", ⟨"aa", .str "tv#living"⟩)]
    let handled := s.handle id .handleV1GroupPut [("username", "guest"), ("group_id", "1")] (.ok startBody) newYear
    handled.server = s ∧ handled.callbacks = [] ∧
      ((oneLightServer []).handle id .handleV1GroupPut [("username", "guest"), ("group_id", "1")] (.ok startBody)
        newYear).reply = handled.reply := by
  have strange : ∀ users : Users, users.lookup "guest" = none →
      Stranger (oneLightServer users) [("username", "guest"), ("group_id", "1")] := by
    intro users absent username found
    obtain rfl := Option.some.inj found
    exact congrArg (Option.map User.clientkey) absent
  have routed : ⟨.put, ofUser [.literal "groups", .parameter "group_id"], .handleV1GroupPut⟩ ∈ routes := by decide
  have matched : matchPath (ofUser [.literal "groups", .parameter "group_id"]) ["api", "guest", "groups", "1"] =
      some [("username", "guest"), ("group_id", "1")] := by decide
  obtain ⟨kept, silent, same⟩ := stranger_learns_nothing id routed (by decide) matched (.ok startBody) newYear
    (strange [("tv", ⟨"aa", .str "tv#living"⟩)] (by decide))
  exact ⟨kept, silent, same _ rfl (strange [] rfl)⟩

end HueEntertainment.Strangers
