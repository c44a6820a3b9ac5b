import HueEntertainment.ApiSteps

/-! ha_http.py: the Hue API on Home Assistant's own HTTP server. Its views are registered once and forward to the API
server that is attached, which can be that of the config flow or that of the entry. -/

namespace HueEntertainment.HttpHost
open HueEntertainment.Const PyValue HueApi UserStore ApiServer ApiSteps TaskTable Wiring Runs

def proxyHeaders : List String :=
  ["X-Forwarded-For", "X-Forwarded-Host", "X-Forwarded-Proto", "X-Real-IP", "Forwarded"]

/-- A request as Home Assistant's server hands it over, with the names of its headers. -/
structure Request where
  method : Method
  path : List String
  headers : List String
  remote : Option String
  authenticated : Bool := false
  body : Body := .error .valueError

/-- `request.path`. -/
def Request.pathText (request : Request) : String := "/" ++ "/".intercalate request.path

/-- `header in request.headers`: the names of headers are compared without their case. -/
def Request.has (request : Request) (header : String) : Bool :=
  request.headers.any (fun name => name.toLower == header.toLower)

/-- What the views meet: `ip_address(text).is_global`, or none where it raises a ValueError; `uuid5`; whether Home
Assistant's router has a GET route for /api/config, and whether its `api` component is loaded. -/
structure Surroundings where
  isGlobal : String → Option Bool
  uuid5Hex : String → String
  configRoute : Bool
  apiLoaded : Bool

/-- `is_lan_request`. -/
def isLanRequest (env : Surroundings) (request : Request) : Bool :=
  if proxyHeaders.any request.has then false
  else match request.remote with
    | none => false
    | some remote => if remote = "" then false else (env.isGlobal remote).any (fun isGlobal => !isGlobal)

/-- `resolve_use_ha_http`. -/
def resolveUseHaHttp (mode : String) (serverPort : Nat) (certificate : Bool) : Bool :=
  if mode = httpModeHomeassistant then true
  else if mode = httpModeStandalone then false
  else decide (serverPort = 80) && !certificate

/-- What stands between two slashes of a view's path; `username` is `{username:[0-9a-f]{32}}`. -/
inductive HostedSegment where
  | literal (text : String)
  | parameter (name : String)
  | username
  deriving DecidableEq, Repr

/-- `path.replace("{username}", "{username:[0-9a-f]{32}}")`. -/
def hostedSegment : Segment → HostedSegment
  | .literal text => .literal text
  | .parameter name => if name = "username" then .username else .parameter name

/-- The texts that match `[0-9a-f]{32}`. -/
def isUsername (text : String) : Bool :=
  decide (text.toList.length = 32) &&
    text.toList.all (fun c => (decide ('0' ≤ c) && decide (c ≤ '9')) || (decide ('a' ≤ c) && decide (c ≤ 'f')))

/-- The path parameters with which a path matches that of a view. -/
def matchHosted : List HostedSegment → List String → Option MatchInfo
  | [], [] => some []
  | .literal expected :: path, text :: rest => if text = expected then matchHosted path rest else none
  | .parameter name :: path, text :: rest => (matchHosted path rest).map (fun info => (name, text) :: info)
  | .username :: path, text :: rest =>
      if isUsername text then (matchHosted path rest).map (fun info => ("username", text) :: info) else none
  | _, _ => none

/-- A `_HueView`. -/
structure View where
  method : Method
  path : List HostedSegment
  handler : Handler
  deriving DecidableEq, Repr

/-- `_HA_OWNED`. -/
def haOwned (route : Route) : Bool := route.method = .get && route.path = [.literal "api", .literal "config"]

def viewOf (route : Route) : View := ⟨route.method, route.path.map hostedSegment, route.handler⟩

/-- The views of the routes that Home Assistant does not own. -/
def hueViews : List View := (routes.filter (fun route => !haOwned route)).map viewOf

/-- The view that is registered where Home Assistant has no /api/config. -/
def configView : View := ⟨.get, [.literal "api", .literal "config"], .handleConfig⟩

abbrev ServerId := Nat

/-- `HueHttpHost`, with the views that it has registered and whether it has shimmed Home Assistant's /api/config. -/
structure HueHttpHost where
  target : Option ServerId := none
  registered : Bool := false
  views : List View := []
  shimmed : Bool := false

namespace HueHttpHost

/-- `_register_views`. -/
def registerViews (host : HueHttpHost) (env : Surroundings) : HueHttpHost :=
  let host := { host with views := host.views ++ hueViews }
  if env.configRoute then { host with shimmed := true }
  else if env.apiLoaded then host
  else { host with views := host.views ++ [configView] }

def attach (host : HueHttpHost) (env : Surroundings) (server : ServerId) : HueHttpHost :=
  let host := if host.registered then host else { host.registerViews env with registered := true }
  { host with target := some server }

def detach (host : HueHttpHost) (server : ServerId) : HueHttpHost :=
  { host with target := if host.target = some server then none else host.target }

end HueHttpHost

/-- What a client gets: a reply of the Hue API, `none` of a handler that raised, or Home Assistant's own. -/
inductive Answer where
  | hue (reply : Option Reply)
  | notFound
  | homeAssistant

def bridgeNotRunning (path : String) : Response := { status := 503, body := errorBody 901 path "bridge not running" }

/-- The host and the API servers that there are, or were. -/
structure Hosting where
  host : HueHttpHost := {}
  servers : ServerId → Option HueApiServer := fun _ => none
  nextServer : ServerId := 0

namespace Hosting

/-- `target.handle`. -/
def forward (s : Hosting) (env : Surroundings) (id : ServerId) (server : HueApiServer) (handler : Handler)
    (info : MatchInfo) (request : Request) (readings : Readings) : Hosting × Answer :=
  let handled := server.handle env.uuid5Hex handler info request.body readings
  ({ s with servers := Function.update s.servers id (some handled.server) }, .hue handled.reply)

/-- The server that is attached. -/
def attached (s : Hosting) : Option (ServerId × HueApiServer) :=
  s.host.target.bind (fun id => (s.servers id).map (fun server => (id, server)))

/-- `dispatch`. -/
def dispatch (s : Hosting) (env : Surroundings) (handler : Handler) (info : MatchInfo) (request : Request)
    (readings : Readings) : Hosting × Answer :=
  if isLanRequest env request then
    match s.attached with
    | none => (s, .hue (some (.json (bridgeNotRunning request.pathText))))
    | some (id, server) => s.forward env id server handler info request readings
  else (s, .notFound)

/-- The shim of GET /api/config. -/
def shim (s : Hosting) (env : Surroundings) (request : Request) (readings : Readings) : Hosting × Answer :=
  match s.attached with
  | none => (s, .homeAssistant)
  | some (id, server) =>
      if request.authenticated || !isLanRequest env request then (s, .homeAssistant)
      else s.forward env id server .handleConfig [] request readings

end Hosting

/-- A request has come to a view that matches it, or to the shim; the rest is what happens to the servers. -/
inductive Event where
  | create (server : HueApiServer)
  | start (server : ServerId)
  | stop (server : ServerId)
  | request (view : View) (request : Request) (readings : Readings)
  | config (request : Request) (readings : Readings)
  | bridge (server : ServerId) (event : BridgeEvent)
  | pairing (server : ServerId) (event : Pairing.Event)

section
variable (env : Surroundings)

/-- Where a request leads and what its client gets. -/
def serve (s : Hosting) : Event → Option (Hosting × Answer)
  | .request view request readings =>
      if view ∈ s.host.views ∧ view.method = request.method then
        (matchHosted view.path request.path).map (fun info => s.dispatch env view.handler info request readings)
      else none
  | .config request readings =>
      if s.host.shimmed ∧ request.method = .get ∧ request.path = ["api", "config"] then
        some (s.shim env request readings)
      else none
  | _ => none

def step (s : Hosting) : Event → Option Hosting
  | .create server =>
      some { s with
        servers := Function.update s.servers s.nextServer (some server), nextServer := s.nextServer + 1 }
  | .start id => (s.servers id).map (fun _ => { s with host := s.host.attach env id })
  | .stop id => (s.servers id).map (fun _ => { s with host := s.host.detach id })
  | .request view request readings => (serve env s (.request view request readings)).map Prod.fst
  | .config request readings => (serve env s (.config request readings)).map Prod.fst
  | .bridge id event =>
      (s.servers id).bind (fun server => (Wiring.step server.bridge event).map (fun bridge =>
        { s with servers := Function.update s.servers id (some { server with bridge := bridge }) }))
  | .pairing id event =>
      (s.servers id).bind (fun server => (Pairing.step server.pairing event).map (fun pairing =>
        { s with servers := Function.update s.servers id (some { server with pairing := pairing }) }))

/-- Home Assistant from its start on. -/
def hosting : Machine Hosting Event where
  Start := fun s => s = {}
  step := step env

/-- A request from outside the local network, or through a proxy. -/
def outside : Event → Bool
  | .request _ request _ | .config request _ => !isLanRequest env request
  | _ => false

/-- What a client on the local network gets. -/
def lanAnswer (s : Hosting) (event : Event) : Option Answer :=
  if outside env event then none else (serve env s event).map Prod.snd

end

section
variable {env : Surroundings}

theorem step_served {s t : Hosting} {event : Event} (out : outside env event = true)
    (stepped : step env s event = some t) : ∃ answer, serve env s event = some (t, answer) := by
  cases event with
  | request view request readings =>
    obtain ⟨⟨u, answer⟩, served, rfl⟩ := Option.map_eq_some_iff.mp stepped
    exact ⟨answer, served⟩
  | config request readings =>
    obtain ⟨⟨u, answer⟩, served, rfl⟩ := Option.map_eq_some_iff.mp stepped
    exact ⟨answer, served⟩
  | _ => cases out

/-- A request from outside changes nothing, and its answer is not the Hue API's. -/
theorem serve_outside {s t : Hosting} {event : Event} {answer : Answer} (out : outside env event = true)
    (served : serve env s event = some (t, answer)) : t = s ∧ (answer = .notFound ∨ answer = .homeAssistant) := by
  cases event with
  | request view request readings =>
    have foreign : isLanRequest env request = false := by simpa [outside] using out
    unfold serve at served
    simp only [] at served
    split at served
    next =>
      obtain ⟨info, _, dispatched⟩ := Option.map_eq_some_iff.mp served
      simp only [Hosting.dispatch, foreign, Bool.false_eq_true, if_false, Prod.mk.injEq] at dispatched
      exact ⟨dispatched.1.symm, .inl dispatched.2.symm⟩
    next => cases served
  | config request readings =>
    have foreign : isLanRequest env request = false := by simpa [outside] using out
    unfold serve at served
    simp only [] at served
    split at served
    next =>
      unfold Hosting.shim at served
      split at served
      next =>
        cases served
        exact ⟨rfl, .inr rfl⟩
      next =>
        rw [foreign, Bool.not_false, Bool.or_true, if_pos rfl] at served
        cases served
        exact ⟨rfl, .inr rfl⟩
    next => cases served
  | _ => cases out

/-- Requests from outside the local network, or through a proxy, can be left out of every run: nobody else's answer
and no state on the way depends on them, and they are never answered by a Hue API server. -/
theorem outside_ignored {s t : Hosting} {events : List Event} (run : Run (hosting env) Always s events t) :
    Run (hosting env) Always s (events.filter (fun event => !outside env event)) t ∧
    trajectory (lanAnswer env) (fun x => x) (hosting env) s (events.filter (fun event => !outside env event)) =
      trajectory (lanAnswer env) (fun x => x) (hosting env) s events ∧
    ∀ before event mid later answer, Run (hosting env) Always s before mid → outside env event = true →
      serve env mid event = some (later, answer) → answer = .notFound ∨ answer = .homeAssistant := by
  refine ⟨?_, ?_, fun _ _ _ _ _ _ out served => (serve_outside out served).2⟩
  · induction run with
    | nil s => exact .nil s
    | @cons s mid t event events allowed step run ih =>
      cases out : outside env event with
      | true =>
        obtain ⟨answer, served⟩ := step_served out step
        obtain ⟨rfl, _⟩ := serve_outside out served
        rw [List.filter_cons_of_neg (by simp [out])]
        exact ih
      | false =>
        rw [List.filter_cons_of_pos (by simp [out])]
        exact .cons allowed step ih
  · induction run with
    | nil s => rfl
    | @cons s mid t event events allowed step run ih =>
      cases out : outside env event with
      | true =>
        obtain ⟨answer, served⟩ := step_served out step
        obtain ⟨rfl, _⟩ := serve_outside out served
        have unseen : lanAnswer env mid event = none := if_pos out
        rw [List.filter_cons_of_neg (by simp [out]), trajectory_cons step, unseen]
        exact ih
      | false =>
        rw [List.filter_cons_of_pos (by simp [out]), trajectory_cons step, trajectory_cons step, ih]

/-- Home Assistant with its `api` component, where one address is global. -/
def home : Surroundings where
  isGlobal := fun text => some (text == "8.8.8.8")
  uuid5Hex := id
  configRoute := true
  apiLoaded := true

def tvName : String := "0123456789abcdef0123456789abcdef"

def tvServer : HueApiServer := oneLightServer [(tvName, ⟨"aa", .str "tv#living"⟩)]

def startView : View := ⟨.put, [.literal "api", .username, .literal "groups", .parameter "group_id"], .handleV1GroupPut⟩

/-- The request that starts a stream. -/
def startFrom (remote : String) : Request where
  method := .put
  path := ["api", tvName, "groups", "1"]
  headers := ["Host"]
  remote := some remote
  body := .ok startBody

/-- A start from the internet, and one from the TV. -/
def bothStarts : List Event :=
  [.create tvServer, .start 0, .request startView (startFrom "8.8.8.8") newYear,
    .request startView (startFrom "192.168.1.9") newYear]

theorem outside_ignored_starts : ∃ t, Run (hosting home) Always {} bothStarts t ∧
    (bothStarts.filter (fun event => !outside home event)).length = 3 ∧
    Run (hosting home) Always {} (bothStarts.filter (fun event => !outside home event)) t := by
  have possible : (play (hosting home) Always {} bothStarts).isSome = true := by decide +kernel
  obtain ⟨t, played⟩ := Option.isSome_iff_exists.mp possible
  have run := run_of_play _ _ _ played
  exact ⟨t, run, by decide +kernel, (outside_ignored run).1⟩

/-- The event leaves a server attached. -/
def Keeps (id : ServerId) (event : Event) : Prop := (∀ other, event ≠ .start other) ∧ event ≠ .stop id

theorem attached_eq_some {s : Hosting} {id : ServerId} {server : HueApiServer}
    (attached : s.attached = some (id, server)) : s.host.target = some id ∧ s.servers id = some server := by
  obtain ⟨target, targeted, found⟩ := Option.bind_eq_some_iff.mp attached
  obtain ⟨known, same, pair⟩ := Option.map_eq_some_iff.mp found
  cases pair
  exact ⟨targeted, same⟩

/-- A request changes nothing, or what the attached server makes of it. -/
theorem serve_cases {s t : Hosting} {event : Event} {answer : Answer} (served : serve env s event = some (t, answer)) :
    t = s ∨ ∃ id server handler info body readings, s.host.target = some id ∧ s.servers id = some server ∧
      t = { s with
        servers := Function.update s.servers id
          (some (server.handle env.uuid5Hex handler info body readings).server) } := by
  cases event with
  | request view request readings =>
    unfold serve at served
    simp only [] at served
    split at served
    next =>
      obtain ⟨info, _, dispatched⟩ := Option.map_eq_some_iff.mp served
      unfold Hosting.dispatch at dispatched
      split at dispatched
      next =>
        split at dispatched
        next =>
          cases dispatched
          exact .inl rfl
        next id server attached =>
          cases dispatched
          obtain ⟨target, found⟩ := attached_eq_some attached
          exact .inr ⟨id, server, view.handler, info, request.body, readings, target, found, rfl⟩
      next =>
        cases dispatched
        exact .inl rfl
    next => cases served
  | config request readings =>
    unfold serve at served
    simp only [] at served
    split at served
    next =>
      unfold Hosting.shim at served
      split at served
      next =>
        cases served
        exact .inl rfl
      next id server attached =>
        split at served
        next =>
          cases served
          exact .inl rfl
        next =>
          cases served
          obtain ⟨target, found⟩ := attached_eq_some attached
          exact .inr ⟨id, server, .handleConfig, [], request.body, readings, target, found, rfl⟩
    next => cases served
  | _ => cases served

/-- Everything a step can do to the host and to the servers. -/
inductive Move (env : Surroundings) (s : Hosting) : Event → Hosting → Prop where
  | created (server : HueApiServer) : Move env s (.create server)
      { s with servers := Function.update s.servers s.nextServer (some server), nextServer := s.nextServer + 1 }
  | started {id : ServerId} {server : HueApiServer} (found : s.servers id = some server) :
      Move env s (.start id) { s with host := s.host.attach env id }
  | stopped {id : ServerId} {server : HueApiServer} (found : s.servers id = some server) :
      Move env s (.stop id) { s with host := s.host.detach id }
  | unserved {event : Event} (served : ∃ answer, serve env s event = some (s, answer)) : Move env s event s
  | served {event : Event} {id : ServerId} {server : HueApiServer} (handler : Handler) (info : MatchInfo)
      (body : Body) (readings : Readings) (asked : ∃ result, serve env s event = some result)
      (target : s.host.target = some id) (found : s.servers id = some server) :
      Move env s event { s with
        servers := Function.update s.servers id (some (server.handle env.uuid5Hex handler info body readings).server) }
  | bridge {id : ServerId} {server : HueApiServer} {event : BridgeEvent} {bridge : Bridge}
      (found : s.servers id = some server) (moved : Wiring.bridge.step server.bridge event = some bridge) :
      Move env s (.bridge id event)
        { s with servers := Function.update s.servers id (some { server with bridge := bridge }) }
  | pairing {id : ServerId} {server : HueApiServer} {event : Pairing.Event} {pairing : Pairing.Server}
      (found : s.servers id = some server) (moved : Pairing.machine.step server.pairing event = some pairing) :
      Move env s (.pairing id event)
        { s with servers := Function.update s.servers id (some { server with pairing := pairing }) }

theorem step_move {s t : Hosting} {event : Event} (stepped : (hosting env).step s event = some t) :
    Move env s event t := by
  have answered : ∀ {event}, (serve env s event).map Prod.fst = some t → Move env s event t := by
    intro event stepped
    obtain ⟨⟨u, answer⟩, served, rfl⟩ := Option.map_eq_some_iff.mp stepped
    rcases serve_cases served with rfl | ⟨id, server, handler, info, body, readings, target, found, rfl⟩
    · exact .unserved ⟨answer, served⟩
    · exact .served handler info body readings ⟨_, served⟩ target found
  change step env s event = some t at stepped
  cases event with
  | create server =>
    cases stepped
    exact .created server
  | start id =>
    obtain ⟨server, found, rfl⟩ := Option.map_eq_some_iff.mp stepped
    exact .started found
  | stop id =>
    obtain ⟨server, found, rfl⟩ := Option.map_eq_some_iff.mp stepped
    exact .stopped found
  | request view request readings => exact answered stepped
  | config request readings => exact answered stepped
  | bridge id event =>
    obtain ⟨server, found, stepped⟩ := Option.bind_eq_some_iff.mp stepped
    obtain ⟨bridge, moved, rfl⟩ := Option.map_eq_some_iff.mp stepped
    exact .bridge found moved
  | pairing id event =>
    obtain ⟨server, found, stepped⟩ := Option.bind_eq_some_iff.mp stepped
    obtain ⟨pairing, moved, rfl⟩ := Option.map_eq_some_iff.mp stepped
    exact .pairing found moved

/-- Only requests are served. -/
theorem served_keeps {s : Hosting} {event : Event} (served : ∃ result, serve env s event = some result)
    (id : ServerId) : (∀ other, event ≠ .start other) ∧ event ≠ .stop id := by
  obtain ⟨result, served⟩ := served
  constructor
  · rintro other rfl
    cases served
  · rintro rfl
    cases served

theorem target_step {s t : Hosting} {event : Event} (move : Move env s event t) (id : ServerId) :
    t.host.target = some id ↔ event = .start id ∨ (s.host.target = some id ∧ Keeps id event) := by
  unfold Keeps
  have kept : ∀ {event}, (∀ other, event ≠ Event.start other) → event ≠ .stop id →
      (s.host.target = some id ↔ event = .start id ∨
        (s.host.target = some id ∧ (∀ other, event ≠ .start other) ∧ event ≠ .stop id)) := by
    intro event unstarted unstopped
    constructor
    · exact fun target => .inr ⟨target, unstarted, unstopped⟩
    · rintro (started | ⟨target, _⟩)
      · exact absurd started (unstarted id)
      · exact target
  cases move with
  | created server => exact kept (by simp) (by simp)
  | @started other server found =>
    change some other = some id ↔ _
    constructor
    · intro same
      exact .inl (congrArg Event.start (Option.some.inj same))
    · rintro (same | ⟨_, unstarted, _⟩)
      · cases same
        rfl
      · exact absurd rfl (unstarted other)
  | @stopped other server found =>
    change (if s.host.target = some other then none else s.host.target) = some id ↔ _
    split
    next here =>
      constructor
      · intro none
        cases none
      · rintro (started | ⟨target, _, unstopped⟩)
        · cases started
        · rw [here] at target
          exact absurd (congrArg Event.stop (Option.some.inj target)) unstopped
    next there =>
      constructor
      · intro target
        refine .inr ⟨target, by simp, ?_⟩
        intro same
        cases same
        exact there target
      · rintro (started | ⟨target, _⟩)
        · cases started
        · exact target
  | unserved served =>
    obtain ⟨answer, served⟩ := served
    obtain ⟨unstarted, unstopped⟩ := served_keeps ⟨_, served⟩ id
    exact kept unstarted unstopped
  | served handler info body readings asked target found =>
    obtain ⟨unstarted, unstopped⟩ := served_keeps asked id
    exact kept unstarted unstopped
  | bridge found moved => exact kept (by simp) (by simp)
  | pairing found moved => exact kept (by simp) (by simp)

/-- The server was attached by one of the events and neither replaced nor detached by a later one. -/
def LastAttached (id : ServerId) (events : List Event) : Prop :=
  ∃ before after, events = before ++ .start id :: after ∧ ∀ event ∈ after, Keeps id event

theorem lastAttached_cons {id : ServerId} {event : Event} {events : List Event} :
    LastAttached id (event :: events) ↔
      LastAttached id events ∨ (event = .start id ∧ ∀ later ∈ events, Keeps id later) := by
  constructor
  · rintro ⟨before, after, split, keeps⟩
    cases before with
    | nil =>
      obtain ⟨rfl, rfl⟩ := List.cons.inj split
      exact .inr ⟨rfl, keeps⟩
    | cons first before =>
      obtain ⟨_, rest⟩ := List.cons.inj split
      exact .inl ⟨before, after, rest, keeps⟩
  · rintro (⟨before, after, rfl, keeps⟩ | ⟨rfl, keeps⟩)
    · exact ⟨event :: before, after, rfl, keeps⟩
    · exact ⟨[], events, rfl, keeps⟩

theorem run_target {ok : Hosting → Event → Prop} {s t : Hosting} {events : List Event}
    (run : Run (hosting env) ok s events t) (id : ServerId) : t.host.target = some id ↔
      LastAttached id events ∨ (s.host.target = some id ∧ ∀ event ∈ events, Keeps id event) := by
  induction run with
  | nil s =>
    have never : ¬LastAttached id [] := by
      rintro ⟨before, after, split, _⟩
      simp at split
    simp [never]
  | @cons s mid t event events _ step _ ih =>
    rw [ih, target_step (step_move step), lastAttached_cons]
    constructor
    · rintro (last | ⟨started | ⟨target, keeps⟩, later⟩)
      · exact .inl (.inl last)
      · exact .inl (.inr ⟨started, later⟩)
      · exact .inr ⟨target, List.forall_mem_cons.mpr ⟨keeps, later⟩⟩
    · rintro ((last | ⟨started, later⟩) | ⟨target, keeps⟩)
      · exact .inl last
      · exact .inr ⟨.inl started, later⟩
      · obtain ⟨first, later⟩ := List.forall_mem_cons.mp keeps
        exact .inr ⟨.inr ⟨target, first⟩, later⟩

/-- The views that the first server to be attached leads to. -/
def firstViews (env : Surroundings) : List View := (({} : HueHttpHost).registerViews env).views

theorem firstViews_nodup (env : Surroundings) : (firstViews env).Nodup := by
  have alone : hueViews.Nodup := by decide
  have both : (hueViews ++ [configView]).Nodup := by decide
  unfold firstViews HueHttpHost.registerViews
  cases env.configRoute with
  | true => exact alone
  | false =>
    cases env.apiLoaded with
    | true => exact alone
    | false => exact both

/-- The views are there once a server has been attached. -/
def Registered (env : Surroundings) (host : HueHttpHost) : Prop :=
  (host.registered = false ∧ host.views = [] ∧ host.shimmed = false ∧ host.target = none) ∨
    (host.registered = true ∧ host.views = firstViews env ∧ host.shimmed = env.configRoute)

theorem Registered.attach {host : HueHttpHost} (registered : Registered env host) (id : ServerId) :
    (host.attach env id).registered = true ∧ (host.attach env id).views = firstViews env ∧
      (host.attach env id).shimmed = env.configRoute := by
  unfold HueHttpHost.attach
  rcases registered with ⟨fresh, views, unshimmed, _⟩ | ⟨once, views, shimmed⟩
  · rw [fresh]
    simp only [Bool.false_eq_true, if_false]
    unfold firstViews HueHttpHost.registerViews
    rw [views]
    cases env.configRoute with
    | true => exact ⟨trivial, rfl, rfl⟩
    | false =>
      cases env.apiLoaded with
      | true => exact ⟨trivial, rfl, unshimmed⟩
      | false => exact ⟨trivial, rfl, unshimmed⟩
  · rw [once]
    exact ⟨once, views, shimmed⟩

theorem Registered.step {s t : Hosting} {event : Event} (registered : Registered env s.host)
    (move : Move env s event t) : Registered env t.host := by
  cases move with
  | started found => exact .inr (registered.attach _)
  | @stopped id server found =>
    rcases registered with ⟨fresh, views, unshimmed, free⟩ | once
    · refine .inl ⟨fresh, views, unshimmed, ?_⟩
      change (if s.host.target = some id then none else s.host.target) = none
      rw [free]
      rfl
    · exact .inr once
  | _ => exact registered

theorem registered_step {s t : Hosting} {event : Event} (move : Move env s event t) :
    t.host.registered = true ↔ s.host.registered = true ∨ ∃ id, event = .start id := by
  have kept : ∀ {event}, (∀ id, event ≠ Event.start id) →
      (s.host.registered = true ↔ s.host.registered = true ∨ ∃ id, event = .start id) := by
    intro event unstarted
    constructor
    · exact .inl
    · rintro (once | ⟨id, started⟩)
      · exact once
      · exact absurd started (unstarted id)
  cases move with
  | created server => exact kept (by simp)
  | @started id server found =>
    have once : (s.host.attach env id).registered = true := by
      unfold HueHttpHost.attach
      split
      next once => exact once
      next => rfl
    exact ⟨fun _ => .inr ⟨id, rfl⟩, fun _ => once⟩
  | stopped found => exact kept (by simp)
  | unserved served =>
    obtain ⟨answer, served⟩ := served
    exact kept (served_keeps ⟨_, served⟩ 0).1
  | served handler info body readings asked target found => exact kept (served_keeps asked 0).1
  | bridge found moved => exact kept (by simp)
  | pairing found moved => exact kept (by simp)

theorem run_registered {ok : Hosting → Event → Prop} {s t : Hosting} {events : List Event}
    (run : Run (hosting env) ok s events t) :
    t.host.registered = true ↔ s.host.registered = true ∨ ∃ id, Event.start id ∈ events := by
  induction run with
  | nil s => simp
  | @cons s mid t event events _ step _ ih =>
    rw [ih, registered_step (step_move step)]
    simp only [List.mem_cons, exists_or, or_assoc, eq_comm]

/-- Whatever servers are started and stopped in whatever order: requests go to the server that was attached last, if
it has not been stopped since, and a server that was replaced is not missed when it stops. The views are registered
once, with the first server. -/
theorem target_last {s t : Hosting} {events : List Event} (start : (hosting env).Start s)
    (run : Run (hosting env) Always s events t) :
    (∀ id, t.host.target = some id ↔ LastAttached id events) ∧
      ((∃ id, Event.start id ∈ events) → t.host.views = firstViews env) ∧
      ((∀ id, Event.start id ∉ events) → t.host.views = []) ∧ t.host.views.Nodup := by
  have fresh : s.host = {} := congrArg Hosting.host start
  have registered : Registered env t.host := run.invariant (fun s => Registered env s.host)
    (fun _ _ _ before _ step => before.step (step_move step)) (by rw [fresh]; exact .inl ⟨rfl, rfl, rfl, rfl⟩)
  have once := run_registered run
  rw [fresh] at once
  refine ⟨?_, ?_, ?_, ?_⟩
  · intro id
    rw [run_target run id, fresh]
    simp
  · intro started
    rcases registered with ⟨never, _⟩ | ⟨_, views, _⟩
    · rw [once.mpr (.inr started)] at never
      cases never
    · exact views
  · intro unstarted
    rcases registered with ⟨_, views, _⟩ | ⟨already, _⟩
    · exact views
    · rcases once.mp already with before | ⟨id, started⟩
      · cases before
      · exact absurd started (unstarted id)
  · rcases registered with ⟨_, views, _⟩ | ⟨_, views, _⟩
    · rw [views]
      exact List.nodup_nil
    · rw [views]
      exact firstViews_nodup env

/-- The server of an entry takes over from that of the config flow, which stops later. -/
def handover : List Event := [.create tvServer, .create tvServer, .start 0, .start 1, .stop 0]

theorem target_last_handover : ∃ t, Run (hosting home) Always {} handover t ∧ t.host.target = some 1 ∧
    t.host.views = firstViews home := by
  have possible : (play (hosting home) Always {} handover).isSome = true := by decide +kernel
  obtain ⟨t, played⟩ := Option.isSome_iff_exists.mp possible
  have run := run_of_play _ _ _ played
  obtain ⟨target, views, _, _⟩ := target_last rfl run
  refine ⟨t, run, (target 1).mpr ?_, views ⟨0, by simp [handover]⟩⟩
  refine ⟨[.create tvServer, .create tvServer, .start 0], [.stop 0], rfl, ?_⟩
  intro event member
  rw [List.mem_singleton.mp member]
  exact ⟨by simp, by simp⟩

/-- What a server becomes while its bridge and its pairing take steps of their own machines. -/
structure Evolves (server later : HueApiServer) : Prop where
  wired : later.onEntertainment = server.onEntertainment
  bridge : ∃ events, Run Wiring.bridge Always server.bridge events later.bridge
  pairing : ∃ events, Run Pairing.machine Always server.pairing events later.pairing

theorem Evolves.refl (server : HueApiServer) : Evolves server server := ⟨rfl, ⟨[], .nil _⟩, ⟨[], .nil _⟩⟩

theorem Evolves.trans {server mid later : HueApiServer} (first : Evolves server mid) (second : Evolves mid later) :
    Evolves server later := by
  obtain ⟨wired, ⟨_, drove⟩, ⟨_, paired⟩⟩ := first
  obtain ⟨wired', ⟨_, drove'⟩, ⟨_, paired'⟩⟩ := second
  exact ⟨wired'.trans wired, ⟨_, drove.append drove'⟩, ⟨_, paired.append paired'⟩⟩

theorem handle_evolves {server : HueApiServer} (wired : server.onEntertainment = true) (handler : Handler)
    (info : MatchInfo) (body : Body) (readings : Readings) :
    Evolves server (server.handle env.uuid5Hex handler info body readings).server :=
  ⟨handle_wired env.uuid5Hex handler readings, ⟨_, handle_drives env.uuid5Hex wired handler readings⟩,
    handle_pairs env.uuid5Hex handler readings⟩

/-- A server goes through steps of its own, and none at all unless it is attached or the step is its own. -/
theorem server_step {s t : Hosting} {event : Event} (fresh : Fresh s.servers s.nextServer) (move : Move env s event t)
    {id : ServerId} {server : HueApiServer} (found : s.servers id = some server)
    (wired : server.onEntertainment = true) : ∃ later, t.servers id = some later ∧ Evolves server later ∧
      (s.host.target ≠ some id → (∀ own, event ≠ .bridge id own) → (∀ own, event ≠ .pairing id own) →
        later = server) := by
  have other : ∀ {changed : ServerId} {value : HueApiServer}, id ≠ changed →
      Function.update s.servers changed (some value) id = some server :=
    fun different => (Function.update_of_ne different _ _).trans found
  cases move with
  | created new => exact ⟨server, other (Nat.ne_of_lt (fresh.lt found)), .refl server, fun _ _ _ => rfl⟩
  | started _ => exact ⟨server, found, .refl server, fun _ _ _ => rfl⟩
  | stopped _ => exact ⟨server, found, .refl server, fun _ _ _ => rfl⟩
  | unserved _ => exact ⟨server, found, .refl server, fun _ _ _ => rfl⟩
  | @served _ changed server' handler info body readings asked target found' =>
    by_cases here : id = changed
    · subst changed
      rw [found] at found'
      obtain rfl := Option.some.inj found'
      exact ⟨_, Function.update_self .., handle_evolves wired handler info body readings,
        fun unattached _ _ => absurd target unattached⟩
    · exact ⟨server, other here, .refl server, fun _ _ _ => rfl⟩
  | @bridge changed server' event bridge found' moved =>
    by_cases here : id = changed
    · subst changed
      rw [found] at found'
      obtain rfl := Option.some.inj found'
      exact ⟨_, Function.update_self .., ⟨rfl, ⟨[event], .cons trivial moved (.nil _)⟩, ⟨[], .nil _⟩⟩,
        fun _ undriven _ => absurd rfl (undriven event)⟩
    · exact ⟨server, other here, .refl server, fun _ _ _ => rfl⟩
  | @pairing changed server' event pairing found' moved =>
    by_cases here : id = changed
    · subst changed
      rw [found] at found'
      obtain rfl := Option.some.inj found'
      exact ⟨_, Function.update_self .., ⟨rfl, ⟨[], .nil _⟩, ⟨[event], .cons trivial moved (.nil _)⟩⟩,
        fun _ _ unpaired => absurd rfl (unpaired event)⟩
    · exact ⟨server, other here, .refl server, fun _ _ _ => rfl⟩

theorem fresh_step {s t : Hosting} {event : Event} (fresh : Fresh s.servers s.nextServer) (move : Move env s event t) :
    Fresh t.servers t.nextServer := by
  cases move with
  | created server => exact fresh.create _
  | started _ => exact fresh
  | stopped _ => exact fresh
  | unserved _ => exact fresh
  | served _ _ _ _ _ _ found => exact fresh.replace found _
  | bridge found _ => exact fresh.replace found _
  | pairing found _ => exact fresh.replace found _

theorem reachable_fresh {ok : Hosting → Event → Prop} {s : Hosting} (reached : Reachable (hosting env) ok s) :
    Fresh s.servers s.nextServer := by
  refine reached.invariant (fun s => Fresh s.servers s.nextServer) ?_ ?_
  · rintro s rfl id _
    rfl
  · intro s event t fresh _ step
    exact fresh_step fresh (step_move step)

/-- The server of an entry that is served by Home Assistant goes through runs of its bridge and of its pairing only.
One that is not attached, and is not attached again, stays as it is whatever requests come, but for steps of its own. -/
theorem hosted_evolves {s t : Hosting} {events : List Event} (reached : Reachable (hosting env) Always s)
    (run : Run (hosting env) Always s events t) {id : ServerId} {server : HueApiServer}
    (found : s.servers id = some server) (wired : server.onEntertainment = true) :
    ∃ later, t.servers id = some later ∧ Evolves server later ∧
      (s.host.target ≠ some id →
        (∀ event ∈ events, event ≠ .start id ∧ (∀ own, event ≠ .bridge id own) ∧ ∀ own, event ≠ .pairing id own) →
        later = server) := by
  induction run generalizing server with
  | nil s => exact ⟨server, found, .refl server, fun _ _ => rfl⟩
  | @cons s mid t event events _ step _ ih =>
    have move := step_move step
    obtain ⟨next, found', evolves, same⟩ := server_step (reachable_fresh reached) move found wired
    obtain ⟨later, found'', evolves', same'⟩ :=
      ih (reached.step trivial step) found' (evolves.wired.trans wired)
    refine ⟨later, found'', evolves.trans evolves', ?_⟩
    intro unattached quiet
    obtain ⟨⟨unstarted, undriven, unpaired⟩, rest⟩ := List.forall_mem_cons.mp quiet
    have still : mid.host.target ≠ some id := by
      intro attached
      rcases (target_step move id).mp attached with started | ⟨target, _⟩
      · exact unstarted started
      · exact unattached target
    rw [same' still rest, same unattached undriven unpaired]

theorem hosted_evolves_start : ∃ s t server later, Reachable (hosting home) Always s ∧
    Run (hosting home) Always s [.request startView (startFrom "192.168.1.9") newYear] t ∧
    s.servers 0 = some server ∧ t.servers 0 = some later ∧ server.bridge.entertainmentActive = false ∧
    later.bridge.entertainmentActive = true ∧
    ∃ events, Run Wiring.bridge Always server.bridge events later.bridge := by
  have final : (play (hosting home) Always {} [.create tvServer, .start 0]).any (fun s =>
      (s.servers 0).any (fun server => server.onEntertainment && !server.bridge.entertainmentActive) &&
      (play (hosting home) Always s [.request startView (startFrom "192.168.1.9") newYear]).any (fun t =>
        (t.servers 0).any (fun later => later.bridge.entertainmentActive))) = true := by decide +kernel
  obtain ⟨s, reached, final⟩ := (Option.any_eq_true _ _).mp final
  rw [Bool.and_eq_true] at final
  obtain ⟨before, after⟩ := final
  obtain ⟨server, found, before⟩ := (Option.any_eq_true _ _).mp before
  obtain ⟨t, played, after⟩ := (Option.any_eq_true _ _).mp after
  obtain ⟨later, found', active⟩ := (Option.any_eq_true _ _).mp after
  rw [Bool.and_eq_true, Bool.not_eq_true'] at before
  have start : (hosting home).Start {} := rfl
  have reachable := reachable_of_play start reached
  have run := run_of_play _ _ _ played
  obtain ⟨same, there, evolves, _⟩ := hosted_evolves reachable run found before.1
  obtain rfl : same = later := Option.some.inj (there.symm.trans found')
  exact ⟨s, t, server, same, reachable, run, found, found', before.2, active, evolves.bridge⟩

end

/-- The handlers of the views that a request matches, with its path parameters, in the order of the views. -/
def hostedMatches (method : Method) (path : List String) : List (Handler × MatchInfo) :=
  hueViews.filterMap (fun view =>
    if view.method = method then (matchHosted view.path path).map (fun info => (view.handler, info)) else none)

/-- The same of the routes of a standalone server. -/
def standaloneMatches (method : Method) (path : List String) : List (Handler × MatchInfo) :=
  routes.filterMap (fun route =>
    if route.method = method then (matchPath route.path path).map (fun info => (route.handler, info)) else none)

/-- Only the usernames are constrained. -/
theorem matchHosted_unnamed {pattern : List Segment} (unnamed : Segment.parameter "username" ∉ pattern)
    (path : List String) : matchHosted (pattern.map hostedSegment) path = matchPath pattern path := by
  induction pattern generalizing path with
  | nil => cases path <;> rfl
  | cons segment pattern ih =>
    have later : Segment.parameter "username" ∉ pattern := fun member => unnamed (List.mem_cons_of_mem _ member)
    cases path with
    | nil =>
      cases segment with
      | literal text => rfl
      | parameter name =>
        rw [List.map_cons, hostedSegment]
        split <;> rfl
    | cons text rest =>
      cases segment with
      | literal expected =>
        rw [List.map_cons, hostedSegment, matchHosted, matchPath, ih later]
      | parameter name =>
        have other : name ≠ "username" := by
          rintro rfl
          exact unnamed (List.mem_cons_self ..)
        rw [List.map_cons, hostedSegment, if_neg other, matchHosted, matchPath, ih later]

/-- A route either has its username right after `/api`, and no other, or has none. -/
theorem routes_shape : ∀ route ∈ routes,
    (route.path = ofUser (route.path.drop 2) ∧ Segment.parameter "username" ∉ route.path.drop 2) ∨
      (Segment.parameter "username" ∉ route.path ∧
        (haOwned route = true ∨ route.path = [.literal "description.xml"] ∨ route.path = [.literal "api"] ∨
          route.path = [.literal "api", .literal "nouser", .literal "config"])) := by decide

theorem matchHosted_ofUser {rest : List Segment} (unnamed : Segment.parameter "username" ∉ rest) {username : String}
    (issued : isUsername username = true) (path : List String) :
    matchHosted ((ofUser rest).map hostedSegment) ("api" :: username :: path) =
      matchPath (ofUser rest) ("api" :: username :: path) := by
  change (if "api" = "api" then
    (if isUsername username then (matchHosted (rest.map hostedSegment) path).map (fun info => ("username", username) :: info)
      else none) else none) = (if "api" = "api" then _ else none)
  rw [if_pos rfl, if_pos rfl, if_pos issued, matchHosted_unnamed unnamed]
  rfl

theorem isUsername_ne {username : String} (issued : isUsername username = true) (text : String)
    (short : text.toList.length ≠ 32) : username ≠ text := by
  rintro rfl
  unfold isUsername at issued
  rw [Bool.and_eq_true, decide_eq_true_eq] at issued
  exact short issued.1

/-- Below an issued username the views are the routes. -/
theorem hosted_issued (method : Method) {username : String} (issued : isUsername username = true)
    (path : List String) :
    hostedMatches method ("api" :: username :: path) = standaloneMatches method ("api" :: username :: path) := by
  unfold hostedMatches standaloneMatches hueViews
  rw [List.filterMap_map, List.filterMap_filter]
  apply List.filterMap_congr
  intro route routed
  have same : matchHosted (route.path.map hostedSegment) ("api" :: username :: path) =
      matchPath route.path ("api" :: username :: path) := by
    rcases routes_shape route routed with ⟨shape, unnamed⟩ | ⟨unnamed, _⟩
    · rw [shape]
      exact matchHosted_ofUser unnamed issued path
    · exact matchHosted_unnamed unnamed _
  cases owned : haOwned route with
  | false =>
    simp only [Bool.not_false, if_true, Function.comp_apply, viewOf, same]
  | true =>
    have config : route.path = [.literal "api", .literal "config"] := by
      unfold haOwned at owned
      rw [Bool.and_eq_true, decide_eq_true_eq, decide_eq_true_eq] at owned
      exact owned.2
    have missed : matchPath route.path ("api" :: username :: path) = none := by
      rw [config]
      simp [matchPath, isUsername_ne issued "config" (by decide)]
    rw [missed]
    simp

/-- The paths that are the Hue API's own; /api/config is only where Home Assistant and its API integration have none. -/
def HuePath (env : Surroundings) (path : List String) : Prop :=
  path = ["description.xml"] ∨ path = ["api"] ∨ path = ["api", "nouser", "config"] ∨
    (path = ["api", "config"] ∧ env.configRoute = false ∧ env.apiLoaded = false) ∨
    ∃ username rest, path = "api" :: username :: rest ∧ isUsername username = true

theorem matchPath_literals (texts : List String) {path : List String} {info : MatchInfo}
    (matched : matchPath (texts.map Segment.literal) path = some info) : path = texts := by
  induction texts generalizing path with
  | nil =>
    cases path with
    | nil => rfl
    | cons => cases matched
  | cons text texts ih =>
    cases path with
    | nil => cases matched
    | cons first rest =>
      rw [List.map_cons, matchPath] at matched
      split at matched
      next same => rw [same, ih matched]
      next => cases matched

theorem hueViews_capture {view : View} (registered : view ∈ hueViews) {path : List String} {info : MatchInfo}
    (matched : matchHosted view.path path = some info) : HuePath env path := by
  obtain ⟨route, member, rfl⟩ := List.mem_map.mp registered
  obtain ⟨routed, unowned⟩ := List.mem_filter.mp member
  change matchHosted (route.path.map hostedSegment) path = some info at matched
  rcases routes_shape route routed with ⟨shape, _⟩ | ⟨unnamed, owned | shape | shape | shape⟩
  · rw [shape] at matched
    cases path with
    | nil => cases matched
    | cons first path =>
      simp only [ofUser, List.map_cons, hostedSegment, matchHosted] at matched
      split at matched
      next api =>
        cases path with
        | nil => cases matched
        | cons username rest =>
          simp only [if_true, matchHosted] at matched
          split at matched
          next issued => exact .inr (.inr (.inr (.inr ⟨username, rest, by rw [api], issued⟩)))
          next => cases matched
      next => cases matched
  · rw [owned] at unowned
    cases unowned
  · rw [matchHosted_unnamed unnamed, shape] at matched
    exact .inl (matchPath_literals ["description.xml"] matched)
  · rw [matchHosted_unnamed unnamed, shape] at matched
    exact .inr (.inl (matchPath_literals ["api"] matched))
  · rw [matchHosted_unnamed unnamed, shape] at matched
    exact .inr (.inr (.inl (matchPath_literals ["api", "nouser", "config"] matched)))

theorem firstViews_cases {view : View} (registered : view ∈ firstViews env) :
    view ∈ hueViews ∨ (view = configView ∧ env.configRoute = false ∧ env.apiLoaded = false) := by
  unfold firstViews HueHttpHost.registerViews at registered
  cases routed : env.configRoute with
  | true =>
    rw [routed] at registered
    exact .inl registered
  | false =>
    cases loaded : env.apiLoaded with
    | true =>
      rw [routed, loaded] at registered
      exact .inl registered
    | false =>
      rw [routed, loaded] at registered
      rcases List.mem_append.mp registered with hue | config
      · exact .inl hue
      · exact .inr ⟨List.mem_singleton.mp config, rfl, rfl⟩

/-- The registered views capture no other path, whatever other integrations serve below `/api`. -/
theorem hosted_captures (env : Surroundings) (view : View) (registered : view ∈ firstViews env) {path : List String}
    (info : MatchInfo) (matched : matchHosted view.path path = some info) : HuePath env path := by
  rcases firstViews_cases registered with hue | ⟨rfl, unrouted, unloaded⟩
  · exact hueViews_capture hue matched
  · rw [show configView.path = [Segment.literal "api", .literal "config"].map hostedSegment from rfl,
      matchHosted_unnamed (by decide)] at matched
    exact .inr (.inr (.inr (.inl ⟨matchPath_literals ["api", "config"] matched, unrouted, unloaded⟩)))

/-- Where Home Assistant has no /api/config, the bridge's own is among the captured paths. -/
theorem hosted_captures_config : HuePath { home with configRoute := false, apiLoaded := false } ["api", "config"] ∧
    HuePath home (startFrom "192.168.1.9").path :=
  ⟨hosted_captures _ configView (by decide) [] (by decide),
    hosted_captures home startView (by decide) [("username", tvName), ("group_id", "1")] (by decide)⟩

/-- `uuid4().hex` has the format of a username. -/
def Issues (_ : Pairing.Server) : Pairing.Event → Prop
  | .read _ _ uuid4Hex _ => isUsername uuid4Hex = true
  | _ => True

instance (s : Pairing.Server) : (event : Pairing.Event) → Decidable (Issues s event)
  | .read _ _ uuid4Hex _ => inferInstanceAs (Decidable (isUsername uuid4Hex = true))
  | .arrive | .saved .. | .setLinkButton _ | .tick _ => .isTrue trivial

theorem add_names {users : Users} {username clientkey : String} {devicetype : Json} {entry : String × User}
    (member : entry ∈ add users username clientkey devicetype) :
    entry.1 = username ∨ ∃ old ∈ users, old.1 = entry.1 := by
  unfold add at member
  split at member
  next =>
    obtain ⟨old, before, rfl⟩ := List.mem_map.mp member
    split
    next => exact .inl rfl
    next => exact .inr ⟨old, before, rfl⟩
  next =>
    rcases List.mem_append.mp member with before | new
    · exact .inr ⟨entry, before, rfl⟩
    · rw [List.mem_singleton.mp new]
      exact .inl rfl

theorem issued_step {s t : Pairing.Server} {event : Pairing.Event} (issued : ∀ entry ∈ s.users, isUsername entry.1 = true)
    (issues : Issues s event) (move : Pairing.Move s event t) : ∀ entry ∈ t.users, isUsername entry.1 = true := by
  cases move with
  | @added request body credentials reading active unmatched unknown asks =>
    have users : ((Pairing.passing s request).addUser request credentials).users =
        add s.users credentials.username credentials.clientkey credentials.devicetype := by
      unfold Pairing.Server.addUser
      simp only []
      split <;> rfl
    intro entry member
    rw [users] at member
    rcases add_names member with same | ⟨old, before, same⟩
    · rw [same]
      exact issues
    · exact same ▸ issued old before
  | saved outcome saving =>
    cases outcome with
    | persisted => exact issued
    | raised => exact issued
  | _ => exact issued

/-- A client that is paired reaches on Home Assistant's server the handlers that it reaches on a standalone one, with
the same path parameters, whatever has paired with the bridge before. -/
theorem paired_routed {s t : Pairing.Server} {events : List Pairing.Event}
    (issued : ∀ entry ∈ s.users, isUsername entry.1 = true) (run : Run Pairing.machine Issues s events t)
    {username clientkey : String} (paired : getPsk t.users username = some clientkey) (method : Method)
    (path : List String) :
    hostedMatches method ("api" :: username :: path) = standaloneMatches method ("api" :: username :: path) := by
  have names : ∀ entry ∈ t.users, isUsername entry.1 = true :=
    run.invariant (fun s => ∀ entry ∈ s.users, isUsername entry.1 = true)
      (fun _ _ _ issued issues step => issued_step issued issues (Pairing.step_move step)) issued
  obtain ⟨user, found, _⟩ := Option.map_eq_some_iff.mp paired
  obtain ⟨before, after, split, _⟩ := List.lookup_eq_some_iff.mp found
  have member : (username, user) ∈ t.users := by
    rw [split]
    exact List.mem_append_right _ (List.mem_cons_self ..)
  exact hosted_issued method (names _ member) path

/-- A TV pairs. -/
def tvPairs : List Pairing.Event :=
  [.setLinkButton true, .arrive, .read 0 (.ok Pairing.tvBody) tvName "bb", .saved 0 .persisted]

theorem paired_routed_tv : ∃ t, Run Pairing.machine Issues (Pairing.serverOf [] true 0) tvPairs t ∧
    getPsk t.users tvName = some "bb" ∧
    hostedMatches .get ["api", tvName, "lights"] = standaloneMatches .get ["api", tvName, "lights"] := by
  have final : (play Pairing.machine Issues (Pairing.serverOf [] true 0) tvPairs).any (fun t =>
      getPsk t.users tvName == some "bb") = true := by decide +kernel
  obtain ⟨t, played, final⟩ := (Option.any_eq_true _ _).mp final
  have paired := beq_iff_eq.mp final
  have run := run_of_play _ _ _ played
  exact ⟨t, run, paired, paired_routed (fun _ member => by cases member) run paired .get ["lights"]⟩

end HueEntertainment.HttpHost
