import HueEntertainment.HueApi
import HueEntertainment.Pairing
import HueEntertainment.Wiring

/-! Every route of `HueAPIServer` and its handler, as one function from the request to the reply. A handler may be
suspended while it reads the body and while its callback is awaited: what it checked before stays true, since users
are only ever added, and what it replies then does not depend on the state. -/

namespace HueEntertainment.ApiServer
open HueEntertainment.Const PyValue LightCommand Entertainment HueApi UserStore Pairing Wiring

inductive Method where
  | get | put | post | delete
  deriving DecidableEq, Repr

/-- The handler attributes. -/
inductive Handler where
  | handleDescriptionXml | handleConfig | handleCreateUser | handleFullDatastore | handleConfigAuth
  | handleCapabilities | handleV1Lights | handleV1LightById | handleV1LightState | handleV1Groups
  | handleV1GroupById | handleV1GroupPut | handleV1Stream | handleV1Catchall | handleV1PutCatchall
  | handleV1PostCatchall | handleV1DeleteCatchall
  deriving DecidableEq, Repr

/-- What stands between two slashes of a route's path. -/
inductive Segment where
  | literal (text : String)
  | parameter (name : String)
  deriving DecidableEq, Repr

structure Route where
  method : Method
  path : List Segment
  handler : Handler
  deriving DecidableEq, Repr

abbrev MatchInfo := List (String × String)

/-- The path parameters with which a path matches that of a route. -/
def matchPath : List Segment → List String → Option MatchInfo
  | [], [] => some []
  | .literal expected :: path, text :: rest => if text = expected then matchPath path rest else none
  | .parameter name :: path, text :: rest => (matchPath path rest).map (fun info => (name, text) :: info)
  | _, _ => none

/-- `/api/{username}` and what follows it. -/
def ofUser (rest : List Segment) : List Segment := .literal "api" :: .parameter "username" :: rest

/-- `ROUTES`; several can match one path. -/
def routes : List Route :=
  [⟨.get, [.literal "description.xml"], .handleDescriptionXml⟩,
   ⟨.get, [.literal "api", .literal "nouser", .literal "config"], .handleConfig⟩,
   ⟨.get, [.literal "api", .literal "config"], .handleConfig⟩,
   ⟨.post, [.literal "api"], .handleCreateUser⟩,
   ⟨.get, ofUser [], .handleFullDatastore⟩,
   ⟨.get, ofUser [.literal "config"], .handleConfigAuth⟩,
   ⟨.get, ofUser [.literal "capabilities"], .handleCapabilities⟩,
   ⟨.get, ofUser [.literal "lights"], .handleV1Lights⟩,
   ⟨.get, ofUser [.literal "lights", .parameter "light_id"], .handleV1LightById⟩,
   ⟨.put, ofUser [.literal "lights", .parameter "light_id", .literal "state"], .handleV1LightState⟩,
   ⟨.get, ofUser [.literal "groups"], .handleV1Groups⟩,
   ⟨.get, ofUser [.literal "groups", .parameter "group_id"], .handleV1GroupById⟩,
   ⟨.put, ofUser [.literal "groups", .parameter "group_id"], .handleV1GroupPut⟩,
   ⟨.put, ofUser [.literal "groups", .parameter "group_id", .literal "stream"], .handleV1Stream⟩,
   ⟨.get, ofUser [.parameter "resource"], .handleV1Catchall⟩,
   ⟨.get, ofUser [.parameter "resource", .parameter "id"], .handleV1Catchall⟩,
   ⟨.put, ofUser [.parameter "resource", .parameter "id"], .handleV1PutCatchall⟩,
   ⟨.put, ofUser [.parameter "resource", .parameter "id", .parameter "param"], .handleV1PutCatchall⟩,
   ⟨.post, ofUser [.parameter "resource"], .handleV1PostCatchall⟩,
   ⟨.delete, ofUser [.parameter "resource", .parameter "id"], .handleV1DeleteCatchall⟩]

/-- `request.match_info.get(name, "")`. -/
def parameter (info : MatchInfo) (name : String) : String := (info.lookup name).getD ""

inductive Callback where
  | entertainmentStart (username : String)
  | entertainmentStop
  | lightCommand (lightId : Nat) (body : Json)

/-- What a handler reads of the world: the two clocks as it formats them, what `uuid4` and `token_hex` give it,
and how the save of the store ends. -/
structure Readings where
  utc : String
  localtime : String
  uuid4Hex : String
  tokenHex : String
  save : SaveOutcome

inductive Reply where
  | json (response : Response)
  | text (contentType text : String)

/-- The API server with its user store, its link button and the requests of clients that pair, and with what its
callbacks lead to, if they are set: they are not on the server that the config flow pairs with. -/
structure HueApiServer where
  bridgeId : String
  mac : String
  hostIp : String
  httpPort : Nat
  channelCount : Nat
  lightEntities : List String
  pairing : Server
  bridge : Bridge
  onEntertainment : Bool
  onLightCommand : Bool

/-- What a request leads to: the server, the callbacks called and the reply, `none` of a handler that raised. -/
structure Handled where
  server : HueApiServer
  callbacks : List Callback := []
  reply : Option Reply

/-- `text.rsplit(".", 1)[0]`. -/
def beforeLastDot (text : String) : String :=
  match text.toList.reverse.dropWhile (fun c => c ≠ '.') with
  | [] => text
  | _ :: before => String.ofList before.reverse

def disconnected : Json := .str "disconnected"

def whitelistEntry (user : User) : Json :=
  .object
    [("create date", .str "2026-01-01T00:00:00"), ("last use date", .str "2026-01-01T00:00:00"),
     ("name", user.devicetype)]

/-- How much of a resource there is and how much is left. -/
def available (total : ℤ) : Json := .object [("available", .int total), ("total", .int total)]

def successBody (path : String) (value : Json) : Json := .object [("success", .object [(path, value)])]

/-- Each field of an object echoed under a path. -/
def echoed (path : String) (fields : List (String × Json)) : List Json :=
  fields.map (fun field => successBody (path ++ "/" ++ field.1) field.2)

/-- The echo of a group's body: a field that is an object is echoed field by field. -/
def echoedGroup (path : String) (fields : List (String × Json)) : List Json :=
  fields.flatMap (fun field =>
    match field.2 with
    | .object inner => echoed (path ++ "/" ++ field.1) inner
    | value => [successBody (path ++ "/" ++ field.1) value])

namespace HueApiServer

def users (s : HueApiServer) : Users := s.pairing.users

def paired (s : HueApiServer) (username : String) : Bool := (getPsk s.users username).isSome

/-- `_check_username`. -/
def checkUsername (s : HueApiServer) (info : MatchInfo) : Option String :=
  if s.paired (parameter info "username") then some (parameter info "username") else none

/-- The server after a request that changes nothing. -/
def answer (s : HueApiServer) (response : Except PyError Response) : Handled where
  server := s
  reply := response.toOption.map .json

def answerJson (s : HueApiServer) (body : Json) : Handled := s.answer (.ok { body := body })

/-- A handler that checks the username first. -/
def ifPaired (s : HueApiServer) (info : MatchInfo) (handled : Handled) : Handled :=
  if s.checkUsername info = none then s.answer (.ok unauthorizedResponse) else handled

/-- A handler that reads the body, past its check for invalid JSON. -/
def withBody (s : HueApiServer) (body : Body) (handle : Json → Handled) : Handled :=
  match safeJson body with
  | .error error => s.answer (.error error)
  | .ok none => s.answer (.ok invalidJsonResponse)
  | .ok (some body) => handle body

def buildV1Config (s : HueApiServer) (readings : Readings) : List (String × Json) :=
  [("name", .str "Hue Entertainment Bridge"),
   ("datastoreversion", .str "163"),
   ("swversion", .str bridgeSwVersion),
   ("apiversion", .str bridgeApiVersion),
   ("mac", .str s.mac),
   ("bridgeid", .str s.bridgeId.toUpper),
   ("factorynew", .bool false),
   ("replacesbridgeid", .null),
   ("modelid", .str bridgeModelId),
   ("starterkitid", .str ""),
   ("ipaddress", .str s.hostIp),
   ("dhcp", .bool true),
   ("netmask", .str "255.255.255.0"),
   ("gateway", .str (beforeLastDot s.hostIp ++ ".1")),
   ("UTC", .str readings.utc),
   ("localtime", .str readings.localtime),
   ("timezone", .str "Europe/London"),
   ("zigbeechannel", .int 25),
   ("linkbutton", .bool s.pairing.linkButtonActive),
   ("portalservices", .bool false),
   ("portalstate", .object
    [("signedon", .bool false), ("incoming", .bool false), ("outgoing", .bool false), ("communication", disconnected)]),
   ("internetservices", .object
    [("internet", disconnected), ("remoteaccess", disconnected), ("swupdate", disconnected), ("time", disconnected)]),
   ("swupdate2", .object
    [("checkforupdate", .bool false), ("state", .str "noupdates"),
     ("autoinstall", .object [("on", .bool false), ("updatetime", .str "T14:00:00")])]),
   ("backup", .object [("errorcode", .int 0), ("status", .str "idle")]),
   ("whitelist", .object (s.users.map (fun entry => (entry.1, whitelistEntry entry.2))))]

/-- GET /description.xml. -/
def handleDescriptionXml (s : HueApiServer) : Handled :=
  let serial := (String.ofList (s.mac.toList.filter (fun c => c ≠ ':'))).toLower
  { server := s
    reply := some (.text "text/xml" (
      "<?xml version=\"1.0\" encoding=\"UTF-8\"?>\n" ++
      "<root xmlns=\"urn:schemas-upnp-org:device-1-0\">\n" ++
      "<specVersion><major>1</major><minor>0</minor></specVersion>\n" ++
      "<URLBase>http://" ++ s.hostIp ++ ":" ++ toString s.httpPort ++ "/</URLBase>\n" ++
      "<device>\n" ++
      "<deviceType>urn:schemas-upnp-org:device:Basic:1</deviceType>\n" ++
      "<friendlyName>Philips hue (" ++ s.hostIp ++ ")</friendlyName>\n" ++
      "<manufacturer>Signify</manufacturer>\n" ++
      "<manufacturerURL>http://www.meethue.com</manufacturerURL>\n" ++
      "<modelDescription>Philips hue Personal Wireless Lighting</modelDescription>\n" ++
      "<modelName>Philips hue bridge 2015</modelName>\n" ++
      "<modelNumber>BSB002</modelNumber>\n" ++
      "<modelURL>http://www.meethue.com</modelURL>\n" ++
      "<serialNumber>" ++ serial ++ "</serialNumber>\n" ++
      "<UDN>uuid:2f402f80-da50-11e1-9b23-" ++ serial ++ "</UDN>\n" ++
      "<presentationURL>index.html</presentationURL>\n" ++
      "</device>\n" ++
      "</root>")) }

/-- GET /api/nouser/config and GET /api/config: the config without its whitelist. -/
def handleConfig (s : HueApiServer) (readings : Readings) : Handled :=
  s.answerJson (.object ((s.buildV1Config readings).filter (fun field => field.1 ≠ "whitelist")))

/-- GET /api/{username}/config. -/
def handleConfigAuth (s : HueApiServer) (info : MatchInfo) (readings : Readings) : Handled :=
  s.ifPaired info (s.answerJson (.object (s.buildV1Config readings)))

/-- GET /api/{username}/capabilities. -/
def handleCapabilities (s : HueApiServer) (info : MatchInfo) : Handled :=
  s.ifPaired info (s.answerJson (.object
    [("lights", available 50), ("sensors", available 250), ("groups", available 64), ("scenes", available 200),
     ("schedules", available 100), ("rules", available 250), ("resourcelinks", available 64),
     ("streaming", .object [("available", .int 1), ("total", .int 1), ("channels", .int s.channelCount)]),
     ("timezones", .object [("values", .array [])])]))

/-- The server once the request of a client that pairs has arrived. -/
def arrived (s : HueApiServer) : Server :=
  { s.pairing with
    requests := Function.update s.pairing.requests s.pairing.nextRequest (some .reading)
    nextRequest := s.pairing.nextRequest + 1 }

/-- The save of a new user ends, if the request comes to it. -/
def afterSave (read : Server) (request : RequestId) (save : SaveOutcome) : Server :=
  match read.requests request with
  | some (.saving credentials snapshot) => read.saved request credentials snapshot save
  | _ => read

/-- POST /api, from the arrival of the request to the end of its handler. -/
def handleCreateUser (s : HueApiServer) (body : Body) (readings : Readings) : Handled :=
  let request := s.pairing.nextRequest
  let read := s.arrived.handleCreateUser request body readings.uuid4Hex readings.tokenHex
  let ended := afterSave read request readings.save
  { server := { s with pairing := ended }, reply := ((ended.responses.lookup request).join).map .json }

/-- GET /api/{username}/lights. -/
def handleV1Lights (s : HueApiServer) (uuid5Hex : String → String) (info : MatchInfo) : Handled :=
  s.ifPaired info (s.answer ((buildV1Lights uuid5Hex s.lightEntities).map (fun lights => { body := .object lights })))

def buildV1Groups (s : HueApiServer) : Except PyError (List (String × Json)) :=
  HueApi.buildV1Groups s.lightEntities s.bridge.entertainmentActive s.bridge.entertainmentOwner

/-- GET /api/{username}/groups. -/
def handleV1Groups (s : HueApiServer) (info : MatchInfo) : Handled :=
  s.ifPaired info (s.answer (s.buildV1Groups.map (fun groups => { body := .object groups })))

/-- GET /api/{username}. -/
def handleFullDatastore (s : HueApiServer) (uuid5Hex : String → String) (info : MatchInfo) (readings : Readings) :
    Handled :=
  s.ifPaired info (s.answer (do
    let lights ← buildV1Lights uuid5Hex s.lightEntities
    let groups ← s.buildV1Groups
    let datastore : Json := .object
      [("lights", .object lights), ("groups", .object groups), ("config", .object (s.buildV1Config readings)),
       ("schedules", .object []), ("scenes", .object []), ("rules", .object []), ("sensors", .object []),
       ("resourcelinks", .object [])]
    return { body := datastore }))

/-- GET /api/{username}/lights/{light_id}. -/
def handleV1LightById (s : HueApiServer) (uuid5Hex : String → String) (info : MatchInfo) : Handled :=
  s.answer (HueApi.handleV1LightById uuid5Hex s.paired s.lightEntities (parameter info "username")
    (parameter info "light_id"))

/-- GET /api/{username}/groups/{group_id}. -/
def handleV1GroupById (s : HueApiServer) (info : MatchInfo) : Handled :=
  s.answer (HueApi.handleV1GroupById s.paired s.lightEntities s.bridge.entertainmentActive s.bridge.entertainmentOwner
    (parameter info "username") (parameter info "group_id"))

/-- The call of `_on_light_command` that a body leads to. -/
def lightCommands (lightId : String) (body : Json) : List Callback :=
  match isdigit lightId, intOfString lightId with
  | true, .ok light => [.lightCommand light.toNat body]
  | _, _ => []

/-- The rest of `_handle_v1_light_state`, with the body that it has read. -/
def commandLight (s : HueApiServer) (info : MatchInfo) (body : Json) : Handled :=
  let lightId := parameter info "light_id"
  if s.onLightCommand then
    let (engine, response) :=
      HueApi.handleV1LightState s.paired s.bridge.engine (parameter info "username") lightId (some body)
    { server := { s with bridge := { s.bridge with engine := engine } }
      callbacks := lightCommands lightId body
      reply := response.toOption.map .json }
  else s.answer (stateResponse lightId body)

/-- PUT /api/{username}/lights/{light_id}/state. -/
def handleV1LightState (s : HueApiServer) (info : MatchInfo) (body : Body) : Handled :=
  s.ifPaired info (s.withBody body (s.commandLight info))

/-- `_set_entertainment_active`, with the callback it awaits if one is set. -/
def setEntertainmentActive (s : HueApiServer) (active : Bool) (username : String) : HueApiServer × List Callback :=
  if s.onEntertainment then
    ({ s with bridge := s.bridge.setEntertainmentActive active username },
      [if active then .entertainmentStart username else .entertainmentStop])
  else
    ({ s with bridge := if active then { s.bridge with entertainmentActive := true, entertainmentOwner := some username }
        else s.bridge.clearEntertainment }, [])

/-- `stream.get("active", False)`. -/
def activeOf (stream : Json) : Json := (field stream "active").getD (.bool false)

/-- `_set_entertainment_active` of a stream, and the reply after it. -/
def switchStream (s : HueApiServer) (info : MatchInfo) (stream : Json) (reply : Json) : Handled :=
  let (server, callbacks) := s.setEntertainmentActive (truthy (activeOf stream)) (parameter info "username")
  { server := server, callbacks := callbacks, reply := some (.json { body := reply }) }

/-- The rest of `_handle_v1_group_put`; `get` and `items` are methods of an object only. -/
def updateGroup (s : HueApiServer) (info : MatchInfo) : (body : Json) → Handled
  | .object fields =>
      let reply := .array (echoedGroup ("/groups/" ++ parameter info "group_id") fields)
      match field (.object fields) "stream" with
      | none | some .null => s.answerJson reply
      | some (.object stream) => s.switchStream info (.object stream) reply
      | some _ => s.answer (.error .attributeError)
  | _ => s.answer (.error .attributeError)

/-- PUT /api/{username}/groups/{group_id}. -/
def handleV1GroupPut (s : HueApiServer) (info : MatchInfo) (body : Body) : Handled :=
  s.ifPaired info (s.withBody body (s.updateGroup info))

/-- The rest of `_handle_v1_stream`. -/
def updateStream (s : HueApiServer) (info : MatchInfo) : (body : Json) → Handled
  | .object fields =>
      match (field (.object fields) "stream").getD (.object fields) with
      | .object stream =>
          s.switchStream info (.object stream)
            (.array [successBody "/groups/1/stream/active" (activeOf (.object stream))])
      | _ => s.answer (.error .attributeError)
  | _ => s.answer (.error .attributeError)

/-- PUT /api/{username}/groups/{group_id}/stream. -/
def handleV1Stream (s : HueApiServer) (info : MatchInfo) (body : Body) : Handled :=
  s.ifPaired info (s.withBody body (s.updateStream info))

/-- GET of any other resource. -/
def handleV1Catchall (s : HueApiServer) (info : MatchInfo) : Handled :=
  s.ifPaired info (s.answerJson (.object []))

/-- The rest of `_handle_v1_put_catchall`. -/
def echoResource (s : HueApiServer) (info : MatchInfo) : (body : Json) → Handled
  | .object fields =>
      let param := parameter info "param"
      let path := "/" ++ parameter info "resource" ++ "/" ++ parameter info "id"
      s.answerJson (.array (echoed (if param = "" then path else path ++ "/" ++ param) fields))
  | _ => s.answer (.error .attributeError)

/-- PUT of any other resource. -/
def handleV1PutCatchall (s : HueApiServer) (info : MatchInfo) (body : Body) : Handled :=
  s.ifPaired info (s.withBody body (s.echoResource info))

/-- POST to any other resource. -/
def handleV1PostCatchall (s : HueApiServer) (info : MatchInfo) : Handled :=
  s.ifPaired info (s.answerJson (.array
    [if parameter info "resource" = "lights" then successBody "/lights" (.str "Searching for new devices")
     else successBody "id" (.str "0")]))

/-- DELETE of any resource. -/
def handleV1DeleteCatchall (s : HueApiServer) (info : MatchInfo) : Handled :=
  s.ifPaired info (s.answerJson (.array [.object
    [("success", .str ("/" ++ parameter info "resource" ++ "/" ++ parameter info "id" ++ " deleted"))]]))

/-- `getattr(self, attr)(request)`. -/
def handle (s : HueApiServer) (uuid5Hex : String → String) (handler : Handler) (info : MatchInfo)
    (body : Body) (readings : Readings) : Handled :=
  match handler with
  | .handleDescriptionXml => s.handleDescriptionXml
  | .handleConfig => s.handleConfig readings
  | .handleCreateUser => s.handleCreateUser body readings
  | .handleFullDatastore => s.handleFullDatastore uuid5Hex info readings
  | .handleConfigAuth => s.handleConfigAuth info readings
  | .handleCapabilities => s.handleCapabilities info
  | .handleV1Lights => s.handleV1Lights uuid5Hex info
  | .handleV1LightById => s.handleV1LightById uuid5Hex info
  | .handleV1LightState => s.handleV1LightState info body
  | .handleV1Groups => s.handleV1Groups info
  | .handleV1GroupById => s.handleV1GroupById info
  | .handleV1GroupPut => s.handleV1GroupPut info body
  | .handleV1Stream => s.handleV1Stream info body
  | .handleV1Catchall => s.handleV1Catchall info
  | .handleV1PutCatchall => s.handleV1PutCatchall info body
  | .handleV1PostCatchall => s.handleV1PostCatchall info
  | .handleV1DeleteCatchall => s.handleV1DeleteCatchall info

section
variable {s : HueApiServer} {info : MatchInfo} {body : Body} {motive : Handled → Prop}

/-- What holds of every answer and of the rest of a handler for a paired client holds of the handler. -/
theorem ifPaired_rule (answered : ∀ response, motive (s.answer response)) {handled : Handled}
    (rest : s.checkUsername info ≠ none → motive handled) : motive (s.ifPaired info handled) := by
  unfold ifPaired
  split
  next => exact answered _
  next paired => exact rest paired

/-- What holds of every answer and of the rest of a handler, whatever body it has read, holds of the handler. -/
theorem withBody_rule (answered : ∀ response, motive (s.answer response)) {handle : Json → Handled}
    (rest : ∀ given, safeJson body = .ok (some given) → motive (handle given)) : motive (s.withBody body handle) := by
  unfold withBody
  split
  next => exact answered _
  next => exact answered _
  next given read => exact rest given read

theorem updateGroup_rule (answered : ∀ response, motive (s.answer response))
    (switched : ∀ stream reply, motive (s.switchStream info stream reply)) (given : Json) :
    motive (s.updateGroup info given) := by
  cases given with
  | object fields =>
    simp only [updateGroup]
    split
    next => exact answered _
    next => exact answered _
    next => exact switched _ _
    next => exact answered _
  | _ => exact answered _

theorem updateStream_rule (answered : ∀ response, motive (s.answer response))
    (switched : ∀ stream reply, motive (s.switchStream info stream reply)) (given : Json) :
    motive (s.updateStream info given) := by
  cases given with
  | object fields =>
    simp only [updateStream]
    split
    next => exact switched _ _
    next => exact answered _
  | _ => exact answered _

/-- What holds of every answer and of the four handlers that do more holds of every handler. -/
theorem handle_rule (uuid5Hex : String → String) {readings : Readings} (answered : ∀ response, motive (s.answer response))
    (described : motive s.handleDescriptionXml) (created : motive (s.handleCreateUser body readings))
    (commanded : s.checkUsername info ≠ none → ∀ given, motive (s.commandLight info given))
    (switched : ∀ stream reply, motive (s.switchStream info stream reply)) (handler : Handler) :
    motive (s.handle uuid5Hex handler info body readings) := by
  have guarded : ∀ {rest : Json → Handled}, (s.checkUsername info ≠ none → ∀ given, motive (rest given)) →
      motive (s.ifPaired info (s.withBody body rest)) := fun holds =>
    ifPaired_rule answered (fun paired => withBody_rule answered (fun given _ => holds paired given))
  cases handler with
  | handleDescriptionXml => exact described
  | handleConfig => exact answered _
  | handleCreateUser => exact created
  | handleV1LightById => exact answered _
  | handleV1GroupById => exact answered _
  | handleV1LightState => exact guarded commanded
  | handleV1GroupPut => exact guarded (fun _ => updateGroup_rule answered switched)
  | handleV1Stream => exact guarded (fun _ => updateStream_rule answered switched)
  | handleV1PutCatchall =>
    apply guarded
    intro _ given
    cases given <;> exact answered _
  | _ => exact ifPaired_rule answered (fun _ => answered _)

theorem paired_of_checkUsername (paired : s.checkUsername info ≠ none) :
    s.paired (parameter info "username") = true := by
  unfold checkUsername at paired
  by_contra unknown
  exact paired (if_neg unknown)

end

end HueApiServer

/-- The server of an entry with one light. -/
def oneLightServer (users : Users) : HueApiServer where
  bridgeId := "001788fffe123456"
  mac := "00:17:88:12:34:56"
  hostIp := "192.168.1.2"
  httpPort := 80
  channelCount := 1
  lightEntities := ["light.one"]
  pairing := serverOf users true 0
  bridge := { engine := EngineSteps.oneLight }
  onEntertainment := true
  onLightCommand := true

def newYear : Readings := ⟨"2026-01-01T00:00:00", "2026-01-01T00:00:00", "first", "aa", .persisted⟩

/-- The body with which a TV starts its stream. -/
def startBody : Json := .object [("stream", .object [("active", .bool true)])]

end HueEntertainment.ApiServer
