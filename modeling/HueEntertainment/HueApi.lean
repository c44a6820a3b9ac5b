import HueEntertainment.Entertainment

/-! The part of `HueAPIServer` that names lights: the v1 resources it builds of them and the handlers of
their requests. Every JSON value is built in full. -/

namespace HueEntertainment.HueApi
open PyValue LightCommand Entertainment

/-- `str(value)` of an int that is not negative; like `int`, it refuses more than 4300 digits. -/
def strOf (value : Nat) : Except PyError String :=
  if (toString value).length ≤ 4300 then .ok (toString value) else .error .valueError

/-- Code points of single digits that are no decimals, such as superscripts: first and last of each run. -/
def otherDigits : List (Nat × Nat) :=
  [(178, 179), (185, 185), (4969, 4977), (6618, 6618), (8304, 8304), (8308, 8313), (8320, 8329), (9312, 9320),
   (9332, 9340), (9352, 9360), (9450, 9450), (9461, 9469), (9471, 9471), (10102, 10110), (10112, 10120),
   (10122, 10130), (68160, 68163), (69216, 69224), (69714, 69722), (127232, 127242)]

/-- `text.isdigit()`. -/
def isdigit (text : String) : Bool :=
  text.toList ≠ [] && text.toList.all (fun c =>
    (digitValue c).isSome || otherDigits.any (fun run => run.1 ≤ c.toNat && c.toNat ≤ run.2))

structure Response where
  status : Nat := 200
  body : Json

def errorBody (kind : ℤ) (address description : String) : Json :=
  .array [.object [("error", .object
    [("type", .int kind), ("address", .str address), ("description", .str description)])]]

def unauthorizedResponse : Response := { body := errorBody 1 "/" "unauthorized user" }

def invalidJsonResponse : Response := { body := errorBody 2 "/" "body contains invalid json" }

def notAvailableResponse (path : String) : Response :=
  { status := 404, body := errorBody 3 path ("resource, " ++ path ++ ", not available") }

def jsonFloat (value : ℚ) : Json := .float (.finite value)

section
variable (uuid5Hex : String → String)

/-- Eight pairs of the 32 hexadecimal digits of `uuid.uuid5(NAMESPACE_DNS, name).hex`. -/
def uniqueidOf (entityId : String) : String :=
  let digits := (uuid5Hex ("uniqueid-" ++ entityId)).toList
  ":".intercalate ((List.range 8).map (fun j => String.ofList ((digits.drop (2 * j)).take 2))) ++ "-0b"

/-- One value of `_build_v1_lights`. -/
def v1Light (entityId : String) : Json :=
  .object
    [("state", .object
      [("on", .bool true), ("bri", .int 254), ("hue", .int 0), ("sat", .int 0),
       ("xy", .array [jsonFloat 0, jsonFloat 0]), ("ct", .int 500), ("alert", .str "select"),
       ("effect", .str "none"), ("colormode", .str "xy"), ("mode", .str "homeautomation"),
       ("reachable", .bool true)]),
     ("type", .str "Extended color light"),
     ("name", .str entityId),
     ("modelid", .str "LCT015"),
     ("manufacturername", .str "Signify Netherlands B.V."),
     ("productname", .str "Hue color lamp"),
     ("capabilities", .object
      [("certified", .bool true),
       ("control", .object
        [("mindimlevel", .int 200), ("maxlumen", .int 800), ("colorgamuttype", .str "C"),
         ("colorgamut", .array
          [.array [jsonFloat (6915 / 10000), jsonFloat (3083 / 10000)],
           .array [jsonFloat (17 / 100), jsonFloat (7 / 10)],
           .array [jsonFloat (1532 / 10000), jsonFloat (475 / 10000)]]),
         ("ct", .object [("min", .int 153), ("max", .int 500)])]),
       ("streaming", .object [("renderer", .bool true), ("proxy", .bool false)])]),
     ("uniqueid", .str (uniqueidOf uuid5Hex entityId)),
     ("swversion", .str "1.104.2")]

/-- The entries of `_build_v1_lights` for the entities from one number on. -/
def v1LightsFrom : (number : Nat) → List String → Except PyError (List (String × Json))
  | _, [] => .ok []
  | number, entityId :: rest => do
      let id ← strOf number
      let later ← v1LightsFrom (number + 1) rest
      return (id, v1Light uuid5Hex entityId) :: later

def buildV1Lights (lightEntities : List String) : Except PyError (List (String × Json)) :=
  v1LightsFrom uuid5Hex 1 lightEntities

/-- GET /api/{username}/lights/{light_id}. -/
def handleV1LightById (paired : String → Bool) (lightEntities : List String) (username lightId : String) :
    Except PyError Response :=
  if paired username then do
    let lights ← buildV1Lights uuid5Hex lightEntities
    match lights.lookup lightId with
    | none => return notAvailableResponse ("/lights/" ++ lightId)
    | some light => return { body := light }
  else .ok unauthorizedResponse

end

/-- The ids of the group's lights. -/
def lightIdsFrom : (number count : Nat) → Except PyError (List String)
  | _, 0 => .ok []
  | number, count + 1 => do
      let id ← strOf number
      let later ← lightIdsFrom (number + 1) count
      return id :: later

/-- Where the group has its light of one number: the lights stand in a row from -1 to 1. -/
def locationOf (total number : Nat) : Json :=
  let x : ℚ := -1 + 2 * (number - 1) / (max (total - 1) 1 : Nat)
  .array [jsonFloat (roundDigits x 4), jsonFloat 1, jsonFloat 0]

def locationsFrom (total : Nat) : (number count : Nat) → Except PyError (List (String × Json))
  | _, 0 => .ok []
  | number, count + 1 => do
      let id ← strOf number
      let later ← locationsFrom total (number + 1) count
      return (id, locationOf total number) :: later

/-- The only group: its stream shows the flags of the API server. -/
def v1Group (lightIds : List String) (locations : List (String × Json)) (active : Bool) (owner : Option String) :
    Json :=
  .object
    [("name", .str "TV Entertainment"),
     ("lights", .array (lightIds.map .str)),
     ("sensors", .array []),
     ("type", .str "Entertainment"),
     ("class", .str "TV"),
     ("stream", .object
      [("proxymode", .str "auto"), ("proxynode", .str ("/lights/" ++ lightIds.headD "")),
       ("active", .bool active), ("owner", owner.elim .null .str)]),
     ("locations", .object locations),
     ("state", .object [("any_on", .bool true), ("all_on", .bool true)]),
     ("action", .object
      [("on", .bool true), ("bri", .int 254), ("hue", .int 0), ("sat", .int 0), ("effect", .str "none"),
       ("xy", .array [jsonFloat 0, jsonFloat 0]), ("ct", .int 500), ("alert", .str "none"),
       ("colormode", .str "xy")])]

def buildV1Groups (lightEntities : List String) (active : Bool) (owner : Option String) :
    Except PyError (List (String × Json)) :=
  if lightEntities = [] then .ok []
  else do
    let lightIds ← lightIdsFrom 1 lightEntities.length
    let locations ← locationsFrom lightEntities.length 1 lightEntities.length
    return [("1", v1Group lightIds locations active owner)]

/-- GET /api/{username}/groups/{group_id}. -/
def handleV1GroupById (paired : String → Bool) (lightEntities : List String) (active : Bool)
    (owner : Option String) (username groupId : String) : Except PyError Response :=
  if paired username then do
    let groups ← buildV1Groups lightEntities active owner
    match groups.lookup groupId with
    | none => return notAvailableResponse ("/groups/" ++ groupId)
    | some group => return { body := group }
  else .ok unauthorizedResponse

/-- What `handle_light_command` raises: nothing before it translates the body of a mapped light. -/
def commandError (s : Engine) (lightId : Nat) (body : Json) : Option PyError :=
  if s.suppressed then none
  else match s.mappingOf lightId with
    | none => none
    | some mapping =>
        match mapping.commandSlot lightId body with
        | .error error => some error
        | .ok _ => none

/-- Each key of the body echoed; only an object has `items`. -/
def stateResponse (lightId : String) : Json → Except PyError Response
  | .object fields => .ok { body := .array (fields.map (fun field =>
      .object [("success", .object [("/lights/" ++ lightId ++ "/state/" ++ field.1, field.2)])])) }
  | _ => .error .attributeError

/-- What `request.json()` makes of a request: its value, or an error. -/
abbrev Body := Except PyError Json

/-- `_safe_json`: null is None, like what is no JSON; JSON nested too deeply raises something else. -/
def safeJson : Body → Except PyError (Option Json)
  | .ok .null => .ok none
  | .ok body => .ok (some body)
  | .error .valueError => .ok none
  | .error error => .error error

/-- PUT /api/{username}/lights/{light_id}/state, with the body that `_safe_json` made of the request. An id
of digits has no sign, so what `int` makes of it is a light's number. -/
def handleV1LightState (paired : String → Bool) (s : Engine) (username lightId : String) (body : Option Json) :
    Engine × Except PyError Response :=
  if paired username then
    match body with
    | none => (s, .ok invalidJsonResponse)
    | some body =>
        if isdigit lightId then
          match intOfString lightId with
          | .error error => (s, .error error)
          | .ok light =>
              match commandError s light.toNat body with
              | some error => (s, .error error)
              | none => (s.handleLightCommand light.toNat body, stateResponse lightId body)
        else (s, stateResponse lightId body)
  else (s, .ok unauthorizedResponse)

theorem digitValue_of_isDigit {c : Char} (digit : c.isDigit = true) : digitValue c = some (c.toNat - 48) := by
  have range : 48 ≤ c.toNat ∧ c.toNat ≤ 57 := by
    simpa [Char.isDigit, UInt32.le_iff_toNat_le] using digit
  have first : digitZeros.find? (fun first => first ≤ c.toNat && c.toNat ≤ first + 9) = some 48 := by
    unfold digitZeros
    rw [List.find?_cons_of_pos]
    simpa using range
  unfold digitValue
  rw [first]
  rfl

/-- The test of `isdigit` on one character. -/
def isDigitLike (c : Char) : Bool :=
  (digitValue c).isSome || otherDigits.any (fun run => run.1 ≤ c.toNat && c.toNat ≤ run.2)

/-- The code points that `isDigitLike` holds of, as runs. -/
def digitRuns : List (Nat × Nat) := digitZeros.map (fun first => (first, first + 9)) ++ otherDigits

/-- What `int` reads besides digits: blanks, signs and the underscore. -/
def otherMarks : List (Nat × Nat) :=
  [(9, 13), (32, 32), (8192, 8202), (133, 133), (160, 160), (5760, 5760), (8232, 8233), (8239, 8239), (8287, 8287),
   (12288, 12288), (43, 43), (45, 45), (95, 95)]

theorem runs_apart : ∀ run ∈ digitRuns, ∀ mark ∈ otherMarks, mark.2 < run.1 ∨ run.2 < mark.1 := by decide +kernel

theorem digitRuns_of_isDigitLike {c : Char} (digit : isDigitLike c = true) :
    ∃ run ∈ digitRuns, run.1 ≤ c.toNat ∧ c.toNat ≤ run.2 := by
  rcases Bool.or_eq_true_iff.mp digit with decimal | other
  · obtain ⟨value, found⟩ := Option.isSome_iff_exists.mp decimal
    obtain ⟨first, found, _⟩ := Option.map_eq_some_iff.mp found
    have within := List.find?_some found
    simp only [Bool.and_eq_true, decide_eq_true_eq] at within
    exact ⟨(first, first + 9), List.mem_append_left _ (List.mem_map_of_mem (List.mem_of_find?_eq_some found)), within⟩
  · obtain ⟨run, member, within⟩ := List.any_eq_true.mp other
    simp only [Bool.and_eq_true, decide_eq_true_eq] at within
    exact ⟨run, List.mem_append_right _ member, within⟩

/-- No digit is a blank, a sign or an underscore. -/
theorem unmarked {c : Char} (digit : isDigitLike c = true) {mark : Nat × Nat} (member : mark ∈ otherMarks) :
    ¬(mark.1 ≤ c.toNat ∧ c.toNat ≤ mark.2) := by
  obtain ⟨run, known, within⟩ := digitRuns_of_isDigitLike digit
  have apart := runs_apart run known mark member
  omega

theorem mark_of_isBlank {c : Char} (blank : isBlank c = true) :
    ∃ mark ∈ otherMarks, mark.1 ≤ c.toNat ∧ c.toNat ≤ mark.2 := by
  unfold isBlank isSpace at blank
  simp [otherMarks] at blank ⊢
  omega

theorem isDigitLike_of_isDigit {c : Char} (digit : c.isDigit = true) : isDigitLike c = true := by
  unfold isDigitLike
  rw [digitValue_of_isDigit digit]
  rfl

theorem isBlank_of_isDigitLike {c : Char} (digit : isDigitLike c = true) : isBlank c = false := by
  rw [Bool.eq_false_iff]
  intro blank
  obtain ⟨mark, member, within⟩ := mark_of_isBlank blank
  exact unmarked digit member within

theorem trim_of_isDigitLike {text : List Char} (digits : ∀ c ∈ text, isDigitLike c = true) :
    trim isBlank text = text :=
  trim_eq_self (fun c member => isBlank_of_isDigitLike (digits c member))

theorem splitSign_of_isDigitLike {text : List Char} (digits : ∀ c ∈ text, isDigitLike c = true) :
    splitSign text = (false, text) := by
  unfold splitSign
  split
  next rest =>
    exact absurd (digits '-' List.mem_cons_self) (by decide +kernel)
  next rest =>
    exact absurd (digits '+' List.mem_cons_self) (by decide +kernel)
  next => rfl

theorem digitsOf_of_isDigit {text : List Char} (nonempty : text ≠ []) (digits : ∀ c ∈ text, c.isDigit = true) :
    digitsOf text = some (text.map (fun c => c.toNat - 48)) := by
  fun_induction digitsOf text with
  | case1 => exact absurd rfl nonempty
  | case2 c => simp [digitValue_of_isDigit (digits c List.mem_cons_self)]
  | case3 c rest _ =>
    have underscore := digits '_' (by simp)
    cases underscore
  | case4 c rest empty under ih =>
    have first := digitValue_of_isDigit (digits c List.mem_cons_self)
    have later := ih empty (fun d member => digits d (List.mem_cons_of_mem _ member))
    simp [first, later]

/-- A text without underscores is read digit by digit. -/
theorem digitsOf_plain {text : List Char} (nonempty : text ≠ []) (plain : '_' ∉ text) :
    (∀ c ∈ text, (digitValue c).isSome) ∧ (∃ digits, digitsOf text = some digits ∧ digits.length = text.length) ∨
      (¬∀ c ∈ text, (digitValue c).isSome) ∧ digitsOf text = none := by
  fun_induction digitsOf text with
  | case1 => exact absurd rfl nonempty
  | case2 c => cases digit : digitValue c <;> simp [digit]
  | case3 c rest _ => simp at plain
  | case4 c rest empty under ih =>
    cases digit : digitValue c with
    | none => simp [digit]
    | some value =>
      obtain ⟨read, digits, found, same⟩ | ⟨unread, none⟩ := ih empty (fun member => plain (List.mem_cons_of_mem _ member))
      · exact .inl ⟨by simpa [digit] using read, value :: digits, by simp [found], by simp [same]⟩
      · exact .inr ⟨by simpa [digit] using unread, by simp [none]⟩

/-- What `int` makes of a text that `isdigit` accepts: it wants decimal digits, and not too many. -/
theorem intOfString_isdigit {text : String} (digits : isdigit text = true) :
    (∃ value, intOfString text = .ok value) ↔
      (∀ c ∈ text.toList, (digitValue c).isSome) ∧ text.toList.length ≤ 4300 := by
  obtain ⟨filled, all⟩ := Bool.and_eq_true_iff.mp digits
  have nonempty : text.toList ≠ [] := by simpa using filled
  have each : ∀ c ∈ text.toList, isDigitLike c = true := List.all_eq_true.mp all
  have underscore : (95, 95) ∈ otherMarks := by decide
  have plain : '_' ∉ text.toList := fun member => unmarked (each _ member) underscore (by decide)
  have unsigned : splitSign (trim isBlank text.toList) = (false, text.toList) := by
    rw [trim_of_isDigitLike each, splitSign_of_isDigitLike each]
  unfold intOfString
  rw [unsigned]
  obtain ⟨read, values, found, same⟩ | ⟨unread, none⟩ := digitsOf_plain nonempty plain
  · simp only [found, same]
    by_cases short : text.toList.length ≤ 4300
    · rw [if_pos short]
      exact iff_of_true ⟨_, rfl⟩ ⟨read, short⟩
    · rw [if_neg short]
      exact iff_of_false (by simp) (fun both => short both.2)
  · simp only [none]
    exact iff_of_false (by simp) (fun both => unread both.1)

theorem natOfDigits_toDigits (value : Nat) :
    natOfDigits ((Nat.toDigits 10 value).map (fun c => c.toNat - 48)) = value := by
  have same := Nat.ofDigitChars_toDigits (b := 10) (n := value) (by decide) (by decide)
  rw [Nat.ofDigitChars_eq_foldl] at same
  unfold natOfDigits
  rw [List.foldl_map]
  exact same

theorem strOf_eq {value : Nat} {id : String} (written : strOf value = .ok id) :
    id = toString value ∧ id.toList.length ≤ 4300 := by
  unfold strOf at written
  split at written
  next short =>
    cases written
    exact ⟨rfl, short⟩
  next => cases written

theorem toList_toString (value : Nat) : (toString value).toList = Nat.toDigits 10 value := Nat.toList_repr

/-- `int` reads back what `str` wrote. -/
theorem intOfString_strOf {value : Nat} {id : String} (written : strOf value = .ok id) :
    intOfString id = .ok value := by
  obtain ⟨rfl, short⟩ := strOf_eq written
  have digits : ∀ c ∈ Nat.toDigits 10 value, c.isDigit = true :=
    fun c member => Nat.isDigit_of_mem_toDigits (by decide) (by decide) member
  unfold intOfString
  have each : ∀ c ∈ Nat.toDigits 10 value, isDigitLike c = true :=
    fun c member => isDigitLike_of_isDigit (digits c member)
  rw [toList_toString, trim_of_isDigitLike each, splitSign_of_isDigitLike each]
  simp only [digitsOf_of_isDigit Nat.toDigits_ne_nil digits, List.length_map]
  rw [toList_toString] at short
  rw [if_pos short, natOfDigits_toDigits]
  rfl

theorem isdigit_strOf {value : Nat} {id : String} (written : strOf value = .ok id) : isdigit id = true := by
  obtain ⟨rfl, _⟩ := strOf_eq written
  unfold isdigit
  rw [toList_toString, Bool.and_eq_true]
  refine ⟨by simp [Nat.toDigits_ne_nil], ?_⟩
  rw [List.all_eq_true]
  intro c member
  exact isDigitLike_of_isDigit (Nat.isDigit_of_mem_toDigits (by decide) (by decide) member)

theorem strOf_inj {value other : Nat} {id : String} (written : strOf value = .ok id) (again : strOf other = .ok id) :
    value = other := by
  have read := intOfString_strOf written
  rw [intOfString_strOf again] at read
  exact Int.ofNat.inj (Except.ok.inj read).symm

end HueEntertainment.HueApi
