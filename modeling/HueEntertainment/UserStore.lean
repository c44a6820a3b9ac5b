import HueEntertainment.PyValue
import Mathlib.Data.List.Sort

/-! The paired users: a dictionary from usernames to client keys and device types, in the order in which the
users were added. -/

namespace HueEntertainment.UserStore
open PyValue

/-- A piece of the canonical form of a JSON value. -/
inductive Token where
  | null
  | number (value : ℚ)
  | infinite (negative : Bool)
  | nan
  | str (value : String)
  | opened
  | openedDict
  | key (name : String)
  | closed
  deriving DecidableEq

/-- The values of a dictionary under their keys, in the order of the keys. -/
def sortFields (fields : List (String × List Token)) : List (String × List Token) :=
  fields.insertionSort (fun first second => first.1 ≤ second.1)

mutual
/-- Two values are equal in Python if and only if these forms are, except that a float nan is unequal to itself:
bools are the ints 0 and 1, ints and floats are compared as numbers, the order of keys does not count. -/
def tokens : Json → List Token
  | .null => [.null]
  | .bool value => [.number (if value then 1 else 0)]
  | .int value => [.number value]
  | .float (.finite value) => [.number value]
  | .float (.infinite negative) => [.infinite negative]
  | .float .nan => [.nan]
  | .str value => [.str value]
  | .array items => .opened :: tokensAll items
  | .object fields =>
      .openedDict :: ((sortFields (tokensFields fields)).flatMap (fun field => .key field.1 :: field.2) ++ [.closed])

def tokensAll : List Json → List Token
  | [] => [.closed]
  | item :: rest => tokens item ++ tokensAll rest

def tokensFields : List (String × Json) → List (String × List Token)
  | [] => []
  | field :: rest => tokensField field :: tokensFields rest

def tokensField : String × Json → String × List Token
  | (name, value) => (name, tokens value)
end

/-- `left == right`. -/
def pyEq (left right : Json) : Bool := tokens left = tokens right && tokens left ≠ [.nan]

theorem pyEq_symm {left right : Json} (equal : pyEq left right = true) : pyEq right left = true := by
  simp only [pyEq, Bool.and_eq_true, decide_eq_true_eq] at equal ⊢
  exact ⟨equal.1.symm, equal.1 ▸ equal.2⟩

theorem pyEq_trans {left middle right : Json} (first : pyEq left middle = true) (second : pyEq middle right = true) :
    pyEq left right = true := by
  simp only [pyEq, Bool.and_eq_true, decide_eq_true_eq] at first second ⊢
  exact ⟨first.1.trans second.1, first.2⟩

theorem pyEq_self {left right : Json} (equal : pyEq left right = true) : pyEq left left = true :=
  pyEq_trans equal (pyEq_symm equal)

/-- Equal values are equal to the same values. -/
theorem pyEq_congr {left right : Json} (equal : pyEq left right = true) (other : Json) :
    pyEq other left = pyEq other right := by
  rw [Bool.eq_iff_iff]
  exact ⟨fun same => pyEq_trans same equal, fun same => pyEq_trans same (pyEq_symm equal)⟩

structure User where
  clientkey : String
  devicetype : Json

abbrev Users := List (String × User)

/-- `add`: a known username keeps its place. -/
def add (users : Users) (username clientkey : String) (devicetype : Json) : Users :=
  if (users.lookup username).isSome then
    users.map (fun entry => if entry.1 = username then (username, ⟨clientkey, devicetype⟩) else entry)
  else users ++ [(username, ⟨clientkey, devicetype⟩)]

def getPsk (users : Users) (username : String) : Option String := (users.lookup username).map User.clientkey

/-- `get_by_devicetype`: the most recently added user with the device type. -/
def getByDevicetype (users : Users) (devicetype : Json) : Option (String × String) :=
  (users.reverse.find? (fun entry => pyEq entry.2.devicetype devicetype)).map (fun entry => (entry.1, entry.2.clientkey))

def hexDigit (c : Char) : Option Nat :=
  if '0' ≤ c ∧ c ≤ '9' then some (c.toNat - '0'.toNat)
  else if 'a' ≤ c ∧ c ≤ 'f' then some (c.toNat - 'a'.toNat + 10)
  else if 'A' ≤ c ∧ c ≤ 'F' then some (c.toNat - 'A'.toNat + 10)
  else none

/-- `bytes.fromhex`: two digits a byte, ASCII whitespace allowed between bytes. -/
def bytesFromHex : List Char → Except PyError (List UInt8)
  | [] => .ok []
  | c :: rest =>
      if c ∈ [' ', '\t', '\n', '\r', '\x0b', '\x0c'] then bytesFromHex rest
      else match rest with
        | [] => .error .valueError
        | d :: rest =>
            match hexDigit c, hexDigit d with
            | some high, some low => do
                let bytes ← bytesFromHex rest
                return UInt8.ofNat (16 * high + low) :: bytes
            | _, _ => .error .valueError

/-- `psk_lookup`: the key that the DTLS server offers for an identity. -/
def pskLookup (users : Users) (identity : String) : Option (Except PyError (List UInt8)) :=
  (getPsk users identity).map (fun hexKey => bytesFromHex hexKey.toList)

section
variable {users : Users} {username clientkey : String} {devicetype : Json}

theorem add_new (unknown : users.lookup username = none) :
    add users username clientkey devicetype = users ++ [(username, ⟨clientkey, devicetype⟩)] := by
  unfold add
  rw [unknown]
  rfl

theorem lookup_eq_none_of_notMem (unknown : username ∉ users.map Prod.fst) : users.lookup username = none := by
  rw [List.lookup_eq_none_iff]
  intro entry member
  rw [bne_iff_ne]
  intro same
  exact unknown (same ▸ List.mem_map_of_mem member)

/-- Users that are only added to keep their keys. -/
theorem getPsk_of_prefix {later : Users} (grown : users <+: later) (found : getPsk users username = some clientkey) :
    getPsk later username = some clientkey := by
  obtain ⟨more, rfl⟩ := grown
  obtain ⟨user, known, rfl⟩ := Option.map_eq_some_iff.mp found
  unfold getPsk
  rw [List.lookup_append, known]
  rfl

theorem getPsk_of_mem (distinct : (users.map Prod.fst).Nodup) {user : User} (member : (username, user) ∈ users) :
    getPsk users username = some user.clientkey := by
  induction users with
  | nil => cases member
  | cons first rest ih =>
    obtain ⟨name, found⟩ := first
    rw [List.map_cons, List.nodup_cons] at distinct
    unfold getPsk
    rw [List.lookup_cons]
    rcases List.mem_cons.mp member with same | later
    · cases same
      simp
    · have other : (username == name) = false := by
        rw [beq_eq_false_iff_ne]
        intro same
        exact distinct.1 (List.mem_map.mpr ⟨_, later, same⟩)
      rw [other]
      exact ih distinct.2 later

theorem getByDevicetype_mem (found : getByDevicetype users devicetype = some (username, clientkey)) :
    ∃ known, (username, ⟨clientkey, known⟩) ∈ users ∧ pyEq known devicetype = true := by
  obtain ⟨⟨name, user⟩, first, same⟩ := Option.map_eq_some_iff.mp found
  cases same
  have equal := List.find?_some (p := fun entry : String × User => pyEq entry.2.devicetype devicetype) first
  exact ⟨user.devicetype, List.mem_reverse.mp (List.mem_of_find?_eq_some first), equal⟩

theorem getByDevicetype_none (absent : getByDevicetype users devicetype = none) :
    ∀ entry ∈ users, pyEq entry.2.devicetype devicetype = false := by
  intro entry member
  have none := Option.map_eq_none_iff.mp absent
  simpa using List.find?_eq_none.mp none entry (List.mem_reverse.mpr member)

theorem getByDevicetype_congr {first second : Json} (equal : pyEq first second = true) :
    getByDevicetype users first = getByDevicetype users second := by
  unfold getByDevicetype
  simp only [pyEq_congr equal]

/-- A user added last is the one found, if its device type is the one looked for. -/
theorem getByDevicetype_add (unknown : users.lookup username = none) (wanted : Json) :
    getByDevicetype (add users username clientkey devicetype) wanted =
      if pyEq devicetype wanted then some (username, clientkey) else getByDevicetype users wanted := by
  unfold getByDevicetype
  rw [add_new unknown, List.reverse_append]
  simp only [List.reverse_singleton, List.singleton_append, List.find?_cons]
  cases pyEq devicetype wanted <;> rfl

end

end HueEntertainment.UserStore
