import HueEntertainment.StrReplace

/-! The bridge id that the config flow makes from random digits, and the MAC address that the config flow and the
setup of the entry read off it. -/

namespace HueEntertainment.BridgeId
open StrReplace

def marker : List Char := "FFFE".toList

def upperDigits : List Char := "0123456789ABCDEF".toList

def lowerDigits : List Char := "0123456789abcdef".toList

/-- `":".join(groups)`. -/
def joined (groups : List (List Char)) : String := String.ofList ([':'].intercalate groups)

/-- `async_step_user`: `uuid.uuid4().hex[:12].upper()`. -/
def rawOf (uuid4Hex : String) : String := String.ofList ((uuid4Hex.toList.take 12).map Char.toUpper)

/-- `async_step_user`: `raw[:6] + "FFFE" + raw[6:]`. -/
def bridgeIdOf (raw : String) : String := String.ofList (raw.toList.take 6 ++ (marker ++ raw.toList.drop 6))

/-- Every `FFFE` is removed, not only the one that `async_step_user` has inserted. -/
def macFromBridgeId (bridgeId : String) : String :=
  let hex12 := ((replace marker [] bridgeId.toList).take 12).map Char.toLower
  joined ((List.range' 0 6 2).map (fun i => (hex12.drop i).take 2))

/-- Twelve upper-case hexadecimal digits. -/
@[ext] structure Raw where
  text : String
  length : text.toList.length = 12
  upper : ∀ c ∈ text.toList, c ∈ upperDigits

/-- `uuid.uuid4().hex`: the version and the variant are fixed, the other digits are random. -/
structure Uuid4Hex where
  text : String
  length : text.toList.length = 32
  lower : ∀ c ∈ text.toList, c ∈ lowerDigits
  version : text.toList[12]? = some '4'
  variant : ∃ c ∈ "89ab".toList, text.toList[16]? = some c

/-- The MAC address of the bridge that has been set up from these digits. -/
def Raw.mac (raw : Raw) : String := macFromBridgeId (bridgeIdOf raw.text)

/-- The digits two by two. -/
def bytePairs : List Char → List (List Char)
  | c :: d :: rest => [c, d] :: bytePairs rest
  | _ => []

/-- The lower-case byte pairs of the digits, with colons between them. -/
def Raw.spelled (raw : Raw) : String := joined (bytePairs (raw.text.toList.map Char.toLower))

/-- Six groups of two digits, with colons between them. -/
def SixPairs (mac : String) : Prop :=
  ∃ groups : List (List Char), groups.length = 6 ∧
    (∀ group ∈ groups, group.length = 2 ∧ ∀ c ∈ group, c ∈ lowerDigits) ∧ mac = joined groups

/-- Neither half of the digits has the marker. -/
def Raw.Unmarked (raw : Raw) : Prop := ¬marker <:+: raw.text.toList.take 6 ∧ ¬marker <:+: raw.text.toList.drop 6

theorem mem_of_all {text digits : List Char} (all : text.all (fun c => c ∈ digits) = true) :
    ∀ c ∈ text, c ∈ digits := by
  intro c member
  exact of_decide_eq_true (List.all_eq_true.mp all c member)

theorem marker_unbordered : Unbordered marker := by decide

theorem marker_ne_nil : marker ≠ [] := by decide

/-- What `mac_from_bridge_id` keeps of the generated id. -/
def Raw.kept (raw : Raw) : List Char := replace marker [] (bridgeIdOf raw.text).toList

theorem kept_eq (raw : Raw) :
    raw.kept = replace marker [] (raw.text.toList.take 6) ++ replace marker [] (raw.text.toList.drop 6) := by
  rw [Raw.kept, bridgeIdOf, String.toList_ofList, replace_between marker_unbordered marker_ne_nil, List.nil_append]

/-- The inserted marker is removed and nothing else, when no other one is there. -/
theorem kept_unmarked {raw : Raw} (unmarked : raw.Unmarked) : raw.kept = raw.text.toList := by
  rw [kept_eq, replace_of_not_infix unmarked.1, replace_of_not_infix unmarked.2, List.take_append_drop]

theorem kept_marked {raw : Raw} (marked : ¬raw.Unmarked) : raw.kept.length < 12 := by
  have first := (removed_sublist marker 0 (raw.text.toList.take 6)).length_le
  have second := (removed_sublist marker 0 (raw.text.toList.drop 6)).length_le
  have sizes : (raw.text.toList.take 6).length + (raw.text.toList.drop 6).length = 12 := by
    rw [← List.length_append, List.take_append_drop, raw.length]
  rw [kept_eq, List.length_append]
  rcases not_and_or.mp marked with occurs | occurs
  · have shorter := removed_length_lt marker_unbordered marker_ne_nil (not_not.mp occurs)
    exact Nat.lt_of_lt_of_le (Nat.add_lt_add_of_lt_of_le shorter second) sizes.le
  · have shorter := removed_length_lt marker_unbordered marker_ne_nil (not_not.mp occurs)
    exact Nat.lt_of_lt_of_le (Nat.add_lt_add_of_le_of_lt first shorter) sizes.le

theorem kept_upper {raw : Raw} {c : Char} (member : c ∈ raw.kept) : c ∈ upperDigits := by
  have inside := (removed_sublist marker 0 (bridgeIdOf raw.text).toList).subset member
  rw [bridgeIdOf, String.toList_ofList, List.mem_append, List.mem_append] at inside
  rcases inside with first | inserted | second
  · exact raw.upper c (List.mem_of_mem_take first)
  · exact mem_of_all (by decide) c inserted
  · exact raw.upper c (List.mem_of_mem_drop second)

theorem toLower_digit (c : Char) (digit : c ∈ upperDigits) : c.toLower ∈ lowerDigits := by
  have all : upperDigits.all (fun c => c.toLower ∈ lowerDigits) = true := by decide
  exact of_decide_eq_true (List.all_eq_true.mp all c digit)

theorem toUpper_toLower (c : Char) (digit : c ∈ upperDigits) : c.toLower.toUpper = c := by
  have all : upperDigits.all (fun c => c.toLower.toUpper = c) = true := by decide
  exact of_decide_eq_true (List.all_eq_true.mp all c digit)

theorem digit_ne_colon (c : Char) (digit : c ∈ lowerDigits) : c ≠ ':' := by
  have all : lowerDigits.all (fun c => c ≠ ':') = true := by decide
  exact of_decide_eq_true (List.all_eq_true.mp all c digit)

theorem filter_lower {digits : List Char} (lower : ∀ c ∈ digits, c ∈ lowerDigits) :
    digits.filter (fun c => c ≠ ':') = digits := by
  rw [List.filter_eq_self]
  intro c member
  exact decide_eq_true (digit_ne_colon c (lower c member))

/-- The characters of a MAC address without the colons. -/
def macDigits (mac : String) : List Char := mac.toList.filter (fun c => c ≠ ':')

theorem macDigits_joined (groups : List (List Char)) :
    macDigits (joined groups) = groups.flatten.filter (fun c => c ≠ ':') := by
  rw [macDigits, joined, String.toList_ofList]
  induction groups with
  | nil => rfl
  | cons group groups ih =>
    cases groups with
    | nil => rw [List.intercalate_singleton, List.flatten_singleton]
    | cons next groups =>
      have colon : [':'].filter (fun c => c ≠ ':') = [] := rfl
      rw [List.intercalate_cons_cons, List.filter_append, List.filter_append, ih, colon, List.append_nil]
      rw [← List.filter_append, ← List.flatten_cons]

theorem slices_flatten (hex12 : List Char) :
    ((List.range' 0 6 2).map (fun i => (hex12.drop i).take 2)).flatten = hex12.take 12 := by
  have split (m n : Nat) : hex12.take (m + n) = hex12.take m ++ (hex12.drop m).take n := List.take_add
  simp only [List.range', List.map_cons, List.map_nil, List.flatten_cons, List.flatten_nil, List.append_nil,
    List.drop_zero]
  rw [split 10 2, split 8 2, split 6 2, split 4 2, split 2 2]
  simp only [List.append_assoc]

theorem mac_eq (raw : Raw) : raw.mac =
    joined ((List.range' 0 6 2).map (fun i => (((raw.kept.take 12).map Char.toLower).drop i).take 2)) := rfl

/-- The colons aside, the MAC address has the first twelve digits that were kept. -/
theorem macDigits_mac (raw : Raw) : macDigits raw.mac = (raw.kept.take 12).map Char.toLower := by
  have bounded : ((raw.kept.take 12).map Char.toLower).length ≤ 12 := by
    rw [List.length_map]
    exact List.length_take_le 12 raw.kept
  have lower : ∀ c ∈ (raw.kept.take 12).map Char.toLower, c ∈ lowerDigits := by
    intro c member
    obtain ⟨d, digit, rfl⟩ := List.mem_map.mp member
    exact toLower_digit d (kept_upper (List.mem_of_mem_take digit))
  rw [mac_eq, macDigits_joined, slices_flatten, List.take_of_length_le bounded, filter_lower lower]

theorem slices_eq_bytePairs {digits : List Char} (twelve : digits.length = 12) :
    (List.range' 0 6 2).map (fun i => (digits.drop i).take 2) = bytePairs digits := by
  match digits, twelve with
  | [_, _, _, _, _, _, _, _, _, _, _, _], _ => rfl

theorem mac_unmarked {raw : Raw} (unmarked : raw.Unmarked) : raw.mac = raw.spelled := by
  have whole : (raw.text.toList.take 12).map Char.toLower = raw.text.toList.map Char.toLower := by
    rw [List.take_of_length_le raw.length.le]
  rw [mac_eq, kept_unmarked unmarked, whole, slices_eq_bytePairs (by rw [List.length_map, raw.length])]
  rfl

theorem length_bytePairs : ∀ digits : List Char, (bytePairs digits).length = digits.length / 2
  | [] => rfl
  | [_] => by simp [bytePairs]
  | c :: d :: rest => by
    rw [bytePairs, List.length_cons, length_bytePairs rest, List.length_cons, List.length_cons]
    omega

theorem mem_bytePairs {digits group : List Char} (member : group ∈ bytePairs digits) :
    group.length = 2 ∧ ∀ c ∈ group, c ∈ digits := by
  fun_induction bytePairs digits with
  | case1 c d rest ih =>
    rcases List.mem_cons.mp member with rfl | later
    · exact ⟨rfl, fun c inside => List.mem_append_left rest inside⟩
    · obtain ⟨two, inside⟩ := ih later
      exact ⟨two, fun c inside' => List.mem_cons_of_mem _ (List.mem_cons_of_mem _ (inside c inside'))⟩
  | case2 digits short => exact absurd member List.not_mem_nil

theorem spelled_sixPairs (raw : Raw) : SixPairs raw.spelled := by
  refine ⟨bytePairs (raw.text.toList.map Char.toLower), ?_, ?_, rfl⟩
  · rw [length_bytePairs, List.length_map, raw.length]
  · intro group member
    obtain ⟨two, inside⟩ := mem_bytePairs member
    refine ⟨two, ?_⟩
    intro c member
    obtain ⟨d, digit, rfl⟩ := List.mem_map.mp (inside c member)
    exact toLower_digit d (raw.upper d digit)

theorem sixPairs_length {mac : String} (pairs : SixPairs mac) : (macDigits mac).length = 12 := by
  obtain ⟨groups, six, two, rfl⟩ := pairs
  have lower : ∀ c ∈ groups.flatten, c ∈ lowerDigits := by
    intro c member
    obtain ⟨group, inside, member⟩ := List.mem_flatten.mp member
    exact (two group inside).2 c member
  have lengths : groups.map List.length = List.replicate 6 2 := by
    rw [List.eq_replicate_iff, List.length_map]
    refine ⟨six, ?_⟩
    intro n member
    obtain ⟨group, inside, rfl⟩ := List.mem_map.mp member
    exact (two group inside).1
  rw [macDigits_joined, filter_lower lower, List.length_flatten, lengths]
  rfl

/-- A MAC address of six pairs comes from digits without another marker. -/
theorem unmarked_of_sixPairs {raw : Raw} (pairs : SixPairs raw.mac) : raw.Unmarked := by
  by_contra marked
  have twelve := sixPairs_length pairs
  rw [macDigits_mac, List.length_map, List.length_take] at twelve
  have short := kept_marked marked
  omega

theorem lower_upper (raw : Raw) : (raw.text.toList.map Char.toLower).map Char.toUpper = raw.text.toList := by
  rw [List.map_map]
  exact (List.map_congr_left (fun c member => toUpper_toLower c (raw.upper c member))).trans (List.map_id _)

theorem raw_eq_of_mac {raw other : Raw} (unmarked : raw.Unmarked) (same : other.mac = raw.mac) : other = raw := by
  have unmarked' : other.Unmarked := by
    apply unmarked_of_sixPairs
    rw [same, mac_unmarked unmarked]
    exact spelled_sixPairs raw
  have digits := congrArg macDigits same
  rw [macDigits_mac, macDigits_mac, kept_unmarked unmarked, kept_unmarked unmarked'] at digits
  rw [List.take_of_length_le raw.length.le, List.take_of_length_le other.length.le] at digits
  have texts := congrArg (List.map Char.toUpper) digits
  rw [lower_upper, lower_upper] at texts
  exact Raw.ext (String.toList_inj.mp texts)

/-- Digits whose halves are rearranged. -/
theorem exists_rearranged (raw : Raw) {first second : List Char} (inFirst : first.Perm (raw.text.toList.take 6))
    (inSecond : second.Perm (raw.text.toList.drop 6)) :
    ∃ other : Raw, other.text.toList.take 6 = first ∧ other.text.toList.drop 6 = second := by
  have perm : (first ++ second).Perm raw.text.toList := by
    have halves := inFirst.append inSecond
    rwa [List.take_append_drop] at halves
  have six : first.length = 6 := by
    rw [inFirst.length_eq, List.length_take, raw.length]
    rfl
  have list : (String.ofList (first ++ second)).toList = first ++ second := String.toList_ofList
  refine ⟨⟨String.ofList (first ++ second), ?_, ?_⟩, ?_, ?_⟩
  · rw [list, perm.length_eq, raw.length]
  · intro c member
    rw [list] at member
    exact raw.upper c (perm.subset member)
  · change (String.ofList (first ++ second)).toList.take 6 = first
    rw [list, ← six, List.take_left]
  · change (String.ofList (first ++ second)).toList.drop 6 = second
    rw [list, ← six, List.drop_left]

theorem mac_eq_of_halves {raw other : Raw}
    (first : replace marker [] (other.text.toList.take 6) = replace marker [] (raw.text.toList.take 6))
    (second : replace marker [] (other.text.toList.drop 6) = replace marker [] (raw.text.toList.drop 6)) :
    other.mac = raw.mac := by
  have kept : other.kept = raw.kept := by rw [kept_eq, kept_eq, first, second]
  rw [mac_eq, mac_eq, kept]

/-- The MAC address does not tell where in its half the other marker was. -/
theorem exists_same_mac {raw : Raw} (marked : ¬raw.Unmarked) : ∃ other : Raw, other ≠ raw ∧ other.mac = raw.mac := by
  have six : (raw.text.toList.take 6).length = 6 := by
    rw [List.length_take, raw.length]
    rfl
  have six' : (raw.text.toList.drop 6).length = 6 := by rw [List.length_drop, raw.length]
  have longer : marker.length < 6 := by decide
  have short : 6 < 2 * marker.length := by decide
  rcases not_and_or.mp marked with occurs | occurs
  · obtain ⟨half, apart, perm, same⟩ := removed_ambiguous marker_unbordered (not_not.mp occurs)
      (by rwa [six]) (by rwa [six])
    obtain ⟨other, first, second⟩ := exists_rearranged raw perm (List.Perm.refl _)
    refine ⟨other, ?_, mac_eq_of_halves (by rw [first, same]) (by rw [second])⟩
    rintro rfl
    exact apart first.symm
  · obtain ⟨half, apart, perm, same⟩ := removed_ambiguous marker_unbordered (not_not.mp occurs)
      (by rwa [six']) (by rwa [six'])
    obtain ⟨other, first, second⟩ := exists_rearranged raw (List.Perm.refl _) perm
    refine ⟨other, ?_, mac_eq_of_halves (by rw [first]) (by rw [second, same])⟩
    rintro rfl
    exact apart second.symm

theorem toUpper_digit (c : Char) (digit : c ∈ lowerDigits) : c.toUpper ∈ upperDigits := by
  have all : lowerDigits.all (fun c => c.toUpper ∈ upperDigits) = true := by decide
  exact of_decide_eq_true (List.all_eq_true.mp all c digit)

/-- The digits that `async_step_user` can draw are all of these. -/
theorem drawn_iff (text : String) : (∃ hex : Uuid4Hex, rawOf hex.text = text) ↔ ∃ raw : Raw, raw.text = text := by
  constructor
  · rintro ⟨hex, rfl⟩
    refine ⟨⟨rawOf hex.text, ?_, ?_⟩, rfl⟩
    · rw [rawOf, String.toList_ofList, List.length_map, List.length_take, hex.length]
      rfl
    · intro c member
      rw [rawOf, String.toList_ofList] at member
      obtain ⟨d, drawn, rfl⟩ := List.mem_map.mp member
      exact toUpper_digit d (hex.lower d (List.mem_of_mem_take drawn))
  · rintro ⟨raw, rfl⟩
    have twelve : (raw.text.toList.map Char.toLower).length = 12 := by rw [List.length_map, raw.length]
    have list : (String.ofList (raw.text.toList.map Char.toLower ++ "40008000000000000000".toList)).toList =
        raw.text.toList.map Char.toLower ++ "40008000000000000000".toList := String.toList_ofList
    refine ⟨⟨String.ofList (raw.text.toList.map Char.toLower ++ "40008000000000000000".toList), ?_, ?_, ?_, ?_⟩, ?_⟩
    · rw [list, List.length_append, twelve]
      rfl
    · intro c member
      rw [list] at member
      rcases List.mem_append.mp member with drawn | constant
      · obtain ⟨d, digit, rfl⟩ := List.mem_map.mp drawn
        exact toLower_digit d (raw.upper d digit)
      · exact mem_of_all (by decide) c constant
    · rw [list, List.getElem?_append_right twelve.le, twelve]
      rfl
    · refine ⟨'8', by decide, ?_⟩
      rw [list, List.getElem?_append_right (by rw [twelve]; decide), twelve]
      rfl
    · change String.ofList ((String.ofList _).toList.take 12 |>.map Char.toUpper) = raw.text
      rw [list, ← twelve, List.take_left, lower_upper, String.ofList_toList]

/-- The MAC address of the generated id spells out the digits, is six pairs, and tells them from all others, each
exactly when neither half of the digits has the marker. -/
theorem mac_recovers_exact (raw : Raw) :
    (raw.mac = raw.spelled ↔ raw.Unmarked) ∧ (SixPairs raw.mac ↔ raw.Unmarked) ∧
    ((∀ other : Raw, other.mac = raw.mac → other = raw) ↔ raw.Unmarked) := by
  have pairs : SixPairs raw.mac ↔ raw.Unmarked := by
    refine ⟨unmarked_of_sixPairs, ?_⟩
    intro unmarked
    rw [mac_unmarked unmarked]
    exact spelled_sixPairs raw
  refine ⟨⟨?_, mac_unmarked⟩, pairs, ⟨?_, ?_⟩⟩
  · intro spelled
    rw [← pairs, spelled]
    exact spelled_sixPairs raw
  · intro told
    by_contra marked
    obtain ⟨other, apart, same⟩ := exists_same_mac marked
    exact apart (told other same)
  · intro unmarked other same
    exact raw_eq_of_mac unmarked same

/-- Two draws that begin with the marker or have it one digit later. -/
def drawn : Raw := ⟨"FFFE00123456", rfl, mem_of_all (by decide)⟩

def drawnToo : Raw := ⟨"0FFFE0123456", rfl, mem_of_all (by decide)⟩

theorem drawn_unrecovered : drawn.mac = "00:12:34:56::" ∧ drawnToo.mac = drawn.mac ∧
    ¬∀ raw : Raw, raw.mac = raw.spelled ∧ SixPairs raw.mac ∧ ∀ other : Raw, other.mac = raw.mac → other = raw := by
  have mac : drawn.mac = "00:12:34:56::" := by decide +kernel
  refine ⟨mac, by decide +kernel, ?_⟩
  intro recovered
  have spelled := (recovered drawn).1
  rw [mac] at spelled
  exact absurd spelled (by decide +kernel)

end HueEntertainment.BridgeId
