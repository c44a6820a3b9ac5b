import Mathlib.Data.List.Basic

/-! Four numbers below 256 in decimal digits with dots between them: the texts that are read as such, and the texts
that are written. Nothing here knows what has the address. -/

namespace HueEntertainment.DottedQuad

/-- A number below 256 in ASCII digits, at most three and without a leading zero. -/
def parseOctet (text : List Char) : Option Nat :=
  if text ≠ [] ∧ text.all Char.isDigit ∧ text.length ≤ 3 ∧ (text = ['0'] ∨ text.head? ≠ some '0') ∧
      Nat.ofDigitChars 10 text 0 ≤ 255 then
    some (Nat.ofDigitChars 10 text 0)
  else none

def parse (text : List Char) : Option (List Nat) :=
  let octets := text.splitOn '.'
  if octets.length = 4 then octets.mapM parseOctet else none

def format (octets : List Nat) : List Char := ['.'].intercalate (octets.map (Nat.toDigits 10))

/-- Four numbers that fit in a byte. -/
def IsQuad (octets : List Nat) : Prop := octets.length = 4 ∧ ∀ octet ∈ octets, octet < 256

theorem digitChar_toNat {c : Char} (digit : c.isDigit = true) : Nat.digitChar (c.toNat - 48) = c := by
  have range : 48 ≤ c.toNat ∧ c.toNat ≤ 57 := by
    simpa [Char.isDigit, UInt32.le_iff_toNat_le] using digit
  apply Char.toNat_inj.mp
  rw [Nat.toNat_digitChar_of_lt_ten (by omega)]
  omega

/-- Digits after a number that is not zero are its own last digits. -/
theorem toDigits_ofDigitChars {text : List Char} (digits : ∀ c ∈ text, c.isDigit = true) {before : Nat}
    (positive : 0 < before) :
    Nat.toDigits 10 (Nat.ofDigitChars 10 text before) = Nat.toDigits 10 before ++ text := by
  induction text generalizing before with
  | nil => simp
  | cons c rest ih =>
    have digit : c.isDigit = true := digits c List.mem_cons_self
    have range : 48 ≤ c.toNat ∧ c.toNat ≤ 57 := by
      simpa [Char.isDigit, UInt32.le_iff_toNat_le] using digit
    have small : c.toNat - 48 < 10 := by omega
    have longer := Nat.toDigits_append_toDigits (b := 10) (n := before) (by decide) positive small
    rw [Nat.toDigits_of_lt_base small, digitChar_toNat digit] at longer
    have later : 0 < 10 * before + (c.toNat - '0'.toNat) := by omega
    rw [Nat.ofDigitChars_cons, ih (fun d member => digits d (List.mem_cons_of_mem _ member)) later]
    change Nat.toDigits 10 (10 * before + (c.toNat - 48)) ++ rest = _
    rw [← longer, List.append_assoc]
    rfl

/-- Digits without a leading zero are what the number is written in. -/
theorem toDigits_canonical {text : List Char} (digits : ∀ c ∈ text, c.isDigit = true) (nonempty : text ≠ [])
    (leading : text = ['0'] ∨ text.head? ≠ some '0') : Nat.toDigits 10 (Nat.ofDigitChars 10 text 0) = text := by
  cases text with
  | nil => exact absurd rfl nonempty
  | cons c rest =>
    rcases leading with zero | nonzero
    · rw [zero]
      rfl
    · have digit : c.isDigit = true := digits c List.mem_cons_self
      have range : 48 ≤ c.toNat ∧ c.toNat ≤ 57 := by
        simpa [Char.isDigit, UInt32.le_iff_toNat_le] using digit
      have different : c.toNat ≠ 48 := fun same => nonzero (congrArg some (Char.toNat_inj.mp same))
      rw [Nat.ofDigitChars_cons]
      rw [toDigits_ofDigitChars (fun d member => digits d (List.mem_cons_of_mem _ member)) (by simp; omega)]
      have small : c.toNat - 48 < 10 := by omega
      have first : Nat.toDigits 10 (10 * 0 + (c.toNat - '0'.toNat)) = [c] := by
        change Nat.toDigits 10 (10 * 0 + (c.toNat - 48)) = [c]
        rw [Nat.mul_zero, Nat.zero_add, Nat.toDigits_of_lt_base small, digitChar_toNat digit]
      rw [first]
      rfl

theorem parseOctet_toDigits : ∀ octet : Fin 256, parseOctet (Nat.toDigits 10 octet) = some octet := by
  decide +kernel

/-- An octet is read from its own digits only. -/
theorem parseOctet_iff {text : List Char} {octet : Nat} :
    parseOctet text = some octet ↔ octet < 256 ∧ Nat.toDigits 10 octet = text := by
  constructor
  · intro read
    unfold parseOctet at read
    split at read
    next checked =>
      obtain ⟨nonempty, digits, _, leading, small⟩ := checked
      cases read
      exact ⟨by omega, toDigits_canonical (List.all_eq_true.mp digits) nonempty leading⟩
    next => cases read
  · rintro ⟨small, rfl⟩
    exact parseOctet_toDigits ⟨octet, small⟩

theorem mapM_parseOctet {texts : List (List Char)} {octets : List Nat} :
    texts.mapM parseOctet = some octets ↔
      (∀ octet ∈ octets, octet < 256) ∧ octets.map (Nat.toDigits 10) = texts := by
  induction texts generalizing octets with
  | nil => cases octets <;> simp
  | cons text rest ih =>
    cases octets with
    | nil => simp [List.mapM_cons, Option.bind_eq_some_iff]
    | cons octet others =>
      simp only [List.mapM_cons, Option.bind_eq_bind, Option.bind_eq_some_iff, Option.pure_def, Option.some.injEq,
        List.cons.injEq, List.mem_cons, forall_eq_or_imp, List.map_cons]
      constructor
      · rintro ⟨first, read, later, reads, rfl, rfl⟩
        obtain ⟨small, same⟩ := parseOctet_iff.mp read
        obtain ⟨smalls, sames⟩ := ih.mp reads
        exact ⟨⟨small, smalls⟩, same, sames⟩
      · rintro ⟨⟨small, smalls⟩, same, sames⟩
        exact ⟨octet, parseOctet_iff.mpr ⟨small, same⟩, others, ih.mpr ⟨smalls, sames⟩, rfl, rfl⟩

theorem dot_notMem (octets : List Nat) : ∀ text ∈ octets.map (Nat.toDigits 10), '.' ∉ text := by
  intro text member dot
  obtain ⟨octet, _, rfl⟩ := List.mem_map.mp member
  cases Nat.isDigit_of_mem_toDigits (by decide) (by decide) dot

/-- Exactly what is written of four bytes is read, and as these. -/
theorem parse_iff {text : List Char} {octets : List Nat} :
    parse text = some octets ↔ IsQuad octets ∧ text = format octets := by
  unfold parse IsQuad format
  constructor
  · intro read
    simp only [] at read
    split at read
    next four =>
      obtain ⟨smalls, sames⟩ := mapM_parseOctet.mp read
      have length := congrArg List.length sames
      rw [List.length_map, four] at length
      refine ⟨⟨length, smalls⟩, ?_⟩
      rw [sames, List.intercalate_splitOn]
    next => cases read
  · rintro ⟨⟨four, smalls⟩, rfl⟩
    have nonempty : octets.map (Nat.toDigits 10) ≠ [] := by
      intro empty
      rw [List.map_eq_nil_iff.mp empty] at four
      cases four
    have split := List.splitOn_intercalate '.' (dot_notMem octets) nonempty
    simp only [split, List.length_map, four, if_true]
    exact mapM_parseOctet.mpr ⟨smalls, rfl⟩

theorem format_inj {octets others : List Nat} (quad : IsQuad octets) (other : IsQuad others)
    (same : format octets = format others) : octets = others := by
  have read := parse_iff.mpr ⟨quad, rfl⟩
  rw [same, parse_iff.mpr ⟨other, rfl⟩] at read
  exact (Option.some.inj read).symm

/-- Nothing but digits and dots is written. -/
theorem mem_format {octets : List Nat} {c : Char} (member : c ∈ format octets) : c.isDigit = true ∨ c = '.' := by
  unfold format at member
  induction octets with
  | nil => simp at member
  | cons octet rest ih =>
    have digit : c ∈ Nat.toDigits 10 octet → c.isDigit = true :=
      fun here => Nat.isDigit_of_mem_toDigits (by decide) (by decide) here
    cases rest with
    | nil => exact .inl (digit (by simpa using member))
    | cons next others =>
      simp only [List.map_cons, List.intercalate_cons_cons, List.mem_append, List.mem_singleton] at member
      rcases member with (here | dot) | later
      · exact .inl (digit here)
      · exact .inr dot
      · exact ih later

theorem format_ne_nil {octets : List Nat} (quad : IsQuad octets) : format octets ≠ [] := by
  intro empty
  have read := parse_iff.mpr ⟨quad, rfl⟩
  rw [empty] at read
  cases read

end HueEntertainment.DottedQuad
