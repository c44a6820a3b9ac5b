import Mathlib.Data.List.Flatten

/-! Records of one size, laid end to end: the loop that reads them from an offset on, and what it reads
of any data. Nothing here knows what a record holds. -/

namespace HueEntertainment.Records

/-- The loop: a record as long as a whole one is left, at most `fuel` of them. -/
def recordsFrom {α β ε : Type} (size : Nat) (read : List β → Nat → Except ε α) (data : List β) :
    (fuel offset : Nat) → Except ε (List α)
  | 0, _ => .ok []
  | fuel + 1, offset =>
      if offset + size ≤ data.length then do
        let value ← read data offset
        let rest ← recordsFrom size read data fuel (offset + size)
        return value :: rest
      else .ok []

/-- A layout of records: each is encoded in `size` places, reading gets its value back, and whatever
fills `size` places is a record. -/
structure Layout (ρ α β ε : Type) where
  size : Nat
  encode : ρ → List β
  value : ρ → α
  read : List β → Nat → Except ε α
  positive : 0 < size
  encode_length : ∀ record, (encode record).length = size
  read_encode : ∀ before record after, read (before ++ (encode record ++ after)) before.length = .ok (value record)
  total : ∀ body, body.length = size → ∃ record, encode record = body

variable {ρ α β ε : Type}

theorem Layout.flatMap_length (layout : Layout ρ α β ε) (records : List ρ) :
    (records.flatMap layout.encode).length = layout.size * records.length := by
  induction records with
  | nil => rfl
  | cons record rest ih =>
    rw [List.flatMap_cons, List.length_append, layout.encode_length, ih, List.length_cons, Nat.mul_succ, Nat.add_comm]

/-- The loop reads back what was encoded, and stops at a remainder too short to be a record. -/
theorem Layout.recordsFrom_encode (layout : Layout ρ α β ε) (records : List ρ) (before after : List β) (fuel : Nat)
    (short : after.length < layout.size) (enough : records.length ≤ fuel) :
    recordsFrom layout.size layout.read (before ++ (records.flatMap layout.encode ++ after)) fuel before.length =
      .ok (records.map layout.value) := by
  induction records generalizing before fuel with
  | nil =>
    cases fuel with
    | zero => rfl
    | succ fuel =>
      have past : ¬before.length + layout.size ≤ (before ++ after).length := by
        rw [List.length_append]
        omega
      simp only [List.flatMap_nil, List.nil_append, recordsFrom, if_neg past, List.map_nil]
  | cons record rest ih =>
    cases fuel with
    | zero => simp at enough
    | succ fuel =>
      have rest_enough : rest.length ≤ fuel := Nat.le_of_succ_le_succ enough
      have whole : before ++ ((record :: rest).flatMap layout.encode ++ after) =
          (before ++ layout.encode record) ++ (rest.flatMap layout.encode ++ after) := by
        rw [List.flatMap_cons]
        simp only [List.append_assoc]
      have next : (before ++ layout.encode record).length = before.length + layout.size := by
        rw [List.length_append, layout.encode_length]
      have fits : before.length + layout.size ≤ (before ++ ((record :: rest).flatMap layout.encode ++ after)).length := by
        rw [whole, List.length_append, next]
        exact Nat.le_add_right _ _
      have first : layout.read (before ++ ((record :: rest).flatMap layout.encode ++ after)) before.length =
          .ok (layout.value record) := by
        rw [List.flatMap_cons, List.append_assoc]
        exact layout.read_encode before record _
      have later := ih (before ++ layout.encode record) fuel rest_enough
      rw [next, ← whole] at later
      simp only [recordsFrom, if_pos fits, first, later, List.map_cons]
      rfl

/-- Any data is records and a remainder too short to be one. -/
theorem Layout.exists_encode (layout : Layout ρ α β ε) (data : List β) :
    ∃ (records : List ρ) (after : List β),
      data = records.flatMap layout.encode ++ after ∧ after.length < layout.size := by
  induction length : data.length using Nat.strongRecOn generalizing data with
  | _ total ih =>
    subst length
    by_cases short : data.length < layout.size
    · exact ⟨[], data, rfl, short⟩
    · have fits : layout.size ≤ data.length := Nat.le_of_not_lt short
      have smaller : (data.drop layout.size).length < data.length := by
        rw [List.length_drop]
        exact Nat.sub_lt (Nat.lt_of_lt_of_le layout.positive fits) layout.positive
      obtain ⟨rest, after, split, left⟩ := ih _ smaller (data.drop layout.size) rfl
      obtain ⟨first, encoded⟩ := layout.total (data.take layout.size) (List.length_take_of_le fits)
      refine ⟨first :: rest, after, ?_, left⟩
      rw [List.flatMap_cons, encoded, List.append_assoc, ← split, List.take_append_drop]

/-- How many records there are. -/
theorem Layout.length_eq (layout : Layout ρ α β ε) {records : List ρ} {after : List β}
    (short : after.length < layout.size) :
    records.length = (records.flatMap layout.encode ++ after).length / layout.size := by
  rw [List.length_append, layout.flatMap_length, Nat.mul_add_div layout.positive, Nat.div_eq_of_lt short, Nat.add_zero]

end HueEntertainment.Records
