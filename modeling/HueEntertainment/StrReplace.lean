import Mathlib.Data.List.Infix
import Mathlib.Data.List.Perm.Basic

/-! Replacing a piece of a text wherever it occurs. A piece that does not overlap itself can be put into a text
at a place without touching the occurrences on both sides of that place. Nothing here knows the texts. -/

namespace HueEntertainment.StrReplace

variable {α : Type} [DecidableEq α]

/-- `skip` of the characters still belong to an occurrence that has been replaced. -/
def replaceFrom (old new : List α) : (skip : Nat) → List α → List α
  | _, [] => []
  | skip + 1, _ :: rest => replaceFrom old new skip rest
  | 0, c :: rest =>
      if old.isPrefixOf (c :: rest) then new ++ replaceFrom old new (old.length - 1) rest
      else c :: replaceFrom old new 0 rest

/-- `str.replace` for an `old` that is not empty: occurrences are found from left to right, each one after the
end of the one before it. -/
def replace (old new text : List α) : List α := replaceFrom old new 0 text

/-- No end of the text that is shorter than the text begins it. -/
def Unbordered (text : List α) : Prop := ∀ n < text.length, 0 < n → text.drop n ≠ text.take (text.length - n)

instance (text : List α) : Decidable (Unbordered text) :=
  inferInstanceAs (Decidable (∀ n < text.length, 0 < n → text.drop n ≠ text.take (text.length - n)))

variable {old new text left right : List α}

theorem replaceFrom_drop (skip : Nat) (text : List α) :
    replaceFrom old new skip text = replace old new (text.drop skip) := by
  induction text generalizing skip with
  | nil => rw [List.drop_nil]; cases skip <;> rfl
  | cons c rest ih =>
    cases skip with
    | zero => rfl
    | succ skip => exact ih skip

theorem replace_nil : replace old new [] = [] := rfl

theorem replace_prefix (nonempty : old ≠ []) (rest : List α) :
    replace old new (old ++ rest) = new ++ replace old new rest := by
  cases old with
  | nil => exact absurd rfl nonempty
  | cons c tail =>
    have begins : (c :: tail).isPrefixOf (c :: (tail ++ rest)) = true :=
      List.isPrefixOf_iff_prefix.mpr (List.prefix_append _ _)
    rw [replace, List.cons_append, replaceFrom, if_pos begins, replaceFrom_drop]
    rw [List.length_cons, Nat.add_sub_cancel, List.drop_left]

theorem replace_cons {c : α} {rest : List α} (other : ¬old <+: c :: rest) :
    replace old new (c :: rest) = c :: replace old new rest := by
  rw [replace, replaceFrom, if_neg (fun begins => other (List.isPrefixOf_iff_prefix.mp begins))]
  rfl

/-- A text without the piece stays as it is. -/
theorem replace_of_not_infix (free : ¬old <:+: text) : replace old new text = text := by
  induction text with
  | nil => rfl
  | cons c rest ih =>
    have both := not_or.mp (mt List.infix_cons_iff.mpr free)
    rw [replace_cons both.1, ih both.2]

/-- A text shorter than the piece stays as it is. -/
theorem replace_of_length_lt (shorter : text.length < old.length) : replace old new text = text :=
  replace_of_not_infix (fun occurs => absurd occurs.length_le (Nat.not_le.mpr shorter))

omit [DecidableEq α] in
/-- A piece at the start of what follows `left` reaches into `left` only by lying in it. -/
theorem prefix_left (unbordered : Unbordered old) (nonempty : left ≠ []) (begins : old <+: left ++ (old ++ right)) :
    old <+: left := by
  rcases List.prefix_or_prefix_of_prefix begins (List.prefix_append left _) with inside | ⟨border, same⟩
  · exact inside
  · by_cases short : left.length < old.length
    · exfalso
      apply unbordered left.length short (List.length_pos_iff.mpr nonempty)
      have after : border <+: old ++ right := by
        apply (List.prefix_append_right_inj left).mp
        rw [same]
        exact begins
      have early : border = (old ++ right).take border.length := List.prefix_iff_eq_take.mp after
      have count : border.length = old.length - left.length := by
        rw [← same, List.length_append, Nat.add_sub_cancel_left]
      calc
        old.drop left.length = border := by rw [← same, List.drop_left]
        _ = (old ++ right).take border.length := early
        _ = old.take (old.length - left.length) := by rw [count, List.take_append_of_le_length (Nat.sub_le _ _)]
    · have whole : border = [] := by
        have lengths := congrArg List.length same
        rw [List.length_append] at lengths
        apply List.eq_nil_of_length_eq_zero
        omega
      rw [whole, List.append_nil] at same
      exact same ▸ List.prefix_rfl

/-- The occurrence between `left` and `right` is replaced, and what is replaced in `left` and `right` does not
depend on it. -/
theorem replace_between (unbordered : Unbordered old) (nonempty : old ≠ []) (left right : List α) :
    replace old new (left ++ (old ++ right)) = replace old new left ++ (new ++ replace old new right) := by
  induction h : left.length using Nat.strong_induction_on generalizing left with
  | _ size ih =>
    cases left with
    | nil => rw [List.nil_append, replace_prefix nonempty, replace_nil, List.nil_append]
    | cons c rest =>
      by_cases begins : old <+: c :: rest
      · obtain ⟨rest', same⟩ := begins
        have shorter : rest'.length < size := by
          have positive := List.length_pos_iff.mpr nonempty
          rw [← h, ← same, List.length_append]
          omega
        rw [← same, List.append_assoc, replace_prefix nonempty, replace_prefix nonempty, ih _ shorter rest' rfl]
        rw [List.append_assoc]
      · have other : ¬old <+: c :: (rest ++ (old ++ right)) :=
          mt (prefix_left unbordered (List.cons_ne_nil c rest)) begins
        have shorter : rest.length < size := by
          rw [← h, List.length_cons]
          exact Nat.lt_succ_self _
        rw [List.cons_append, replace_cons other, replace_cons begins, ih _ shorter rest rfl, List.cons_append]

/-- Removing a piece leaves some of the characters, in their order. -/
theorem removed_sublist (old : List α) (skip : Nat) (text : List α) : (replaceFrom old [] skip text).Sublist text := by
  induction text generalizing skip with
  | nil => rw [replaceFrom]
  | cons c rest ih =>
    cases skip with
    | succ skip => exact (ih skip).cons c
    | zero =>
      rw [replaceFrom]
      split
      · exact (ih _).cons c
      · exact (ih 0).cons_cons c

/-- A text that has the piece gets shorter. -/
theorem removed_length_lt (unbordered : Unbordered old) (nonempty : old ≠ []) (occurs : old <:+: text) :
    (replace old [] text).length < text.length := by
  obtain ⟨left, right, same⟩ := occurs
  rw [← same, List.append_assoc, replace_between unbordered nonempty, List.nil_append]
  have positive := List.length_pos_iff.mpr nonempty
  have before := (removed_sublist old 0 left).length_le
  have after := (removed_sublist old 0 right).length_le
  simp only [List.length_append, replace] at before after ⊢
  omega

omit [DecidableEq α] in
/-- Such a piece does not commute with a shorter text. -/
theorem append_ne_append (unbordered : Unbordered old) (nonempty : text ≠ []) (short : text.length < old.length) :
    text ++ old ≠ old ++ text := by
  intro same
  apply unbordered text.length short (List.length_pos_iff.mpr nonempty)
  have tails : old = old.drop text.length ++ text := by
    rw [← List.drop_append_of_le_length short.le, ← same, List.drop_left]
  have count : (old.drop text.length).length = old.length - text.length := List.length_drop
  calc
    old.drop text.length = (old.drop text.length ++ text).take (old.length - text.length) := by
      rw [← count, List.take_left]
    _ = old.take (old.length - text.length) := by rw [← tails]

/-- Once the piece is removed from a text that is only a little longer, its place is lost: the piece can be put
to the start, or from the start to the end. -/
theorem removed_ambiguous (unbordered : Unbordered old) (occurs : old <:+: text) (longer : old.length < text.length)
    (short : text.length < 2 * old.length) :
    ∃ other, other ≠ text ∧ other.Perm text ∧ replace old [] other = replace old [] text := by
  obtain ⟨left, right, rfl⟩ := occurs
  simp only [List.length_append] at longer short
  have nonempty : old ≠ [] := by
    intro nothing
    rw [nothing, List.length_nil] at short
    omega
  have before : replace old [] left = left := replace_of_length_lt (by omega)
  have after : replace old [] right = right := replace_of_length_lt (by omega)
  have removed : replace old [] (left ++ old ++ right) = left ++ right := by
    rw [List.append_assoc, replace_between unbordered nonempty, List.nil_append, before, after]
  cases left with
  | nil =>
    rw [List.length_nil] at longer short
    have rest : right ≠ [] := by
      intro nothing
      rw [nothing, List.length_nil] at longer
      omega
    refine ⟨right ++ old, append_ne_append unbordered rest (by omega), List.perm_append_comm, ?_⟩
    have last : replace old [] (right ++ (old ++ [])) = replace old [] right ++ ([] ++ replace old [] []) :=
      replace_between unbordered nonempty right []
    rw [List.append_nil, replace_nil, List.append_nil, List.append_nil, after] at last
    rw [removed, last, List.nil_append]
  | cons c left =>
    have apart := append_ne_append unbordered (List.cons_ne_nil c left) (by omega)
    refine ⟨old ++ (c :: left) ++ right, ?_, List.perm_append_comm.append_right right, ?_⟩
    · intro equal
      exact apart ((List.append_left_inj right).mp equal).symm
    · rw [removed, List.append_assoc, replace_prefix nonempty, List.nil_append]
      exact replace_of_length_lt (by rw [List.length_append]; omega)

end HueEntertainment.StrReplace
