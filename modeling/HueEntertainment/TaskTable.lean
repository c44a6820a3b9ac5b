import Mathlib.Logic.Function.Basic

/-! Tables of what a system creates and numbers: an entry for each number handed out, updated one at a
time. Nothing here knows what is created. -/

namespace HueEntertainment.TaskTable

variable {α : Type} {table : Nat → Option α} {next key other : Nat}

/-- Nothing has a number that has not been handed out. -/
def Fresh (table : Nat → Option α) (next : Nat) : Prop := ∀ key, next ≤ key → table key = none

/-- An entry of an updated table is the new one, or an old one under another number. -/
theorem update_eq_some {value : Option α} {found : α} (entry : Function.update table key value other = some found) :
    (other = key ∧ value = some found) ∨ (other ≠ key ∧ table other = some found) := by
  by_cases here : other = key
  · subst other
    rw [Function.update_self] at entry
    exact .inl ⟨rfl, entry⟩
  · rw [Function.update_of_ne here] at entry
    exact .inr ⟨here, entry⟩

/-- An update that adds nothing at the number keeps it as free as it was. -/
theorem Fresh.update {value : Option α} (fresh : Fresh table next) (known : table key = none → value = none) :
    Fresh (Function.update table key value) next := by
  intro other later
  have gone := fresh other later
  by_cases here : other = key
  · subst other
    rw [Function.update_self]
    exact known gone
  · rw [Function.update_of_ne here]
    exact gone

/-- An entry that exists is replaced. -/
theorem Fresh.replace {old : α} (fresh : Fresh table next) (found : table key = some old) (value : Option α) :
    Fresh (Function.update table key value) next := by
  refine fresh.update (fun gone => ?_)
  rw [found] at gone
  cases gone

/-- The next number is handed out. -/
theorem Fresh.create (fresh : Fresh table next) (value : Option α) :
    Fresh (Function.update table next value) (next + 1) := by
  intro other later
  have after : next < other := later
  rw [Function.update_of_ne (Nat.ne_of_gt after)]
  exact fresh other (Nat.le_of_lt after)

/-- What exists has a number that was handed out. -/
theorem Fresh.lt {found : α} (fresh : Fresh table next) (entry : table key = some found) : key < next := by
  by_contra later
  rw [fresh key (Nat.le_of_not_lt later)] at entry
  cases entry

end HueEntertainment.TaskTable
