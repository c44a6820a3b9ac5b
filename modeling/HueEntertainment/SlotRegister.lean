import Mathlib.Data.List.Basic

/-! A register of one place, known by its history, newest first. Writers write into it, a reader takes it
whole, with or without passing it on, and somebody may clear it. What a take passes on is drawn from the
writes since the last take or clear, so over a whole history nothing is passed on twice or out of order. -/

namespace HueEntertainment.SlotRegister

inductive Act (ω τ : Type) where
  | write (w : ω)
  | take (passed : Option τ)
  | clear

section
variable {ω τ : Type}

/-- Everything that was ever written. -/
def writes : List (Act ω τ) → List ω
  | [] => []
  | .write w :: older => w :: writes older
  | .take _ :: older => writes older
  | .clear :: older => writes older

/-- What was written since the last take or clear. -/
def pending : List (Act ω τ) → List ω
  | .write w :: older => w :: pending older
  | _ => []

/-- The history up to the last take or clear. -/
def settled : List (Act ω τ) → List (Act ω τ)
  | .write _ :: older => settled older
  | acts => acts

/-- Everything that was passed on. -/
def passed : List (Act ω τ) → List τ
  | [] => []
  | .write _ :: older => passed older
  | .take taken :: older => taken.toList ++ passed older
  | .clear :: older => passed older

theorem writes_eq (acts : List (Act ω τ)) : writes acts = pending acts ++ writes (settled acts) := by
  induction acts with
  | nil => rfl
  | cons act older ih =>
    cases act with
    | write w => exact congrArg (w :: ·) ih
    | take taken => rfl
    | clear => rfl

/-- The newest write is a pending one, unless nothing is pending. -/
theorem pending_newest {acts : List (Act ω τ)} (some : pending acts ≠ []) : (pending acts).head? = (writes acts).head? := by
  rw [writes_eq]
  cases found : pending acts with
  | nil => exact absurd found some
  | cons w rest => rfl

variable (batch : τ → List ω)

/-- Whatever was passed on carries some of the writes that were pending, the newest one first. -/
def Drawn (acts : List (Act ω τ)) : Prop :=
  ∀ newer taken older, acts = newer ++ .take (some taken) :: older →
    (batch taken).Sublist (pending older) ∧ (batch taken).head? = (writes older).head? ∧ batch taken ≠ []

theorem Drawn.older {act : Act ω τ} {older : List (Act ω τ)} (drawn : Drawn batch (act :: older)) : Drawn batch older :=
  fun newer taken rest split => drawn (act :: newer) taken rest (congrArg (act :: ·) split)

/-- What was passed on comes, in order and once each, from the writes before the last take or clear. -/
theorem Drawn.passed_settled {acts : List (Act ω τ)} (drawn : Drawn batch acts) :
    ((passed acts).flatMap batch).Sublist (writes (settled acts)) := by
  induction acts with
  | nil => exact .slnil
  | cons act older ih =>
    have before := ih drawn.older
    have behind : ((passed older).flatMap batch).Sublist (writes older) := by
      rw [writes_eq]
      exact before.trans (List.sublist_append_right _ _)
    cases act with
    | write w => exact before
    | clear => exact behind
    | take taken =>
      cases taken with
      | none => exact behind
      | some taken =>
        have here := (drawn [] taken older rfl).1
        change ((taken :: passed older).flatMap batch).Sublist (writes older)
        rw [List.flatMap_cons, writes_eq]
        exact here.append before

/-- What was passed on is, in order and once each, from what was written. -/
theorem Drawn.passed {acts : List (Act ω τ)} (drawn : Drawn batch acts) :
    ((SlotRegister.passed acts).flatMap batch).Sublist (writes acts) := by
  have before := drawn.passed_settled
  rw [writes_eq]
  exact before.trans (List.sublist_append_right _ _)

end

end HueEntertainment.SlotRegister
