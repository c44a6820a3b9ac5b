import HueEntertainment.ClassicBody

/-! Which light states `_v1_state_to_service_data` translates without raising. It catches a TypeError and a
ValueError for most of the keys, and an OverflowError for none. -/

namespace HueEntertainment.ClassicErrors
open PyValue LightCommand Entertainment ClassicBody

/-- The attempt raises nothing. -/
def Returns {α : Type} (attempt : Except PyError α) : Prop := ∃ value, attempt = .ok value

/-- The value becomes an int or an error that is caught, and what is made of the int has a nearest float. -/
structure IntReads (value : Json) (made : ℤ → ℚ) : Prop where
  finite : ∀ negative, value ≠ .float (.infinite negative)
  fits : ∀ n, intOf value = .ok n → Fits (made n)

/-- The value becomes a float; nothing is caught here. -/
def FloatReads : Json → Prop
  | .int value => Fits value
  | .bool _ | .float _ => True
  | .str text => ∃ value, floatOfString text = .ok value
  | .null | .array _ | .object _ => False

/-- The colour is not given by a point. -/
def Pointless (body : Json) : Prop := ∀ x y, field body "xy" ≠ some (.array [x, y])

/-- The values of the colour that comes first are read. -/
structure ColorReads (body : Json) : Prop where
  point : ∀ x y, field body "xy" = some (.array [x, y]) → FloatReads x ∧ FloatReads y
  hue : Pointless body → ∀ hue, field body "hue" = some hue → FloatReads hue
  sat : Pointless body → ∀ sat, field body "sat" = some sat → FloatReads sat
  ct : Pointless body → field body "hue" = none → field body "sat" = none →
    ∀ ct, field body "ct" = some ct → ∀ negative, ct ≠ .float (.infinite negative)

/-- Every value that the translation of the body comes to is read. -/
structure Translatable (body : Json) : Prop where
  object : ∃ fields, body = .object fields
  transition : ∀ value, field body "transitiontime" = some value →
    IntReads value (fun tenths => ((max tenths 0 : ℤ) : ℚ) / (10 : ℤ))
  brightness : onOf body ≠ some false → ∀ value, field body "bri" = some value →
    IntReads value (fun bri => ((bri * 255 : ℤ) : ℚ) / (254 : ℤ))
  color : onOf body ≠ some false → ColorReads body

section
variable {α β : Type}

@[simp]
theorem returns_ok (value : α) : Returns (.ok value) := ⟨value, rfl⟩

@[simp]
theorem returns_pure (value : α) : Returns (pure value) := ⟨value, rfl⟩

@[simp]
theorem not_returns_error (error : PyError) : ¬Returns (.error error : Except PyError α) := by
  intro ⟨value, same⟩
  cases same

theorem returns_ite (condition : Prop) [Decidable condition] (value : α) (error : PyError) :
    Returns (if condition then .ok value else .error error : Except PyError α) ↔ condition := by
  by_cases holds : condition
  · rw [if_pos holds]
    exact iff_of_true (returns_ok value) holds
  · rw [if_neg holds]
    exact iff_of_false (not_returns_error error) holds

theorem returns_bind (attempt : Except PyError α) (next : α → Except PyError β) :
    Returns (attempt >>= next) ↔ ∃ value, attempt = .ok value ∧ Returns (next value) := by
  cases attempt with
  | error error => simp [bind, Except.bind]
  | ok value => simp [bind, Except.bind]

/-- What follows an attempt raises nothing, so the attempt decides. -/
theorem returns_bind_of {attempt : Except PyError α} {next : α → Except PyError β}
    (safe : ∀ value, Returns (next value)) : Returns (attempt >>= next) ↔ Returns attempt := by
  rw [returns_bind]
  constructor
  · intro ⟨value, same, _⟩
    exact ⟨value, same⟩
  · intro ⟨value, same⟩
    exact ⟨value, same, safe value⟩

theorem returns_map (attempt : Except PyError α) (change : α → β) :
    Returns (attempt.map change) ↔ Returns attempt := by
  cases attempt with
  | error error => simp [Except.map]
  | ok value => simp [Except.map]

end

theorem intOfString_error {text : String} {error : PyError} (raised : intOfString text = .error error) :
    error = .valueError := by
  unfold intOfString at raised
  simp only [] at raised
  split at raised
  next =>
    split at raised
    next => cases raised
    next =>
      cases raised
      rfl
  next =>
    cases raised
    rfl

/-- `int` raises an error that is caught, except for an infinite float. -/
theorem intOf_cases (value : Json) :
    (∃ negative, value = .float (.infinite negative) ∧ intOf value = .error .overflowError) ∨
      ((∀ negative, value ≠ .float (.infinite negative)) ∧
        ((∃ n, intOf value = .ok n) ∨ intOf value = .error .typeError ∨ intOf value = .error .valueError)) := by
  cases value with
  | null => exact .inr ⟨by simp, .inr (.inl rfl)⟩
  | bool on => exact .inr ⟨by simp, .inl ⟨_, rfl⟩⟩
  | int n => exact .inr ⟨by simp, .inl ⟨_, rfl⟩⟩
  | float x =>
    cases x with
    | finite value => exact .inr ⟨by simp, .inl ⟨_, rfl⟩⟩
    | infinite negative => exact .inl ⟨negative, rfl, rfl⟩
    | nan => exact .inr ⟨by simp, .inr (.inr rfl)⟩
  | str text =>
    refine .inr ⟨by simp, ?_⟩
    change (∃ n, intOfString text = .ok n) ∨ intOfString text = _ ∨ intOfString text = _
    cases read : intOfString text with
    | ok n => exact .inl ⟨n, rfl⟩
    | error error =>
      rw [intOfString_error read]
      exact .inr (.inr rfl)
  | array items => exact .inr ⟨by simp, .inr (.inl rfl)⟩
  | object fields => exact .inr ⟨by simp, .inr (.inl rfl)⟩

/-- A reading that falls back where `int` raises an error that is caught. -/
theorem intReads_exact {α : Type} {value : Json} {made : ℤ → ℚ} {attempt : Except PyError α}
    (read : ∀ n, intOf value = .ok n → (Returns attempt ↔ Fits (made n)))
    (caught : intOf value = .error .typeError ∨ intOf value = .error .valueError → Returns attempt)
    (raised : intOf value = .error .overflowError → ¬Returns attempt) :
    Returns attempt ↔ IntReads value made := by
  obtain ⟨negative, infinite, overflow⟩ | ⟨finite, ⟨n, found⟩ | error⟩ := intOf_cases value
  · exact iff_of_false (raised overflow) (fun reads => reads.finite negative infinite)
  · rw [read n found]
    constructor
    · intro fits
      refine ⟨finite, fun m same => ?_⟩
      rw [found] at same
      cases same
      exact fits
    · intro reads
      exact reads.fits n found
  · refine iff_of_true (caught error) ⟨finite, fun n same => ?_⟩
    rw [same] at error
    simp at error

theorem returns_transitionOf (value : Json) : Returns (transitionOf value) ↔
    IntReads value (fun tenths => ((max tenths 0 : ℤ) : ℚ) / (10 : ℤ)) := by
  apply intReads_exact
  · intro n found
    have same : transitionOf value = transitionOf (.int n) := by
      unfold transitionOf
      rw [found]
      rfl
    rw [same, transitionOf_int]
    exact returns_ite _ _ _
  · intro error
    unfold transitionOf
    rcases error with error | error <;> (rw [error]; exact returns_ok none)
  · intro error
    unfold transitionOf
    rw [error]
    exact not_returns_error _

theorem returns_brightnessOf (value : Json) : Returns (brightnessOf value) ↔
    IntReads value (fun bri => ((bri * 255 : ℤ) : ℚ) / (254 : ℤ)) := by
  apply intReads_exact
  · intro n found
    have same : brightnessOf value = brightnessOf (.int n) := by
      unfold brightnessOf
      rw [found]
      rfl
    rw [same, brightnessOf_int]
    exact returns_ite _ _ _
  · intro error
    -- the brightness falls back to that of 254
    have same : brightnessOf value = brightnessOf (.int 254) := by
      unfold brightnessOf
      rcases error with error | error <;> (rw [error]; rfl)
    rw [same, brightnessOf_int]
    exact (returns_ite _ _ _).mpr (lt_of_le_of_lt (by norm_num) million_lt_floatLimit)
  · intro error
    unfold brightnessOf
    rw [error]
    exact not_returns_error _

theorem returns_kelvinOf (value : Json) : Returns (kelvinOf value) ↔
    ∀ negative, value ≠ .float (.infinite negative) := by
  obtain ⟨negative, infinite, overflow⟩ | ⟨finite, ⟨n, found⟩ | error⟩ := intOf_cases value
  · refine iff_of_false ?_ (fun reads => reads negative infinite)
    unfold kelvinOf
    rw [overflow]
    exact not_returns_error _
  · have same : kelvinOf value = kelvinOf (.int n) := by
      unfold kelvinOf
      rw [found]
      rfl
    rw [same, kelvinOf_int]
    exact iff_of_true (returns_ok _) finite
  · refine iff_of_true ?_ finite
    unfold kelvinOf
    rcases error with error | error <;> (rw [error]; exact returns_ok none)

theorem returns_floatOf (value : Json) : Returns (floatOf value) ↔ FloatReads value := by
  cases value with
  | int n =>
    exact returns_ite (Fits n) _ _
  | bool on => exact iff_of_true (returns_ok _) trivial
  | float x => exact iff_of_true (returns_ok _) trivial
  | str text => exact Iff.rfl
  | null => exact iff_of_false (not_returns_error _) id
  | array items => exact iff_of_false (not_returns_error _) id
  | object fields => exact iff_of_false (not_returns_error _) id

/-- Two floats are read one after the other. -/
theorem returns_floats (first second : Json) (made : PyFloat → PyFloat → ServiceData) :
    Returns (do
      let x ← floatOf first
      let y ← floatOf second
      return made x y) ↔ FloatReads first ∧ FloatReads second := by
  rw [returns_bind, ← returns_floatOf, ← returns_floatOf]
  constructor
  · intro ⟨x, found, rest⟩
    rw [returns_bind_of (fun y => returns_pure _)] at rest
    exact ⟨⟨x, found⟩, rest⟩
  · intro ⟨⟨x, found⟩, rest⟩
    exact ⟨x, found, (returns_bind_of (fun y => returns_pure _)).mpr rest⟩

/-- A hue or saturation that is absent is at its default, which is read. -/
theorem floatReads_getD (body : Json) (key : String) {default : ℤ} (small : |(default : ℚ)| ≤ 1000000) :
    FloatReads ((field body key).getD (.int default)) ↔ ∀ value, field body key = some value → FloatReads value := by
  cases field body key with
  | none => exact iff_of_true (fits_of_small small) (by simp)
  | some value => simp

theorem returns_colorOf (body : Json) (data : ServiceData) : Returns (colorOf body data) ↔ ColorReads body := by
  unfold colorOf
  split
  next x y point =>
    rw [returns_floats]
    constructor
    · intro reads
      have pointed : ¬Pointless body := fun pointless => pointless x y point
      refine ⟨?_, fun pointless => absurd pointless pointed, fun pointless => absurd pointless pointed,
        fun pointless => absurd pointless pointed⟩
      intro x' y' same
      rw [point] at same
      cases same
      exact reads
    · intro reads
      exact reads.point x y point
  next other =>
    have pointless : Pointless body := fun x y point => other x y point
    split
    next given =>
      rw [returns_floats, floatReads_getD body "hue" (by norm_num), floatReads_getD body "sat" (by norm_num)]
      constructor
      · intro ⟨hue, sat⟩
        refine ⟨fun x y point => absurd point (pointless x y), fun _ => hue, fun _ => sat, ?_⟩
        intro _ hueless satless
        rw [hueless, satless] at given
        simp at given
      · intro reads
        exact ⟨reads.hue pointless, reads.sat pointless⟩
    next absent =>
      rw [not_or, Option.not_isSome_iff_eq_none, Option.not_isSome_iff_eq_none] at absent
      have exact : (∀ ct, field body "ct" = some ct → ∀ negative, ct ≠ .float (.infinite negative)) ↔
          ColorReads body := by
        constructor
        · intro reads
          refine ⟨fun x y point => absurd point (pointless x y), ?_, ?_, fun _ _ _ => reads⟩
          · intro _ hue found
            rw [absent.1] at found
            cases found
          · intro _ sat found
            rw [absent.2] at found
            cases found
        · intro reads
          exact reads.ct pointless absent.1 absent.2
      rw [← exact]
      cases given : field body "ct" with
      | none => simp
      | some ct =>
        simp only []
        rw [returns_bind_of (fun kelvin => returns_pure _), returns_kelvinOf]
        simp

theorem returns_readTransition (body : Json) : Returns (readTransition body) ↔
    ∀ value, field body "transitiontime" = some value →
      IntReads value (fun tenths => ((max tenths 0 : ℤ) : ℚ) / (10 : ℤ)) := by
  unfold readTransition
  cases field body "transitiontime" with
  | none => simp
  | some value => simp [returns_transitionOf]

theorem returns_readBrightness (body : Json) : Returns (readBrightness body) ↔
    ∀ value, field body "bri" = some value → IntReads value (fun bri => ((bri * 255 : ℤ) : ℚ) / (254 : ℤ)) := by
  unfold readBrightness
  cases field body "bri" with
  | none => simp
  | some value => simp [returns_map, returns_brightnessOf]

/-- A body is translated without raising if and only if every value that the translation comes to is read. -/
theorem returns_translation (body : Json) : Returns (v1StateToServiceData body) ↔ Translatable body := by
  by_cases object : ∃ fields, body = .object fields
  · have required : requireObject body = .ok () := by
      obtain ⟨fields, shape⟩ := object
      rw [shape]
      rfl
    rw [translation_eq, required]
    simp only [isBool_eq]
    change Returns (readTransition body >>= _) ↔ _
    by_cases off : onOf body = some false
    · rw [returns_bind_of (fun transition => by simp [off]), returns_readTransition]
      exact ⟨fun timely => ⟨object, timely, fun on => absurd off on, fun on => absurd off on⟩, fun reads => reads.transition⟩
    · simp only [off, decide_false, Bool.false_eq_true, if_false]
      rw [returns_bind]
      constructor
      · intro ⟨transition, timely, rest⟩
        obtain ⟨brightness, bright, rest⟩ := (returns_bind _ _).mp rest
        obtain ⟨data, colored, _⟩ := (returns_bind _ _).mp rest
        exact ⟨object, (returns_readTransition body).mp ⟨_, timely⟩,
          fun _ => (returns_readBrightness body).mp ⟨_, bright⟩, fun _ => (returns_colorOf body _).mp ⟨_, colored⟩⟩
      · intro reads
        obtain ⟨transition, timely⟩ := (returns_readTransition body).mpr reads.transition
        obtain ⟨brightness, bright⟩ := (returns_readBrightness body).mpr (reads.brightness off)
        refine ⟨transition, timely, (returns_bind _ _).mpr ⟨brightness, bright, ?_⟩⟩
        refine (returns_bind_of fun data => ?_).mpr ((returns_colorOf body _).mpr (reads.color off))
        split <;> exact returns_pure _
  · refine iff_of_false ?_ (fun reads => object reads.object)
    rw [translation_eq, returns_bind]
    intro ⟨_, required, _⟩
    cases body with
    | object fields => exact object ⟨fields, rfl⟩
    | _ => cases required

end HueEntertainment.ClassicErrors
