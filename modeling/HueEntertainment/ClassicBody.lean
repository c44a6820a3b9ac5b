import HueEntertainment.Entertainment
import Mathlib.Tactic.Linarith

/-! What `_v1_state_to_service_data` makes of a light state whose values have the types of the v1 API. -/

namespace HueEntertainment.ClassicBody
open PyValue LightCommand Entertainment

/-- The number under a key. -/
def number (body : Json) (key : String) : Option ℤ :=
  match field body key with
  | some (.int value) => some value
  | _ => none

/-- The value under `on`. -/
def onOf (body : Json) : Option Bool :=
  match field body "on" with
  | some (.bool on) => some on
  | _ => none

/-- An int, or a float that is a number. -/
def coordinate : Json → Option ℚ
  | .int value => some value
  | .float (.finite value) => some value
  | _ => none

/-- The point under `xy`. -/
def pointOf (body : Json) : Option (ℚ × ℚ) :=
  match field body "xy" with
  | some (.array [x, y]) => (coordinate x).bind (fun x => (coordinate y).map (fun y => (x, y)))
  | _ => none

/-- The keys of the API whose values are numbers. -/
def numberKeys : List String := ["transitiontime", "bri", "hue", "sat", "ct"]

/-- An object whose values have the types of the API, where the API knows the key. -/
structure WellTyped (body : Json) : Prop where
  object : ∃ fields, body = .object fields
  on : (onOf body).isSome = (field body "on").isSome
  numbers : ∀ key ∈ numberKeys, (number body key).isSome = (field body key).isSome
  point : (pointOf body).isSome = (field body "xy").isSome

/-- The body has something for the light to change to other than on or off. -/
def Changes (body : Json) : Prop :=
  (number body "bri").isSome ∨ (pointOf body).isSome ∨ (number body "hue").isSome ∨ (number body "sat").isSome ∨
    ∃ mired, number body "ct" = some mired ∧ 0 < mired

instance (body : Json) : Decidable (Changes body) := by
  unfold Changes
  infer_instance

/-- The value has a nearest float. -/
def Fits (value : ℚ) : Prop := |value| < floatLimit

instance (value : ℚ) : Decidable (Fits value) := inferInstanceAs (Decidable (|value| < floatLimit))

/-- Every float has a nearest float; an int may be too large. -/
def FitsJson : Json → Prop
  | .int value => Fits value
  | _ => True

/-- Every number of the colour that the body's light takes has a nearest float. -/
structure ColorFits (body : Json) : Prop where
  point : ∀ x y, field body "xy" = some (.array [x, y]) → FitsJson x ∧ FitsJson y
  hue : pointOf body = none → ∀ hue, number body "hue" = some hue → Fits hue
  sat : pointOf body = none → ∀ sat, number body "sat" = some sat → Fits sat

/-- Every number that the translation turns into a float or divides has a nearest float. -/
structure AllFit (body : Json) : Prop where
  transition : ∀ tenths, number body "transitiontime" = some tenths → Fits (((max tenths 0 : ℤ) : ℚ) / (10 : ℤ))
  brightness : onOf body ≠ some false → ∀ bri, number body "bri" = some bri →
    Fits (((bri * 255 : ℤ) : ℚ) / (254 : ℤ))
  color : onOf body ≠ some false → ColorFits body

/-- A brightness of the API on Home Assistant's scale. -/
def scaledBri (bri : ℤ) : ℤ := max 1 (min 255 (roundHalfEven ((bri * 255 : ℤ) / (254 : ℤ))))

/-- The hue and saturation of the body, those that are absent at their defaults. -/
def hueSat (body : Json) : PyFloat × PyFloat :=
  (PyFloat.scaled 65535 360 (.finite ((number body "hue").getD 0)),
    PyFloat.scaled 254 100 (.finite ((number body "sat").getD 254)))

/-- The colour that comes first in the order xy, hue and sat, ct, under its key; a ct that is not positive
gives none. -/
def descriptors (body : Json) : Option (PyFloat × PyFloat) × Option (PyFloat × PyFloat) × Option ℤ :=
  match pointOf body with
  | some (x, y) => (some (.finite x, .finite y), none, none)
  | none =>
      if (number body "hue").isSome ∨ (number body "sat").isSome then (none, some (hueSat body), none)
      else (none, none, (number body "ct").bind (fun mired =>
        if 0 < mired then some (roundHalfEven ((1000000 : ℤ) / mired)) else none))

/-- Data without a colour, with the colour of the body. -/
def colored (body : Json) (data : ServiceData) : ServiceData :=
  let (xy, hs, kelvin) := descriptors body
  { data with xyColor := xy, hsColor := hs, colorTempKelvin := kelvin }

/-- The transition of the body in seconds. -/
def seconds (body : Json) : Option ℚ :=
  (number body "transitiontime").map (fun tenths => ((max tenths 0 : ℤ) : ℚ) / (10 : ℤ))

/-- The transition that the translation reads. -/
def readTransition (body : Json) : Except PyError (Option ℚ) :=
  match field body "transitiontime" with
  | some value => transitionOf value
  | none => .ok none

/-- The brightness that the translation reads. -/
def readBrightness (body : Json) : Except PyError (Option ℤ) :=
  match field body "bri" with
  | some value => (brightnessOf value).map some
  | none => .ok none

/-- The service data of a body all of whose numbers fit. -/
def translated (body : Json) : ServiceData :=
  if onOf body = some false then { transition := seconds body, service := some .turnOff }
  else
    let data := colored body { transition := seconds body, brightness := (number body "bri").map scaledBri }
    if data = {} ∧ onOf body ≠ some true then {} else { data with service := some .turnOn }

section
variable {body : Json}

theorem WellTyped.number_cases (typed : WellTyped body) (key : String) (known : key ∈ numberKeys) :
    (field body key = none ∧ number body key = none) ∨
      ∃ value, field body key = some (.int value) ∧ number body key = some value := by
  have same := typed.numbers key known
  unfold number at same ⊢
  split at same
  next value found => exact .inr ⟨value, found, rfl⟩
  next other =>
    have absent : field body key = none := Option.isNone_iff_eq_none.mp (by simpa using same.symm)
    exact .inl ⟨absent, rfl⟩

theorem WellTyped.point_cases (typed : WellTyped body) :
    (field body "xy" = none ∧ pointOf body = none) ∨ ∃ x y p q, field body "xy" = some (.array [x, y]) ∧
      coordinate x = some p ∧ coordinate y = some q ∧ pointOf body = some (p, q) := by
  have same := typed.point
  cases found : field body "xy" with
  | none => exact .inl ⟨rfl, by unfold pointOf; rw [found]⟩
  | some value =>
    rw [found, Option.isSome_some] at same
    obtain ⟨point, known⟩ := Option.isSome_iff_exists.mp same
    have shape := known
    unfold pointOf at shape
    rw [found] at shape
    split at shape
    next x y here =>
      obtain rfl := Option.some.inj here
      obtain ⟨p, first, rest⟩ := Option.bind_eq_some_iff.mp shape
      obtain ⟨q, second, rfl⟩ := Option.map_eq_some_iff.mp rest
      exact .inr ⟨x, y, p, q, rfl, first, second, known⟩
    next => cases shape

theorem isBool_eq (expected : Bool) : isBool (field body "on") expected = decide (onOf body = some expected) := by
  unfold isBool onOf
  generalize field body "on" = value
  cases value with
  | none => rfl
  | some value =>
    cases value with
    | bool on => cases on <;> cases expected <;> rfl
    | _ => rfl

theorem trueDiv_eq (numerator denominator : ℤ) : trueDiv numerator denominator =
    if Fits ((numerator : ℚ) / denominator) then .ok ((numerator : ℚ) / denominator) else .error .overflowError := rfl

/-- A coordinate becomes a float unless it is an int that does not fit. -/
theorem floatOf_coordinate {value : Json} {p : ℚ} (known : coordinate value = some p) :
    (FitsJson value ∧ floatOf value = .ok (.finite p)) ∨ (¬FitsJson value ∧ floatOf value = .error .overflowError) := by
  unfold coordinate at known
  split at known
  next n =>
    obtain rfl := Option.some.inj known
    change (Fits n ∧ floatOfInt n = _) ∨ (¬Fits n ∧ floatOfInt n = _)
    unfold floatOfInt
    by_cases fits : |(n : ℚ)| < floatLimit
    · exact .inl ⟨fits, if_pos fits⟩
    · exact .inr ⟨fits, if_neg fits⟩
  next q =>
    obtain rfl := Option.some.inj known
    exact .inl ⟨trivial, rfl⟩
  next => cases known

theorem transitionOf_int (tenths : ℤ) : transitionOf (.int tenths) =
    if Fits (((max tenths 0 : ℤ) : ℚ) / (10 : ℤ)) then .ok (some (((max tenths 0 : ℤ) : ℚ) / (10 : ℤ)))
    else .error .overflowError := by
  change catching (trueDiv (max tenths 0) 10 >>= fun seconds => .ok (some seconds)) none = _
  rw [trueDiv_eq]
  split <;> rfl

theorem brightnessOf_int (bri : ℤ) : brightnessOf (.int bri) =
    if Fits (((bri * 255 : ℤ) : ℚ) / (254 : ℤ)) then .ok (scaledBri bri) else .error .overflowError := by
  change (trueDiv (bri * 255) 254 >>= fun scaled => .ok (max 1 (min 255 (roundHalfEven scaled)))) = _
  rw [trueDiv_eq]
  split <;> rfl

theorem million_lt_floatLimit : (1000000 : ℚ) < floatLimit := by
  have split : floatLimit = 2 ^ 970 * (2 ^ 54 - 1) := by
    rw [mul_sub, ← pow_add, mul_one]
    rfl
  calc (1000000 : ℚ) < 2 ^ 20 := by norm_num
    _ ≤ 2 ^ 970 := pow_le_pow_right₀ (by norm_num) (by norm_num)
    _ ≤ 2 ^ 970 * (2 ^ 54 - 1) := le_mul_of_one_le_right (by positivity) (by norm_num)
    _ = floatLimit := split.symm

/-- A million divided by a positive mired value always fits. -/
theorem kelvin_fits {mired : ℤ} (positive : 0 < mired) : Fits (((1000000 : ℤ) : ℚ) / mired) := by
  have one : (1 : ℚ) ≤ mired := by exact_mod_cast positive
  have bounded : ((1000000 : ℤ) : ℚ) / mired ≤ 1000000 := by
    rw [div_le_iff₀ (by linarith)]
    push_cast
    linarith
  unfold Fits
  rw [abs_of_nonneg (by positivity)]
  exact lt_of_le_of_lt bounded million_lt_floatLimit

theorem kelvinOf_int (mired : ℤ) : kelvinOf (.int mired) =
    .ok (if 0 < mired then some (roundHalfEven (((1000000 : ℤ) : ℚ) / mired)) else none) := by
  change catching (if 0 < mired then trueDiv 1000000 mired >>= fun kelvin => .ok (some (roundHalfEven kelvin))
    else .ok none) none = _
  by_cases positive : 0 < mired
  · rw [if_pos positive, if_pos positive, trueDiv_eq, if_pos (kelvin_fits positive)]
    rfl
  · rw [if_neg positive, if_neg positive]
    rfl

theorem fits_of_small {value : ℤ} (small : |(value : ℚ)| ≤ 1000000) : Fits value :=
  lt_of_le_of_lt small million_lt_floatLimit

/-- Hue or saturation, at its default when it is absent. -/
theorem WellTyped.floatOf_number (typed : WellTyped body) (key : String) (known : key ∈ numberKeys) (default : ℤ)
    (small : |(default : ℚ)| ≤ 1000000) :
    ((∀ value, number body key = some value → Fits value) ∧
        floatOf ((field body key).getD (.int default)) = .ok (.finite ((number body key).getD default : ℤ))) ∨
      ((¬∀ value, number body key = some value → Fits value) ∧
        floatOf ((field body key).getD (.int default)) = .error .overflowError) := by
  obtain ⟨absent, none⟩ | ⟨value, found, given⟩ := typed.number_cases key known
  · rw [absent, none]
    exact .inl ⟨by simp, if_pos (fits_of_small small)⟩
  · rw [found, given]
    by_cases fits : Fits value
    · exact .inl ⟨by simpa using fits, if_pos fits⟩
    · exact .inr ⟨by simpa using fits, if_neg fits⟩

/-- The colour of a well-typed body is read, or one of its numbers is too large. -/
theorem WellTyped.colorOf_lands (typed : WellTyped body) (transition : Option ℚ) (brightness : Option ℤ) :
    let data : ServiceData := { transition := transition, brightness := brightness }
    (ColorFits body ∧ colorOf body data = .ok (colored body data)) ∨
      (¬ColorFits body ∧ colorOf body data = .error .overflowError) := by
  unfold colorOf colored descriptors
  obtain ⟨absent, none⟩ | ⟨x, y, p, q, found, first, second, known⟩ := typed.point_cases
  · rw [absent, none]
    simp only []
    have hueSame := typed.numbers "hue" (by decide)
    have satSame := typed.numbers "sat" (by decide)
    by_cases given : (number body "hue").isSome ∨ (number body "sat").isSome
    · rw [if_pos given, if_pos (by rw [← hueSame, ← satSame]; exact given)]
      obtain ⟨hueFits, readHue⟩ | ⟨large, readHue⟩ :=
        typed.floatOf_number "hue" (by decide) 0 (by norm_num)
      · obtain ⟨satFits, readSat⟩ | ⟨large, readSat⟩ :=
          typed.floatOf_number "sat" (by decide) 254 (by norm_num)
        · refine .inl ⟨⟨fun x y found => ?_, fun _ => hueFits, fun _ => satFits⟩, ?_⟩
          · rw [absent] at found
            cases found
          · rw [readHue, readSat]
            rfl
        · exact .inr ⟨fun fits => large (fits.sat none), by rw [readHue, readSat]; rfl⟩
      · exact .inr ⟨fun fits => large (fits.hue none), by rw [readHue]; rfl⟩
    · rw [if_neg given, if_neg (by rw [← hueSame, ← satSame]; exact given)]
      have colorless : ColorFits body := by
        refine ⟨fun x y found => ?_, fun _ hue found => absurd (.inl ?_) given, fun _ sat found => absurd (.inr ?_) given⟩
        · rw [absent] at found
          cases found
        · rw [found]
          rfl
        · rw [found]
          rfl
      refine .inl ⟨colorless, ?_⟩
      obtain ⟨absent, none⟩ | ⟨mired, found, known⟩ := typed.number_cases "ct" (by decide)
      · rw [absent, none]
        rfl
      · rw [found, known]
        simp only [kelvinOf_int]
        rfl
  · rw [found, known]
    simp only []
    have pointed : pointOf body ≠ none := by
      rw [known]
      exact Option.some_ne_none _
    obtain ⟨fitsX, readX⟩ | ⟨large, readX⟩ := floatOf_coordinate first
    · obtain ⟨fitsY, readY⟩ | ⟨large, readY⟩ := floatOf_coordinate second
      · refine .inl ⟨⟨?_, fun none => absurd none pointed, fun none => absurd none pointed⟩, ?_⟩
        · intro x' y' same
          rw [found] at same
          cases same
          exact ⟨fitsX, fitsY⟩
        · rw [readX, readY]
          rfl
      · exact .inr ⟨fun fits => large (fits.point x y found).2, by rw [readX, readY]; rfl⟩
    · exact .inr ⟨fun fits => large (fits.point x y found).1, by rw [readX]; rfl⟩

theorem WellTyped.transition_lands (typed : WellTyped body) :
    let fits := ∀ tenths, number body "transitiontime" = some tenths → Fits (((max tenths 0 : ℤ) : ℚ) / (10 : ℤ))
    (fits ∧ readTransition body = .ok (seconds body)) ∨
      (¬fits ∧ readTransition body = .error .overflowError) := by
  unfold readTransition seconds
  obtain ⟨absent, none⟩ | ⟨tenths, found, known⟩ := typed.number_cases "transitiontime" (by decide)
  · rw [absent, none]
    exact .inl ⟨by simp, rfl⟩
  · rw [found, known]
    by_cases fits : Fits (((max tenths 0 : ℤ) : ℚ) / (10 : ℤ))
    · exact .inl ⟨by simpa using fits, (transitionOf_int tenths).trans (if_pos fits)⟩
    · exact .inr ⟨by simpa using fits, (transitionOf_int tenths).trans (if_neg fits)⟩

theorem WellTyped.brightness_lands (typed : WellTyped body) :
    let fits := ∀ bri, number body "bri" = some bri → Fits (((bri * 255 : ℤ) : ℚ) / (254 : ℤ))
    (fits ∧ readBrightness body = .ok ((number body "bri").map scaledBri)) ∨
      (¬fits ∧ readBrightness body = .error .overflowError) := by
  unfold readBrightness
  obtain ⟨absent, none⟩ | ⟨bri, found, known⟩ := typed.number_cases "bri" (by decide)
  · rw [absent, none]
    exact .inl ⟨by simp, rfl⟩
  · rw [found, known]
    by_cases fits : Fits (((bri * 255 : ℤ) : ℚ) / (254 : ℤ))
    · exact .inl ⟨by simpa using fits, congrArg (Except.map some) ((brightnessOf_int bri).trans (if_pos fits))⟩
    · exact .inr ⟨by simpa using fits, congrArg (Except.map some) ((brightnessOf_int bri).trans (if_neg fits))⟩

/-- The translation as one chain of reads. -/
theorem translation_eq (body : Json) : v1StateToServiceData body = (do
    requireObject body
    let transition ← readTransition body
    if isBool (field body "on") false then return { transition := transition, service := some .turnOff }
    let brightness ← readBrightness body
    let data ← colorOf body { transition := transition, brightness := brightness }
    if data = {} ∧ isBool (field body "on") true = false then return {}
    return { data with service := some .turnOn }) := by
  unfold v1StateToServiceData readTransition readBrightness
  cases field body "transitiontime" with
  | none => cases field body "bri" <;> rfl
  | some value => cases field body "bri" <;> rfl

/-- A well-typed body is translated, or one of its numbers is too large. -/
theorem WellTyped.translation_lands (typed : WellTyped body) :
    (AllFit body ∧ v1StateToServiceData body = .ok (translated body)) ∨
      (¬AllFit body ∧ v1StateToServiceData body = .error .overflowError) := by
  obtain ⟨fields, shape⟩ := typed.object
  have object : requireObject body = .ok () := by rw [shape]; rfl
  rw [translation_eq]
  unfold translated
  simp only [object, isBool_eq, bind, Except.bind]
  obtain ⟨timely, readTransition⟩ | ⟨large, readTransition⟩ := typed.transition_lands
  · rw [readTransition]
    simp only []
    by_cases off : onOf body = some false
    · simp only [off, decide_true, if_true]
      exact .inl ⟨⟨timely, fun on => absurd off on, fun on => absurd off on⟩, rfl⟩
    · simp only [off, decide_false, if_false, Bool.false_eq_true]
      obtain ⟨bright, readBrightness⟩ | ⟨large, readBrightness⟩ := typed.brightness_lands
      · rw [readBrightness]
        simp only []
        obtain ⟨colorFits, readColor⟩ | ⟨large, readColor⟩ := typed.colorOf_lands _ _
        · rw [readColor]
          refine .inl ⟨⟨timely, fun _ => bright, fun _ => colorFits⟩, ?_⟩
          simp only [decide_eq_false_iff_not]
          split <;> rfl
        · rw [readColor]
          exact .inr ⟨fun fits => large (fits.color off), rfl⟩
      · rw [readBrightness]
        exact .inr ⟨fun fits => large (fits.brightness off), rfl⟩
  · rw [readTransition]
    exact .inr ⟨fun fits => large fits.transition, rfl⟩

/-- A light state means what it says: the service, the brightness, the transition and the colour. -/
structure Means (body : Json) (data : ServiceData) : Prop where
  off : data.service = some .turnOff ↔ onOf body = some false
  on : data.service = some .turnOn ↔ onOf body = some true ∨ (onOf body = none ∧ Changes body)
  nothing : data.service = none → data = {}
  transition : ∀ seconds, data.transition = some seconds → 0 ≤ seconds
  brightness : data.service = some .turnOn → data.brightness.isSome = (number body "bri").isSome ∧
    ∀ value, data.brightness = some value → 1 ≤ value ∧ value ≤ 255
  color : data.service = some .turnOn →
    (data.xyColor, data.hsColor, data.colorTempKelvin) = descriptors body ∧ data.rgbColor = none

theorem changes_iff (body : Json) :
    Changes body ↔ (number body "bri").isSome ∨ descriptors body ≠ (none, none, none) := by
  unfold Changes descriptors
  cases pointOf body with
  | some point => simp
  | none =>
    by_cases given : (number body "hue").isSome ∨ (number body "sat").isSome
    · rw [if_pos given]
      refine iff_of_true ?_ (.inr (by simp))
      rcases given with hue | sat
      · exact .inr (.inr (.inl hue))
      · exact .inr (.inr (.inr (.inl sat)))
    · have absent := not_or.mp given
      rw [if_neg given]
      cases number body "ct" with
      | none => simp [absent]
      | some mired => by_cases positive : 0 < mired <;> simp [absent, positive]

theorem colored_eq_empty (transition : Option ℚ) (brightness : Option ℤ) :
    colored body { transition := transition, brightness := brightness } = {} ↔
      transition = none ∧ brightness = none ∧ descriptors body = (none, none, none) := by
  unfold colored
  obtain ⟨xy, hs, kelvin⟩ := descriptors body
  simp

/-- A body that changes nothing and brings no transition translates to nothing. -/
theorem translated_idle (absent : onOf body = none) (idle : ¬Changes body)
    (still : number body "transitiontime" = none) : translated body = {} := by
  rw [changes_iff, not_or, not_not, Option.not_isSome_iff_eq_none] at idle
  unfold translated seconds
  rw [absent, still, idle.1]
  simp only []
  rw [if_neg (by simp), if_pos ⟨(colored_eq_empty _ _).mpr ⟨rfl, rfl, idle.2⟩, by simp⟩]

theorem roundHalfEven_bounds (value : ℚ) : ⌊value⌋ ≤ roundHalfEven value ∧ roundHalfEven value ≤ ⌊value⌋ + 1 := by
  unfold roundHalfEven
  simp only []
  split_ifs <;> omega

/-- Rounding is monotone: between integers by the floor, between two integers by the part above the lower. -/
theorem roundHalfEven_mono {low high : ℚ} (ordered : low ≤ high) : roundHalfEven low ≤ roundHalfEven high := by
  rcases lt_or_eq_of_le (Int.floor_mono ordered) with apart | same
  · calc roundHalfEven low ≤ ⌊low⌋ + 1 := (roundHalfEven_bounds low).2
      _ ≤ ⌊high⌋ := apart
      _ ≤ roundHalfEven high := (roundHalfEven_bounds high).1
  · unfold roundHalfEven
    simp only [← same]
    split_ifs <;> first | omega | linarith

theorem scaledBri_mono {bri other : ℤ} (ordered : bri ≤ other) : scaledBri bri ≤ scaledBri other := by
  have scaled : ((bri * 255 : ℤ) : ℚ) / (254 : ℤ) ≤ ((other * 255 : ℤ) : ℚ) / (254 : ℤ) := by
    apply div_le_div_of_nonneg_right _ (by norm_num)
    exact_mod_cast (by omega : bri * 255 ≤ other * 255)
  have rounded := roundHalfEven_mono scaled
  unfold scaledBri
  omega

theorem scaledBri_bounds (bri : ℤ) : 1 ≤ scaledBri bri ∧ scaledBri bri ≤ 255 := by
  unfold scaledBri
  omega

/-- The data of a body that is neither an off nor without effect. -/
theorem translated_on (on : onOf body ≠ some false)
    (effect : onOf body = some true ∨ Changes body ∨ (number body "transitiontime").isSome) :
    translated body =
      { colored body { transition := seconds body, brightness := (number body "bri").map scaledBri } with
        service := some .turnOn } := by
  unfold translated
  simp only []
  rw [if_neg on, if_neg]
  intro both
  obtain ⟨still, dim, colorless⟩ := (colored_eq_empty _ _).mp both.1
  rcases effect with on | changes | timed
  · exact both.2 on
  · rcases (changes_iff body).mp changes with bright | color
    · rw [Option.map_eq_none_iff.mp dim] at bright
      cases bright
    · exact color colorless
  · rw [Option.map_eq_none_iff.mp still] at timed
    cases timed

theorem translated_off (off : onOf body = some false) :
    translated body = { transition := seconds body, service := some .turnOff } :=
  if_pos off

theorem seconds_nonneg {value : ℚ} (given : seconds body = some value) : 0 ≤ value := by
  obtain ⟨tenths, _, rfl⟩ := Option.map_eq_some_iff.mp given
  have floor : (0 : ℚ) ≤ (max tenths 0 : ℤ) := by exact_mod_cast le_max_right tenths 0
  positivity

/-- The data of a body means what the body says, except that a transition alone is taken for an on. -/
theorem means_translated (timed : onOf body = none → ¬Changes body → number body "transitiontime" = none) :
    Means body (translated body) := by
  by_cases off : onOf body = some false
  · rw [translated_off off]
    exact {
      off := iff_of_true rfl off
      on := by simp [off]
      nothing := by simp
      transition := fun _ given => seconds_nonneg given
      brightness := by simp
      color := by simp }
  by_cases idle : onOf body = none ∧ ¬Changes body
  · rw [translated_idle idle.1 idle.2 (timed idle.1 idle.2)]
    exact {
      off := by simp [off]
      on := by simp [idle]
      nothing := fun _ => rfl
      transition := by simp
      brightness := by simp
      color := by simp }
  have effect : onOf body = some true ∨ (onOf body = none ∧ Changes body) := by
    cases on : onOf body with
    | none => exact .inr ⟨rfl, not_not.mp fun still => idle ⟨on, still⟩⟩
    | some on' => cases on' with
      | true => exact .inl rfl
      | false => exact absurd on off
  rw [translated_on off (effect.imp_right fun changes => .inl changes.2)]
  exact {
    off := by simp [off]
    on := iff_of_true rfl effect
    nothing := by simp
    transition := fun _ given => seconds_nonneg given
    brightness := by
      intro _
      refine ⟨Option.isSome_map, fun value given => ?_⟩
      obtain ⟨bri, _, rfl⟩ := Option.map_eq_some_iff.mp given
      exact scaledBri_bounds bri
    color := fun _ => ⟨rfl, rfl⟩ }

end

/-- Classic bodies mean what they say, one body at a time and against every other. -/
structure Understood (body : Json) : Prop where
  means : ∃ data, v1StateToServiceData body = .ok data ∧ Means body data
  monotone : ∀ other, WellTyped other → ∀ data otherData, v1StateToServiceData body = .ok data →
    v1StateToServiceData other = .ok otherData → data.service = some .turnOn → otherData.service = some .turnOn →
    ∀ bri otherBri, number body "bri" = some bri → number other "bri" = some otherBri → bri ≤ otherBri →
    ∃ value otherValue, data.brightness = some value ∧ otherData.brightness = some otherValue ∧ value ≤ otherValue
  idle : onOf body = none → ¬Changes body → ∀ (s : Engine) lightId, s.handleLightCommand lightId body = s

/-- A body whose brightness is read and that is taken for an on gets the scaled brightness. -/
theorem brightness_scaled {body : Json} (typed : WellTyped body) {data : ServiceData}
    (read : v1StateToServiceData body = .ok data) (on : data.service = some .turnOn) {bri : ℤ}
    (given : number body "bri" = some bri) : data.brightness = some (scaledBri bri) := by
  obtain ⟨fits, found⟩ | ⟨_, raised⟩ := typed.translation_lands
  · rw [found] at read
    obtain rfl := Except.ok.inj read
    by_cases off : onOf body = some false
    · rw [translated_off off] at on
      cases on
    · have changes : Changes body := .inl (by rw [given]; rfl)
      rw [translated_on off (.inr (.inl changes))]
      change (number body "bri").map scaledBri = _
      rw [given]
      rfl
  · rw [raised] at read
    cases read

/-- A body that translates to nothing queues nothing, whatever the state. -/
theorem handleLightCommand_idle {body : Json} (read : v1StateToServiceData body = .ok {}) (s : Engine)
    (lightId : Nat) : s.handleLightCommand lightId body = s := by
  unfold Engine.handleLightCommand
  split
  · rfl
  · cases s.mappingOf lightId with
    | none => rfl
    | some mapping =>
      have nothing : mapping.commandSlot lightId body = .ok none := by
        unfold LightMapping.commandSlot
        rw [read]
        rfl
      simp only [nothing]

/-- A body is understood if and only if its numbers fit and a transition does not come alone. -/
theorem understood_exact (body : Json) (typed : WellTyped body) :
    Understood body ↔
      AllFit body ∧ ¬(onOf body = none ∧ ¬Changes body ∧ (number body "transitiontime").isSome) := by
  constructor
  · intro understood
    obtain ⟨data, read, means⟩ := understood.means
    obtain ⟨fits, found⟩ | ⟨_, raised⟩ := typed.translation_lands
    · refine ⟨fits, fun alone => ?_⟩
      obtain ⟨absent, idle, timed⟩ := alone
      rw [found] at read
      obtain rfl := Except.ok.inj read
      have on : (translated body).service = some .turnOn := by
        rw [translated_on (by rw [absent]; simp) (.inr (.inr timed))]
      rcases means.on.mp on with on | ⟨_, changes⟩
      · rw [absent] at on
        cases on
      · exact idle changes
    · rw [raised] at read
      cases read
  · intro ⟨fits, accompanied⟩
    have found : v1StateToServiceData body = .ok (translated body) := by
      obtain ⟨_, found⟩ | ⟨large, _⟩ := typed.translation_lands
      · exact found
      · exact absurd fits large
    have still : onOf body = none → ¬Changes body → number body "transitiontime" = none := by
      intro absent idle
      by_contra timed
      exact accompanied ⟨absent, idle, Option.isSome_iff_ne_none.mpr timed⟩
    exact {
      means := ⟨translated body, found, means_translated still⟩
      monotone := by
        intro other otherTyped data otherData read otherRead on otherOn bri otherBri given otherGiven ordered
        exact ⟨_, _, brightness_scaled typed read on given, brightness_scaled otherTyped otherRead otherOn otherGiven,
          scaledBri_mono ordered⟩
      idle := by
        intro absent idle s lightId
        rw [translated_idle absent idle (still absent idle)] at found
        exact handleLightCommand_idle found s lightId }

/-- A change of hue and brightness with an unknown key. -/
def dimmed : Json := .object [("bri", .int 127), ("hue", .int 100), ("alert", .str "select"), ("transitiontime", .int 4)]

theorem dimmed_wellTyped : WellTyped dimmed where
  object := ⟨_, rfl⟩
  on := rfl
  numbers := by decide
  point := rfl

theorem dimmed_fits : AllFit dimmed where
  transition := by
    intro tenths given
    obtain rfl := Option.some.inj ((rfl : number dimmed "transitiontime" = some 4).symm.trans given)
    exact lt_of_le_of_lt (by norm_num) million_lt_floatLimit
  brightness := by
    intro _ bri given
    obtain rfl := Option.some.inj ((rfl : number dimmed "bri" = some 127).symm.trans given)
    exact lt_of_le_of_lt (by norm_num) million_lt_floatLimit
  color := fun _ => {
    point := fun _ _ given => by cases given
    hue := by
      intro _ hue given
      obtain rfl := Option.some.inj ((rfl : number dimmed "hue" = some 100).symm.trans given)
      exact fits_of_small (by norm_num)
    sat := fun _ _ given => by cases given }

theorem understood_exact_dimmed : Understood dimmed :=
  (understood_exact dimmed dimmed_wellTyped).mpr ⟨dimmed_fits, by decide⟩

/-- A body with a transition and nothing that changes the light. -/
def transitionAlone : Json := .object [("transitiontime", .int 4)]

theorem transitionAlone_on : WellTyped transitionAlone ∧ onOf transitionAlone = none ∧ ¬Changes transitionAlone ∧
    (v1StateToServiceData transitionAlone).toOption =
      some { transition := some (4 / 10), service := some .turnOn } ∧
    ¬Understood transitionAlone := by
  have typed : WellTyped transitionAlone := ⟨⟨_, rfl⟩, rfl, by decide, rfl⟩
  have read : (v1StateToServiceData transitionAlone).toOption =
      some { transition := some (4 / 10), service := some .turnOn } := by decide +kernel
  refine ⟨typed, rfl, by decide, read, fun understood => ?_⟩
  obtain ⟨data, found, means⟩ := understood.means
  rw [found] at read
  have on : data.service = some .turnOn := by
    rw [Option.some.inj read]
  exact absurd (means.on.mp on) (by decide)

end HueEntertainment.ClassicBody
