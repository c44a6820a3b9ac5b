import Mathlib.Data.Rat.Floor

/-! The Python values a JSON request body can hold, and the conversions the bridge applies to them:
`int`, `float`, true division and `round`. A float is its exact rational value; the rounding of a
result to 53 bits is not modelled, its overflow is. -/

namespace HueEntertainment.PyValue

inductive PyError where
  | typeError | valueError | overflowError | attributeError | indexError | structError | recursionError
  deriving DecidableEq, Repr

inductive PyFloat where
  | finite (value : ℚ)
  | infinite (negative : Bool)
  | nan
  deriving DecidableEq, Repr

inductive Json where
  | null
  | bool (value : Bool)
  | int (value : ℤ)
  | float (value : PyFloat)
  | str (value : String)
  | array (items : List Json)
  | object (fields : List (String × Json))

/-- From here on the nearest double is infinite: halfway between the largest one and 2^1024. -/
def floatLimit : ℚ := 2 ^ 1024 - 2 ^ 970

/-- Code points of the decimal digit zero of each script; the other nine digits follow it. -/
def digitZeros : List Nat :=
  [48, 1632, 1776, 1984, 2406, 2534, 2662, 2790, 2918, 3046, 3174, 3302, 3430, 3558, 3664, 3792, 3872,
   4160, 4240, 6112, 6160, 6470, 6608, 6784, 6800, 6992, 7088, 7232, 7248, 42528, 43216, 43264, 43472,
   43504, 43600, 44016, 65296, 66720, 68912, 69734, 69872, 69942, 70096, 70384, 70736, 70864, 71248,
   71360, 71472, 71904, 72016, 72784, 73040, 73120, 73552, 92768, 92864, 93008, 120782, 120792, 120802,
   120812, 120822, 123200, 123632, 124144, 125264, 130032]

def digitValue (c : Char) : Option Nat :=
  (digitZeros.find? (fun first => first ≤ c.toNat && c.toNat ≤ first + 9)).map (fun first => c.toNat - first)

def isSpace (c : Char) : Bool :=
  (9 ≤ c.toNat && c.toNat ≤ 13) || (28 ≤ c.toNat && c.toNat ≤ 32) ||
    (8192 ≤ c.toNat && c.toNat ≤ 8202) ||
    [133, 160, 5760, 8232, 8233, 8239, 8287, 12288].contains c.toNat

/-- The blanks around a number: unlike `isspace`, `int` and `float` do not pass over the separators U+001C to U+001F. -/
def isBlank (c : Char) : Bool := isSpace c && !(28 ≤ c.toNat && c.toNat ≤ 31)

/-- The text without the characters of one kind at its ends. -/
def trim (kind : Char → Bool) (text : List Char) : List Char :=
  ((text.dropWhile kind).reverse.dropWhile kind).reverse

def strip (text : List Char) : List Char := trim isSpace text

theorem trim_eq_self {kind : Char → Bool} {text : List Char} (none : ∀ c ∈ text, kind c = false) :
    trim kind text = text := by
  have front : ∀ part : List Char, (∀ c ∈ part, kind c = false) → part.dropWhile kind = part := by
    intro part each
    cases part with
    | nil => rfl
    | cons c rest => exact List.dropWhile_cons_of_neg (by simp [each c List.mem_cons_self])
  unfold trim
  rw [front text none, front text.reverse (fun c member => none c (List.mem_reverse.mp member)), List.reverse_reverse]

def splitSign : List Char → Bool × List Char
  | '-' :: rest => (true, rest)
  | '+' :: rest => (false, rest)
  | text => (false, text)

/-- Decimal digits with single underscores between them. -/
def digitsOf : List Char → Option (List Nat)
  | [] => none
  | [c] => (digitValue c).map (fun digit => [digit])
  | c :: '_' :: rest => do
      let digit ← digitValue c
      let digits ← digitsOf rest
      return digit :: digits
  | c :: rest => do
      let digit ← digitValue c
      let digits ← digitsOf rest
      return digit :: digits

def natOfDigits (digits : List Nat) : Nat :=
  digits.foldl (fun value digit => 10 * value + digit) 0

/-- `int(text)`; the interpreter refuses more than 4300 digits with the same ValueError. -/
def intOfString (text : String) : Except PyError ℤ :=
  let (negative, body) := splitSign (trim isBlank text.toList)
  match digitsOf body with
  | some digits =>
      if digits.length ≤ 4300 then
        .ok (if negative then -(natOfDigits digits : ℤ) else natOfDigits digits)
      else .error .valueError
  | none => .error .valueError

def intOf : Json → Except PyError ℤ
  | .int value => .ok value
  | .bool value => .ok (if value then 1 else 0)
  | .float (.finite value) => .ok (value.num.tdiv value.den)
  | .float .nan => .error .valueError
  | .float (.infinite _) => .error .overflowError
  | .str text => intOfString text
  | .null | .array _ | .object _ => .error .typeError

/-- The digits before the exponent: an integer part, a fraction, or both. -/
def mantissaOf (text : List Char) : Option (List Nat × List Nat) :=
  match text.splitAt (text.findIdx (· = '.')) with
  | (whole, []) => (digitsOf whole).map (fun digits => (digits, []))
  | ([], [_]) => none
  | (whole, [_]) => (digitsOf whole).map (fun digits => (digits, []))
  | ([], _ :: fraction) => (digitsOf fraction).map (fun digits => ([], digits))
  | (whole, _ :: fraction) => do
      let high ← digitsOf whole
      let low ← digitsOf fraction
      return (high, low)

def exponentOf : List Char → Option ℤ
  | [] => some 0
  | _ :: text =>
      let (negative, digits) := splitSign text
      (digitsOf digits).map (fun ds => if negative then -(natOfDigits ds : ℤ) else natOfDigits ds)

def decimalOf (text : List Char) : Option ℚ := do
  let (mantissa, exponent) := text.splitAt (text.findIdx (fun c => c = 'e' || c = 'E'))
  let (high, low) ← mantissaOf mantissa
  let shift ← exponentOf exponent
  return (natOfDigits (high ++ low) : ℚ) * (10 : ℚ) ^ (shift - low.length)

def floatOfString (text : String) : Except PyError PyFloat :=
  let (negative, body) := splitSign (trim isBlank text.toList)
  let word := body.map Char.toLower
  if word = ['i', 'n', 'f'] ∨ word = ['i', 'n', 'f', 'i', 'n', 'i', 't', 'y'] then
    .ok (.infinite negative)
  else if word = ['n', 'a', 'n'] then .ok .nan
  else match decimalOf body with
    | some value =>
        if value < floatLimit then .ok (.finite (if negative then -value else value))
        else .ok (.infinite negative)
    | none => .error .valueError

def floatOfInt (value : ℤ) : Except PyError PyFloat :=
  if |(value : ℚ)| < floatLimit then .ok (.finite value) else .error .overflowError

def floatOf : Json → Except PyError PyFloat
  | .int value => floatOfInt value
  | .bool value => .ok (.finite (if value then 1 else 0))
  | .float value => .ok value
  | .str text => floatOfString text
  | .null | .array _ | .object _ => .error .typeError

/-- `numerator / denominator` on two ints, the denominator not zero. -/
def trueDiv (numerator denominator : ℤ) : Except PyError ℚ :=
  let quotient : ℚ := numerator / denominator
  if |quotient| < floatLimit then .ok quotient else .error .overflowError

/-- `round(value)`: the nearest integer, a tie going to the even one. -/
def roundHalfEven (value : ℚ) : ℤ :=
  let low := ⌊value⌋
  let rest := value - low
  if rest < 1 / 2 then low
  else if 1 / 2 < rest then low + 1
  else if low % 2 = 0 then low else low + 1

/-- `round(value, digits)`. -/
def roundDigits (value : ℚ) (digits : Nat) : ℚ :=
  roundHalfEven (value * 10 ^ digits) / 10 ^ digits

/-- `value / divisor * factor`, rounded to two digits; infinities and nan pass through. -/
def PyFloat.scaled (divisor factor : ℚ) : PyFloat → PyFloat
  | .finite value => .finite (roundDigits (value / divisor * factor) 2)
  | other => other

end HueEntertainment.PyValue
