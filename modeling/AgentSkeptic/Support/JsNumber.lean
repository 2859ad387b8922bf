import AgentSkeptic.Support.JsString
import Mathlib.Algebra.Field.Rat

/-!
# JavaScript numbers

The numbers that `JSON.parse` returns.  A finite number is the decimal that
`String(n)` writes, the shortest one that reads back as the same double, so two
numbers are `===` exactly when they are equal here, and `-0` is `0`.  `1e999`
reads as `Infinity`.
-/

namespace AgentSkeptic.Support

/-- `±digits / 10 ^ scale`, not an integer, in lowest terms. -/
structure Fraction where
  negative : Bool
  digits : ℕ
  scale : ℕ
  lowest : 0 < scale ∧ digits % 10 ≠ 0
  deriving DecidableEq

inductive JsNumber where
  | int (value : ℤ)
  | frac (value : Fraction)
  | infinity (negative : Bool)
  deriving DecidableEq

namespace JsNumber

/-- `Number.isFinite`. -/
def isFinite : JsNumber → Bool
  | infinity _ => false
  | _ => true

/-- The value when `Number.isInteger`. -/
def toInt? : JsNumber → Option ℤ
  | int value => some value
  | _ => none

/-- The value of a finite number; `0` for the others. -/
def toRat : JsNumber → ℚ
  | int value => value
  | frac value =>
      (if value.negative then -(value.digits : ℚ) else value.digits) /
        10 ^ value.scale
  | infinity _ => 0

/-! ## `Number::toString` -/

def decimalDigits (n : ℕ) : List Char := Nat.toDigits 10 n

/-- Scientific notation: one digit, the others after a point, and the exponent. -/
def scientific (digits : List Char) (exponent : ℤ) : List Char :=
  let sign := if exponent < 0 then '-' else '+'
  digits.take 1 ++ (if digits.length ≤ 1 then [] else '.' :: digits.drop 1) ++
    ['e', sign] ++ decimalDigits exponent.natAbs

def trimZeros (digits : List Char) : List Char :=
  (digits.reverse.dropWhile (· == '0')).reverse

def intText (magnitude : ℕ) : List Char :=
  let digits := decimalDigits magnitude
  if digits.length ≤ 21 then digits
  else scientific (trimZeros digits) (digits.length - 1)

def fracText (digits scale : ℕ) : List Char :=
  let ds := decimalDigits digits
  let point : ℤ := ds.length - scale
  if 0 < point then ds.take point.toNat ++ ['.'] ++ ds.drop point.toNat
  else if -6 < point then
    ['0', '.'] ++ List.replicate point.natAbs '0' ++ ds
  else scientific ds (point - 1)

/-- `String(n)`. -/
def toText : JsNumber → String
  | int value =>
      String.ofList ((if value < 0 then ['-'] else []) ++ intText value.natAbs)
  | frac value =>
      String.ofList ((if value.negative then ['-'] else []) ++
        fracText value.digits value.scale)
  | infinity negative => if negative then "-Infinity" else "Infinity"

/-- `JSON.stringify(n)`. -/
def stringify (n : JsNumber) : String :=
  if n.isFinite then n.toText else "null"

/-! ## Reading a decimal literal

`round` finds the double nearest to a positive rational, ties to even, and
`shortest` the decimal that stands for it. -/

/-- `p / q` to the nearest integer, ties to even. -/
def nearest (p q : ℕ) : ℕ :=
  let floor := p / q
  let twice := 2 * (p % q)
  if twice < q then floor
  else if q < twice then floor + 1
  else if floor % 2 = 0 then floor
  else floor + 1

/-- `p / q * base ^ e` as a ratio. -/
def scaled (base p q : ℕ) (e : ℤ) : ℕ × ℕ :=
  if 0 ≤ e then (p * base ^ e.toNat, q) else (p, q * base ^ e.natAbs)

/-- Mantissa and binary exponent of the double nearest to `p / q`. -/
def round (p q : ℕ) : ℕ × ℤ :=
  let guess : ℤ := (Nat.log2 p : ℤ) - Nat.log2 q
  let below := scaled 2 p q (-guess)
  let top := if below.1 < below.2 then guess - 1 else guess
  let e := max (top - 52) (-1074)
  let ratio := scaled 2 p q (-e)
  let mantissa := nearest ratio.1 ratio.2
  if mantissa = 2 ^ 53 then (2 ^ 52, e + 1) else (mantissa, e)

/-- Read `digits * 10 ^ e` as a double. -/
def roundDecimal (digits : ℕ) (e : ℤ) : ℕ × ℤ :=
  let ratio := scaled 10 digits 1 e
  round ratio.1 ratio.2

/-- The closest decimal with `k` digits that reads back as `double`. -/
def withDigits (double : ℕ × ℤ) (k : ℕ) : Option (ℕ × ℤ) :=
  let ratio := scaled 2 double.1 1 double.2
  let size : ℤ := (decimalDigits (ratio.1 / ratio.2)).length
  let leading := if ratio.1 < ratio.2 then
      1 - ((decimalDigits (ratio.2 / ratio.1)).length : ℤ) else size
  let e := leading - k
  let shifted := scaled 10 ratio.1 ratio.2 (-e)
  let floor := shifted.1 / shifted.2
  let candidates := if nearest shifted.1 shifted.2 = floor
    then [floor, floor + 1] else [floor + 1, floor]
  (candidates.find? fun digits => roundDecimal digits e == double).map (·, e)

def shortest (double : ℕ × ℤ) : Option (ℕ × ℤ) :=
  (List.range 17).findSome? fun k => withDigits double (k + 1)

/-- `±digits / 10 ^ scale`, cancelling common factors of ten. -/
def ofScaled (negative : Bool) : ℕ → ℕ → JsNumber
  | digits, 0 => int (if negative then -(digits : ℤ) else digits)
  | digits, scale + 1 =>
      if h : digits % 10 = 0 then ofScaled negative (digits / 10) scale
      else frac ⟨negative, digits, scale + 1, Nat.succ_pos _, h⟩

/-- `±digits * 10 ^ e` as a number. -/
def ofDecimal (negative : Bool) (digits : ℕ) (e : ℤ) : JsNumber :=
  if digits = 0 then int 0
  else
    let double := roundDecimal digits e
    if 971 < double.2 then infinity negative
    else
      match shortest double with
      | none => int 0
      | some (digits, e) =>
          if 0 ≤ e then ofScaled negative (digits * 10 ^ e.toNat) 0
          else ofScaled negative digits e.natAbs

def digitsValue (digits : List Char) : ℕ :=
  digits.foldl (fun n c => 10 * n + (c.toNat - '0'.toNat)) 0

/-- The JSON grammar of numbers. -/
def parse? (text : List Char) : Option JsNumber := do
  let (negative, text) := match text with
    | '-' :: rest => (true, rest)
    | _ => (false, text)
  let whole := text.takeWhile Char.isDigit
  let rest := text.dropWhile Char.isDigit
  guard (whole ≠ [] ∧ (whole.head? = some '0' → whole.length = 1))
  let (fraction, rest) ← match rest with
    | '.' :: rest => do
        let fraction := rest.takeWhile Char.isDigit
        guard (fraction ≠ [])
        pure (fraction, rest.dropWhile Char.isDigit)
    | _ => pure ([], rest)
  let exponent : ℤ ← match rest with
    | [] => pure 0
    | e :: rest => do
        guard (e = 'e' ∨ e = 'E')
        let (minus, digits) := match rest with
          | '-' :: digits => (true, digits)
          | '+' :: digits => (false, digits)
          | _ => (false, rest)
        guard (digits ≠ [] ∧ digits.all Char.isDigit)
        pure (if minus then -(digitsValue digits : ℤ) else digitsValue digits)
  pure (ofDecimal negative (digitsValue (whole ++ fraction))
    (exponent - fraction.length))

example : (parse? "0.1000000000000000055511151231257827".toList).map toText =
    some "0.1" := by
  decide +kernel

end JsNumber

end AgentSkeptic.Support
