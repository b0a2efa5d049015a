import DocCheck.Decimal.Binary64
import DocCheck.Text.Basic
import DocCheck.Text.Digit

/-!
The shortest decimal text of a binary number: the fewest digits that are read back as the number,
and of those the nearest to it. For every count of digits only the two neighbours of the number on
the grid of that count can do.
-/

namespace DocCheck.Decimal

/-- Decimal digits and the place of the point: `digits * 10 ^ exponent`. -/
structure Scaled where
  digits : Nat
  exponent : Int
  deriving Repr, DecidableEq

/-- The least power of ten above a positive fraction, as an exponent. -/
def magnitude (num den : Nat) : Int :=
  if den ≤ num then (Nat.toDigits 10 (num / den)).length
  else
    match (List.range 400).find? fun zeros => den ≤ num * Nat.pow 10 (zeros + 1) with
    | some zeros => -(zeros : Int)
    | none => -400

/-- The borders of the numbers that round to a positive `x`, as fractions. -/
def borders (x : Binary64) : (Nat × Nat) × (Nat × Nat) :=
  -- Below a power of two the next number is only half as far away.
  let lower : Binary64 :=
    if x.significand = Nat.pow 2 52 && Binary64.minExponent < x.exponent then
      ⟨4 * x.significand - 1, x.exponent - 2⟩
    else ⟨2 * x.significand - 1, x.exponent - 1⟩
  let upper : Binary64 := ⟨2 * x.significand + 1, x.exponent - 1⟩
  (lower.fraction, upper.fraction)

def Scaled.fraction (d : Scaled) : Nat × Nat :=
  if 0 ≤ d.exponent then (d.digits * Nat.pow 10 d.exponent.toNat, 1)
  else (d.digits, Nat.pow 10 (-d.exponent).toNat)

/-- The decimal number is read back as `x`. -/
def readsBack (x : Binary64) (d : Scaled) : Bool :=
  let value := d.fraction
  let bounds := borders x
  let low := bounds.1.1 * value.2
  let high := bounds.2.1 * value.2
  let atLow := value.1 * bounds.1.2
  let atHigh := value.1 * bounds.2.2
  -- A tie goes to the even significand, and so the borders do.
  if x.significand % 2 = 0 then low ≤ atLow && atHigh ≤ high else low < atLow && atHigh < high

/-- The distance between a binary and a decimal number, over a denominator common to all decimal
numbers of one exponent. -/
def distance (x : Binary64) (d : Scaled) : Nat :=
  let value := d.fraction
  let exact := x.fraction
  let left := value.1 * exact.2
  let right := exact.1 * value.2
  if left ≤ right then right - left else left - right

/-- The decimal number with a given exponent that is read back as `x`, if one of the neighbours of
`x` is; the nearer one, if both are. -/
def nearest? (x : Binary64) (exponent : Int) : Option Scaled :=
  let exact := x.fraction
  let quotient :=
    if 0 ≤ exponent then exact.1 / (exact.2 * Nat.pow 10 exponent.toNat)
    else exact.1 * Nat.pow 10 (-exponent).toNat / exact.2
  let below : Scaled := ⟨quotient, exponent⟩
  let above : Scaled := ⟨quotient + 1, exponent⟩
  let nearer := distance x below < distance x above ||
    (distance x below = distance x above && quotient % 2 = 0)
  match readsBack x below, readsBack x above with
  | true, true => some (if nearer then below else above)
  | true, false => some below
  | false, true => some above
  | false, false => none

/-- The shortest decimal number that is read back as a positive `x`; seventeen digits always do. -/
def shortest (x : Binary64) : Scaled :=
  let point := magnitude x.fraction.1 x.fraction.2
  ((List.range 17).findSome? fun (count : Nat) => nearest? x (point - (count + 1))).getD ⟨0, 0⟩

/-- The digits of a number without the zeros at its end, at least one. -/
def trimmedDigits (n : Nat) : Text :=
  match (Text.decimal n).reverse.dropWhile (· == '0') with
  | [] => ['0']
  | kept => kept.reverse

/-- The text of a number that is not negative: positional between `1e-5` and `1e16`, with a point
and at least one digit on both sides of it, otherwise with an exponent. -/
def text (x : Binary64) : Text :=
  if x.significand = 0 then "0.0".toList
  else
    let found := shortest x
    let point : Int := (Text.decimal found.digits).length + found.exponent
    let digits := trimmedDigits found.digits
    if 0 < point && point ≤ 16 then
      let before := point.toNat
      if digits.length ≤ before then
        digits ++ List.replicate (before - digits.length) '0' ++ ".0".toList
      else digits.take before ++ '.' :: digits.drop before
    else if -5 < point && point ≤ 0 then
      "0.".toList ++ List.replicate (-point).toNat '0' ++ digits
    else
      let exponent := point - 1
      let mantissa := match digits with
        | first :: second :: more => first :: '.' :: second :: more
        | other => other
      let sign := if exponent < 0 then '-' else '+'
      mantissa ++ 'e' :: sign :: Text.decimal exponent.natAbs

end DocCheck.Decimal
