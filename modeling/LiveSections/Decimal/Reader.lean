import LiveSections.Decimal.Power
import LiveSections.Text.Blank
import LiveSections.Text.Digit

/-!
# Reading numbers

- `digitsValue`: the number that digits stand for in a base.
- `signed?`: the integer of a text with a sign or without.
- `doubleOf`: the double nearest to `digits · 10^exponent`.
- `roundedDiv`: the integer nearest to a quotient of integers.
- `quotient`: the double nearest to one.
-/

namespace LiveSections.Decimal

/-- The value of a digit or letter, letters going on at ten. -/
def digitValue (c : Char) : Nat :=
  if c.isDigit then c.toNat - '0'.toNat else c.toLower.toNat - 'a'.toNat + 10

/-- The number that digits stand for. -/
def digitsValue (base : Nat) (t : Text) : Nat := t.foldl (fun n c => n * base + digitValue c) 0

/-- The most decimal digits that an integer is read from. -/
def maxDigits : Nat := 4300

/-- Whether a text consists of decimal digits, with single underscores between them. -/
def isDigits (t : Text) : Bool :=
  (Text.splitOn '_' t).all fun ds => !ds.isEmpty && ds.all Char.isDigit

/-- The natural number of decimal digits, with single underscores between them. -/
def natural? (t : Text) : Option Nat :=
  let ds := t.filter (· ≠ '_')
  if isDigits t && decide (ds.length ≤ maxDigits) then some (digitsValue 10 ds) else none

/-- The integer of a text with a sign or without. The digits may be those of any script, and spaces
around the text do not count. -/
def signed? (t : Text) : Option Int :=
  match Text.plainDigits (Text.trim Text.isSpace t) with
  | '-' :: ds => (natural? ds).map fun n => -n
  | '+' :: ds => (natural? ds).map fun n => n
  | ds => (natural? ds).map fun n => n

/-- The double nearest to `digits · 10^exponent`. Far outside the range of doubles the answer is
known without computing the power. -/
def doubleOf (digits : Nat) (exponent : Int) : Float :=
  let size : Int := exponent + digits.log2 * 30103 / 100000
  if digits = 0 || size < -400 then 0.0
  else if 400 < size then 1.0 / 0.0
  else Float.ofScientific digits (exponent < 0) exponent.natAbs

/-- The quotient of natural numbers, rounded to the nearest; a half goes to the even neighbour. -/
def roundedDiv (num den : Nat) : Nat :=
  let q := num / den
  match compare (2 * (num % den)) den with
  | .lt => q
  | .gt => q + 1
  | .eq => q + q % 2

/-- The exponent of the leading bit of `num / den`, for numbers other than zero. -/
def leadingBit (num den : Nat) : Int :=
  let e : Int := (num.log2 : Int) - den.log2
  if num * twoTo (-e) < den * twoTo e then e - 1 else e

/-- The double nearest to `num / den`, for `den ≠ 0`: the quotient is rounded once, to 53 bits or to
the last bit that doubles have. -/
def quotient (num den : Nat) : Float :=
  if num = 0 then 0.0
  else
    let last := max (leadingBit num den - 52) (-1074)
    (Float.ofNat (roundedDiv (num * twoTo (-last)) (den * twoTo last))).scaleB last

/-- The double nearest to a quotient of integers, for `den ≠ 0`. A zero keeps the sign of the
denominator. -/
def signedQuotient (num den : Int) : Float :=
  let x := quotient num.natAbs den.natAbs
  if (num < 0) == (den < 0) then x else -x

end LiveSections.Decimal
