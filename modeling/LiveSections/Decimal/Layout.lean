import LiveSections.Text.Basic
import LiveSections.Decimal.Shortest

/-!
# How a decimal is written

- `Layout`: where positional writing begins and ends, and how exponents look.
- `Layout.text`: a double in that layout, with the fewest digits that identify it.
-/

namespace LiveSections.Decimal

/-- The decisions of a layout. Numbers whose leading digit has an exponent from `plainFrom` up to
but not including `plainBelow` are written without an exponent. -/
structure Layout where
  plainFrom : Int
  plainBelow : Int
  /-- The text behind a number without a fraction. -/
  pointZero : Text
  /-- The least number of digits of an exponent. -/
  exponentWidth : Nat
  nan : Text
  infinity : Text

/-- The decimal digits of a number. -/
def digitsOf (n : Nat) : Text := Nat.toDigits 10 n

/-- Digits with zeros in front, up to a width. -/
def padded (width n : Nat) : Text :=
  let ds := digitsOf n
  List.replicate (width - ds.length) '0' ++ ds

namespace Layout

/-- The exponent part: mark, sign, digits. -/
def exponentText (l : Layout) (e : Int) : Text :=
  'e' :: (if e < 0 then '-' else '+') :: padded l.exponentWidth e.natAbs

/-- A decimal other than zero. -/
def scaledText (l : Layout) (d : Scaled) : Text :=
  let ds := digitsOf d.digits
  let lead : Int := d.exponent + ds.length - 1
  if l.plainFrom ≤ lead ∧ lead < l.plainBelow then
    if 0 ≤ d.exponent then ds ++ List.replicate d.exponent.toNat '0' ++ l.pointZero
    else if 0 ≤ lead then
      ds.take (lead.toNat + 1) ++ '.' :: ds.drop (lead.toNat + 1)
    else '0' :: '.' :: List.replicate (-lead - 1).toNat '0' ++ ds
  else
    let fraction := ds.drop 1
    ds.take 1 ++ (if fraction.isEmpty then [] else '.' :: fraction) ++ l.exponentText lead

/-- A double. -/
def text (l : Layout) (x : Float) : Text :=
  let sign : Text := if x.toBits >>> 63 = 1 then ['-'] else []
  if x.isNaN then l.nan
  else if x.isInf then sign ++ l.infinity
  else
    let b := Binary.ofBits (x.toBits &&& 0x7FFFFFFFFFFFFFFF)
    if b.m = 0 then sign ++ '0' :: l.pointZero
    else sign ++ l.scaledText b.shortest.trimmed

end Layout

end LiveSections.Decimal
