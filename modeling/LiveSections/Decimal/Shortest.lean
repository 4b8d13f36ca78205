import LiveSections.Decimal.Power

/-!
# The fewest decimal digits that identify a binary number

A finite binary number `m · 2^q` stands for an interval of reals: from halfway to its lower
neighbour to halfway to its upper one, the ends belonging to it iff `m` is even.

- `Binary.ofFloat`: the number as `m` and `q`.
- `Binary.identifies`: whether a decimal lies in the interval, by exact integer arithmetic.
- `Binary.shortest`: the first of the grids of 1, 2, … 17 digits on which a neighbour of the number
  identifies it; of two the nearer, of two equally near the even one.
-/

namespace LiveSections.Decimal

/-- A non-negative binary number `m · 2^q`. The gap below it is half the gap above it iff
`narrowBelow`. -/
structure Binary where
  m : Nat
  q : Int
  narrowBelow : Bool
  deriving DecidableEq, Repr

/-- A decimal number `digits · 10^exponent`. -/
structure Scaled where
  digits : Nat
  exponent : Int
  deriving DecidableEq, Repr

/-- The number that the bits of a finite double stand for, its sign left out. -/
def Binary.ofBits (bits : UInt64) : Binary :=
  let e := ((bits >>> 52) &&& 0x7FF).toNat
  let f := (bits &&& 0xFFFFFFFFFFFFF).toNat
  if e = 0 then ⟨f, -1074, false⟩ else ⟨twoTo 52 + f, e - 1075, f == 0 && 1 < e⟩

/-- Compares `a · 10^i` with `n · 2^j`. -/
def compareScaled (a : Nat) (i : Int) (n : Nat) (j : Int) : Ordering :=
  compare (a * tenTo i * twoTo (-j)) (n * twoTo j * tenTo (-i))

namespace Binary

/-- Whether a decimal lies in the interval that the number stands for. -/
def identifies (x : Binary) (d : Scaled) : Bool :=
  let low := compareScaled d.digits d.exponent (4 * x.m - if x.narrowBelow then 1 else 2) (x.q - 2)
  let high := compareScaled d.digits d.exponent (4 * x.m + 2) (x.q - 2)
  let closed := x.m % 2 == 0
  (low == .gt || closed && low == .eq) && (high == .lt || closed && high == .eq)

/-- The greatest decimal with the given exponent that is not above the number. -/
def floorAt (x : Binary) (exponent : Int) : Nat :=
  x.m * twoTo x.q * tenTo (-exponent) / (twoTo (-x.q) * tenTo exponent)

/-- Of the two neighbours of the number on the grid of an exponent, the one that identifies it. -/
def onGrid? (x : Binary) (exponent : Int) : Option Scaled :=
  let below : Scaled := ⟨x.floorAt exponent, exponent⟩
  let above : Scaled := ⟨below.digits + 1, exponent⟩
  match x.identifies below, x.identifies above with
  | false, false => none
  | true, false => some below
  | false, true => some above
  | true, true =>
    match compareScaled (2 * below.digits + 1) exponent (2 * x.m) x.q with
    | .gt => some below
    | .lt => some above
    | .eq => some (if below.digits % 2 = 0 then below else above)

/-- The least exponent `k` with the number below `10^k`, searched from below. -/
def scale (x : Binary) : Int :=
  let estimate : Int := (x.q + Nat.log2 x.m) * 30103 / 100000 - 1
  let reaches (k : Int) : Bool := compareScaled 1 k x.m x.q == .gt
  (((List.range 5).map fun i : Nat => estimate + i).find? reaches).getD (estimate + 5)

/-- The decimal with the fewest digits that identifies a number other than zero. Seventeen digits
always do; the exact value stands in for a failed search. -/
def shortest (x : Binary) : Scaled :=
  let k := x.scale
  (((List.range 17).map fun i : Nat => k - (i + 1 : Nat)).findSome? x.onGrid?).getD
    ⟨x.floorAt (min x.q 0), min x.q 0⟩

end Binary

/-- A decimal without zeros at the end of its digits. -/
def Scaled.trimmed (d : Scaled) : Scaled :=
  let rec go : Nat → Nat → Int → Scaled
    | 0, digits, exponent => ⟨digits, exponent⟩
    | n + 1, digits, exponent =>
      if digits ≠ 0 ∧ digits % 10 = 0 then go n (digits / 10) (exponent + 1)
      else ⟨digits, exponent⟩
  go d.digits.log2 d.digits d.exponent

end LiveSections.Decimal
