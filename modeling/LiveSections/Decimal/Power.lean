/-!
# Powers of two and of ten, and signed words

Numbers are scaled by powers with signed exponents. A negative exponent leaves its own side as it
is: the other side of a comparison or a quotient is scaled by the opposite power.

- `twoTo`, `tenTo`: the powers, for exponents below zero 1.
- `twoTo_add`, `tenTo_add`: exponents of one sign add up; both powers are positive.
- `Word.holds`: whether an integer fits into a signed word of 64 or of 32 bits.
-/

namespace LiveSections

namespace Decimal

/-- The power of two with an exponent. A shift stays cheap for large ones. -/
def twoTo (k : Int) : Nat := 1 <<< k.toNat

/-- The power of ten with an exponent. -/
def tenTo (k : Int) : Nat := Nat.pow 10 k.toNat

theorem twoTo_pos (k : Int) : 0 < twoTo k := by
  rw [twoTo, Nat.shiftLeft_eq, Nat.one_mul]
  exact Nat.two_pow_pos _

theorem tenTo_pos (k : Int) : 0 < tenTo k := Nat.pow_pos (by decide)

theorem twoTo_add {i j : Int} (hi : 0 ≤ i) (hj : 0 ≤ j) :
    twoTo (i + j) = twoTo i * twoTo j := by
  rw [twoTo, twoTo, twoTo, Int.toNat_add hi hj, Nat.shiftLeft_eq, Nat.shiftLeft_eq,
    Nat.shiftLeft_eq, Nat.pow_add, Nat.one_mul, Nat.one_mul, Nat.one_mul]

theorem tenTo_add {i j : Int} (hi : 0 ≤ i) (hj : 0 ≤ j) :
    tenTo (i + j) = tenTo i * tenTo j := by
  rw [tenTo, Int.toNat_add hi hj]
  exact Nat.pow_add 10 i.toNat j.toNat

end Decimal

/-- The widths of signed words: 64 bits and 32. -/
inductive Word where
  | long
  | short
  deriving DecidableEq, Repr

namespace Word

/-- The least number that is too large for a word. -/
def limit : Word → Nat
  | long => 0x8000000000000000
  | short => 0x80000000

/-- Whether a word holds an integer: there is one more below zero than above. -/
def holds (w : Word) (n : Int) : Bool := -w.limit ≤ n && n < w.limit

theorem holds_iff {w : Word} {n : Int} : w.holds n ↔ -w.limit ≤ n ∧ n < w.limit := by
  simp [holds]

end Word

end LiveSections
