import LiveSections.Text.Basic

/-!
# Sets of code points

Properties of characters are tables of code point ranges, written in hexadecimal as the standard
writes them: `0041-005A` for a range, `005F` for a single code point.

- `CodePoints.ofHex`: reads such a table.
- `CodePoints.contains`: membership of a character.
-/

namespace LiveSections

/-- A set of code points, as inclusive ranges. -/
structure CodePoints where
  ranges : List (Nat × Nat)

namespace CodePoints

/-- The value of a hexadecimal digit, in either case. -/
def hexDigit? (c : Char) : Option Nat :=
  if '0' ≤ c ∧ c ≤ '9' then some (c.toNat - '0'.toNat)
  else if 'a' ≤ c ∧ c ≤ 'f' then some (c.toNat - 'a'.toNat + 10)
  else if 'A' ≤ c ∧ c ≤ 'F' then some (c.toNat - 'A'.toNat + 10)
  else none

/-- The number written by hexadecimal digits; other characters count as zeros. -/
def hexValue (t : Text) : Nat := t.foldl (fun n c => n * 16 + (hexDigit? c).getD 0) 0

/-- The words of a table, between blanks and line feeds. -/
def words (table : String) : List Text :=
  ((table.toList.map fun c => if c = '\n' then ' ' else c) |> Text.splitOn ' ').filter (· ≠ [])

/-- One entry of a table: a range, or a code point by itself. -/
def rangeOfWord (w : Text) : Nat × Nat :=
  match Text.splitOn '-' w with
  | [a, b] => (hexValue a, hexValue b)
  | _ => (hexValue w, hexValue w)

/-- Reads a table of ranges. -/
def ofHex (table : String) : CodePoints := ⟨(words table).map rangeOfWord⟩

/-- Whether a character is in the set. -/
def contains (s : CodePoints) (c : Char) : Bool :=
  s.ranges.any fun r => r.1 ≤ c.toNat && c.toNat ≤ r.2

end CodePoints

end LiveSections
