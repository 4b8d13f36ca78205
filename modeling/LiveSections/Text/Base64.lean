import LiveSections.Text.Basic

/-!
# Base64

Four characters stand for three bytes, six bits each. Characters outside of the alphabet are passed
over, and what follows the padding does not count.

- `sextet?`: the six bits of a character.
- `decode`: the bytes of a text.
-/

namespace LiveSections.Base64

/-- The six bits that a character stands for. -/
def sextet? (c : Char) : Option Nat :=
  if c.isUpper then some (c.toNat - 'A'.toNat)
  else if c.isLower then some (c.toNat - 'a'.toNat + 26)
  else if c.isDigit then some (c.toNat - '0'.toNat + 52)
  else if c = '+' then some 62
  else if c = '/' then some 63
  else none

/-- The bytes from the middle of a group on: `held` characters of it are read, of which the bits
`left` belong to no byte yet, and `pads` signs of padding were met behind them. -/
def decodeFrom (held left pads : Nat) : Text → Option (List UInt8)
  | [] => if held = 0 then some [] else none
  | c :: cs =>
    if c = '=' then
      if held < 2 then decodeFrom held left pads cs
      else if 4 ≤ held + pads + 1 then some []
      else decodeFrom held left (pads + 1) cs
    else match sextet? c, held with
      | none, _ => decodeFrom held left pads cs
      | some d, 0 => decodeFrom 1 d 0 cs
      | some d, 1 => (decodeFrom 2 (d % 16) 0 cs).map (UInt8.ofNat (left * 4 + d / 16) :: ·)
      | some d, 2 => (decodeFrom 3 (d % 4) 0 cs).map (UInt8.ofNat (left * 16 + d / 4) :: ·)
      | some d, _ => (decodeFrom 0 0 0 cs).map (UInt8.ofNat (left * 64 + d) :: ·)

/-- The bytes of a text; none if its last group is not complete. -/
def decode (t : Text) : Option (List UInt8) := decodeFrom 0 0 0 t

end LiveSections.Base64
