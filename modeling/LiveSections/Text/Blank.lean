import LiveSections.Text.Basic

/-!
# Blanks

- `isSpace`: the spaces and line ends.
- `isBlank`: the characters that count as space, whether inside a line or between lines.
- `strip`: a text without blanks at its ends.
-/

namespace LiveSections.Text

/-- Whether a character is one of the spaces and line ends of Unicode. -/
def isSpace (c : Char) : Bool :=
  let n := c.toNat
  9 ≤ n && n ≤ 13 || n == 32 || n == 0x85 || n == 0xA0 || n == 0x1680
    || 0x2000 ≤ n && n ≤ 0x200A || n == 0x2028 || n == 0x2029 || n == 0x202F || n == 0x205F
    || n == 0x3000

/-- Whether a character is a blank: a space or one of the four separators of ASCII. -/
def isBlank (c : Char) : Bool := isSpace c || 28 ≤ c.toNat && c.toNat ≤ 31

/-- A text without blanks at its ends. -/
def strip (t : Text) : Text := trim isBlank t

end LiveSections.Text
