import LiveSections.Text.Basic

/-!
# Links, images and badges

- `link`, `image`: markdown.
- `badgeEscape`: one field of a badge address. A dash separates fields and an underscore stands for
  a blank, so both are doubled in a field; what is neither unreserved nor a star is percent-encoded
  in UTF-8.
- `badge`: the image of a badge with three fields.
-/

namespace LiveSections.Markdown

/-- A link. -/
def link (text url : Text) : Text := '[' :: text ++ ']' :: '(' :: url ++ [')']

/-- An image. -/
def image (alt url : Text) : Text := '!' :: link alt url

/-- The upper-case digit of a value below sixteen. -/
def hexDigit (n : Nat) : Char := (Nat.digitChar n).toUpper

/-- A byte as a percent sign and two digits. -/
def percentByte (b : UInt8) : Text :=
  ['%', hexDigit (b.toNat / 16), hexDigit (b.toNat % 16)]

/-- Whether a character stands as itself in a field. -/
def isUnreserved (c : Char) : Bool :=
  c.isAlphanum || c = '.' || c = '~' || c = '*'

/-- The code of one character of a field. -/
def escapeChar (c : Char) : Text :=
  if c = '_' then ['_', '_']
  else if c = '-' then ['-', '-']
  else if c = ' ' then ['_']
  else if isUnreserved c then [c]
  else (String.utf8EncodeChar c).flatMap percentByte

/-- One field of a badge address. -/
def badgeEscape (field : Text) : Text := field.flatMap escapeChar

/-- Where badges come from. -/
def badgeSource : Text := "https://img.shields.io/badge/".toList

/-- The address of a badge with three escaped fields. -/
def badgeAddress (subject status color : Text) : Text :=
  badgeSource ++ subject ++ '-' :: status ++ '-' :: color ++ ".svg".toList

/-- The image of a badge. -/
def badge (alt subject status color : Text) : Text :=
  image alt (badgeAddress (badgeEscape subject) (badgeEscape status) (badgeEscape color))

end LiveSections.Markdown
