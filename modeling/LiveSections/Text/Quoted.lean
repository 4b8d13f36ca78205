import LiveSections.Text.Printable

/-!
# Quoted text

How a text is shown inside a message or a list: between quotes, with escapes for what could not
be read otherwise.

- `quoteFor t`: the single quote, or the double quote for a text that holds a single quote and no
  double quote.
- `escapeChar`: the escapes for one character.
- `quoted`: the whole literal.
- `quotedBytes`: bytes as a literal.
-/

namespace LiveSections.Text

/-- The quote that surrounds a text. -/
def quoteFor (t : Text) : Char :=
  if '\'' ∈ t ∧ '"' ∉ t then '"' else '\''

/-- The lower-case digit of a value below sixteen. -/
def hexChar (n : Nat) : Char := Nat.digitChar n

/-- The lowest `width` hexadecimal digits of a number. -/
def hexDigits (width n : Nat) : Text :=
  (List.range width).reverse.map fun i => hexChar (n >>> (4 * i) % 16)

/-- The escape of a code point by its number: the shortest of two, four or eight digits. -/
def numericEscape (n : Nat) : Text :=
  if n < 0x100 then '\\' :: 'x' :: hexDigits 2 n
  else if n < 0x10000 then '\\' :: 'u' :: hexDigits 4 n
  else '\\' :: 'U' :: hexDigits 8 n

/-- One character inside quotes `q`. -/
def escapeChar (q c : Char) : Text :=
  if c = q ∨ c = '\\' then ['\\', c]
  else if c = '\n' then ['\\', 'n']
  else if c = '\r' then ['\\', 'r']
  else if c = '\t' then ['\\', 't']
  else if isPrintable c then [c]
  else numericEscape c.toNat

/-- A text as a quoted literal. -/
def quoted (t : Text) : Text :=
  let q := quoteFor t
  q :: t.flatMap (escapeChar q) ++ [q]

/-- Bytes as a quoted literal, in which only ASCII stands for itself. -/
def quotedBytes (bytes : List UInt8) : Text :=
  let t := bytes.map fun b => Char.ofNat b.toNat
  let q := quoteFor t
  'b' :: q :: t.flatMap (fun c => if c.toNat < 128 then escapeChar q c else numericEscape c.toNat)
    ++ [q]

end LiveSections.Text
