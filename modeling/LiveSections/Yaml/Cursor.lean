import LiveSections.Text.Basic

/-!
# Places in a text

- `Cursor`: what is left of a text, with offset, line and column of its first character.
- `Cursor.advance`, `Cursor.skip`, `Cursor.span`: moving on.
-/

namespace LiveSections.Yaml

/-- Whether a character ends a line. Carriage returns have become line feeds before. -/
def isBreak (c : Char) : Bool :=
  c = '\n' || c = '\x85' || c = '\u2028' || c = '\u2029'

/-- Whether a line, or the text, ends here. -/
def atBreak : Option Char → Bool
  | none => true
  | some c => isBreak c

/-- Whether a word ends here: at a blank, a tab, the end of a line or of the text. -/
def atSpace : Option Char → Bool
  | none => true
  | some c => c = ' ' || c = '\t' || isBreak c

/-- What is left of a text, and where it begins. -/
structure Cursor where
  rest : Text
  index : Nat := 0
  line : Nat := 0
  column : Nat := 0

namespace Cursor

/-- The character here. -/
def peek? (c : Cursor) : Option Char := c.rest.head?

/-- The character `n` places on. -/
def peekAt? (c : Cursor) (n : Nat) : Option Char := c.rest[n]?

/-- Whether a character is here. -/
def isAt (c : Cursor) (x : Char) : Bool := c.peek? == some x

/-- One character on. A byte order mark takes no column. -/
def advance (c : Cursor) : Cursor :=
  match c.rest with
  | [] => c
  | x :: rest =>
    if isBreak x then { rest, index := c.index + 1, line := c.line + 1, column := 0 }
    else if x = '\uFEFF' then { c with rest, index := c.index + 1 }
    else { c with rest, index := c.index + 1, column := c.column + 1 }

/-- `n` characters on. -/
def skip (c : Cursor) : Nat → Cursor
  | 0 => c
  | n + 1 => c.advance.skip n

/-- The characters for which `p` holds, and the place behind them. -/
def span (c : Cursor) (p : Char → Bool) : Text × Cursor :=
  let run := c.rest.takeWhile p
  (run, c.skip run.length)

/-- Behind the blanks that begin here. -/
def skipBlanks (c : Cursor) : Cursor := (c.span (· = ' ')).2

/-- Behind the end of line that begins here: the characters it stands for in a text. -/
def lineBreak? (c : Cursor) : Option (Text × Cursor) :=
  match c.peek? with
  | none => none
  | some x =>
    if x = '\n' ∨ x = '\x85' then some (['\n'], c.advance)
    else if isBreak x then some ([x], c.advance)
    else none

/-- Behind a comment that begins here. -/
def skipComment (c : Cursor) : Cursor :=
  if c.isAt '#' then (c.span fun x => !isBreak x).2 else c

/-- Whether a line of three dashes or dots begins here. -/
def atDocumentMark (c : Cursor) : Bool :=
  (c.rest.take 3 == "---".toList || c.rest.take 3 == "...".toList) && atSpace (c.peekAt? 3)

end Cursor

end LiveSections.Yaml
