import LiveSections.Document.Basic

/-!
# Faults of document structure

- `Fault`: what is wrong with a section, with the texts that its message needs.
- `Fault.kind`: the four classes of fault.
- `ParseError`: a fault and the offset at which it was found.
- `ParseError.notice`: a message with line number, position, a window of the source and a caret
  under the offending character.
- `ParseError.report`: the notice of an error.
-/

namespace LiveSections

/-- What is wrong with the structure of a document. -/
inductive Fault where
  /-- A closing tag stands where a section should open. -/
  | strayClosingTag
  /-- No line feed ends the header. -/
  | headerUnfinished
  /-- The header holds the close-marker. -/
  | headerClosed (header closing : Text)
  /-- The header yields an empty name. -/
  | nameless
  /-- No close-marker follows the program. -/
  | programUnfinished (name closing : Text)
  /-- No closing tag follows the program. -/
  | neverClosed (name : Text)
  /-- No close-marker ends the closing tag. -/
  | closingTagUnfinished (name closing : Text)
  /-- The closing tag names another section. -/
  | wrongName (expected found : Text)
  deriving DecidableEq, Repr

/-- The classes of faults. -/
inductive FaultKind where
  | mismatchedName
  | unterminated
  | invalidName
  | unexpectedClosingTag
  deriving DecidableEq, Repr

namespace Fault

/-- The class of a fault. -/
def kind : Fault → FaultKind
  | strayClosingTag => .unexpectedClosingTag
  | headerUnfinished | headerClosed .. | nameless => .invalidName
  | programUnfinished .. | neverClosed _ | closingTagUnfinished .. => .unterminated
  | wrongName .. => .mismatchedName

/-- The first line of the report. -/
def message : Fault → Text
  | strayClosingTag => "Found a closing tag where a section should open".toList
  | headerUnfinished => "Section header runs to end of input".toList
  | headerClosed header closing =>
    "Section header ".toList ++ Text.quoted header ++ " contains the close-marker ".toList
      ++ Text.quoted closing
  | nameless => "Section header has no name".toList
  | programUnfinished name closing =>
    "Section '".toList ++ name ++ "' has no ".toList ++ Text.quoted closing
      ++ " after its program".toList
  | neverClosed name => "Section '".toList ++ name ++ "' is never closed".toList
  | closingTagUnfinished name closing =>
    "Closing tag of section '".toList ++ name ++ "' has no ".toList ++ Text.quoted closing
  | wrongName expected found =>
    "Expected closing tag for section '".toList ++ expected ++ "', found '/".toList ++ found
      ++ ['\'']

end Fault

/-- A fault and where it was found. -/
structure ParseError where
  fault : Fault
  position : Nat
  deriving DecidableEq, Repr

namespace ParseError

/-- The number of the line, counted from one, that holds an offset. -/
def lineAt (source : Text) (position : Nat) : Nat := Text.lineFeeds (source.take position) + 1

/-- How many characters of context are shown on either side. -/
def reach : Nat := 40

/-- A text on one line: each line feed becomes a backslash and the letter n. -/
def onOneLine (t : Text) : Text := t.flatMap fun c => if c = '\n' then ['\\', 'n'] else [c]

/-- The window of the source before an offset. -/
def contextBefore (source : Text) (position : Nat) : Text :=
  (source.take position).drop (position - reach)

/-- The window of the source from an offset on. -/
def contextFrom (source : Text) (position : Nat) : Text := (source.drop position).take reach

/-- The line that shows the source around an offset. -/
def contextLine (source : Text) (position : Nat) : Text :=
  "Context: ...".toList
    ++ onOneLine (contextBefore source position ++ contextFrom source position) ++ "...".toList

/-- The line whose last character points at an offset of the line above it. -/
def caretLine (source : Text) (position : Nat) : Text :=
  List.replicate (12 + (onOneLine (contextBefore source position)).length) ' ' ++ ['^']

/-- A message about an offset of a source, with the number of its line, the source around it, and a
caret under it. -/
def notice (source message : Text) (position : Nat) : Text :=
  '\n' :: message ++ '\n' ::
    s!"Line {lineAt source position}, position {position}".toList ++ '\n' ::
    contextLine source position ++ '\n' :: caretLine source position

/-- The full message of an error in a source. -/
def report (source : Text) (e : ParseError) : Text := notice source e.fault.message e.position

end ParseError

end LiveSections
