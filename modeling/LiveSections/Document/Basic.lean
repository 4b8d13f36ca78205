import LiveSections.Delimiters

/-!
# Documents

A document is read as literal text and named sections, in order.

- `Section`: a region with a name, a program and its previous output.
- `Part`: a literal or a section; `Part.text d` writes it back.
- `Piece`: a literal or a section with fresh output, `Piece.text` writes it.
-/

namespace LiveSections

/-- A stretch of a document, from one offset up to another. -/
structure Span where
  start : Nat
  stop : Nat
  deriving DecidableEq, Repr

/-- One named region of a document.

`header` is the raw text between the open-marker and the end of its line, `closingTag` the raw
closing tag with its markers. -/
structure Section where
  name : Text
  header : Text
  program : Text
  stale : Text
  closingTag : Text
  span : Span
  deriving DecidableEq, Repr

/-- What a document is made of. -/
inductive Part where
  | literal (text : Text) (span : Span)
  | live (s : Section)
  deriving DecidableEq, Repr

namespace Part

/-- The stretch that a part covers. -/
def span : Part → Span
  | literal _ span => span
  | live s => s.span

/-- The section of a part, if it is one. -/
def section? : Part → Option Section
  | literal .. => none
  | live s => some s

end Part

/-- The name that a header gives: the header without one leading blank. -/
def Section.nameOfHeader : Text → Text
  | ' ' :: rest => rest
  | header => header

/-- A section as it stands in its document. -/
def Section.source (d : Delimiters) (s : Section) : Text :=
  d.opening ++ s.header ++ '\n' :: s.program ++ d.closing ++ s.stale ++ s.closingTag

/-- A part as it stands in its document. -/
def Part.source (d : Delimiters) : Part → Text
  | literal text _ => text
  | live s => s.source d

/-- All sections of a document, in order. -/
def sectionsOf (parts : List Part) : List Section := parts.filterMap Part.section?

/-! ## Fresh output -/

/-- Output with exactly one line feed at either end; a single line feed if there is nothing
else in it. -/
def normalizeOutput (output : Text) : Text :=
  match Text.trim (· = '\n') output with
  | [] => ['\n']
  | body => '\n' :: body ++ ['\n']

/-- A section together with its fresh output. -/
structure Rendered where
  origin : Section
  output : Text
  deriving DecidableEq, Repr

/-- Whether tags are written as they were read or in canonical form. -/
inductive TagStyle where
  | verbatim
  | canonical
  deriving DecidableEq, Repr

namespace Rendered

/-- Writes a section back: its tags, its program as it was read, and its fresh output. -/
def text (d : Delimiters) (style : TagStyle) (r : Rendered) : Text :=
  match style with
  | .verbatim =>
    d.opening ++ r.origin.header ++ '\n' :: r.origin.program ++ d.closing ++ r.output
      ++ r.origin.closingTag
  | .canonical =>
    d.openTag r.origin.name ++ r.origin.program ++ d.closing ++ r.output
      ++ d.closeTag r.origin.name

end Rendered

/-- A literal, or a section with fresh output. -/
inductive Piece where
  | literal (text : Text)
  | rendered (r : Rendered)
  deriving DecidableEq, Repr

/-- A piece as text. -/
def Piece.text (d : Delimiters) (style : TagStyle) : Piece → Text
  | literal text => text
  | rendered r => r.text d style

/-- All pieces, one behind the other. -/
def assemble (d : Delimiters) (style : TagStyle) (pieces : List Piece) : Text :=
  pieces.flatMap (Piece.text d style)

end LiveSections
