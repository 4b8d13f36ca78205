import LiveSections.Text.Quoted

/-!
# Delimiters

The pair of markers that bounds every section comment. Both are literal text. The open-marker
begins the first line and the closing tag of a section; the close-marker ends its program and its
closing tag.

- `Delimiters`: a pair of markers, neither of them empty.
- `Delimiters.ofMarkers`: the pair, or `EmptyMarker` with the two texts that were given.
- `Delimiters.openTag`, `Delimiters.closeTag`: the canonical first line and closing tag.
-/

namespace LiveSections

/-- An open-marker and a close-marker. -/
structure Delimiters where
  opening : Text
  closing : Text
  opening_ne_nil : opening ≠ []
  closing_ne_nil : closing ≠ []

/-- The refusal of a pair with an empty marker. -/
structure EmptyMarker where
  opening : Text
  closing : Text

/-- The words of the refusal, with both markers quoted. -/
def EmptyMarker.message (e : EmptyMarker) : String :=
  let opening := (Text.quoted e.opening).str
  let closing := (Text.quoted e.closing).str
  s!"Delimiter markers must be non-empty, got open={opening} close={closing}"

namespace Delimiters

/-- The pair of two markers, if neither is empty. -/
def ofMarkers (opening closing : Text) : Except EmptyMarker Delimiters :=
  if h : opening ≠ [] ∧ closing ≠ [] then .ok ⟨opening, closing, h.1, h.2⟩
  else .error ⟨opening, closing⟩

/-- The canonical first line of a section, its line feed included. -/
def openTag (d : Delimiters) (name : Text) : Text := d.opening ++ ' ' :: name ++ ['\n']

/-- The canonical closing tag of a section. -/
def closeTag (d : Delimiters) (name : Text) : Text :=
  d.opening ++ '/' :: name ++ ' ' :: d.closing

/-- `ofMarkers` accepts exactly the pairs of non-empty markers. -/
theorem ofMarkers_isOk_iff {opening closing : Text} :
    (ofMarkers opening closing).isOk = true ↔ opening ≠ [] ∧ closing ≠ [] := by
  unfold ofMarkers
  split <;> simp_all [Except.isOk, Except.toBool]

end Delimiters

end LiveSections
