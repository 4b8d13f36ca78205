import LiveSections.Delimiters

/-!
# Settings

- `Settings`: what holds for a run unless it says otherwise; its field values are the defaults.
- `Settings.delimiters`: the markers as a pair.
-/

namespace LiveSections

/-- What holds for a run unless it says otherwise. -/
structure Settings where
  openMarker : Text := "<!---freshmark".toList
  closeMarker : Text := "-->".toList
  unknownSuffix : Text := "=UNKNOWN".toList
  canonicalTags : Bool := false
  maxWorkers : Int := 1
  strictMode : Bool := false
  deriving DecidableEq, Repr, Inhabited

/-- The pair of the two markers. -/
def Settings.delimiters (s : Settings) : Except EmptyMarker Delimiters :=
  Delimiters.ofMarkers s.openMarker s.closeMarker

end LiveSections
