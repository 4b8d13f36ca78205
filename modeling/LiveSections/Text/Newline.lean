import LiveSections.Text.Basic

/-!
# Ends of lines

Documents are compiled with line feeds only. A text whose lines end in carriage return and line
feed is converted before and restored afterwards.

- `hasCrlf`: whether any line ends in both characters.
- `toLf`, `toCrlf`: the two conversions.
- `restoring t`: undoes the conversion for texts made from `t`.
- `unified`: every one of the three ends of line as a line feed.
-/

namespace LiveSections.Text

/-- Whether a carriage return is followed by a line feed. -/
def hasCrlf : Text → Bool
  | '\r' :: '\n' :: _ => true
  | _ :: cs => hasCrlf cs
  | [] => false

/-- Each carriage return with a line feed behind it becomes a line feed. -/
def toLf : Text → Text
  | '\r' :: '\n' :: cs => '\n' :: toLf cs
  | c :: cs => c :: toLf cs
  | [] => []

/-- Each line feed gets a carriage return before it. -/
def toCrlf (t : Text) : Text := t.flatMap fun c => if c = '\n' then ['\r', '\n'] else [c]

/-- The ends of line that `raw` had, for a text made from `toLf raw`. -/
def restoring (raw t : Text) : Text := if hasCrlf raw then toCrlf t else t

/-- Every end of line as a line feed: both characters, and a carriage return by itself. -/
def unified (t : Text) : Text := (toLf t).map fun c => if c = '\r' then '\n' else c

end LiveSections.Text
