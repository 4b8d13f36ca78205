import LiveSections.Text.Decomposition

/-!
# One spelling for texts that look alike

Characters that only differ in how they are shown, such as letters of another width, and letters
with marks that can be written as one character or as several, are brought to one spelling
(normalization form KC).

- `decomposed`: every character taken apart.
- `ordered`: the marks on each letter in the order of their classes.
- `composed`: letters and marks put together again.
- `normalForm`: all three in turn.
-/

namespace LiveSections.Text

/-- Every character taken apart. -/
def decomposed (t : Text) : Text := t.flatMap compatibleParts

/-- Puts a character before a text whose marks are in order: a mark goes behind the marks of lower
classes. -/
def insertMark (c : Char) : Text → Text
  | [] => [c]
  | d :: ds =>
    if 0 < combiningClass d ∧ combiningClass d < combiningClass c then d :: insertMark c ds
    else c :: d :: ds

/-- The marks on each letter in the order of their classes; those of one class keep theirs. -/
def ordered (t : Text) : Text := t.foldr insertMark []

/-- Whether a character can reach the letter before the marks `marks`, the last one first: the
last mark has to be of a lower class. -/
def isUnblocked (marks : Text) (c : Char) : Bool :=
  marks.head?.elim true fun m => combiningClass m < combiningClass c

/-- Puts a letter together with the marks behind it that it can take in. `marks` are those that it
could not, the last one first. -/
def composedBehind (letter : Char) (marks : Text) : Text → Text
  | [] => letter :: marks.reverse
  | c :: cs =>
    match if isUnblocked marks c then composite? letter c else none with
    | some d => composedBehind d marks cs
    | none =>
      if combiningClass c = 0 then letter :: marks.reverse ++ composedBehind c [] cs
      else composedBehind letter (c :: marks) cs

/-- Letters and marks put together; marks before the first letter stay as they are. -/
def composed (t : Text) : Text :=
  let marks := t.takeWhile fun c => combiningClass c != 0
  match t.drop marks.length with
  | [] => marks
  | c :: cs => marks ++ composedBehind c [] cs

/-- The one spelling of all texts that look alike. -/
def normalForm (t : Text) : Text :=
  if t.all fun c => c.toNat < 128 then t else composed (ordered (decomposed t))

/-- Putting a character before a text loses nothing. -/
theorem insertMark_perm (c : Char) (t : Text) : (insertMark c t).Perm (c :: t) := by
  induction t with
  | nil => exact .refl _
  | cons d ds ih =>
    simp only [insertMark]
    split
    · exact (ih.cons d).trans (.swap c d ds)
    · exact .refl _

/-- Bringing marks into order loses nothing. -/
theorem ordered_perm (t : Text) : (ordered t).Perm t := by
  induction t with
  | nil => exact .refl _
  | cons c cs ih => exact (insertMark_perm c _).trans (ih.cons c)

end LiveSections.Text
