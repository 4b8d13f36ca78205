import LiveSections.Proofs.Splice

/-!
# The caret under the source

A notice of a fault ends with an excerpt of the source on one line, and a caret on the line below.
An excerpt is cut at both ends, and it is longer than what it shows, since each line feed in it
takes two characters.

- `splitOn_append_cons`: lines of two texts with a line feed between them.
- `onOneLine_append`: line feeds are written out on either side of a cut by themselves.
- `PointsAt`: an excerpt and a column below it, at which the source goes on from an offset.
- `notice_pointsAt`: **the caret stands under the character at the offset,** for every source and
  message, and the line that is reported is the one that holds the offset.
-/

namespace LiveSections

/-! ## Lines -/

namespace Text

theorem splitOn_ne_nil (sep : Char) (t : Text) : splitOn sep t ≠ [] := by
  cases t with
  | nil => exact List.cons_ne_nil _ _
  | cons c t =>
    rw [splitOn]
    split
    · exact List.cons_ne_nil _ _
    · split <;> exact List.cons_ne_nil _ _

/-- The pieces on either side of a separator are those of the two texts. -/
theorem splitOn_append_cons (sep : Char) (s t : Text) :
    splitOn sep (s ++ sep :: t) = splitOn sep s ++ splitOn sep t := by
  induction s with
  | nil =>
    show (if sep = sep then [] :: splitOn sep t else _) = [] :: splitOn sep t
    rw [if_pos rfl]
  | cons c s ih =>
    rw [List.cons_append, splitOn, splitOn, ih]
    by_cases hc : c = sep
    · rw [if_pos hc, if_pos hc, List.cons_append]
    · rw [if_neg hc, if_neg hc]
      obtain ⟨u, us, hu⟩ := List.exists_cons_of_ne_nil (splitOn_ne_nil sep s)
      rw [hu]
      rfl

theorem splitOn_of_notMem {sep : Char} {t : Text} (h : sep ∉ t) : splitOn sep t = [t] := by
  induction t with
  | nil => rfl
  | cons c t ih =>
    rw [List.mem_cons, not_or] at h
    rw [splitOn, if_neg (Ne.symm h.1), ih h.2]

end Text

namespace ParseError

/-- The line that tells where an offset is stays one line. -/
theorem lineFeed_notMem_place (line position : Nat) :
    '\n' ∉ s!"Line {line}, position {position}".toList := by
  have hdigits (n : Nat) : '\n' ∉ (toString n).toList := by
    rw [Nat.toString_eq_repr, Nat.toList_repr]
    intro h
    exact absurd (Nat.isDigit_of_mem_toDigits (by decide) (by decide) h) (by decide)
  simp only [String.toList_append, List.mem_append, not_or]
  exact ⟨⟨⟨by decide, hdigits line⟩, by decide⟩, hdigits position⟩

/-! ## Texts on one line -/

theorem onOneLine_append (s t : Text) : onOneLine (s ++ t) = onOneLine s ++ onOneLine t :=
  List.flatMap_append

theorem lineFeed_notMem_onOneLine (t : Text) : '\n' ∉ onOneLine t := by
  intro h
  obtain ⟨c, -, hc⟩ := List.mem_flatMap.mp h
  by_cases hfeed : c = '\n'
  · rw [if_pos hfeed] at hc
    exact absurd hc (by decide)
  · rw [if_neg hfeed] at hc
    exact hfeed (List.mem_singleton.mp hc).symm

/-- Each line feed is written as a backslash and the letter n. -/
theorem onOneLine_eq_replaceAll (t : Text) :
    onOneLine t = Text.replaceAll ['\n'] ['\\', 'n'] t :=
  (Text.replaceAll_singleton '\n' ['\\', 'n'] t).symm

/-! ## The window of the source -/

theorem contextBefore_eq_slice (source : Text) (position : Nat) :
    contextBefore source position = Span.slice source ⟨position - 40, position⟩ := by
  rw [contextBefore, List.drop_take]
  rfl

theorem contextFrom_eq_slice (source : Text) (position : Nat) :
    contextFrom source position =
      Span.slice source ⟨position, min source.length (position + 40)⟩ := by
  rw [contextFrom, Span.slice, List.take_eq_take_iff, List.length_drop, reach]
  dsimp only
  omega

/-! ## The caret -/

/-- The line that shows an excerpt. -/
def excerptLine (excerpt : Text) : Text := "Context: ...".toList ++ excerpt ++ "...".toList

/-- An excerpt of a source around an offset, on one line, and the column at which the source goes on
from the offset in the line that shows it. -/
structure PointsAt (source : Text) (position : Nat) (excerpt : Text) (column : Nat) : Prop where
  /-- Up to forty characters on either side of the offset. -/
  excerpt_eq : excerpt = Text.replaceAll ['\n'] ['\\', 'n']
    (Span.slice source ⟨position - 40, min source.length (position + 40)⟩)
  one_line : '\n' ∉ excerpt
  before : (excerptLine excerpt).take column = "Context: ...".toList ++
    Text.replaceAll ['\n'] ['\\', 'n'] (Span.slice source ⟨position - 40, position⟩)
  behind : (excerptLine excerpt).drop column = Text.replaceAll ['\n'] ['\\', 'n']
    (Span.slice source ⟨position, min source.length (position + 40)⟩) ++ "...".toList
  /-- The character at the offset stands at the column, written out if it is a line feed. -/
  character : ∃ c, source[position]? = some c ∧
    Text.replaceAll ['\n'] ['\\', 'n'] [c] <+: (excerptLine excerpt).drop column

/-- What stands behind a cut of a text that is shown begins where what stands before it ends. -/
theorem onOneLine_cut (lead s t tail : Text) :
    lead ++ onOneLine (s ++ t) ++ tail = lead ++ onOneLine s ++ (onOneLine t ++ tail) := by
  rw [onOneLine_append]
  simp only [List.append_assoc]

theorem pointsAt_of_lt {source : Text} {position : Nat} (h : position < source.length) :
    PointsAt source position
      (onOneLine (contextBefore source position ++ contextFrom source position))
      (12 + (onOneLine (contextBefore source position)).length) := by
  have hwindow : contextBefore source position ++ contextFrom source position =
      Span.slice source ⟨position - 40, min source.length (position + 40)⟩ := by
    rw [contextBefore_eq_slice, contextFrom_eq_slice]
    exact slice_append_slice source (by omega) (by omega)
  have hcut := onOneLine_cut "Context: ...".toList (contextBefore source position)
    (contextFrom source position) "...".toList
  have hcolumn : ("Context: ...".toList ++ onOneLine (contextBefore source position)).length =
      12 + (onOneLine (contextBefore source position)).length := List.length_append
  have hdrop := (congrArg (List.drop _) hcut).trans (List.drop_left' hcolumn)
  -- the window goes on from the offset with the character there
  have hfrom : contextFrom source position =
      [source[position]] ++ (source.drop (position + 1)).take 39 := by
    rw [contextFrom, List.drop_eq_getElem_cons h, reach, List.take_succ_cons]
    rfl
  have hcharacter : onOneLine [source[position]] <+: onOneLine (contextFrom source position) := by
    rw [hfrom, onOneLine_append]
    exact List.prefix_append _ _
  refine { excerpt_eq := ?_, one_line := lineFeed_notMem_onOneLine _, before := ?_, behind := ?_,
           character := ⟨source[position], List.getElem?_eq_getElem h, ?_⟩ }
  · rw [hwindow, onOneLine_eq_replaceAll]
  · rw [← onOneLine_eq_replaceAll, ← contextBefore_eq_slice]
    exact (congrArg (List.take _) hcut).trans (List.take_left' hcolumn)
  · rw [← onOneLine_eq_replaceAll, ← contextFrom_eq_slice]
    exact hdrop
  · rw [← onOneLine_eq_replaceAll]
    exact hdrop ▸ hcharacter.trans (List.prefix_append _ _)

/-- **The caret stands under the character at the offset.** The lines of a notice are an empty one,
those of its message, the number of the line that holds the offset, an excerpt of the source, and
below it the caret. -/
theorem notice_pointsAt (source message : Text) {position : Nat} (h : position < source.length) :
    ∃ excerpt column,
      Text.splitOn '\n' (notice source message position) =
        [] :: Text.splitOn '\n' message ++
          [s!"Line {lineAt source position}, position {position}".toList,
            excerptLine excerpt, List.replicate column ' ' ++ ['^']] ∧
      lineAt source position = 1 + (source.take position).count '\n' ∧
      PointsAt source position excerpt column := by
  have hpoints := pointsAt_of_lt h
  refine ⟨_, _, ?_, Nat.add_comm _ _, hpoints⟩
  have hcontext : '\n' ∉ contextLine source position :=
    List.not_mem_append (List.not_mem_append (by decide) hpoints.one_line) (by decide)
  have hcaret : '\n' ∉ caretLine source position :=
    List.not_mem_append (fun h => absurd (List.eq_of_mem_replicate h) (by decide)) (by decide)
  have hplace := lineFeed_notMem_place (lineAt source position) position
  have hmessage : Text.splitOn '\n' ('\n' :: message) = [] :: Text.splitOn '\n' message := rfl
  rw [notice, Text.splitOn_append_cons, Text.splitOn_append_cons, Text.splitOn_append_cons,
    hmessage, Text.splitOn_of_notMem hplace, Text.splitOn_of_notMem hcontext,
    Text.splitOn_of_notMem hcaret, List.append_assoc, List.append_assoc]
  rfl

/-- A closing tag with another name, 62 characters into the source. The excerpt is cut at both ends,
and the line feed before the tag moves the caret by one more column. -/
theorem notice_pointsAt_closingTag :
    let source : Text := "<<a\np>>the first line\nof the old output, and then\nthe last one".toList
      ++ "<</b>>\nmore text behind it,\nin two more lines\n".toList
    let e : ParseError := ⟨.wrongName ['a'] ['b'], 62⟩
    parse .angled source = .error e ∧ 62 < source.length ∧
      e.report source = "\nExpected closing tag for section 'a', found '/b'\n".toList
        ++ "Line 4, position 62\n".toList
        ++ "Context: ...of the old output, and then\\nthe last one".toList
        ++ "<</b>>\\nmore text behind it,\\nin two more ...\n".toList
        ++ List.replicate 53 ' ' ++ ['^'] ∧
      ∃ excerpt column,
        Text.splitOn '\n' (e.report source) =
          [] :: Text.splitOn '\n' e.fault.message ++
            [s!"Line {lineAt source 62}, position {62}".toList,
              excerptLine excerpt, List.replicate column ' ' ++ ['^']] ∧
        lineAt source 62 = 1 + (source.take 62).count '\n' ∧
        PointsAt source 62 excerpt column := by
  intro source e
  have hposition : 62 < source.length := by decide +kernel
  exact ⟨by decide +kernel, hposition, by decide +kernel,
    notice_pointsAt source e.fault.message hposition⟩

end ParseError

end LiveSections
