import LiveSections.Proofs.Conformance

/-!
# Composed documents

Whoever composes a document puts literals and sections one behind the other as the grammar asks for
them. The reader takes the text apart from left to right and never goes back. Where markers overlap,
it may find others than were meant.

- `Composed d position t parts`: the text, which stands at an offset, is composed of the parts.
- `composed_misread_angled`: not every composed document is read as it was composed.
- `Legible d parts`: each search of the reader ends at the marker that was meant.
- `Delimiters.Unmistakable`: no marker overlaps itself, and the close-marker holds no blank.
- `parse_composed_iff`: **a composed document is read as composed exactly if it is legible**, which
  unmistakable markers see to.
-/

namespace LiveSections

variable {d : Delimiters}

/-! ## Documents after the grammar -/

/-- The previous output is the shortest text up to a closing tag: none begins before its end. -/
def Section.OutputShortest (d : Delimiters) (s : Section) : Prop :=
  ∀ behind, behind <:+ s.stale → behind ≠ [] → ¬ClosingTagAhead d (behind ++ s.closingTag)

instance (d : Delimiters) (s : Section) : Decidable (s.OutputShortest d) :=
  decidable_of_iff
    (∀ behind ∈ s.stale.tails, behind ≠ [] → ¬ClosingTagAhead d (behind ++ s.closingTag)) (by
      simp only [List.mem_tails, Section.OutputShortest])

/-- `Composed d position t parts`: the text `t`, which stands at an offset of a document, is put
together from literals without an open-marker and sections as the grammar asks for them. -/
inductive Composed (d : Delimiters) : Nat → Text → List Part → Prop where
  /-- The rest of a document, which may be empty. -/
  | rest {position : Nat} {t : Text} (h : ¬d.opening <:+: t) :
      Composed d position t (literalAt position t)
  /-- A literal, which may be empty, the section behind it, and what follows the section. -/
  | step {position : Nat} {before rest : Text} {s : Section} {parts : List Part}
      (hb : ¬d.opening <:+: before) (hs : s.Conforms d) (ho : s.OutputShortest d)
      (hspan : s.span = ⟨position + before.length,
        position + before.length + (s.source d).length⟩)
      (hr : Composed d s.span.stop rest parts) :
      Composed d position (before ++ s.source d ++ rest)
        (literalAt position before ++ .live s :: parts)

/-- A document with one section. -/
theorem Composed.ofSection (before last : Text) (s : Section) (hb : ¬d.opening <:+: before)
    (hs : s.Conforms d) (ho : s.OutputShortest d)
    (hspan : s.span = ⟨before.length, before.length + (s.source d).length⟩)
    (hl : ¬d.opening <:+: last) :
    Composed d 0 (before ++ s.source d ++ last)
      (literalAt 0 before ++ .live s :: literalAt s.span.stop last) := by
  refine .step hb hs ho ?_ (.rest hl)
  rw [Nat.zero_add, hspan]

/-- An open-marker begins in the literal before it, a close-marker in the name before it, an
open-marker in the output before it; or a name takes its last blank for the optional one of its
closing tag. All four documents are composed, and the reader refuses them. -/
theorem composed_misread_angled :
    let plain (start : Nat) (name stale : String) : Section := {
      name := name.toList, header := name.toList, program := [], stale := stale.toList,
      closingTag := "<</".toList ++ name.toList ++ ">>".toList,
      span := ⟨start, start + 10 + 2 * name.length + stale.length⟩ }
    (Composed .angled 0 "a<<<b\n>><</b>>".toList
        [.literal "a<".toList ⟨0, 2⟩, .live (plain 2 "b" "")] ∧
      parse .angled "a<<<b\n>><</b>>".toList = .error ⟨.wrongName "<b".toList ['b'], 8⟩) ∧
    (Composed .angled 0 "<<b>\n>><</b>>>".toList [.live (plain 0 "b>" "")] ∧
      parse .angled "<<b>\n>><</b>>>".toList = .error ⟨.wrongName "b>".toList ['b'], 7⟩) ∧
    (Composed .angled 0 "<<b\n>><<</b>>".toList [.live (plain 0 "b" "<")] ∧
      parse .angled "<<b\n>><<</b>>".toList = .error ⟨.neverClosed ['b'], 0⟩) ∧
    (Composed .angled 0 "<<b \n>><</b >>".toList [.live (plain 0 "b " "")] ∧
      parse .angled "<<b \n>><</b >>".toList = .error ⟨.wrongName "b ".toList ['b'], 7⟩) := by
  intro plain
  have composed (before : Text) (s : Section) (hb : ¬Delimiters.angled.opening <:+: before)
      (h : s.Conforms .angled ∧ s.OutputShortest .angled ∧
        s.span = ⟨before.length, before.length + (s.source .angled).length⟩) :
      Composed .angled 0 (before ++ s.source .angled ++ [])
        (literalAt 0 before ++ .live s :: literalAt s.span.stop []) :=
    .ofSection before [] s hb h.1 h.2.1 h.2.2 (by decide)
  refine ⟨⟨?_, by decide +kernel⟩, ⟨?_, by decide +kernel⟩, ⟨?_, by decide +kernel⟩,
    ⟨?_, by decide +kernel⟩⟩
  · exact composed "a<".toList (plain 2 "b" "") (by decide) (by decide +kernel)
  · exact composed [] (plain 0 "b>" "") (by decide) (by decide +kernel)
  · exact composed [] (plain 0 "b" "<") (by decide) (by decide +kernel)
  · exact composed [] (plain 0 "b " "") (by decide) (by decide +kernel)

/-! ## What the reader needs besides -/

/-- A name that ends with a blank is followed by the optional blank of its closing tag. -/
def Section.BlankKept (d : Delimiters) (s : Section) : Prop :=
  ∀ lead trail, ClosingTagSpelled d s.name s.closingTag lead trail →
    s.name.getLast? = some ' ' → trail = [' ']

/-- The reader finds the closing tag of a section where it stands, and its end. -/
structure Section.Legible (d : Delimiters) (s : Section) : Prop where
  output : PassedOver d s.closingTag s.stale
  closingTag : ∀ lead trail, ClosingTagSpelled d s.name s.closingTag lead trail →
    Text.EndsFirst d.closing (s.name ++ trail)

/-- A literal up to the first open-marker. -/
def Part.UpToMarker (d : Delimiters) : Part → Prop
  | .literal text _ => Text.EndsFirst d.opening text
  | .live _ => True

/-- The reader finds each section where it stands, and the end of it. -/
structure Legible (d : Delimiters) (parts : List Part) : Prop where
  /-- Of the last part nothing is asked, for no open-marker follows it. -/
  literals : parts.IsChain fun p _ => p.UpToMarker d
  sections : ∀ s ∈ sectionsOf parts, s.Legible d

/-- Markers that do not overlap themselves, and a close-marker that does not take in a blank before
it. -/
structure Delimiters.Unmistakable (d : Delimiters) : Prop where
  opening : Text.Unbordered d.opening
  closing : Text.Unbordered d.closing
  no_blank : ' ' ∉ d.closing

theorem legible_literalAt (position : Nat) (t : Text) : Legible d (literalAt position t) := by
  refine ⟨?_, fun s hs => ?_⟩
  · cases t <;> simp [literalAt]
  · rw [sectionsOf_literalAt] at hs
    cases hs

theorem legible_step_iff {position : Nat} {before : Text} {s : Section} {parts : List Part} :
    Legible d (literalAt position before ++ .live s :: parts) ↔
      Text.EndsFirst d.opening before ∧ s.Legible d ∧ Legible d parts := by
  have hlive : (Part.live s :: parts).IsChain (fun p _ => p.UpToMarker d) ↔
      parts.IsChain fun p _ => p.UpToMarker d := by
    rw [List.isChain_cons]
    exact and_iff_right fun _ _ => trivial
  have hliterals : (literalAt position before ++ .live s :: parts).IsChain
        (fun p _ => p.UpToMarker d) ↔
      Text.EndsFirst d.opening before ∧ parts.IsChain fun p _ => p.UpToMarker d := by
    cases before with
    | nil => exact hlive.trans (and_iff_right (Text.endsFirst_nil _)).symm
    | cons c cs => exact List.isChain_cons_cons.trans (and_congr_right' hlive)
  constructor
  · rintro ⟨hl, hs⟩
    rw [sectionsOf_literalAt_append] at hs
    obtain ⟨hbefore, hparts⟩ := hliterals.mp hl
    exact ⟨hbefore, hs s List.mem_cons_self,
      ⟨hparts, fun s' hs' => hs s' (List.mem_cons_of_mem s hs')⟩⟩
  · rintro ⟨hbefore, hs, hparts, hsections⟩
    refine ⟨hliterals.mpr ⟨hbefore, hparts⟩, fun s' hs' => ?_⟩
    rw [sectionsOf_literalAt_append] at hs'
    rcases List.mem_cons.mp hs' with rfl | hs'
    · exact hs
    · exact hsections s' hs'

/-- What the reader accepts is legible. -/
theorem Written.legible {position : Nat} {t : Text} {parts : List Part}
    (h : Written d position t parts) : Legible d parts := by
  induction h with
  | @rest position t _ => exact legible_literalAt position t
  | step hb hf hs _ _ ih =>
    refine legible_step_iff.mpr ⟨hb, ⟨hf.sealed_iff.mp hs, fun lead trail hspelled => ?_⟩, ih⟩
    obtain ⟨slash, raw, htag⟩ := hf.closingTag
    rw [← htag.raw_eq hspelled]
    exact htag.raw_endsFirst

theorem Section.Conforms.formed_of_legible {s : Section} (h : s.Conforms d)
    (hk : s.BlankKept d) (hl : s.Legible d) : s.Formed d := by
  obtain ⟨lead, trail, hspelled⟩ := h.closingTag
  exact h.formed (hspelled.formed (hl.closingTag lead trail hspelled) (hk lead trail hspelled))

/-- A composed text that is legible is laid out as the reader asks for it. -/
theorem Composed.written {position : Nat} {t : Text} {parts : List Part}
    (h : Composed d position t parts) (hk : ∀ s ∈ sectionsOf parts, s.BlankKept d)
    (hl : Legible d parts) : Written d position t parts := by
  induction h with
  | rest h => exact .rest (Text.splitFirst_eq_none_iff.mpr h)
  | @step position before rest s parts _ hs _ hspan _ ih =>
    obtain ⟨hbefore, hlegible, hparts⟩ := legible_step_iff.mp hl
    rw [sectionsOf_literalAt_append] at hk
    have hf : s.Formed d := hs.formed_of_legible (hk s List.mem_cons_self) hlegible
    refine .step hbefore hf (hf.sealed_iff.mpr hlegible.output) hspan (ih ?_ hparts)
    exact fun s' hs' => hk s' (List.mem_cons_of_mem s hs')

/-- With unmistakable markers each search ends where it was meant to. -/
theorem Composed.legible (hd : d.Unmistakable) {position : Nat} {t : Text} {parts : List Part}
    (h : Composed d position t parts) : Legible d parts := by
  induction h with
  | @rest position t _ => exact legible_literalAt position t
  | @step position before rest s parts hb hs ho _ _ ih =>
    refine legible_step_iff.mpr ⟨hd.opening.endsFirst hb, ⟨hd.opening.passedOver ho, ?_⟩, ih⟩
    intro lead trail hspelled
    -- no close-marker overlaps the one that is meant, nor takes in the blank before it
    rcases hspelled.trail_optional with rfl | rfl
    · rw [List.append_nil]
      exact hd.closing.endsFirst hs.name_not_isInfix
    · exact Text.endsFirst_concat hd.no_blank hs.name_not_isInfix

/-- **A composed document is read as composed exactly if it is legible,** and with unmistakable
markers every one is; provided a name that ends with a blank is followed by the optional one. -/
theorem parse_composed_iff {document : Text} {parts : List Part}
    (h : Composed d 0 document parts) (hk : ∀ s ∈ sectionsOf parts, s.BlankKept d) :
    (parse d document = .ok parts ↔ Legible d parts) ∧
      (d.Unmistakable → parse d document = .ok parts) := by
  refine ⟨⟨fun hp => (parse_eq_ok_iff.mp hp).legible, fun hl => ?_⟩, fun hd => ?_⟩
  · exact parse_eq_ok_iff.mpr (h.written hk hl)
  · exact parse_eq_ok_iff.mpr (h.written hk (h.legible hd))

/-- A name with blanks at both ends, all optional blanks of its closing tag, and an open-marker in
the previous output. -/
theorem parse_composed_iff_commented :
    let d : Delimiters := ⟨"<!--#".toList, "#-->".toList, by decide, by decide⟩
    let document := "x<!--#  v \np#-->a<!--#b<!--# / v  #-->y".toList
    let s : Section := {
      name := " v ".toList, header := "  v ".toList, program := ['p'], stale := "a<!--#b".toList,
      closingTag := "<!--# / v  #-->".toList, span := ⟨1, 38⟩ }
    let parts := [.literal ['x'] ⟨0, 1⟩, .live s, .literal ['y'] ⟨38, 39⟩]
    Composed d 0 document parts ∧ (∀ s' ∈ sectionsOf parts, s'.BlankKept d) ∧ d.Unmistakable ∧
      parse d document = .ok parts ∧ Legible d parts := by
  intro d document s parts
  have hcomposed : Composed d 0 document parts :=
    .ofSection ['x'] ['y'] s (by decide) (by decide +kernel) (by decide +kernel)
      (by decide +kernel) (by decide)
  have hkept : ∀ s' ∈ sectionsOf parts, s'.BlankKept d := by
    intro s' hs' lead trail hspelled hlast
    obtain rfl : s' = s := List.mem_singleton.mp hs'
    rcases hspelled.trail_optional with rfl | rfl
    · rcases hspelled.lead_optional with rfl | rfl <;>
        exact absurd hspelled.tag_eq (by decide +kernel)
    · rfl
  have hmarkers : d.Unmistakable := ⟨by decide +kernel, by decide +kernel, by decide⟩
  obtain ⟨hiff, hread⟩ := parse_composed_iff hcomposed hkept
  exact ⟨hcomposed, hkept, hmarkers, hread hmarkers, hiff.mp (hread hmarkers)⟩

end LiveSections
