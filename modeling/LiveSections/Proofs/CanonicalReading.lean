import LiveSections.Proofs.CanonicalTags

/-!
# Reading canonical tags back

A canonical tag puts a blank before the name in the header and one behind the name in the closing
tag. A pair of markers is refused only if one of them is empty, so a close-marker may hold blanks. A
blank that is put in may then make a close-marker where none was meant.

- `ReadsAsSection`: a text is read as one section of a given name, program and previous output.
- `canonicalTags_misread`: a name that a section had is not read back from its canonical tags.
- `parse_eq_singleton_iff`: **the texts that are read as one section,** and nothing besides.
- `canonicalTags_readBack_iff`: **a section that is written with canonical tags is read back exactly
  if their blanks make no close-marker,** so whenever the close-marker holds no blank.
-/

namespace LiveSections

variable {d : Delimiters}

/-- The text is read as exactly one section, of this name, program and previous output. -/
def ReadsAsSection (d : Delimiters) (name program output t : Text) : Prop :=
  ∃ s, parse d t = .ok [.live s] ∧ s.name = name ∧ s.program = program ∧ s.stale = output

/-- The blank of a canonical tag makes a close-marker: before the name in the header of the first
text, behind the name in the closing tag of the second. Both names are those of sections that were
read. -/
theorem canonicalTags_misread :
    let d : Delimiters := ⟨"<<".toList, " ;".toList, by decide, by decide⟩
    let s : Section := {
      name := ";a".toList, header := ";a".toList, program := ['x'], stale := "old".toList,
      closingTag := "<</;a ;".toList, span := ⟨0, 18⟩ }
    let d' : Delimiters := ⟨"<<".toList, "a ".toList, by decide, by decide⟩
    let s' : Section := {
      name := "ba".toList, header := "ba".toList, program := ['x'], stale := "old".toList,
      closingTag := "<</baa ".toList, span := ⟨0, 18⟩ }
    let output := "\ny\n".toList
    let t := d.openTag s.name ++ s.program ++ d.closing ++ output ++ d.closeTag s.name
    let t' := d'.openTag s'.name ++ s'.program ++ d'.closing ++ output ++ d'.closeTag s'.name
    (parse d "<<;a\nx ;old<</;a ;".toList = .ok [.live s] ∧ Text.EndsFirst d.closing s.program ∧
      Text.EndsFirst d.opening output ∧
      parse d t = .error ⟨.headerClosed " ;a".toList " ;".toList, 0⟩ ∧
      ¬ReadsAsSection d s.name s.program output t) ∧
    parse d' "<<ba\nxa old<</baa ".toList = .ok [.live s'] ∧
      Text.EndsFirst d'.closing s'.program ∧ Text.EndsFirst d'.opening output ∧
      parse d' t' = .error ⟨.wrongName "ba".toList ['b'], 12⟩ ∧
      ¬ReadsAsSection d' s'.name s'.program output t' := by
  intro d s d' s' output t t'
  have hfault : parse d t = .error ⟨.headerClosed " ;a".toList " ;".toList, 0⟩ := by
    decide +kernel
  have hfault' : parse d' t' = .error ⟨.wrongName "ba".toList ['b'], 12⟩ := by decide +kernel
  refine ⟨⟨by decide +kernel, by decide, by decide, hfault, ?_⟩,
    by decide +kernel, by decide, by decide, hfault', ?_⟩
  · rintro ⟨read, hread, -⟩
    cases hfault.symm.trans hread
  · rintro ⟨read, hread, -⟩
    cases hfault'.symm.trans hread

/-! ## Texts of one section -/

/-- **A text is read as one section and nothing besides** exactly if it is the text of a formed and
sealed section. -/
theorem parse_eq_singleton_iff {t : Text} {s : Section} :
    parse d t = .ok [.live s] ↔
      s.Formed d ∧ s.Sealed d ∧ s.span = ⟨0, (s.source d).length⟩ ∧ t = s.source d := by
  constructor
  · intro h
    have hw : Written d 0 t [.live s] := parse_eq_ok_iff.mp h
    obtain ⟨hf, hs⟩ := hw.formed (s := s) (mem_sectionsOf.mpr (List.mem_singleton_self _))
    have ht : t = s.source d := by simpa [Part.source] using hw.source_eq.symm
    obtain ⟨lead, behind, haround, hspan⟩ := hw.around (List.mem_singleton_self _)
    -- the section begins where the text does
    obtain ⟨hstart, -⟩ := hw.tiles
    have hlead : lead.length = 0 := by
      have := congrArg Span.start hspan
      simpa using this.symm.trans hstart
    refine ⟨hf, hs, ?_, ht⟩
    rw [hlead] at hspan
    simpa [Part.span, Part.source] using hspan
  · rintro ⟨hf, hs, hspan, rfl⟩
    have hrest : Written d s.span.stop [] [] := .rest (Text.splitFirst_eq_none_iff.mpr (by
      rw [List.infix_nil]
      exact d.opening_ne_nil))
    have hw : Written d 0 ([] ++ s.source d ++ []) [.live s] :=
      .step (Text.endsFirst_nil _) hf hs (by simpa using hspan) hrest
    rw [List.nil_append, List.append_nil] at hw
    exact parse_eq_ok_iff.mpr hw

/-! ## Sections that were written with canonical tags -/

/-- Another program that ends first in the close-marker leaves a section formed. -/
theorem Section.Formed.withProgram {s : Section} (h : s.Formed d) {program : Text}
    (hp : Text.EndsFirst d.closing program) : Section.Formed d { s with program } where
  header := h.header
  name_eq := h.name_eq
  program_endsFirst := hp
  closingTag := h.closingTag

/-- Sections of one text, program and previous output have the same tags. The first line feed tells
where the header ends. -/
theorem Section.tags_eq_of_source_eq {s s' : Section} (hs : '\n' ∉ s.header)
    (hs' : '\n' ∉ s'.header) (h : s.source d = s'.source d) (hprogram : s.program = s'.program)
    (hstale : s.stale = s'.stale) : s.header = s'.header ∧ s.closingTag = s'.closingTag := by
  have hlines : s.header ++ ['\n'] ++ (s.program ++ d.closing ++ s.stale ++ s.closingTag) =
      s'.header ++ ['\n'] ++ (s'.program ++ d.closing ++ s'.stale ++ s'.closingTag) := by
    simp only [Section.source, List.append_assoc, List.cons_append, List.nil_append] at h ⊢
    exact List.append_cancel_left h
  have hsplit := (Text.endsFirst_singleton_iff.mpr hs).splitFirst
    (s.program ++ d.closing ++ s.stale ++ s.closingTag)
  rw [hlines, (Text.endsFirst_singleton_iff.mpr hs').splitFirst] at hsplit
  obtain ⟨hheader, hbody⟩ := Prod.mk.inj (Option.some.inj hsplit)
  rw [hprogram, hstale] at hbody
  exact ⟨hheader.symm, (List.append_cancel_left hbody).symm⟩

/-- Fresh output is read back from canonical tags exactly if these are well-formed. -/
theorem Rendered.readsAsSection_iff {r : Rendered} (h : r.origin.Formed d)
    (ho : Text.EndsFirst d.opening r.output) :
    ReadsAsSection d r.origin.name r.origin.program r.output (r.text d .canonical) ↔
      (r.asCanonical d 0).Formed d := by
  constructor
  · rintro ⟨s, hparse, hname, hprogram, hstale⟩
    obtain ⟨hf, -, -, htext⟩ := parse_eq_singleton_iff.mp hparse
    have hline : '\n' ∉ (r.asCanonical d 0).header := by
      intro hmem
      rcases List.mem_cons.mp hmem with hmem | hmem
      · cases hmem
      · exact h.conforms.name_one_line hmem
    have hsource : s.source d = (r.asCanonical d 0).source d := by
      rw [r.source_asCanonical, htext]
    obtain ⟨hheader, htag⟩ :=
      Section.tags_eq_of_source_eq hf.header.one_line hline hsource hprogram hstale
    exact { header := hheader ▸ hf.header, name_eq := rfl,
            program_endsFirst := hprogram ▸ hf.program_endsFirst,
            closingTag := hname ▸ htag ▸ hf.closingTag }
  · intro hf
    have hsealed : (r.asCanonical d 0).Sealed d := hf.sealed_iff.mpr (.clear ho)
    have hspan : (r.asCanonical d 0).span = ⟨0, ((r.asCanonical d 0).source d).length⟩ := by
      rw [r.source_asCanonical]
      simp [Rendered.asCanonical]
    exact ⟨r.asCanonical d 0,
      parse_eq_singleton_iff.mpr ⟨hf, hsealed, hspan, (r.source_asCanonical 0).symm⟩, rfl, rfl, rfl⟩

/-- **What is written with canonical tags is read back exactly if the blank before the name and the
one behind it make no close-marker.** With a close-marker that holds no blank they never do. -/
theorem canonicalTags_readBack_iff {source : Text} {parts : List Part}
    (h : parse d source = .ok parts) {s : Section} (hs : s ∈ sectionsOf parts)
    {program output : Text} (hp : Text.EndsFirst d.closing program)
    (ho : Text.EndsFirst d.opening output) :
    let t := d.openTag s.name ++ program ++ d.closing ++ output ++ d.closeTag s.name
    (ReadsAsSection d s.name program output t ↔
      ¬d.closing <:+: ' ' :: s.name ∧ Text.EndsFirst d.closing (s.name ++ [' '])) ∧
    (' ' ∉ d.closing → ReadsAsSection d s.name program output t) := by
  intro t
  let r : Rendered := ⟨{ s with program }, output⟩
  obtain ⟨hformed, -⟩ := (parse_eq_ok_iff.mp h).formed hs
  have hr : r.origin.Formed d := hformed.withProgram hp
  have hread : ReadsAsSection d s.name program output t ↔
      ¬d.closing <:+: ' ' :: s.name ∧ Text.EndsFirst d.closing (s.name ++ [' ']) :=
    (Rendered.readsAsSection_iff hr ho).trans (hr.asCanonical_iff 0)
  exact ⟨hread, fun hb => hread.mpr (hformed.conforms.canonicalTags_of_blankless hb)⟩

/-- A close-marker with a blank, and a name with one. Here the blanks of the tags make no
close-marker. -/
theorem canonicalTags_readBack_spaced :
    let d : Delimiters := ⟨"<<".toList, " ;".toList, by decide, by decide⟩
    let source := "<<a b\np ;x<</a b ;".toList
    let s : Section := {
      name := "a b".toList, header := "a b".toList, program := ['p'], stale := ['x'],
      closingTag := "<</a b ;".toList, span := ⟨0, 18⟩ }
    let t := "<< a b\nq> ;\ny\n<</a b  ;".toList
    parse d source = .ok [.live s] ∧ Text.EndsFirst d.closing "q>".toList ∧
      Text.EndsFirst d.opening "\ny\n".toList ∧
      ReadsAsSection d "a b".toList "q>".toList "\ny\n".toList t := by
  intro d source s t
  have hparse : parse d source = .ok [.live s] := by decide +kernel
  have hp : Text.EndsFirst d.closing "q>".toList := by decide
  have ho : Text.EndsFirst d.opening "\ny\n".toList := by decide
  obtain ⟨hread, -⟩ := canonicalTags_readBack_iff hparse
    (mem_sectionsOf.mpr (List.mem_singleton_self _)) hp ho
  exact ⟨hparse, hp, ho, hread.mpr (by decide)⟩

end LiveSections
