import LiveSections.Proofs.Scan
import LiveSections.Proofs.Splice

/-!
# Conformance to the grammar

The grammar says how a part looks, without saying how it is found.

- `ClosingTagSpelled`: open-marker, slash, name and close-marker, with a blank or none before the
  slash and behind the name.
- `Section.Conforms`, `Part.Conforms`: what the grammar asks of a section and of a part.
- `Section.Formed.conforms`, `Section.Conforms.formed`: what the reader asks of a section is what
  the grammar asks, but for where the name of the closing tag ends.
- `parse_conforms`: **everything that the reader accepts conforms to the grammar.**
-/

namespace LiveSections

variable {d : Delimiters}

/-! ## Names -/

/-- A header is its name, with a blank in front or with none to take off. -/
theorem nameOfHeader_eq_iff {header name : Text} :
    Section.nameOfHeader header = name ↔
      header = ' ' :: name ∨ header = name ∧ ¬[' '] <+: header := by
  cases header with
  | nil => simp [Section.nameOfHeader]
  | cons c cs =>
    by_cases hc : c = ' '
    · subst hc
      simp [Section.nameOfHeader]
    · simp [Section.nameOfHeader, hc, Ne.symm hc]

/-- No slash stands behind an open-marker exactly if the name does not begin with one. -/
theorem not_slashAhead_iff {header : Text} :
    ¬SlashAhead header ↔ ¬['/'] <+: Section.nameOfHeader header := by
  cases header with
  | nil => simp [SlashAhead, Section.nameOfHeader]
  | cons c cs =>
    by_cases hc : c = ' '
    · subst hc
      simp [SlashAhead, Section.nameOfHeader]
    · simp [SlashAhead, Section.nameOfHeader, hc, Ne.symm hc]

/-! ## Closing tags -/

/-- Nothing, or one blank. -/
def OptionalBlank (t : Text) : Prop := t = [] ∨ t = [' ']

theorem optionalBlank_iff_mem {t : Text} : OptionalBlank t ↔ t ∈ [[], [' ']] := by
  rw [OptionalBlank, List.mem_pair]

/-- A closing tag for a name, with what stands before its slash and behind its name. -/
structure ClosingTagSpelled (d : Delimiters) (name tag lead trail : Text) : Prop where
  lead_optional : OptionalBlank lead
  trail_optional : OptionalBlank trail
  tag_eq : tag = d.opening ++ lead ++ '/' :: name ++ trail ++ d.closing

theorem nameOfClosingTag_concat (name : Text) : nameOfClosingTag (name ++ [' ']) = name := by
  simp [nameOfClosingTag]

theorem nameOfClosingTag_of_getLast? {name : Text} (h : name.getLast? ≠ some ' ') :
    nameOfClosingTag name = name :=
  if_neg h

/-- What is taken off the name of a closing tag is a blank, if anything. -/
theorem eq_append_of_nameOfClosingTag {raw name : Text} (h : nameOfClosingTag raw = name) :
    ∃ trail, OptionalBlank trail ∧ raw = name ++ trail := by
  by_cases hlast : raw.getLast? = some ' '
  · rw [nameOfClosingTag, if_pos hlast] at h
    obtain ⟨front, rfl⟩ := List.getLast?_eq_some_iff.mp hlast
    rw [List.dropLast_concat] at h
    exact ⟨[' '], .inr rfl, by rw [h]⟩
  · rw [nameOfClosingTag_of_getLast? hlast] at h
    exact ⟨[], .inl rfl, by rw [h, List.append_nil]⟩

theorem ClosingTagFormed.spelled {name tag slash raw : Text}
    (h : ClosingTagFormed d name tag slash raw) :
    ∃ lead trail, ClosingTagSpelled d name tag lead trail := by
  obtain ⟨trail, htrail, rfl⟩ := eq_append_of_nameOfClosingTag h.name_eq
  rcases h.slash_eq with rfl | rfl
  · exact ⟨[], trail, .inl rfl, htrail, by simp [h.tag_eq]⟩
  · exact ⟨[' '], trail, .inr rfl, htrail, by simp [h.tag_eq]⟩

/-- The reader goes for the first close-marker behind the slash, and takes one blank off the name
in front of it. -/
theorem ClosingTagSpelled.formed {name tag lead trail : Text}
    (h : ClosingTagSpelled d name tag lead trail)
    (hfirst : Text.EndsFirst d.closing (name ++ trail))
    (hkept : name.getLast? = some ' ' → trail = [' ']) :
    ClosingTagFormed d name tag (lead ++ ['/']) (name ++ trail) := by
  refine { slash_eq := ?_, tag_eq := ?_, raw_endsFirst := hfirst, name_eq := ?_ }
  · rcases h.lead_optional with rfl | rfl
    · exact .inl rfl
    · exact .inr rfl
  · rw [h.tag_eq]
    simp only [List.append_assoc, List.cons_append, List.nil_append]
  · rcases h.trail_optional with rfl | rfl
    · rw [List.append_nil]
      exact nameOfClosingTag_of_getLast? fun hlast => nomatch hkept hlast
    · exact nameOfClosingTag_concat name

/-- A tag has one spelling: its first character behind the open-marker tells whether a blank stands
before the slash. -/
theorem ClosingTagFormed.raw_eq {name tag slash raw lead trail : Text}
    (h : ClosingTagFormed d name tag slash raw) (hs : ClosingTagSpelled d name tag lead trail) :
    raw = name ++ trail := by
  have heq := h.tag_eq.symm.trans hs.tag_eq
  simp only [List.append_assoc, List.cons_append] at heq
  have heq := List.append_cancel_left heq
  have hraw : raw ++ d.closing = name ++ trail ++ d.closing := by
    rcases h.slash_eq with rfl | rfl <;> rcases hs.lead_optional with rfl | rfl <;> simp_all
  exact List.append_cancel_right hraw

/-! ## Sections -/

/-- A section as the grammar asks for it. Its previous output is left open. -/
structure Section.Conforms (d : Delimiters) (s : Section) : Prop where
  one_line : '\n' ∉ s.header
  not_closed : ¬d.closing <:+: s.header
  /-- The header without one leading blank, if it has one. -/
  name_eq : s.header = ' ' :: s.name ∨ s.header = s.name ∧ ¬[' '] <+: s.header
  named : s.name ≠ []
  not_slash : ¬['/'] <+: s.name
  program_endsFirst : Text.EndsFirst d.closing s.program
  closingTag : ∃ lead trail, ClosingTagSpelled d s.name s.closingTag lead trail

theorem exists_spelled_iff {name tag : Text} :
    (∃ lead trail, ClosingTagSpelled d name tag lead trail) ↔
      ∃ lead ∈ [[], [' ']], ∃ trail ∈ [[], [' ']],
        tag = d.opening ++ lead ++ '/' :: name ++ trail ++ d.closing := by
  constructor
  · rintro ⟨lead, trail, hlead, htrail, htag⟩
    exact ⟨lead, optionalBlank_iff_mem.mp hlead, trail, optionalBlank_iff_mem.mp htrail, htag⟩
  · rintro ⟨lead, hlead, trail, htrail, htag⟩
    exact ⟨lead, trail, optionalBlank_iff_mem.mpr hlead, optionalBlank_iff_mem.mpr htrail, htag⟩

instance (d : Delimiters) (s : Section) : Decidable (s.Conforms d) :=
  decidable_of_iff
    ('\n' ∉ s.header ∧ ¬d.closing <:+: s.header ∧
      (s.header = ' ' :: s.name ∨ s.header = s.name ∧ ¬[' '] <+: s.header) ∧ s.name ≠ [] ∧
      ¬['/'] <+: s.name ∧ Text.EndsFirst d.closing s.program ∧
      ∃ lead ∈ [[], [' ']], ∃ trail ∈ [[], [' ']],
        s.closingTag = d.opening ++ lead ++ '/' :: s.name ++ trail ++ d.closing) (by
    rw [← exists_spelled_iff]
    exact ⟨fun ⟨h₁, h₂, h₃, h₄, h₅, h₆, h₇⟩ => ⟨h₁, h₂, h₃, h₄, h₅, h₆, h₇⟩,
      fun ⟨h₁, h₂, h₃, h₄, h₅, h₆, h₇⟩ => ⟨h₁, h₂, h₃, h₄, h₅, h₆, h₇⟩⟩)

theorem Section.Formed.conforms {s : Section} (h : s.Formed d) : s.Conforms d := by
  obtain ⟨slash, raw, htag⟩ := h.closingTag
  refine { one_line := h.header.one_line, not_closed := ?_, name_eq := ?_, named := ?_,
           not_slash := ?_, program_endsFirst := h.program_endsFirst, closingTag := htag.spelled }
  · exact Text.contains_eq_false_iff.mp h.header.not_closed
  · exact nameOfHeader_eq_iff.mp h.name_eq.symm
  · rw [h.name_eq]
    exact h.header.named
  · rw [h.name_eq]
    exact not_slashAhead_iff.mp (closingSlash?_eq_none_iff.mp h.header.not_closing)

/-- A section that conforms is formed as soon as its closing tag is. -/
theorem Section.Conforms.formed {s : Section} (h : s.Conforms d) {slash raw : Text}
    (ht : ClosingTagFormed d s.name s.closingTag slash raw) : s.Formed d := by
  have hname : Section.nameOfHeader s.header = s.name := nameOfHeader_eq_iff.mpr h.name_eq
  refine { header := ?_, name_eq := hname.symm, program_endsFirst := h.program_endsFirst,
           closingTag := ⟨slash, raw, ht⟩ }
  refine { not_closing := ?_, one_line := h.one_line, not_closed := ?_, named := ?_ }
  · refine closingSlash?_eq_none_iff.mpr (not_slashAhead_iff.mpr ?_)
    rw [hname]
    exact h.not_slash
  · exact Text.contains_eq_false_iff.mpr h.not_closed
  · rw [hname]
    exact h.named

/-- A name is the end of its header. -/
theorem Section.Conforms.name_isSuffix {s : Section} (h : s.Conforms d) : s.name <:+ s.header := by
  rcases h.name_eq with hheader | ⟨hheader, -⟩
  · rw [hheader]
    exact List.suffix_cons ' ' s.name
  · rw [hheader]

theorem Section.Conforms.name_one_line {s : Section} (h : s.Conforms d) : '\n' ∉ s.name :=
  fun hmem => h.one_line (h.name_isSuffix.subset hmem)

theorem Section.Conforms.name_not_isInfix {s : Section} (h : s.Conforms d) :
    ¬d.closing <:+: s.name :=
  fun hi => h.not_closed (hi.trans h.name_isSuffix.isInfix)

/-! ## Documents -/

/-- A part as the grammar asks for it. -/
def Part.Conforms (d : Delimiters) : Part → Prop
  | .literal text _ => ¬d.opening <:+: text
  | .live s => s.Conforms d

/-- No literal of a written text holds an open-marker. -/
theorem Written.literal_not_isInfix {position : Nat} {t : Text} {parts : List Part}
    (h : Written d position t parts) {text : Text} {span : Span}
    (hp : .literal text span ∈ parts) : ¬d.opening <:+: text := by
  induction h with
  | @rest position t ht =>
    obtain ⟨rfl, -⟩ := Part.literal.inj (mem_literalAt hp)
    exact Text.splitFirst_eq_none_iff.mp ht
  | @step position before rest s parts hb _ _ _ _ ih =>
    rcases List.mem_append.mp hp with hp | hp
    · obtain ⟨rfl, -⟩ := Part.literal.inj (mem_literalAt hp)
      exact hb.not_isInfix d.opening_ne_nil
    · rcases List.mem_cons.mp hp with hp | hp
      · cases hp
      · exact ih hp

/-- **Everything that the reader accepts conforms to the grammar.** -/
theorem parse_conforms {source : Text} {parts : List Part} (h : parse d source = .ok parts) :
    ∀ p ∈ parts, p.Conforms d := by
  have hw : Written d 0 source parts := parse_eq_ok_iff.mp h
  intro p hp
  cases p with
  | literal text span => exact hw.literal_not_isInfix hp
  | live s => exact (hw.formed (mem_sectionsOf.mpr hp)).1.conforms

/-- A name with blanks at both ends, and a closing tag with both of its own. -/
theorem parse_conforms_angled :
    let source := "a<<  b \np>>x<< / b  >>".toList
    let s : Section := {
      name := " b ".toList, header := "  b ".toList, program := ['p'], stale := ['x'],
      closingTag := "<< / b  >>".toList, span := ⟨1, 22⟩ }
    parse .angled source = .ok [.literal ['a'] ⟨0, 1⟩, .live s] ∧
      Part.Conforms .angled (.literal ['a'] ⟨0, 1⟩) ∧ s.Conforms .angled := by
  intro source s
  have hparse : parse .angled source = .ok [.literal ['a'] ⟨0, 1⟩, .live s] := by decide +kernel
  have hconforms := parse_conforms hparse
  exact ⟨hparse, hconforms _ (by simp), hconforms (.live s) (by simp)⟩

end LiveSections
