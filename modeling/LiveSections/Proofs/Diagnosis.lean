import LiveSections.Proofs.Splice
import LiveSections.Proofs.Scan

/-!
# The diagnosis of a rejected document

The reader stops at the first section that is not as the grammar asks. It reports the first thing
that is wrong there, in the order in which a section is written.

- `HeaderFault`, `ProgramFault`, `ClosingTagFault`: what can be wrong with each stretch of a section,
  if nothing before it is.
- `TagReached`: a section up to the closing tag that the scan comes to.
- `readSection_eq_error_iff`: **reading a section fails exactly with its first fault,**
  `SectionFault`.
- `Halted`: sections that are as they should be, and then one that is not.
- `OpensWithin`: no section opens before an offset but those among some parts.
- `Classified`: the class of an error and where it is reported, case by case.
- `parse_eq_error_iff`: **a source is rejected exactly with the diagnosis of its first bad section,**
  `Diagnosed`.
-/

namespace LiveSections

variable {d : Delimiters}

/-! ## Faults of the stretches of a section -/

/-- What is wrong with a header, of which `t` is the text behind the open-marker. -/
inductive HeaderFault (d : Delimiters) : Text → Fault → Prop where
  | strayClosingTag {t : Text} (hslash : SlashAhead t) : HeaderFault d t .strayClosingTag
  | headerUnfinished {t : Text} (hslash : ¬SlashAhead t) (hline : '\n' ∉ t) :
      HeaderFault d t .headerUnfinished
  | headerClosed {header body : Text} (hslash : ¬SlashAhead (header ++ '\n' :: body))
      (hline : '\n' ∉ header) (hclosed : d.closing <:+: header) :
      HeaderFault d (header ++ '\n' :: body) (.headerClosed header d.closing)
  | nameless {header body : Text} (hslash : ¬SlashAhead (header ++ '\n' :: body))
      (hline : '\n' ∉ header) (hclosed : ¬d.closing <:+: header)
      (hname : Section.nameOfHeader header = []) :
      HeaderFault d (header ++ '\n' :: body) .nameless

/-- What is wrong with the text behind the header of a section: its program has no end, or what
follows the program holds no closing tag that a scan comes to. -/
inductive ProgramFault (d : Delimiters) (name : Text) : Text → Fault → Prop where
  | programUnfinished {body : Text} (hend : ¬d.closing <:+: body) :
      ProgramFault d name body (.programUnfinished name d.closing)
  | neverClosed {program behind : Text} (hprogram : Text.EndsFirst d.closing program)
      (hscan : ∀ output tag, behind = output ++ tag → PassedOver d tag output →
        ¬ClosingTagAhead d tag) :
      ProgramFault d name (program ++ d.closing ++ behind) (.neverClosed name)

/-- What is wrong with a closing tag, of which `t` is the text behind the slash. -/
inductive ClosingTagFault (d : Delimiters) (name : Text) : Text → Fault → Prop where
  | closingTagUnfinished {t : Text} (hend : ¬d.closing <:+: t) :
      ClosingTagFault d name t (.closingTagUnfinished name d.closing)
  | wrongName {raw rest : Text} (hraw : Text.EndsFirst d.closing raw)
      (hname : nameOfClosingTag raw ≠ name) :
      ClosingTagFault d name (raw ++ d.closing ++ rest) (.wrongName name (nameOfClosingTag raw))

theorem readHeader_of_slash {t : Text} (h : SlashAhead t) :
    readHeader d t = .error .strayClosingTag := by
  have hsome : (closingSlash? t).isSome = true := by
    rw [Option.isSome_iff_ne_none]
    exact fun hnone => closingSlash?_eq_none_iff.mp hnone h
  rw [readHeader, if_pos hsome]

theorem readHeader_of_endless {t : Text} (hslash : ¬SlashAhead t) (hline : '\n' ∉ t) :
    readHeader d t = .error .headerUnfinished := by
  have hsplit : Text.splitFirst ['\n'] t = none := by
    rw [Text.splitFirst_eq_none_iff, List.singleton_infix_iff]
    exact hline
  rw [readHeader, closingSlash?_eq_none_iff.mpr hslash, hsplit]
  rfl

/-- With a first line at hand it is the header alone that counts. -/
theorem readHeader_of_line {header body : Text} (hslash : ¬SlashAhead (header ++ '\n' :: body))
    (hline : '\n' ∉ header) :
    readHeader d (header ++ '\n' :: body) =
      if Text.contains d.closing header then .error (.headerClosed header d.closing)
      else if Section.nameOfHeader header = [] then .error .nameless
      else .ok (header, body) := by
  have hsplit : Text.splitFirst ['\n'] (header ++ '\n' :: body) = some (header, body) := by
    have := (Text.endsFirst_singleton_iff.mpr hline).splitFirst body
    rwa [List.append_assoc] at this
  rw [readHeader, closingSlash?_eq_none_iff.mpr hslash, hsplit]
  rfl

theorem readHeader_eq_error_iff {t : Text} {fault : Fault} :
    readHeader d t = .error fault ↔ HeaderFault d t fault := by
  constructor
  · intro h
    by_cases hslash : SlashAhead t
    · rw [readHeader_of_slash hslash] at h
      cases h
      exact .strayClosingTag hslash
    by_cases hmem : '\n' ∈ t
    · obtain ⟨header, body, rfl, hline⟩ := List.eq_append_cons_of_mem hmem
      rw [readHeader_of_line hslash hline] at h
      split at h
      · next hclosed =>
        cases h
        refine .headerClosed hslash hline ?_
        by_contra hnot
        rw [Text.contains_eq_false_iff.mpr hnot] at hclosed
        cases hclosed
      · next hclosed =>
        split at h
        · next hname =>
          cases h
          exact .nameless hslash hline
            (Text.contains_eq_false_iff.mp (Bool.eq_false_iff.mpr hclosed)) hname
        · cases h
    · rw [readHeader_of_endless hslash hmem] at h
      cases h
      exact .headerUnfinished hslash hmem
  · intro h
    cases h with
    | strayClosingTag hslash => exact readHeader_of_slash hslash
    | headerUnfinished hslash hline => exact readHeader_of_endless hslash hline
    | headerClosed hslash hline hclosed =>
      rw [readHeader_of_line hslash hline, if_pos]
      by_contra hnot
      exact Text.contains_eq_false_iff.mp (Bool.eq_false_iff.mpr hnot) hclosed
    | nameless hslash hline hclosed hname =>
      rw [readHeader_of_line hslash hline, Text.contains_eq_false_iff.mpr hclosed, if_pos hname]
      rfl

theorem readProgram_eq_error_iff {name body : Text} {fault : Fault} :
    readProgram d name body = .error fault ↔ ProgramFault d name body fault := by
  constructor
  · intro h
    rw [readProgram] at h
    split at h
    · next hs =>
      cases h
      exact .programUnfinished (Text.splitFirst_eq_none_iff.mp hs)
    · next program behind hs =>
      obtain ⟨hprogram, rfl⟩ := Text.splitFirst_eq_some_iff.mp hs
      split at h
      · next hscan =>
        cases h
        exact .neverClosed hprogram (findClosingTag_eq_none_iff.mp hscan)
      · cases h
  · intro h
    cases h with
    | programUnfinished hend => rw [readProgram, Text.splitFirst_eq_none_iff.mpr hend]
    | @neverClosed program behind hprogram hscan =>
      rw [readProgram, hprogram.splitFirst behind]
      dsimp only
      rw [findClosingTag_eq_none_iff.mpr hscan]

theorem readClosingTag_eq_error_iff {name t : Text} {fault : Fault} :
    readClosingTag d name t = .error fault ↔ ClosingTagFault d name t fault := by
  constructor
  · intro h
    rw [readClosingTag] at h
    split at h
    · next hs =>
      cases h
      exact .closingTagUnfinished (Text.splitFirst_eq_none_iff.mp hs)
    · next raw rest hs =>
      obtain ⟨hraw, rfl⟩ := Text.splitFirst_eq_some_iff.mp hs
      split at h
      · cases h
      · next hname =>
        cases h
        exact .wrongName hraw hname
  · intro h
    cases h with
    | closingTagUnfinished hend => rw [readClosingTag, Text.splitFirst_eq_none_iff.mpr hend]
    | @wrongName raw rest hraw hname =>
      rw [readClosingTag, hraw.splitFirst rest]
      dsimp only
      rw [if_neg hname]

/-! ## The first fault of a section -/

/-- `TagReached d header t lead rest`: at the front of `t` a section opens with the header, and the
scan comes to a closing tag. What stands before this tag is `lead`, behind its slash is `rest`. -/
inductive TagReached (d : Delimiters) (header : Text) : Text → Text → Text → Prop where
  | intro {program output slash rest : Text} (hheader : HeaderFormed d header)
      (hprogram : Text.EndsFirst d.closing program) (hslash : slash = ['/'] ∨ slash = [' ', '/'])
      (houtput : PassedOver d (d.opening ++ slash ++ rest) output) :
      TagReached d header
        (d.opening ++ (header ++ '\n' :: (program ++ d.closing ++
          (output ++ (d.opening ++ slash ++ rest)))))
        (d.opening ++ header ++ '\n' :: program ++ d.closing ++ output) rest

/-- The first fault of a section whose open-marker stands at an offset and at the front of the text.
A fault of the closing tag is reported where this tag begins. -/
inductive SectionFault (d : Delimiters) (start : Nat) : Text → ParseError → Prop where
  | header {t : Text} {fault : Fault} (h : HeaderFault d t fault) :
      SectionFault d start (d.opening ++ t) ⟨fault, start⟩
  | program {header body : Text} {fault : Fault} (hheader : HeaderFormed d header)
      (h : ProgramFault d (Section.nameOfHeader header) body fault) :
      SectionFault d start (d.opening ++ (header ++ '\n' :: body)) ⟨fault, start⟩
  | closingTag {header t lead rest : Text} {fault : Fault} (htag : TagReached d header t lead rest)
      (h : ClosingTagFault d (Section.nameOfHeader header) rest fault) :
      SectionFault d start t ⟨fault, start + lead.length⟩

/-- **Reading a section fails exactly with its first fault.** -/
theorem readSection_eq_error_iff {start : Nat} {t : Text} {e : ParseError} :
    readSection d start t = .error e ↔ SectionFault d start (d.opening ++ t) e := by
  -- the reader counts up to the closing tag stretch by stretch
  have hcount (header program output : Text) :
      start + d.opening.length + header.length + 1 + program.length + d.closing.length +
        output.length =
      start + (d.opening ++ header ++ '\n' :: program ++ d.closing ++ output).length := by
    simp only [List.length_append, List.length_cons]
    omega
  constructor
  · intro h
    rw [readSection] at h
    split at h
    · next fault hh =>
      cases h
      exact .header (readHeader_eq_error_iff.mp hh)
    · next header body hh =>
      obtain ⟨hheader, rfl⟩ := readHeader_eq_ok_iff.mp hh
      dsimp only at h
      split at h
      · next fault hp =>
        cases h
        exact .program hheader (readProgram_eq_error_iff.mp hp)
      · next program site hp =>
        obtain ⟨hprogram, behind, rfl, hfind⟩ := readProgram_eq_ok_iff.mp hp
        obtain ⟨hslash, rfl, hpassed⟩ := findClosingTag_eq_some_iff.mp hfind
        split at h
        · next fault hc =>
          rw [hcount] at h
          cases h
          exact .closingTag (.intro hheader hprogram hslash hpassed)
            (readClosingTag_eq_error_iff.mp hc)
        · cases h
  · intro h
    generalize ht : d.opening ++ t = text at h
    cases h with
    | header h =>
      obtain rfl := List.append_cancel_left ht
      rw [readSection, readHeader_eq_error_iff.mpr h]
    | program hheader h =>
      obtain rfl := List.append_cancel_left ht
      rw [readSection, readHeader_eq_ok_iff.mpr ⟨hheader, rfl⟩]
      dsimp only
      rw [readProgram_eq_error_iff.mpr h]
    | @closingTag header _ _ behind fault htag h =>
      cases htag with
      | @intro program output slash _ hheader hprogram hslash houtput =>
        obtain rfl := List.append_cancel_left ht
        rw [readSection, readHeader_eq_ok_iff.mpr ⟨hheader, rfl⟩]
        dsimp only
        rw [readProgram_eq_ok_iff.mpr ⟨hprogram, _, rfl, houtput.findClosingTag hslash⟩]
        dsimp only
        rw [readClosingTag_eq_error_iff.mpr h, hcount]

theorem TagReached.eq_append {header t lead rest : Text} (h : TagReached d header t lead rest) :
    ∃ slash, t = lead ++ (d.opening ++ (slash ++ rest)) := by
  cases h with
  | @intro program output slash =>
    refine ⟨slash, ?_⟩
    simp only [List.append_assoc, List.cons_append]

namespace SectionFault

variable {start : Nat} {t : Text} {e : ParseError}

/-- Every fault is reported at an open-marker: that of the section, or that of its closing tag. -/
theorem position_eq (h : SectionFault d start t e) :
    ∃ lead behind, t = lead ++ (d.opening ++ behind) ∧ e.position = start + lead.length := by
  cases h with
  | header => exact ⟨[], _, rfl, rfl⟩
  | program => exact ⟨[], _, rfl, rfl⟩
  | @closingTag _ _ lead rest _ htag =>
    obtain ⟨slash, ht⟩ := htag.eq_append
    exact ⟨lead, slash ++ rest, ht, rfl⟩

theorem opening_isPrefix (h : SectionFault d start t e) : d.opening <+: t := by
  cases h with
  | header => exact List.prefix_append _ _
  | program => exact List.prefix_append _ _
  | closingTag htag =>
    cases htag
    exact List.prefix_append _ _

end SectionFault

/-! ## Sections up to the first bad one -/

/-- `Halted d position t parts e`: the text `t`, which stands at an offset of a document, begins with
the parts, and the section that opens behind them has the fault `e`. -/
inductive Halted (d : Delimiters) : Nat → Text → List Part → ParseError → Prop where
  /-- Text up to the next open-marker, and the bad section that begins there. -/
  | fault {position : Nat} {before t : Text} {e : ParseError}
      (hb : Text.EndsFirst d.opening before)
      (hfault : SectionFault d (position + before.length) t e) :
      Halted d position (before ++ t) (literalAt position before) e
  /-- Text up to the next open-marker, the section that begins there, and what follows it. -/
  | step {position : Nat} {before rest : Text} {s : Section} {parts : List Part} {e : ParseError}
      (hb : Text.EndsFirst d.opening before) (hf : s.Formed d) (hs : s.Sealed d)
      (hspan : s.span = ⟨position + before.length,
        position + before.length + (s.source d).length⟩)
      (hr : Halted d s.span.stop rest parts e) :
      Halted d position (before ++ s.source d ++ rest)
        (literalAt position before ++ .live s :: parts) e

theorem readParts_eq_error_iff {position : Nat} {t : Text} {parts : List Part} {e : ParseError} :
    readParts d position t = (parts, some e) ↔ Halted d position t parts e := by
  constructor
  · intro h
    -- on the length of the text, as the reader recurses
    induction hn : t.length using Nat.strongRecOn generalizing position t parts with
    | ind n ih =>
      rw [readParts] at h
      split at h
      · cases (Prod.mk.inj h).2
      · next before behind hs =>
        obtain ⟨hb, ht⟩ := Text.splitFirst_eq_some_iff.mp hs
        split at h
        · next fault hr =>
          obtain ⟨rfl, hfault⟩ := Prod.mk.inj h
          obtain rfl := Option.some.inj hfault
          rw [ht, List.append_assoc]
          exact .fault hb (readSection_eq_error_iff.mp hr)
        · next s rest hr =>
          obtain ⟨rfl, hmore⟩ := Prod.mk.inj h
          obtain ⟨hf, hsealed, hspan, hsource⟩ := readSection_eq_ok_iff.mp hr
          have hlt : rest.length < t.length :=
            Nat.lt_trans (readSection_length_lt hr)
              (Text.length_lt_of_splitFirst hs d.opening_ne_nil)
          rw [ht, List.append_assoc, hsource, ← List.append_assoc]
          refine .step hb hf hsealed hspan ?_
          exact ih rest.length (hn ▸ hlt) (Prod.ext rfl hmore) rfl
  · intro h
    induction h with
    | @fault position before t e hb hfault =>
      obtain ⟨behind, rfl⟩ := hfault.opening_isPrefix
      have hsplit : Text.splitFirst d.opening (before ++ (d.opening ++ behind)) =
          some (before, behind) := by
        rw [← List.append_assoc]
        exact hb.splitFirst behind
      exact readParts_of_error hsplit (readSection_eq_error_iff.mpr hfault)
    | step hb hf hs hspan _ ih => rw [readParts_step hb hf hs hspan, ih]

/-- Every open-marker that begins in the text before an offset lies within a section of the parts. -/
def OpensWithin (d : Delimiters) (position : Nat) (t : Text) (stop : Nat) (parts : List Part) :
    Prop :=
  ∀ p < stop, d.opening <+: t.drop p →
    ∃ s ∈ sectionsOf parts, s.span.start ≤ position + p ∧ position + p < s.span.stop

/-- No section opens in a literal exactly if it ends first in the open-marker behind it. -/
theorem opensWithin_literalAt_iff {position : Nat} {before behind : Text} :
    OpensWithin d position (before ++ (d.opening ++ behind)) before.length
      (literalAt position before) ↔ Text.EndsFirst d.opening before := by
  rw [← List.append_assoc]
  constructor
  · intro h
    have hnowhere : ∀ p < before.length, ¬d.opening <+: (before ++ d.opening ++ behind).drop p := by
      intro p hlt hp
      obtain ⟨s, hs, -⟩ := h p hlt hp
      rw [sectionsOf_literalAt] at hs
      cases hs
    exact Text.endsFirst_of_not_isPrefix_drop hnowhere
  · intro h p hlt hp
    exact absurd hp (h.not_isPrefix_drop hlt behind)

/-- Offsets behind a section count on from the end of its span. -/
theorem stop_add_length {position : Nat} {before : Text} {s : Section}
    (hspan : s.span = ⟨position + before.length,
      position + before.length + (s.source d).length⟩) (lead : Text) :
    s.span.stop + lead.length = position + (before ++ s.source d ++ lead).length := by
  rw [hspan]
  simp only [List.length_append]
  omega

/-- A section in front holds the open-markers that begin in it. -/
theorem opensWithin_step_iff {position stop : Nat} {before rest : Text} {s : Section}
    {parts : List Part} (hb : Text.EndsFirst d.opening before)
    (hspan : s.span = ⟨position + before.length,
      position + before.length + (s.source d).length⟩) :
    OpensWithin d position (before ++ s.source d ++ rest)
        ((before ++ s.source d).length + stop) (literalAt position before ++ .live s :: parts) ↔
      OpensWithin d s.span.stop rest stop parts := by
  have hstop : s.span.stop = position + (before ++ s.source d).length := by
    simpa using stop_add_length hspan []
  have hsections : sectionsOf (literalAt position before ++ .live s :: parts) =
      s :: sectionsOf parts := sectionsOf_literalAt_append _ _ _
  rw [OpensWithin, OpensWithin, hsections, hstop]
  constructor
  · intro h p hlt hp
    have hdrop : (before ++ s.source d ++ rest).drop ((before ++ s.source d).length + p) =
        rest.drop p := by
      rw [← List.drop_drop, List.drop_left]
    obtain ⟨s', hs', hstart, hend⟩ := h _ (Nat.add_lt_add_left hlt _) (hdrop ▸ hp)
    rcases List.mem_cons.mp hs' with rfl | hs'
    -- the section in front ends where the rest begins
    · omega
    · exact ⟨s', hs', by omega, by omega⟩
  · intro h p hlt hp
    -- before the section nothing opens, within it the section itself will do
    by_cases hbefore : p < before.length
    · obtain ⟨behind, hbehind⟩ : ∃ behind, s.source d = d.opening ++ behind := by
        simp only [Section.source, List.append_assoc]
        exact ⟨_, rfl⟩
      rw [hbehind, ← List.append_assoc before, List.append_assoc] at hp
      exact absurd hp (hb.not_isPrefix_drop hbefore _)
    by_cases hwithin : p < (before ++ s.source d).length
    · refine ⟨s, List.mem_cons_self, ?_, by omega⟩
      rw [hspan]
      dsimp only
      omega
    · obtain ⟨k, rfl⟩ := Nat.exists_eq_add_of_le (Nat.not_lt.mp hwithin)
      rw [← List.drop_drop, List.drop_left] at hp
      obtain ⟨s', hs', hstart, hend⟩ := h k (by omega) hp
      exact ⟨s', List.mem_cons_of_mem _ hs', by omega, by omega⟩

/-- A text that is halted in is cut where the bad section opens. What stands before it is written out
by itself. -/
theorem Halted.cut {position : Nat} {t : Text} {parts : List Part} {e : ParseError}
    (h : Halted d position t parts e) :
    ∃ lead rest, t = lead ++ rest ∧ Written d position lead parts ∧
      OpensWithin d position t lead.length parts ∧
      SectionFault d (position + lead.length) rest e := by
  induction h with
  | @fault position before t e hb hfault =>
    obtain ⟨behind, rfl⟩ := hfault.opening_isPrefix
    have hnone : Text.splitFirst d.opening before = none :=
      Text.splitFirst_eq_none_iff.mpr (hb.not_isInfix d.opening_ne_nil)
    exact ⟨before, _, rfl, .rest hnone, opensWithin_literalAt_iff.mpr hb, hfault⟩
  | @step position before rest s parts e hb hf hs hspan _ ih =>
    obtain ⟨lead, bad, rfl, hwritten, hwithin, hfault⟩ := ih
    refine ⟨before ++ s.source d ++ lead, bad, ?_, .step hb hf hs hspan hwritten, ?_, ?_⟩
    · simp only [List.append_assoc]
    · rw [List.length_append]
      exact (opensWithin_step_iff hb hspan).mpr hwithin
    · rwa [← stop_add_length hspan]

/-- Behind a text that is written out, with no other open-marker in it, a bad section is the first. -/
theorem Written.halted {position : Nat} {lead : Text} {parts : List Part}
    (h : Written d position lead parts) {rest : Text} {e : ParseError}
    (hwithin : OpensWithin d position (lead ++ rest) lead.length parts)
    (hfault : SectionFault d (position + lead.length) rest e) :
    Halted d position (lead ++ rest) parts e := by
  induction h with
  | rest h =>
    obtain ⟨behind, rfl⟩ := hfault.opening_isPrefix
    exact .fault (opensWithin_literalAt_iff.mp hwithin) hfault
  | @step position before lead s parts hb hf hs hspan _ ih =>
    rw [List.append_assoc _ lead] at hwithin ⊢
    rw [List.length_append] at hwithin
    refine .step hb hf hs hspan (ih ((opensWithin_step_iff hb hspan).mp hwithin) ?_)
    rwa [stop_add_length hspan]

/-! ## Classes of faults -/

/-- Behind the open-marker stands a line that gives a name and does not hold the close-marker. -/
def HeaderAhead (d : Delimiters) (t : Text) : Prop :=
  ∃ header body, t = d.opening ++ (header ++ '\n' :: body) ∧ '\n' ∉ header ∧
    ¬d.closing <:+: header ∧ Section.nameOfHeader header ≠ []

/-- The class of the error in a section that opens at the front of `t`, and where it is reported.
Each case excludes those before it. -/
inductive Classified (d : Delimiters) (start : Nat) (t : Text) (e : ParseError) : Prop where
  | unexpectedClosingTag (hkind : e.fault.kind = .unexpectedClosingTag)
      (hposition : e.position = start) (htag : ClosingTagAhead d t)
  | invalidName (hkind : e.fault.kind = .invalidName) (hposition : e.position = start)
      (htag : ¬ClosingTagAhead d t) (hheader : ¬HeaderAhead d t)
  | unterminated (hkind : e.fault.kind = .unterminated) (hposition : e.position = start)
      (htag : ¬ClosingTagAhead d t) (hheader : HeaderAhead d t)
      (hreached : ∀ header lead rest, ¬TagReached d header t lead rest)
  | closingTagUnterminated {header lead rest : Text} (hkind : e.fault.kind = .unterminated)
      (hposition : e.position = start + lead.length) (hreached : TagReached d header t lead rest)
      (hend : ¬d.closing <:+: rest)
  | mismatchedName {header lead raw rest : Text} (hkind : e.fault.kind = .mismatchedName)
      (hposition : e.position = start + lead.length)
      (hreached : TagReached d header t lead (raw ++ d.closing ++ rest))
      (hraw : Text.EndsFirst d.closing raw)
      (hname : nameOfClosingTag raw ≠ Section.nameOfHeader header)

/-- With a closing tag ruled out, a line ahead that can be a header is one. -/
theorem headerFormed_of_not_slashAhead {header body : Text}
    (hslash : ¬SlashAhead (header ++ '\n' :: body)) (hline : '\n' ∉ header)
    (hclosed : ¬d.closing <:+: header) (hname : Section.nameOfHeader header ≠ []) :
    HeaderFormed d header := by
  have hread : readHeader d (header ++ '\n' :: body) = .ok (header, body) := by
    rw [readHeader_of_line hslash hline, Text.contains_eq_false_iff.mpr hclosed, if_neg hname]
    rfl
  exact (readHeader_eq_ok_iff.mp hread).1

theorem HeaderFormed.not_slashAhead {header : Text} (h : HeaderFormed d header) (body : Text) :
    ¬SlashAhead (header ++ '\n' :: body) := by
  intro hslash
  cases (readHeader_of_slash hslash).symm.trans (readHeader_eq_ok_iff.mpr ⟨h, rfl⟩)

theorem HeaderFault.classified {start : Nat} {t : Text} {fault : Fault}
    (h : HeaderFault d t fault) : Classified d start (d.opening ++ t) ⟨fault, start⟩ := by
  by_cases hslash : SlashAhead t
  · have hfault : fault = .strayClosingTag :=
      Except.error.inj ((readHeader_eq_error_iff.mpr h).symm.trans (readHeader_of_slash hslash))
    subst hfault
    exact .unexpectedClosingTag rfl rfl (closingTagAhead_iff.mpr hslash)
  · refine .invalidName ?_ rfl (mt closingTagAhead_iff.mp hslash) ?_
    · cases h with
      | strayClosingTag hslash' => exact absurd hslash' hslash
      | headerUnfinished | headerClosed | nameless => rfl
    · rintro ⟨header, body, ht, hline, hclosed, hname⟩
      obtain rfl := List.append_cancel_left ht
      have hformed := headerFormed_of_not_slashAhead hslash hline hclosed hname
      cases (readHeader_eq_error_iff.mpr h).symm.trans
        (readHeader_eq_ok_iff.mpr ⟨hformed, rfl⟩)

/-- Where the program is at fault no closing tag is come to. -/
theorem ProgramFault.not_tagReached {header body : Text} {fault : Fault}
    (hheader : HeaderFormed d header)
    (h : ProgramFault d (Section.nameOfHeader header) body fault) (header' lead rest : Text) :
    ¬TagReached d header' (d.opening ++ (header ++ '\n' :: body)) lead rest := by
  intro htag
  generalize ht : d.opening ++ (header ++ '\n' :: body) = t at htag
  cases htag with
  | @intro program output slash _ hheader' hprogram hslash houtput =>
    have hsame := List.append_cancel_left ht
    -- both lines are read from the same text
    have hread := readHeader_eq_ok_iff.mpr ⟨hheader', hsame⟩
    rw [readHeader_eq_ok_iff.mpr ⟨hheader, rfl⟩] at hread
    obtain ⟨rfl, rfl⟩ := Prod.mk.inj (Except.ok.inj hread)
    cases (readProgram_eq_error_iff.mpr h).symm.trans
      (readProgram_eq_ok_iff.mpr ⟨hprogram, _, rfl, houtput.findClosingTag hslash⟩)

theorem SectionFault.classified {start : Nat} {t : Text} {e : ParseError}
    (h : SectionFault d start t e) : Classified d start t e := by
  cases h with
  | header h => exact h.classified
  | @program header body fault hheader h =>
    refine .unterminated ?_ rfl ?_ ?_ (h.not_tagReached hheader)
    · cases h <;> rfl
    · exact mt closingTagAhead_iff.mp (hheader.not_slashAhead body)
    · exact ⟨header, body, rfl, hheader.one_line, Text.contains_eq_false_iff.mp hheader.not_closed,
        hheader.named⟩
  | closingTag htag h =>
    cases h with
    | closingTagUnfinished hend => exact .closingTagUnterminated rfl rfl htag hend
    | wrongName hraw hname => exact .mismatchedName rfl rfl htag hraw hname

/-! ## Diagnosis -/

/-- How an error stands to the source that it was found in. The first bad section opens at `start`,
and `parts` are what stands before it. -/
structure Diagnosed (d : Delimiters) (source : Text) (start : Nat) (parts : List Part)
    (e : ParseError) : Prop where
  opens : d.opening <+: source.drop start
  /-- What stands before the bad section is a document by itself. -/
  parsed : parse d (source.take start) = .ok parts
  /-- The parts are those that the reader had when it stopped. -/
  read_eq : (readParts d 0 source).1 = parts
  /-- No section opens before the bad one but those among the parts. -/
  earlier : OpensWithin d 0 source start parts
  fault : SectionFault d start (source.drop start) e
  classified : Classified d start (source.drop start) e
  position_opens : d.opening <+: source.drop e.position
  line_eq : ParseError.lineAt source e.position = 1 + (source.take e.position).count '\n'

/-- **A source is rejected exactly with the diagnosis of its first bad section.** -/
theorem parse_eq_error_iff {source : Text} {e : ParseError} :
    parse d source = .error e ↔ ∃ start parts, Diagnosed d source start parts e := by
  have hparse : parse d source = .error e ↔ ∃ parts, Halted d 0 source parts e := by
    simp only [← readParts_eq_error_iff, parse]
    rcases readParts d 0 source with ⟨found, fault | e'⟩ <;> simp
  rw [hparse]
  constructor
  · rintro ⟨parts, h⟩
    have hread : (readParts d 0 source).1 = parts := by rw [readParts_eq_error_iff.mpr h]
    obtain ⟨lead, rest, rfl, hwritten, hwithin, hfault⟩ := h.cut
    rw [Nat.zero_add] at hfault
    obtain ⟨front, behind, hrest, hposition⟩ := hfault.position_eq
    refine ⟨lead.length, parts, ?_⟩
    refine { opens := ?_, parsed := ?_, read_eq := hread, earlier := hwithin, fault := ?_,
             classified := ?_, position_opens := ?_, line_eq := Nat.add_comm _ _ }
    · rw [List.drop_left]
      exact hfault.opening_isPrefix
    · rw [List.take_left]
      exact parse_eq_ok_iff.mpr hwritten
    · rwa [List.drop_left]
    · rw [List.drop_left]
      exact hfault.classified
    · rw [hposition, ← List.drop_drop, List.drop_left, hrest, List.drop_left]
      exact List.prefix_append _ _
  · rintro ⟨start, parts, h⟩
    have hlength : (source.take start).length = start := by
      have := h.opens.length_le
      have hpos := List.length_pos_iff.mpr d.opening_ne_nil
      rw [List.length_drop] at this
      rw [List.length_take]
      omega
    have hwritten : Written d 0 (source.take start) parts := parse_eq_ok_iff.mp h.parsed
    have hcut : source.take start ++ source.drop start = source := List.take_append_drop _ _
    have hhalted : Halted d 0 (source.take start ++ source.drop start) parts e := by
      refine hwritten.halted ?_ ?_
      · rw [hcut, hlength]
        exact h.earlier
      · rw [hlength, Nat.zero_add]
        exact h.fault
    rw [hcut] at hhalted
    exact ⟨parts, hhalted⟩

/-- The bad section opens at 16, behind a good one. Its closing tag begins at 27, behind an
open-marker that is passed over. -/
example : parse .angled "x<<a\np>>o<</a>>y<<b\nq>>r<<s<</c>>".toList =
    .error ⟨.wrongName ['b'] ['c'], 27⟩ := by decide +kernel

end LiveSections
