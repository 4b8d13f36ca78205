import LiveSections.Proofs.Lossless
import LiveSections.Proofs.Workers

/-!
# Compiling replaces output

- `Compiler.Renders s output`: the normalized answer of the evaluator to the section's name, its
  program filled in, and its previous output.
- `Section.outputSpan`: where a document holds the output of a section.
- `splice`: a source with new texts in place of some of its spans.
- `compile_eq_splice`: **with its tags as they were read, a compiled document is the document with
  nothing but the outputs replaced.**
-/

namespace LiveSections

variable {d : Delimiters}

/-! ## Fresh output -/

namespace Compiler

variable {σ : Type} {c : Compiler σ}

/-- The output of a section: the evaluator's text for its name, its program filled in, and its
previous output, with one line feed at either end. -/
def Renders (c : Compiler σ) (s : Section) (output : Text) : Prop :=
  ∃ program t, (c.fillProgram s.name s.program).Ends (.ok program) ∧
    (c.evaluator s.name program s.stale).Ends (.ok (.text t)) ∧ output = normalizeOutput t

/-- An evaluation that succeeds renders its section. -/
theorem renders_of_ends {s : Section} {r : Rendered}
    (h : (c.evaluateSection s).Ends (.ok r)) : r.origin = s ∧ c.Renders s r.output := by
  obtain ⟨st, h⟩ := h
  obtain ⟨-, -, h⟩ := Session.result_bind_eq_ok_iff.mp h
  obtain ⟨program, hprogram, h⟩ := Session.result_bind_eq_ok_iff.mp h
  obtain ⟨-, -, h⟩ := Session.result_bind_eq_ok_iff.mp h
  obtain ⟨produced, hproduced, h⟩ := Session.result_bind_eq_ok_iff.mp h
  obtain ⟨t, ht, h⟩ := Session.result_bind_eq_ok_iff.mp h
  cases h
  have hevaluator : (c.evaluator s.name program s.stale).Ends (.ok produced) :=
    ⟨_, Session.result_mapError_eq_ok_iff.mp hproduced⟩
  cases produced with
  | other type => cases ht
  | text t' =>
    cases ht
    exact ⟨rfl, program, t, ⟨_, hprogram⟩, hevaluator, rfl⟩

/-- Fresh outputs come in the order of their sections. -/
theorem origins_of_ends {sections : List Section} {rendered : List Rendered}
    (h : List.Forall₂ (fun s r => (c.evaluateSection s).Ends (.ok r)) sections rendered) :
    rendered.map Rendered.origin = sections := by
  induction h with
  | nil => rfl
  | cons hr _ ih => rw [List.map_cons, (renders_of_ends hr).1, ih]

theorem renders_of_mem_ends {sections : List Section} {rendered : List Rendered}
    (h : List.Forall₂ (fun s r => (c.evaluateSection s).Ends (.ok r)) sections rendered)
    {r : Rendered} (hr : r ∈ rendered) : c.Renders r.origin r.output := by
  induction h with
  | nil => cases hr
  | cons hend _ ih =>
    rcases List.mem_cons.mp hr with rfl | hr
    · obtain ⟨rfl, hrenders⟩ := renders_of_ends hend
      exact hrenders
    · exact ih hr

/-- If resolver and evaluator do not hang on the state, what a section renders is how every
evaluation of it ends. -/
theorem Steady.result_of_renders (hc : c.Steady) {s : Section} {output : Text}
    (h : c.Renders s output) (st : σ) :
    ((c.evaluateSection s).run st).result = .ok ⟨s, output⟩ := by
  obtain ⟨program, t, hprogram, hevaluator, rfl⟩ := h
  refine Session.result_bind_eq_ok_iff.mpr ⟨(), rfl, ?_⟩
  refine Session.result_bind_eq_ok_iff.mpr
    ⟨program, (hc.fillProgram s.name s.program).result_of_ends hprogram _, ?_⟩
  refine Session.result_bind_eq_ok_iff.mpr ⟨(), rfl, ?_⟩
  refine Session.result_bind_eq_ok_iff.mpr ⟨.text t, ?_, rfl⟩
  exact Session.result_mapError_eq_ok_iff.mpr
    ((hc.evaluator s.name program s.stale).result_of_ends hevaluator _)

end Compiler

/-! ## The place of the output -/

/-- A section up to its output. -/
def Section.front (d : Delimiters) (s : Section) : Text :=
  d.opening ++ s.header ++ '\n' :: s.program ++ d.closing

/-- The stretch of a document from behind the program's close-marker to the closing tag. -/
def Section.outputSpan (d : Delimiters) (s : Section) : Span :=
  ⟨s.span.start + (s.front d).length, s.span.stop - s.closingTag.length⟩

/-- A source from an offset on, with new texts in place of some spans. -/
def splice (source : Text) : Nat → List (Span × Text) → Text
  | position, [] => source.drop position
  | position, (span, new) :: more =>
    Span.slice source ⟨position, span.start⟩ ++ new ++ splice source span.stop more

theorem slice_append_slice (source : Text) {a b e : Nat} (hab : a ≤ b) (hbe : b ≤ e) :
    Span.slice source ⟨a, b⟩ ++ Span.slice source ⟨b, e⟩ = Span.slice source ⟨a, e⟩ := by
  have hlen : e - a = (b - a) + (e - b) := by omega
  have hdrop : source.drop b = (source.drop a).drop (b - a) := by
    rw [List.drop_drop, Nat.add_sub_cancel' hab]
  simp only [Span.slice]
  rw [hlen, List.take_add, hdrop]

theorem slice_append_drop (source : Text) {a b : Nat} (hab : a ≤ b) :
    Span.slice source ⟨a, b⟩ ++ source.drop b = source.drop a := by
  have hdrop : source.drop b = (source.drop a).drop (b - a) := by
    rw [List.drop_drop, Nat.add_sub_cancel' hab]
  rw [hdrop]
  exact List.take_append_drop (b - a) (source.drop a)

/-- Up to the first span that is replaced, a splice holds what the source does. -/
theorem splice_eq_slice_append (source : Text) {a b : Nat} (hab : a ≤ b)
    {more : List (Span × Text)} (h : ∀ e ∈ more, b ≤ e.1.start) :
    splice source a more = Span.slice source ⟨a, b⟩ ++ splice source b more := by
  cases more with
  | nil => exact (slice_append_drop source hab).symm
  | cons e more =>
    have hstart := slice_append_slice source hab (h e List.mem_cons_self)
    simp only [splice, ← hstart, List.append_assoc]

/-! ## Sections in their document -/

theorem Section.source_eq (s : Section) : s.source d = s.front d ++ s.stale ++ s.closingTag := rfl

theorem Rendered.text_verbatim (r : Rendered) :
    r.text d .verbatim = r.origin.front d ++ r.output ++ r.origin.closingTag := rfl

/-- A document cut at the output of a section: its front, its output, its closing tag. -/
theorem slices_of_section (lead behind : Text) {s : Section}
    (hspan : s.span = ⟨lead.length, lead.length + (s.source d).length⟩) :
    let source := lead ++ s.source d ++ behind
    Span.slice source ⟨s.span.start, (s.outputSpan d).start⟩ = s.front d ∧
      (s.outputSpan d).slice source = s.stale ∧
      Span.slice source ⟨(s.outputSpan d).stop, s.span.stop⟩ = s.closingTag := by
  intro source
  have hstop : s.span.stop - s.closingTag.length =
      lead.length + (s.front d).length + s.stale.length := by
    rw [hspan, s.source_eq]
    simp only [List.length_append]
    omega
  have hend : s.span.stop =
      lead.length + (s.front d).length + s.stale.length + s.closingTag.length := by
    rw [hspan, s.source_eq]
    simp only [List.length_append]
    omega
  simp only [Section.outputSpan, hstop]
  -- the same text, bracketed around each of its three stretches
  refine ⟨?_, ?_, ?_⟩
  · have := Span.slice_append lead (s.front d) (s.stale ++ s.closingTag ++ behind)
    simpa only [source, hspan, s.source_eq, List.append_assoc] using this
  · have := Span.slice_append (lead ++ s.front d) s.stale (s.closingTag ++ behind)
    simpa only [source, hspan, s.source_eq, List.append_assoc, List.length_append] using this
  · have := Span.slice_append (lead ++ s.front d ++ s.stale) s.closingTag behind
    rw [hend]
    simpa only [source, s.source_eq, List.append_assoc, List.length_append, Nat.add_assoc]
      using this

/-! ## Weaving is splicing -/

theorem mem_sectionsOf {parts : List Part} {s : Section} :
    s ∈ sectionsOf parts ↔ .live s ∈ parts := by
  rw [sectionsOf, List.mem_filterMap]
  constructor
  · rintro ⟨p, hp, hs⟩
    cases p with
    | literal => cases hs
    | live s' =>
      cases hs
      exact hp
  · intro hs
    exact ⟨.live s, hs, rfl⟩

theorem sectionsOf_literalAt_append (position : Nat) (t : Text) (parts : List Part) :
    sectionsOf (literalAt position t ++ parts) = sectionsOf parts := by
  cases t <;> rfl

theorem sectionsOf_literalAt (position : Nat) (t : Text) :
    sectionsOf (literalAt position t) = [] := by
  cases t <;> rfl

theorem assemble_weave_literalAt (style : TagStyle) (position : Nat) (t : Text)
    (parts : List Part) (rs : List Rendered) :
    assemble d style (Compiler.weave (literalAt position t ++ parts) rs) =
      t ++ assemble d style (Compiler.weave parts rs) := by
  cases t <;> rfl

/-- Without sections nothing is woven in. -/
theorem assemble_weave_rest (style : TagStyle) (position : Nat) (t : Text) :
    assemble d style (Compiler.weave (literalAt position t) []) = t := by
  rw [← List.append_nil (literalAt position t), assemble_weave_literalAt]
  exact List.append_nil t

theorem assemble_weave_live (style : TagStyle) (s : Section) (parts : List Part) (r : Rendered)
    (rs : List Rendered) :
    assemble d style (Compiler.weave (.live s :: parts) (r :: rs)) =
      r.text d style ++ assemble d style (Compiler.weave parts rs) := rfl

/-- Every section of a written text is formed, and its previous output sealed. -/
theorem Written.formed {position : Nat} {t : Text} {parts : List Part}
    (h : Written d position t parts) {s : Section} (hs : s ∈ sectionsOf parts) :
    s.Formed d ∧ s.Sealed d := by
  induction h with
  | rest =>
    rw [sectionsOf_literalAt] at hs
    cases hs
  | step _ hf hsealed _ _ ih =>
    rw [sectionsOf_literalAt_append] at hs
    rcases List.mem_cons.mp hs with rfl | hs
    · exact ⟨hf, hsealed⟩
    · exact ih hs

/-- No output of a text begins before the text. -/
theorem Written.le_outputSpan {position : Nat} {t : Text} {parts : List Part}
    (h : Written d position t parts) {s : Section} (hs : s ∈ sectionsOf parts) :
    position ≤ (s.outputSpan d).start := by
  have hstart : position ≤ s.span.start :=
    h.tiles.le_start (List.mem_map_of_mem (mem_sectionsOf.mp hs))
  exact Nat.le_trans hstart (Nat.le_add_right _ _)

/-- Weaving fresh outputs into the parts of a text is splicing them into the text. -/
theorem Written.weave_eq_splice {position : Nat} {t : Text} {parts : List Part}
    (h : Written d position t parts) {lead : Text} (hl : lead.length = position)
    {rs : List Rendered} (hr : rs.map Rendered.origin = sectionsOf parts) :
    assemble d .verbatim (Compiler.weave parts rs) =
      splice (lead ++ t) position (rs.map fun r => (r.origin.outputSpan d, r.output)) := by
  induction h generalizing lead rs with
  | @rest position t =>
    rw [sectionsOf_literalAt] at hr
    have hrs : rs = [] := List.map_eq_nil_iff.mp hr
    rw [hrs, assemble_weave_rest]
    show t = (lead ++ t).drop position
    rw [← hl, List.drop_left]
  | @step position before rest s parts _ _ _ hspan hwritten ih =>
    rw [sectionsOf_literalAt_append] at hr
    obtain ⟨r, rs, rfl, horigin, hr⟩ := List.map_eq_cons_iff.mp hr
    have hr : rs.map Rendered.origin = sectionsOf parts := hr
    have hlead : (lead ++ before).length = position + before.length := by
      rw [List.length_append, hl]
    have hstop : (lead ++ before ++ s.source d).length = s.span.stop := by
      rw [List.length_append, hlead, hspan]
    have hrest := ih hstop hr
    have hwhole : lead ++ (before ++ s.source d ++ rest) =
        lead ++ before ++ s.source d ++ rest := by simp only [List.append_assoc]
    rw [hwhole]
    generalize hsource : lead ++ before ++ s.source d ++ rest = source at hrest ⊢
    obtain ⟨hfront, -, htag⟩ := slices_of_section (lead ++ before) rest (hlead ▸ hspan)
    rw [hsource] at hfront htag
    have hbefore : Span.slice source ⟨position, s.span.start⟩ = before := by
      have := Span.slice_append lead before (s.source d ++ rest)
      rw [← List.append_assoc, hsource] at this
      rwa [hspan, ← hl]
    -- the regions behind this section begin behind its closing tag
    have hbehind : ∀ e ∈ rs.map fun r => (r.origin.outputSpan d, r.output),
        s.span.stop ≤ e.1.start := by
      intro e he
      obtain ⟨r', hr', rfl⟩ := List.mem_map.mp he
      exact hwritten.le_outputSpan (hr ▸ List.mem_map_of_mem hr')
    have hbeforeLe : position ≤ s.span.start := by
      rw [hspan]
      exact Nat.le_add_right _ _
    have hfrontLe : s.span.start ≤ (s.outputSpan d).start := Nat.le_add_right _ _
    have htagLe : (s.outputSpan d).stop ≤ s.span.stop := Nat.sub_le _ _
    calc assemble d .verbatim
          (Compiler.weave (literalAt position before ++ .live s :: parts) (r :: rs))
        = before ++ (s.front d ++ r.output ++ s.closingTag ++
            splice source s.span.stop (rs.map fun r => (r.origin.outputSpan d, r.output))) := by
          rw [assemble_weave_literalAt, assemble_weave_live, r.text_verbatim, horigin, hrest]
      _ = before ++ s.front d ++ r.output ++ splice source (s.outputSpan d).stop
            (rs.map fun r => (r.origin.outputSpan d, r.output)) := by
          rw [splice_eq_slice_append source htagLe hbehind, htag]
          simp only [List.append_assoc]
      _ = splice source position
            ((r :: rs).map fun r => (r.origin.outputSpan d, r.output)) := by
          rw [List.map_cons, splice, horigin,
            ← slice_append_slice source hbeforeLe hfrontLe, hbefore, hfront]

/-! ## Compiled documents -/

/-- The output of every section, between what stands before and behind it in the document. -/
structure OutputPlaced (d : Delimiters) (document : Text) (s : Section) : Prop where
  front : Span.slice document ⟨s.span.start, (s.outputSpan d).start⟩ =
    d.opening ++ s.header ++ '\n' :: s.program ++ d.closing
  output : (s.outputSpan d).slice document = s.stale
  closingTag : Span.slice document ⟨(s.outputSpan d).stop, s.span.stop⟩ = s.closingTag

theorem outputPlaced_of_parse {document : Text} {parts : List Part}
    (h : parse d document = .ok parts) {s : Section} (hs : s ∈ sectionsOf parts) :
    OutputPlaced d document s := by
  obtain ⟨lead, behind, rfl, hspan⟩ := (parse_eq_ok_iff.mp h).around (mem_sectionsOf.mp hs)
  rw [Nat.zero_add] at hspan
  obtain ⟨hfront, houtput, htag⟩ := slices_of_section lead behind hspan
  exact ⟨hfront, houtput, htag⟩

/-- A document without an open-marker has one literal, or none if it is empty. -/
theorem parse_of_not_contains {document : Text}
    (h : Text.contains d.opening document = false) :
    parse d document = .ok (literalAt 0 document) := by
  refine parse_eq_ok_iff.mpr (.rest ?_)
  simpa [Text.contains] using h

namespace Compiler

variable {σ : Type} {c : Compiler σ}

/-- **With its tags as they were read, a compiled document is the document with nothing but the
outputs replaced,** each by what its section renders. A document without an open-marker stays as it
is; neither resolver nor evaluator has a part in that. -/
theorem compile_eq_splice (hv : c.style = .verbatim) (document : Text) (st : σ) :
    (∀ out, ((c.compile document).run st).result = .ok out →
      ∃ parts outputs, parse c.delimiters document = .ok parts ∧
        (∀ s ∈ sectionsOf parts, OutputPlaced c.delimiters document s) ∧
        List.Forall₂ c.Renders (sectionsOf parts) outputs ∧
        out = splice document 0
          (((sectionsOf parts).map (Section.outputSpan c.delimiters)).zip outputs)) ∧
    (Text.contains c.delimiters.opening document = false →
      (c.compile document).run st = ⟨st, [.log 2 "Found 0 section(s)"], .ok document⟩) := by
  constructor
  · intro out h
    obtain ⟨parts, rendered, hparse, hends, rfl⟩ := compile_eq_ok h
    have horigins := origins_of_ends hends
    refine ⟨parts, rendered.map Rendered.output, hparse, ?_, ?_, ?_⟩
    · intro s hs
      exact outputPlaced_of_parse hparse hs
    · rw [List.forall₂_map_right_iff]
      exact hends.imp fun s r hr => (renders_of_ends hr).2
    · have hwritten : Written c.delimiters 0 document parts := parse_eq_ok_iff.mp hparse
      have hweave := hwritten.weave_eq_splice (List.length_nil (α := Char)) horigins
      rw [hv, hweave, ← horigins, List.map_map, List.zip_map']
      rfl
  · intro h
    have hsections : sectionsOf (literalAt 0 document) = [] := sectionsOf_literalAt 0 document
    have hpreamble : c.preamble (literalAt 0 document) = [.log 2 "Found 0 section(s)"] := by
      rw [preamble, trace, hsections]
      cases c.traced <;> rfl
    have hfew : c.workers.val = 1 ∨ ([] : List Section).length < 2 := .inr (Nat.succ_pos 1)
    rw [run_compile_of_ok (parse_of_not_contains h), hpreamble, hsections,
      evaluateSections_of_few hfew]
    show Ending.mk st _ (.ok (assemble c.delimiters c.style (weave (literalAt 0 document) []))) = _
    rw [assemble_weave_rest]
    rfl

/-- Two outputs are replaced, the second of them an empty one; a plain text stays as it is. -/
theorem compile_eq_splice_counting :
    let document := "x<<a\n\x7b\x7bk\x7d\x7d>>old<</a>>y<<c\nz>><</c>>".toList
    let out := "x<<a\n\x7b\x7bk\x7d\x7d>>\nv\n<</a>>y<<c\nz>>\nz\n<</c>>".toList
    counting.style = .verbatim ∧ ((counting.compile document).run 0).result = .ok out ∧
      (∃ parts outputs, parse .angled document = .ok parts ∧
        (∀ s ∈ sectionsOf parts, OutputPlaced .angled document s) ∧
        List.Forall₂ counting.Renders (sectionsOf parts) outputs ∧
        out = splice document 0
          (((sectionsOf parts).map (Section.outputSpan .angled)).zip outputs)) ∧
      (counting.compile ['x']).run 0 = ⟨0, [.log 2 "Found 0 section(s)"], .ok ['x']⟩ := by
  intro document out
  have hout : ((counting.compile document).run 0).result = .ok out := by decide +kernel
  have hv : counting.style = .verbatim := rfl
  exact ⟨hv, hout, (compile_eq_splice hv document 0).1 out hout,
    (compile_eq_splice hv ['x'] 0).2 (by decide)⟩

end Compiler

end LiveSections
