import LiveSections.Proofs.CanonicalTags
import LiveSections.Proofs.Newline

/-!
# Compiling what was compiled

A section that does not look at its previous output renders the same once more, also if its
evaluator has a state, as long as every compilation begins with the same one.

- `Compiler.RendersBlindly`: the outputs of sections hang on their names and programs only.
- `Written.reread_styled`: fresh output is read as the previous output, in either tag style.
- `compile_compiled`: **a compiled document whose sections render blindly compiles to itself,** from
  the state that the document was compiled from.
- `recompile_of_settles`: a compiled document whose sections settle stays as it is, in either tag
  style, however often it is compiled.
- `eq_or_bareLf_of_compile`: a compiled section puts a bare line feed behind its name, if the
  document has no end of line of two characters.
-/

namespace LiveSections

variable {d : Delimiters}

/-! ## Reading compiled documents -/

theorem Part.gist_frame (p : Part) : p.frame.gist = p.gist := by cases p <;> rfl

theorem map_gist_of_frame {parts parts' : List Part}
    (h : parts'.map Part.frame = parts.map Part.frame) :
    parts'.map Part.gist = parts.map Part.gist := by
  have hgist (ps : List Part) : ps.map Part.gist = (ps.map Part.frame).map Part.gist := by
    rw [List.map_map]
    exact List.map_congr_left fun p _ => p.gist_frame.symm
  rw [hgist parts', hgist parts, h]

/-- Parts of the same gists have sections of the same gists. -/
theorem map_gist_sectionsOf {parts parts' : List Part}
    (h : parts'.map Part.gist = parts.map Part.gist) :
    (sectionsOf parts').map Section.gist = (sectionsOf parts).map Section.gist := by
  have hgist (ps : List Part) : (sectionsOf ps).map Section.gist =
      (ps.map Part.gist).filterMap Part.section? := by
    rw [sectionsOf, List.map_filterMap, List.filterMap_map]
    refine List.filterMap_congr fun p _ => ?_
    cases p <;> rfl
  rw [hgist, hgist, h]

/-- Fresh outputs that are the previous ones. -/
theorem eq_map_asRendered {rs : List Rendered} {sections : List Section}
    (hr : rs.map Rendered.origin = sections)
    (ho : rs.map Rendered.output = sections.map Section.stale) :
    rs = sections.map Section.asRendered := by
  subst hr
  rw [List.map_map] at ho ⊢
  have hself : rs.map (Section.asRendered ∘ Rendered.origin) = rs.map id := by
    refine List.map_congr_left fun r hr => ?_
    have houtput : r.output = r.origin.stale := List.map_inj_left.mp ho r hr
    show Rendered.mk r.origin r.origin.stale = r
    rw [← houtput]
  rw [hself, List.map_id]

/-- Fresh output is read as the previous output in either tag style, and written once more as it
stands there. Canonical tags need a close-marker without a blank. -/
theorem Written.reread_styled {style : TagStyle} (hb : style = .verbatim ∨ ' ' ∉ d.closing)
    {position : Nat} {t : Text} {parts : List Part} (h : Written d position t parts)
    {rs : List Rendered} (hr : rs.map Rendered.origin = sectionsOf parts)
    (ho : ∀ r ∈ rs, Text.EndsFirst d.opening r.output) (position' : Nat) :
    ∃ parts', Written d position' (assemble d style (Compiler.weave parts rs)) parts' ∧
      parts'.map Part.gist = parts.map Part.gist ∧
      (sectionsOf parts').map Section.stale = rs.map Rendered.output ∧
      assemble d style
          (Compiler.weave parts' ((sectionsOf parts').map Section.asRendered)) =
        assemble d style (Compiler.weave parts rs) := by
  cases style with
  | verbatim =>
    obtain ⟨parts', hwritten, hframe, hread⟩ :=
      h.reread_of_passedOver hr (fun r hmem => .clear (ho r hmem)) position'
    refine ⟨parts', hwritten, map_gist_of_frame hframe, ?_, ?_⟩
    · refine map_eq_map_of_forall₂ hread ?_
      rintro s r ⟨start, rfl⟩
      rfl
    · rw [Compiler.assemble_weave_asRendered, hwritten.source_eq]
  | canonical =>
    have hblank : ' ' ∉ d.closing := hb.resolve_left nofun
    obtain ⟨parts', hwritten, hgist, hcarry⟩ := h.reread_gist hblank hr ho .canonical position'
    refine ⟨parts', hwritten, hgist,
      map_eq_map_of_forall₂ hcarry fun s r hsr => hsr.stale_eq, ?_⟩
    have hgists : ((sectionsOf parts').map Section.asRendered).map Rendered.gist =
        rs.map Rendered.gist := by
      rw [List.map_map]
      refine map_eq_map_of_forall₂ hcarry fun s r hsr => ?_
      show Rendered.mk s.gist s.stale = r.gist
      rw [hsr.gist_eq, hsr.stale_eq]
      rfl
    rw [← assemble_weave_gist parts', hgist, hgists, assemble_weave_gist]

/-! ## Sections that do not look back -/

namespace Compiler

variable {σ : Type} {c : Compiler σ} {st : σ} {outputs : List Text}

/-- From a state, sections have these outputs whatever their previous outputs are: all sections with
the same names and programs have them. -/
def RendersBlindly (c : Compiler σ) (st : σ) (sections : List Section) (outputs : List Text) :
    Prop :=
  ∀ sections', sections'.map Section.gist = sections.map Section.gist →
    ∃ rs, ((c.evaluateSections sections').run st).result = .ok rs ∧
      rs.map Rendered.output = outputs

/-- A document whose sections render blindly is written with the outputs that they have. -/
theorem RendersBlindly.result_compile {sections : List Section}
    (h : c.RendersBlindly st sections outputs) {document : Text} {parts : List Part}
    (hp : parse c.delimiters document = .ok parts)
    (hg : (sectionsOf parts).map Section.gist = sections.map Section.gist) :
    ∃ rs, rs.map Rendered.origin = sectionsOf parts ∧ rs.map Rendered.output = outputs ∧
      ((c.compile document).run st).result =
        .ok (assemble c.delimiters c.style (weave parts rs)) := by
  obtain ⟨rs, hr, houtputs⟩ := h (sectionsOf parts) hg
  refine ⟨rs, origins_of_ends (ends_of_evaluateSections_ok hr), houtputs, ?_⟩
  rw [run_compile_of_ok hp]
  dsimp only
  rw [hr]
  rfl

/-- **A compiled document whose sections render blindly compiles to itself,** from the state that
the document was compiled from, if no output holds an open-marker. -/
theorem compile_compiled (hb : c.style = .verbatim ∨ ' ' ∉ c.delimiters.closing)
    {document text : Text} {parts : List Part} (hp : parse c.delimiters document = .ok parts)
    (h : c.RendersBlindly st (sectionsOf parts) outputs)
    (ho : ∀ output ∈ outputs, Text.EndsFirst c.delimiters.opening output)
    (ht : ((c.compile document).run st).result = .ok text) :
    ∃ parts', parse c.delimiters text = .ok parts' ∧
      parts'.map Part.gist = parts.map Part.gist ∧
      ((c.compile text).run st).result = .ok text := by
  obtain ⟨rs, horigins, houtputs, hresult⟩ := h.result_compile hp rfl
  obtain rfl := Except.ok.inj (ht.symm.trans hresult)
  obtain ⟨parts', hwritten, hgist, hstale, hsame⟩ :=
    (parse_eq_ok_iff.mp hp).reread_styled hb horigins
      (fun r hr => ho r.output (houtputs ▸ List.mem_map_of_mem hr)) 0
  have hp' := parse_eq_ok_iff.mpr hwritten
  obtain ⟨rs', horigins', houtputs', hresult'⟩ :=
    h.result_compile hp' (map_gist_sectionsOf hgist)
  -- what is rendered now stands there already
  have hstands : rs' = (sectionsOf parts').map Section.asRendered :=
    eq_map_asRendered horigins' (houtputs'.trans (houtputs.symm.trans hstale.symm))
  rw [hstands, hsame] at hresult'
  exact ⟨parts', hp', hgist, hresult'⟩

/-- A document whose sections settle compiles to one that compiles to itself, in either tag style.
Canonical tags need a close-marker without a blank. -/
theorem recompile_of_settles (hc : c.Steady)
    (hb : c.style = .verbatim ∨ ' ' ∉ c.delimiters.closing) {document out : Text}
    {parts : List Part} {st : σ} (hp : parse c.delimiters document = .ok parts)
    (ho : ((c.compile document).run st).result = .ok out)
    (hs : ∀ s ∈ sectionsOf parts, c.Settles s) (n : Nat) (st' : σ) :
    ((c.recompile n out).run st').result = .ok out := by
  obtain ⟨rs, horigins, hrenders, rfl⟩ := exists_rendered_of_compile hp ho
  have hsettles : ∀ r ∈ rs, c.Settles r.origin := fun r hr =>
    hs r.origin (horigins ▸ List.mem_map_of_mem hr)
  obtain ⟨parts', hwritten, hgist, hstale, hsame⟩ := (parse_eq_ok_iff.mp hp).reread_styled hb
    horigins (fun r hr => (hsettles r hr).endsFirst r.output (hrenders r hr)) 0
  have hread := map_gist_sectionsOf hgist
  rw [← horigins, List.map_map] at hread
  -- what is read now is what was rendered, and that renders itself
  have hself : ∀ s ∈ sectionsOf parts', c.Renders s s.stale := by
    intro s hs'
    obtain ⟨i, hi, rfl⟩ := List.mem_iff_getElem.mp hs'
    have hlen := congrArg List.length hstale
    rw [List.length_map, List.length_map] at hlen
    have hr : rs[i] ∈ rs := List.getElem_mem (hlen ▸ hi)
    have hgist' := List.getElem_of_eq hread (by simpa using hi)
    have hstale' := List.getElem_of_eq hstale (by simpa using hi)
    rw [List.getElem_map, List.getElem_map] at hgist' hstale'
    rw [hstale']
    exact Renders.congr (s := { (rs[i]).origin with stale := (rs[i]).output }) hgist'.symm
      hstale'.symm ((hsettles _ hr).again _ (hrenders _ hr))
  refine recompile_eq_self (fun st => ?_) n st'
  rw [hc.result_compile_asRendered (parse_eq_ok_iff.mpr hwritten) hself st, hsame]

end Compiler

/-! ## Line feeds of compiled sections -/

theorem Section.nameOfHeader_eq_append (header : Text) :
    ∃ lead, header = lead ++ Section.nameOfHeader header := by
  unfold Section.nameOfHeader
  split
  · exact ⟨[' '], rfl⟩
  · exact ⟨[], rfl⟩

theorem HeaderFormed.ne_nil {header : Text} (h : HeaderFormed d header) : header ≠ [] := by
  rintro rfl
  exact h.named rfl

/-- What stands before the first line feed of a section with fresh output ends as its header
does. -/
theorem Rendered.exists_text_eq {r : Rendered} (h : r.origin.Formed d) (style : TagStyle) :
    ∃ front behind, r.text d style = front ++ '\n' :: behind ∧
      front.getLast? = r.origin.header.getLast? := by
  have hlast {lead t : Text} (ht : t ≠ []) : (lead ++ t).getLast? = t.getLast? :=
    List.getLast?_append_of_ne_nil lead ht
  cases style with
  | verbatim =>
    refine ⟨d.opening ++ r.origin.header,
      r.origin.program ++ d.closing ++ r.output ++ r.origin.closingTag, ?_, hlast h.header.ne_nil⟩
    simp only [Rendered.text, List.append_assoc, List.cons_append]
  | canonical =>
    have hname : r.origin.name ≠ [] := h.name_eq ▸ h.header.named
    obtain ⟨lead, hheader⟩ := Section.nameOfHeader_eq_append r.origin.header
    rw [← h.name_eq] at hheader
    refine ⟨d.opening ++ [' '] ++ r.origin.name,
      r.origin.program ++ d.closing ++ r.output ++ d.closeTag r.origin.name, ?_, ?_⟩
    · simp only [Rendered.text, Delimiters.openTag, List.append_assoc, List.cons_append,
        List.nil_append]
    · rw [hlast hname, hheader, hlast hname]

/-- **A compiled section puts a bare line feed behind its name,** if the document has no end of line
of two characters. Without sections the document stays as it is. -/
theorem Written.eq_or_bareLf_assemble (style : TagStyle) {position : Nat} {t : Text}
    {parts : List Part} (h : Written d position t parts) {rs : List Rendered}
    (hr : rs.map Rendered.origin = sectionsOf parts) (hcrlf : Text.hasCrlf t = false) :
    assemble d style (Compiler.weave parts rs) = t ∨
      Text.BareLf (assemble d style (Compiler.weave parts rs)) := by
  cases h with
  | rest =>
    left
    rw [sectionsOf_literalAt] at hr
    rw [List.map_eq_nil_iff.mp hr, assemble_weave_rest]
  | @step _ before rest s parts _ hf _ _ _ =>
    right
    rw [sectionsOf_literalAt_append] at hr
    obtain ⟨r, rs, rfl, rfl, -⟩ := List.map_eq_cons_iff.mp hr
    obtain ⟨front, behind, htext, hlast⟩ := Rendered.exists_text_eq hf style
    refine ⟨before ++ front, behind ++ assemble d style (Compiler.weave parts rs), ?_, ?_⟩
    · rw [assemble_weave_literalAt, assemble_weave_live, htext]
      simp only [List.append_assoc, List.cons_append]
    · intro hreturn
      -- a carriage return at the end would belong to the header, and stand before a line feed
      have hheader : r.origin.header.getLast? = some '\r' := by
        rw [← hlast, ← hreturn, List.getLast?_append_of_ne_nil before]
        rintro rfl
        exact hf.header.ne_nil (List.getLast?_eq_none_iff.mp hlast.symm)
      obtain ⟨name, hname⟩ := List.getLast?_eq_some_iff.mp hheader
      have hinfix : ['\r', '\n'] <:+: before ++ r.origin.source d ++ rest := by
        refine ⟨before ++ d.opening ++ name, r.origin.program ++ d.closing ++ r.origin.stale ++
          r.origin.closingTag ++ rest, ?_⟩
        simp only [Section.source, hname, List.append_assoc, List.cons_append, List.nil_append]
      rw [Text.hasCrlf_iff.mpr hinfix] at hcrlf
      cases hcrlf

/-- A document without an end of line of two characters stays as it is, or compiles to a text with a
bare line feed. -/
theorem Compiler.eq_or_bareLf_of_compile {σ : Type} {c : Compiler σ} {document text : Text} {st : σ}
    (ht : ((c.compile document).run st).result = .ok text)
    (hcrlf : Text.hasCrlf document = false) : text = document ∨ Text.BareLf text := by
  obtain ⟨parts, rs, hp, hends, rfl⟩ := compile_eq_ok ht
  exact (parse_eq_ok_iff.mp hp).eq_or_bareLf_assemble c.style (origins_of_ends hends) hcrlf

end LiveSections
