import LiveSections.Proofs.Conformance
import LiveSections.Proofs.FixedPoint

/-!
# Canonical tags

In canonical style a section is written with the tags that its name gives. What stood in the header
and in the closing tag besides the name is forgotten.

- `Part.gist`: what the canonical style keeps of a part, but for its output.
- `Rendered.inStyle`: a section with fresh output, as the next reader sees it in either tag style.
- `Rendered.readAs_inStyle`: **canonical tags are read as tags of the same name,** unless a blank is
  part of the close-marker.
- `compile_canonical_absorbs`: **a document whose sections settle has one canonical form,** to which
  it compiles directly, by way of its own tags, and once more.
-/

namespace LiveSections

variable {d : Delimiters}

/-! ## Gists -/

/-- A section without its tags, its previous output and its place. -/
def Section.gist (s : Section) : Section :=
  { s with header := [], stale := [], closingTag := [], span := ⟨0, 0⟩ }

/-- A part without tags, previous output and place: a text, or a name and a program. -/
def Part.gist : Part → Part
  | .literal text _ => .literal text ⟨0, 0⟩
  | .live s => .live s.gist

/-- Fresh output for the gist of a section. -/
def Rendered.gist (r : Rendered) : Rendered := ⟨r.origin.gist, r.output⟩

/-- In canonical style nothing but gists and outputs is written. -/
theorem assemble_weave_gist (parts : List Part) (rs : List Rendered) :
    assemble d .canonical (Compiler.weave (parts.map Part.gist) (rs.map Rendered.gist)) =
      assemble d .canonical (Compiler.weave parts rs) := by
  induction parts generalizing rs with
  | nil => rfl
  | cons p parts ih =>
    cases p with
    | literal text span => exact congrArg (text ++ ·) (ih rs)
    | live s =>
      cases rs with
      | nil => rfl
      | cons r rs => exact congrArg (r.text d .canonical ++ ·) (ih rs)

/-- The section has the name and the program of one with fresh output, and that as its previous
output. -/
structure Section.Carries (s : Section) (r : Rendered) : Prop where
  gist_eq : s.gist = r.origin.gist
  stale_eq : s.stale = r.output

/-! ## Canonical tags as the reader finds them -/

/-- A section with fresh output that is written with canonical tags at an offset, as a section with
previous output. -/
def Rendered.asCanonical (d : Delimiters) (start : Nat) (r : Rendered) : Section where
  name := r.origin.name
  header := ' ' :: r.origin.name
  program := r.origin.program
  stale := r.output
  closingTag := d.closeTag r.origin.name
  span := ⟨start, start + (r.text d .canonical).length⟩

theorem Rendered.source_asCanonical (start : Nat) (r : Rendered) :
    (r.asCanonical d start).source d = r.text d .canonical := by
  simp [Section.source, Rendered.asCanonical, Rendered.text, Delimiters.openTag]

/-- A section with fresh output that stands at an offset, as the next reader sees it. -/
def Rendered.inStyle (d : Delimiters) : TagStyle → Nat → Rendered → Section
  | .verbatim, start, r => r.asRead d start
  | .canonical, start, r => r.asCanonical d start

theorem Rendered.carries_inStyle (style : TagStyle) (start : Nat) (r : Rendered) :
    (r.inStyle d style start).Carries r := by
  cases style <;> exact ⟨rfl, rfl⟩

theorem closeTag_spelled (name : Text) :
    ClosingTagSpelled d name (d.closeTag name) [] [' '] where
  lead_optional := .inl rfl
  trail_optional := .inr rfl
  tag_eq := by simp [Delimiters.closeTag]

/-- Canonical tags are well-formed exactly if neither the blank before the name nor the one behind it
becomes part of a close-marker that was not meant. -/
theorem Section.Formed.asCanonical_iff {r : Rendered} (h : r.origin.Formed d) (start : Nat) :
    (r.asCanonical d start).Formed d ↔
      ¬d.closing <:+: ' ' :: r.origin.name ∧
        Text.EndsFirst d.closing (r.origin.name ++ [' ']) := by
  constructor
  · intro hf
    obtain ⟨slash, raw, htag⟩ := hf.closingTag
    have hraw : raw = r.origin.name ++ [' '] := htag.raw_eq (closeTag_spelled _)
    exact ⟨Text.contains_eq_false_iff.mp hf.header.not_closed, hraw ▸ htag.raw_endsFirst⟩
  · rintro ⟨hheader, htag⟩
    have hs : r.origin.Conforms d := h.conforms
    have hconforms : (r.asCanonical d start).Conforms d := {
      one_line := fun hmem => by
        rcases List.mem_cons.mp hmem with hmem | hmem
        · cases hmem
        · exact hs.name_one_line hmem
      not_closed := hheader
      name_eq := .inl rfl
      named := hs.named
      not_slash := hs.not_slash
      program_endsFirst := hs.program_endsFirst
      closingTag := ⟨_, _, closeTag_spelled _⟩ }
    exact hconforms.formed ((closeTag_spelled _).formed htag fun _ => rfl)

/-- No blank becomes part of a close-marker that has none. -/
theorem Section.Conforms.canonicalTags_of_blankless {s : Section} (h : s.Conforms d)
    (hb : ' ' ∉ d.closing) :
    ¬d.closing <:+: ' ' :: s.name ∧ Text.EndsFirst d.closing (s.name ++ [' ']) :=
  ⟨Text.not_isInfix_cons hb h.name_not_isInfix, Text.endsFirst_concat hb h.name_not_isInfix⟩

/-- Canonical tags are well-formed if no close-marker can begin in a blank. -/
theorem Section.Formed.asCanonical (hb : ' ' ∉ d.closing) {r : Rendered}
    (h : r.origin.Formed d) (start : Nat) : (r.asCanonical d start).Formed d :=
  (h.asCanonical_iff start).mpr (h.conforms.canonicalTags_of_blankless hb)

/-- **Canonical tags are read as tags of the same name,** as those are that a section had. -/
theorem Rendered.readAs_inStyle (hb : ' ' ∉ d.closing) {r : Rendered} (h : r.origin.Formed d)
    (ho : Text.EndsFirst d.opening r.output) (style : TagStyle) (start : Nat) :
    r.ReadAs d style start (r.inStyle d style start) := by
  cases style with
  | verbatim => exact r.readAs_asRead h (.clear ho) start
  | canonical =>
    have hf : (r.asCanonical d start).Formed d := h.asCanonical hb start
    exact ⟨r.source_asCanonical start, rfl, hf, hf.sealed_iff.mpr (.clear ho)⟩

/-- Fresh output leaves the gist of a document in either tag style, and is read as the previous
output, section by section. -/
theorem Written.reread_gist (hb : ' ' ∉ d.closing) {position : Nat} {t : Text}
    {parts : List Part} (h : Written d position t parts) {rs : List Rendered}
    (hr : rs.map Rendered.origin = sectionsOf parts)
    (ho : ∀ r ∈ rs, Text.EndsFirst d.opening r.output) (style : TagStyle) (position' : Nat) :
    ∃ parts', Written d position' (assemble d style (Compiler.weave parts rs)) parts' ∧
      parts'.map Part.gist = parts.map Part.gist ∧
      List.Forall₂ Section.Carries (sectionsOf parts') rs := by
  have hread (r : Rendered) (hmem : r ∈ rs) (start : Nat) :
      r.ReadAs d style start (r.inStyle d style start) :=
    r.readAs_inStyle hb (h.formed (hr ▸ List.mem_map_of_mem hmem)).1 (ho r hmem) style start
  have hgist (r : Rendered) (_ : r ∈ rs) (start : Nat) :
      Part.gist (.live (r.inStyle d style start)) = Part.gist (.live r.origin) :=
    congrArg Part.live (r.carries_inStyle style start).gist_eq
  obtain ⟨parts', hwritten, hkeys, hplaced⟩ :=
    h.reassembled Part.gist (fun _ _ _ => rfl) hr hread hgist position'
  refine ⟨parts', hwritten, hkeys, hplaced.imp ?_⟩
  rintro s r ⟨start, rfl⟩
  exact r.carries_inStyle style start

/-! ## One canonical form -/

namespace Compiler

variable {σ : Type} {c : Compiler σ}

/-- The compiler with another tag style. -/
def styled (c : Compiler σ) (style : TagStyle) : Compiler σ := { c with style }

/-- A document compiles to a text from every state. -/
def CompilesTo (c : Compiler σ) (document out : Text) : Prop :=
  ∀ st, ((c.compile document).run st).result = .ok out

/-- A text is read with the literals, names and programs of the parts. -/
def ReadsAlike (d : Delimiters) (parts : List Part) (t : Text) : Prop :=
  ∃ parts', parse d t = .ok parts' ∧ parts'.map Part.gist = parts.map Part.gist

theorem Steady.styled (hc : c.Steady) (style : TagStyle) : (c.styled style).Steady :=
  ⟨hc.resolver, hc.evaluator⟩

/-- What a section renders depends on its name, its program and its previous output. -/
theorem Renders.congr {s s' : Section} (hg : s.gist = s'.gist) (hs : s.stale = s'.stale)
    {output : Text} (h : c.Renders s output) : c.Renders s' output := by
  obtain ⟨hname, -, hprogram, -⟩ := Section.mk.inj hg
  rwa [Renders, ← show s.name = s'.name from hname, ← show s.program = s'.program from hprogram,
    ← hs]

/-- A text whose sections carry outputs that render themselves compiles to the canonical form that
these outputs make. -/
theorem Steady.compilesTo_canonical (hc : c.Steady) {t : Text} {parts parts' : List Part}
    (hp : parse c.delimiters t = .ok parts') (hg : parts'.map Part.gist = parts.map Part.gist)
    {rs : List Rendered} (hcarry : List.Forall₂ Section.Carries (sectionsOf parts') rs)
    (hagain : ∀ r ∈ rs, c.Renders { r.origin with stale := r.output } r.output) :
    (c.styled .canonical).CompilesTo t (assemble c.delimiters .canonical (weave parts rs)) := by
  have hrenders : ∀ s ∈ sectionsOf parts', (c.styled .canonical).Renders s s.stale := by
    intro s hs
    obtain ⟨r, hr, hsr⟩ := forall₂_exists_of_mem_left hcarry hs
    show c.Renders s s.stale
    rw [hsr.stale_eq]
    exact Renders.congr (s := { r.origin with stale := r.output }) hsr.gist_eq.symm
      hsr.stale_eq.symm (hagain r hr)
  have hgists : ((sectionsOf parts').map Section.asRendered).map Rendered.gist =
      rs.map Rendered.gist := by
    rw [List.map_map]
    refine map_eq_map_of_forall₂ hcarry fun s r hsr => ?_
    show Rendered.mk s.gist s.stale = r.gist
    rw [hsr.gist_eq, hsr.stale_eq]
    rfl
  -- in canonical style the texts depend on gists and outputs only, and these are the same
  have hforms : assemble c.delimiters .canonical
        (weave parts' ((sectionsOf parts').map Section.asRendered)) =
      assemble c.delimiters .canonical (weave parts rs) := by
    rw [← assemble_weave_gist parts', ← assemble_weave_gist parts, hg, hgists]
  intro st
  rw [← hforms]
  exact (hc.styled .canonical).result_compile_asRendered hp hrenders st

/-- **A document whose sections settle has one canonical form,** unless a blank is part of the
close-marker. The canonical form compiles to itself, what the document compiles to with its own tags
compiles to the canonical form, and both have the literals, names and programs of the document. -/
theorem compile_canonical_absorbs (hc : c.Steady) (hb : ' ' ∉ c.delimiters.closing)
    {document out : Text} {parts : List Part} {st : σ}
    (hp : parse c.delimiters document = .ok parts)
    (ho : ((c.compile document).run st).result = .ok out)
    (hs : ∀ s ∈ sectionsOf parts, c.Settles s) :
    ∃ canonical verbatim, (c.styled .canonical).CompilesTo document canonical ∧
      (c.styled .verbatim).CompilesTo document verbatim ∧
      (c.styled .canonical).CompilesTo canonical canonical ∧
      (c.styled .canonical).CompilesTo verbatim canonical ∧
      ReadsAlike c.delimiters parts canonical ∧ ReadsAlike c.delimiters parts verbatim := by
  obtain ⟨rendered, horigins, hrenders, -⟩ := exists_rendered_of_compile hp ho
  have hsettles : ∀ r ∈ rendered, c.Settles r.origin := fun r hr =>
    hs r.origin (horigins ▸ List.mem_map_of_mem hr)
  have hagain : ∀ r ∈ rendered, c.Renders { r.origin with stale := r.output } r.output :=
    fun r hr => (hsettles r hr).again r.output (hrenders r hr)
  let form (style : TagStyle) : Text := assemble c.delimiters style (weave parts rendered)
  have hfirst (style : TagStyle) : (c.styled style).CompilesTo document (form style) :=
    (hc.styled style).result_compile hp horigins hrenders
  -- in either style the outputs are read back and render themselves
  have hsecond (style : TagStyle) : ReadsAlike c.delimiters parts (form style) ∧
      (c.styled .canonical).CompilesTo (form style) (form .canonical) := by
    obtain ⟨parts', hwritten, hgist, hcarry⟩ := (parse_eq_ok_iff.mp hp).reread_gist hb horigins
      (fun r hr => (hsettles r hr).endsFirst r.output (hrenders r hr)) style 0
    have hp' : parse c.delimiters (form style) = .ok parts' := parse_eq_ok_iff.mpr hwritten
    exact ⟨⟨parts', hp', hgist⟩, hc.compilesTo_canonical hp' hgist hcarry hagain⟩
  exact ⟨form .canonical, form .verbatim, hfirst _, hfirst _, (hsecond _).2, (hsecond _).2,
    (hsecond _).1, (hsecond _).1⟩

/-- A name with blanks at both ends: its own closing tag is kept once and then made canonical. -/
theorem compile_canonical_absorbs_counting :
    let document := "x<<  a \n\x7b\x7bk\x7d\x7d>>old<< / a  >>y".toList
    let canonical := "x<<  a \n\x7b\x7bk\x7d\x7d>>\nv\n<</ a  >>y".toList
    let verbatim := "x<<  a \n\x7b\x7bk\x7d\x7d>>\nv\n<< / a  >>y".toList
    let s : Section := {
      name := " a ".toList, header := "  a ".toList, program := "\x7b\x7bk\x7d\x7d".toList,
      stale := "old".toList, closingTag := "<< / a  >>".toList, span := ⟨1, 28⟩ }
    let parts := [.literal ['x'] ⟨0, 1⟩, .live s, .literal ['y'] ⟨28, 29⟩]
    counting.Steady ∧ ' ' ∉ Delimiters.angled.closing ∧ parse .angled document = .ok parts ∧
      ((counting.compile document).run 0).result = .ok verbatim ∧
      (∀ s ∈ sectionsOf parts, counting.Settles s) ∧
      (counting.styled .canonical).CompilesTo document canonical ∧
      (counting.styled .verbatim).CompilesTo document verbatim ∧
      (counting.styled .canonical).CompilesTo canonical canonical ∧
      (counting.styled .canonical).CompilesTo verbatim canonical ∧
      ReadsAlike .angled parts canonical ∧ ReadsAlike .angled parts verbatim := by
  intro document canonical verbatim s parts
  have hb : ' ' ∉ Delimiters.angled.closing := by decide
  have hp : parse .angled document = .ok parts := by decide +kernel
  have ho : ((counting.compile document).run 0).result = .ok verbatim := by decide +kernel
  have hcanonical : (((counting.styled .canonical).compile document).run 0).result =
      .ok canonical := by decide +kernel
  have hresult : ((counting.evaluateSection s).run 0).result = .ok ⟨s, "\nv\n".toList⟩ := by
    decide +kernel
  have hends : Text.EndsFirst Delimiters.angled.opening "\nv\n".toList := by decide
  have hsettles : ∀ s' ∈ sectionsOf parts, counting.Settles s' := by
    intro s' hs'
    obtain rfl : s' = s := List.mem_singleton.mp hs'
    exact .of_blind counting_steady (fun _ _ _ _ => rfl) hresult hends
  obtain ⟨canonical', verbatim', hdocument, hown, hforms⟩ :=
    compile_canonical_absorbs counting_steady hb hp ho hsettles
  obtain rfl : canonical = canonical' := Except.ok.inj (hcanonical.symm.trans (hdocument 0))
  obtain rfl : verbatim = verbatim' := Except.ok.inj (ho.symm.trans (hown 0))
  exact ⟨counting_steady, hb, hp, ho, hsettles, hdocument, hown, hforms⟩

end Compiler

end LiveSections
