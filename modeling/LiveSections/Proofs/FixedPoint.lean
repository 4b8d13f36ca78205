import LiveSections.Proofs.Reassembly
import LiveSections.Proofs.Scan

/-!
# Compiling again

- `Part.frame`: a part without its previous output and its place.
- `Rendered.asRead`: a section with fresh output, as the next reader sees it.
- `Written.reread_of_passedOver`: **fresh output that is passed over leaves the frame of a
  document.**
- `Compiler.Settles`: the output of a section stays the same when it is the previous output.
- `compile_fixedPoint`: **a compiled document whose sections settle is a fixed point.**
-/

namespace LiveSections

variable {d : Delimiters}

/-! ## Frames -/

/-- A part without what a compilation may change: the previous output, and its place. -/
def Part.frame : Part → Part
  | .literal text _ => .literal text ⟨0, 0⟩
  | .live s => .live { s with stale := [], span := ⟨0, 0⟩ }

/-! ## Fresh output as the reader finds it -/

/-- A section with fresh output that stands at an offset, as a section with previous output. -/
def Rendered.asRead (d : Delimiters) (start : Nat) (r : Rendered) : Section :=
  { r.origin with stale := r.output, span := ⟨start, start + (r.text d .verbatim).length⟩ }

/-- A section with its previous output as if that were fresh. -/
def Section.asRendered (s : Section) : Rendered := ⟨s, s.stale⟩

theorem Rendered.source_asRead (start : Nat) (r : Rendered) :
    (r.asRead d start).source d = r.text d .verbatim := rfl

/-- Only the previous output has changed, and the scan passes over it. -/
theorem Rendered.readAs_asRead {r : Rendered} (h : r.origin.Formed d)
    (ho : PassedOver d r.origin.closingTag r.output) (start : Nat) :
    r.ReadAs d .verbatim start (r.asRead d start) := by
  have hf : (r.asRead d start).Formed d :=
    ⟨h.header, h.name_eq, h.program_endsFirst, h.closingTag⟩
  exact ⟨r.source_asRead start, rfl, hf, hf.sealed_iff.mpr ho⟩

/-- **Fresh output that is passed over leaves the frame of a document,** and is read as the
previous output, section by section. -/
theorem Written.reread_of_passedOver {position : Nat} {t : Text} {parts : List Part}
    (h : Written d position t parts) {rs : List Rendered}
    (hr : rs.map Rendered.origin = sectionsOf parts)
    (ho : ∀ r ∈ rs, PassedOver d r.origin.closingTag r.output) (position' : Nat) :
    ∃ parts', Written d position' (assemble d .verbatim (Compiler.weave parts rs)) parts' ∧
      parts'.map Part.frame = parts.map Part.frame ∧
      List.Forall₂ (fun s r => ∃ start, s = r.asRead d start) (sectionsOf parts') rs := by
  have hread (r : Rendered) (hmem : r ∈ rs) (start : Nat) :
      r.ReadAs d .verbatim start (r.asRead d start) :=
    r.readAs_asRead (h.formed (hr ▸ List.mem_map_of_mem hmem)).1 (ho r hmem) start
  exact h.reassembled Part.frame (fun _ _ _ => rfl) hr hread (fun _ _ _ => rfl) position'

/-- The scan stops neither within an output nor across its end if the first open-marker behind it
is that of the closing tag. -/
theorem Written.reread {position : Nat} {t : Text} {parts : List Part}
    (h : Written d position t parts) {rs : List Rendered}
    (hr : rs.map Rendered.origin = sectionsOf parts)
    (ho : ∀ r ∈ rs, Text.EndsFirst d.opening r.output) (position' : Nat) :
    ∃ parts', Written d position' (assemble d .verbatim (Compiler.weave parts rs)) parts' ∧
      parts'.map Part.frame = parts.map Part.frame ∧
      ∀ s ∈ sectionsOf parts', ∃ r ∈ rs, ∃ start, s = r.asRead d start := by
  obtain ⟨parts', hwritten, hframe, hplaced⟩ :=
    h.reread_of_passedOver hr (fun r hmem => .clear (ho r hmem)) position'
  exact ⟨parts', hwritten, hframe, fun s hs => forall₂_exists_of_mem_left hplaced hs⟩

/-! ## Documents that compile to themselves -/

namespace Compiler

variable {σ : Type} {c : Compiler σ}

/-- Previous outputs woven in again give back what was read. -/
theorem assemble_weave_asRendered (parts : List Part) :
    assemble d .verbatim (weave parts ((sectionsOf parts).map Section.asRendered)) =
      parts.flatMap (Part.source d) := by
  induction parts with
  | nil => rfl
  | cons p parts ih =>
    rw [List.flatMap_cons, ← ih]
    cases p <;> rfl

/-- A document that compiles is written with what its sections render. -/
theorem exists_rendered_of_compile {document out : Text} {parts : List Part} {st : σ}
    (hp : parse c.delimiters document = .ok parts)
    (ho : ((c.compile document).run st).result = .ok out) :
    ∃ rs, rs.map Rendered.origin = sectionsOf parts ∧
      (∀ r ∈ rs, c.Renders r.origin r.output) ∧
      out = assemble c.delimiters c.style (weave parts rs) := by
  obtain ⟨parts₁, rs, hp₁, hends, hout⟩ := compile_eq_ok ho
  obtain rfl : parts = parts₁ := Except.ok.inj (hp.symm.trans hp₁)
  exact ⟨rs, origins_of_ends hends, fun _ => renders_of_mem_ends hends, hout⟩

/-- If resolver and evaluator do not hang on the state, what the sections render is what a
document is compiled with, from every state. -/
theorem Steady.result_compile (hc : c.Steady) {document : Text} {parts : List Part}
    (hp : parse c.delimiters document = .ok parts) {rs : List Rendered}
    (hr : rs.map Rendered.origin = sectionsOf parts)
    (h : ∀ r ∈ rs, c.Renders r.origin r.output) (st : σ) :
    ((c.compile document).run st).result =
      .ok (assemble c.delimiters c.style (weave parts rs)) := by
  have hresults : (sectionsOf parts).map (fun s => ((c.evaluateSection s).run st).result) =
      rs.map .ok := by
    rw [← hr, List.map_map]
    exact List.map_congr_left fun r hr => hc.result_of_renders (h r hr) st
  rw [run_compile_of_ok hp]
  dsimp only
  rw [hc.result_evaluateSections _ st st, hresults, mapM_id_map_ok]
  rfl

/-- What sections have and render is written once more, in the compiler's tag style. -/
theorem Steady.result_compile_asRendered (hc : c.Steady) {document : Text} {parts : List Part}
    (hp : parse c.delimiters document = .ok parts)
    (h : ∀ s ∈ sectionsOf parts, c.Renders s s.stale) (st : σ) :
    ((c.compile document).run st).result = .ok (assemble c.delimiters c.style
      (weave parts ((sectionsOf parts).map Section.asRendered))) := by
  have hr : ((sectionsOf parts).map Section.asRendered).map Rendered.origin =
      sectionsOf parts := by
    rw [List.map_map]
    exact List.map_id _
  refine hc.result_compile hp hr (fun r hmem => ?_) st
  obtain ⟨s, hs, rfl⟩ := List.mem_map.mp hmem
  exact h s hs

/-- A document whose sections render what they have compiles to itself. -/
theorem compile_eq_self (hc : c.Steady) (hv : c.style = .verbatim) {document : Text}
    {parts : List Part} (hp : parse c.delimiters document = .ok parts)
    (h : ∀ s ∈ sectionsOf parts, c.Renders s s.stale) (st : σ) :
    ((c.compile document).run st).result = .ok document := by
  rw [hc.result_compile_asRendered hp h st, hv, assemble_weave_asRendered,
    (parse_eq_ok_iff.mp hp).source_eq]

/-- Compiles a document, and what it compiles to, a number of times. -/
def recompile (c : Compiler σ) : Nat → Text → Session σ CompileError Text
  | 0, document => pure document
  | n + 1, document => c.compile document >>= c.recompile n

/-- What one compilation leaves as it is, many leave as it is. -/
theorem recompile_eq_self {document : Text}
    (h : ∀ st, ((c.compile document).run st).result = .ok document) (n : Nat) (st : σ) :
    ((c.recompile n document).run st).result = .ok document := by
  induction n generalizing st with
  | zero => rfl
  | succ n ih => exact Session.result_bind_eq_ok_iff.mpr ⟨document, h st, ih _⟩

/-! ## Fixed points -/

/-- A section settles if its fresh output does not hold an open-marker, nor the beginning of one
that the closing tag would complete, and is rendered once more when it is the previous output. -/
structure Settles (c : Compiler σ) (s : Section) : Prop where
  endsFirst : ∀ r, c.Renders s r → Text.EndsFirst c.delimiters.opening r
  again : ∀ r, c.Renders s r → c.Renders { s with stale := r } r

/-- An evaluator that does not look at the previous output renders the same over any of them. -/
theorem Renders.of_blind (h : ∀ name program stale stale',
      c.evaluator name program stale = c.evaluator name program stale')
    {s : Section} {r : Text} (hr : c.Renders s r) (stale : Text) :
    c.Renders { s with stale } r := by
  obtain ⟨program, t, hprogram, hevaluator, rfl⟩ := hr
  rw [h s.name program s.stale stale] at hevaluator
  exact ⟨program, t, hprogram, hevaluator, rfl⟩

/-- Under an evaluator that does not look at the previous output, a section settles if the next
open-marker behind its output is that of the closing tag. -/
theorem Settles.of_blind (hc : c.Steady) (h : ∀ name program stale stale',
      c.evaluator name program stale = c.evaluator name program stale')
    {s : Section} {output : Text} {st : σ}
    (hr : ((c.evaluateSection s).run st).result = .ok ⟨s, output⟩)
    (he : Text.EndsFirst c.delimiters.opening output) : c.Settles s where
  endsFirst r hrenders := by
    cases hr.symm.trans (hc.result_of_renders hrenders st)
    exact he
  again r hrenders := hrenders.of_blind h r

/-- **A compiled document whose sections settle is a fixed point:** it is read with the same frame,
and to compile it any number of times does not change it. -/
theorem compile_fixedPoint (hc : c.Steady) (hv : c.style = .verbatim) {document out : Text}
    {parts : List Part} {st : σ} (hp : parse c.delimiters document = .ok parts)
    (ho : ((c.compile document).run st).result = .ok out)
    (hs : ∀ s ∈ sectionsOf parts, c.Settles s) :
    (∃ parts', parse c.delimiters out = .ok parts' ∧
      parts'.map Part.frame = parts.map Part.frame) ∧
    ∀ n st', ((c.recompile n out).run st').result = .ok out := by
  obtain ⟨parts₁, rendered, hp₁, hends, hout⟩ := compile_eq_ok ho
  obtain rfl : parts = parts₁ := Except.ok.inj (hp.symm.trans hp₁)
  have horigins : rendered.map Rendered.origin = sectionsOf parts := origins_of_ends hends
  have hsettles : ∀ r ∈ rendered, c.Settles r.origin := fun r hr =>
    hs r.origin (horigins ▸ List.mem_map_of_mem hr)
  have hrenders : ∀ r ∈ rendered, c.Renders r.origin r.output := fun _ =>
    renders_of_mem_ends hends
  have hendsFirst : ∀ r ∈ rendered, Text.EndsFirst c.delimiters.opening r.output := fun r hr =>
    (hsettles r hr).endsFirst r.output (hrenders r hr)
  obtain ⟨parts', hwritten, hframe, hread⟩ :=
    (parse_eq_ok_iff.mp hp).reread horigins hendsFirst 0
  rw [← hv, ← hout] at hwritten
  have hp' : parse c.delimiters out = .ok parts' := parse_eq_ok_iff.mpr hwritten
  -- what is read now is what was rendered, and that renders itself
  have hself : ∀ s ∈ sectionsOf parts', c.Renders s s.stale := by
    intro s hs'
    obtain ⟨r, hr, start, rfl⟩ := hread s hs'
    exact (hsettles r hr).again r.output (hrenders r hr)
  exact ⟨⟨parts', hp', hframe⟩, recompile_eq_self (compile_eq_self hc hv hp' hself)⟩

/-- The first compilation puts the answer in place of another text, three more change nothing. -/
theorem compile_fixedPoint_counting :
    let document := "x<<a\n\x7b\x7bk\x7d\x7d>>old<</a>>".toList
    let out := "x<<a\n\x7b\x7bk\x7d\x7d>>\nv\n<</a>>".toList
    let s : Section := {
      name := ['a'], header := ['a'], program := "\x7b\x7bk\x7d\x7d".toList, stale := "old".toList,
      closingTag := "<</a>>".toList, span := ⟨1, 21⟩ }
    let parts := [.literal ['x'] ⟨0, 1⟩, .live s]
    counting.Steady ∧ counting.style = .verbatim ∧ parse .angled document = .ok parts ∧
      ((counting.compile document).run 0).result = .ok out ∧
      (∀ s ∈ sectionsOf parts, counting.Settles s) ∧
      (∃ parts', parse .angled out = .ok parts' ∧ parts'.map Part.frame = parts.map Part.frame) ∧
      ((counting.recompile 3 out).run 5).result = .ok out := by
  intro document out s parts
  have hv : counting.style = .verbatim := rfl
  have hp : parse .angled document = .ok parts := by decide +kernel
  have ho : ((counting.compile document).run 0).result = .ok out := by decide +kernel
  have hresult : ((counting.evaluateSection s).run 0).result = .ok ⟨s, "\nv\n".toList⟩ := by
    decide +kernel
  have hsettles : ∀ s' ∈ sectionsOf parts, counting.Settles s' := by
    intro s' hs'
    obtain rfl : s' = s := List.mem_singleton.mp hs'
    constructor
    · intro r hr
      have hr := counting_steady.result_of_renders hr 0
      cases hresult.symm.trans hr
      decide +kernel
    · intro r hr
      exact hr.of_blind (fun _ _ _ _ => rfl) r
  obtain ⟨hparts, hagain⟩ := compile_fixedPoint counting_steady hv hp ho hsettles
  exact ⟨counting_steady, hv, hp, ho, hsettles, hparts, hagain 3 5⟩

end Compiler

end LiveSections
