import LiveSections.Proofs.Between
import LiveSections.Proofs.Normalization
import LiveSections.Proofs.Recompile

/-!
# Sections that rewrite their output

A section can take its previous output and put a new text in all gaps between a lead and a closer.
Once it has done so, it finds the same gaps filled with that text.

- `KeepsEnds`: at the ends of a text nothing comes in that a lead starts or a closer ends with.
- `GapPattern.Uniform.normalizeOutput`: normalization keeps a text uniform, if it keeps its ends.
- `compile_rewritten`: **a document whose sections rewrite their output is a fixed point once it is
  compiled,** if normalization keeps the ends of what they write.

## What does not hold

The condition on the ends cannot be left out. A closer that ends with a line feed is not found
behind an output that lacks one, but normalization puts one there, and the next compilation finds
it: `compile_rewritten_differs`. From then on it is found each time: `compile_rewritten_twice`.
-/

namespace LiveSections

/-! ## Uniform texts, normalized -/

/-- Normalization does nothing at the ends of the text that a lead or a closer could see: if a lead
starts with a line feed, the text has just one in front, and if a closer ends with one, the text
ends with one. -/
structure KeepsEnds (p : GapPattern) (t : Text) : Prop where
  front : p.lead.head? = some '\n' → ∃ rest, t = '\n' :: rest ∧ rest.head? ≠ some '\n'
  back : p.closer.getLast? = some '\n' → t.getLast? = some '\n'

namespace GapPattern

variable {p : GapPattern} {new : Text}

/-- Any line feeds in front can become any others, if no lead starts with one. -/
theorem uniform_replicate_append_iff (hl : p.lead ≠ []) (ha : p.lead.head? ≠ some '\n') (n : Nat)
    (t : Text) : p.Uniform new (List.replicate n '\n' ++ t) ↔ p.Uniform new t := by
  induction n with
  | zero => rfl
  | succ n ih => exact (uniform_cons_iff hl ha).trans ih

/-- **Normalization keeps a text uniform,** if it keeps its ends. -/
theorem Uniform.normalizeOutput (hl : p.lead ≠ []) (hc : p.closer ≠ []) {t : Text}
    (h : p.Uniform new t) (hk : KeepsEnds p t) : p.Uniform new (normalizeOutput t) := by
  rcases eq_replicate_or_padded t with ⟨n, rfl⟩ | ⟨i, body, j, hbody, rfl⟩
  · rw [normalizeOutput_replicate]
    exact uniform_singleton hl hc new '\n'
  rw [normalizeOutput_padded hbody]
  -- in front there is just one line feed, or any number makes no difference
  have hfront : p.Uniform new (padded 1 body j) := by
    unfold padded at h hk ⊢
    rw [List.append_assoc] at h hk ⊢
    by_cases hlead : p.lead.head? = some '\n'
    · obtain ⟨rest, ht, hrest⟩ := hk.front hlead
      have hbegins : (body ++ List.replicate j '\n').head? ≠ some '\n' := by
        rw [List.head?_append_of_ne_nil _ hbody.ne_nil]
        exact hbody.front
      have hone := dropWhile_replicate_append hbegins i
      have hsame := dropWhile_replicate_append hrest 1
      rw [ht, show '\n' :: rest = List.replicate 1 '\n' ++ rest from rfl, hsame] at hone
      rw [ht, hone] at h
      exact h
    · exact (uniform_replicate_append_iff hl hlead 1 _).mpr
        ((uniform_replicate_append_iff hl hlead i _).mp h)
  -- at the end there is a line feed to be kept, or one more completes no closer
  cases j with
  | zero =>
    rw [padded, List.replicate_zero, List.append_nil] at hfront
    refine hfront.concat hc fun hcloser => hbody.back ?_
    have hlast := hk.back hcloser
    rwa [padded, List.replicate_zero, List.append_nil,
      List.getLast?_append_of_ne_nil _ hbody.ne_nil] at hlast
  | succ j =>
    have hmore : padded 1 body (j + 1) = padded 1 body 1 ++ List.replicate j '\n' := by
      simp only [padded, List.append_assoc, List.replicate_append_replicate, Nat.add_comm]
    exact Uniform.of_append hc (hmore ▸ hfront)

end GapPattern

/-! ## Documents -/

/-- Makes output of the previous output: what stands between each lead and the next closer becomes
the new text. -/
def rewriting {σ : Type} (lead closer new : Text) : Evaluator σ := fun _ _ stale =>
  return .text (replaceBetween lead closer new stale)

namespace Compiler

variable {σ : Type} {c : Compiler σ} {lead closer new : Text}

/-- What a section writes over its previous output. -/
theorem eq_of_renders_rewriting (he : c.evaluator = rewriting lead closer new) {s : Section}
    {r : Text} (h : c.Renders s r) :
    r = normalizeOutput (replaceBetween lead closer new s.stale) := by
  obtain ⟨program, t, -, ⟨st, hanswer⟩, rfl⟩ := h
  rw [he] at hanswer
  cases hanswer
  rfl

/-- A section that rewrites its output settles if the output has no gaps that are new to it once it
is normalized. -/
theorem settles_of_rewriting (he : c.evaluator = rewriting lead closer new) (hl : lead ≠ [])
    (hc : closer ≠ []) (hn : Text.EndsFirst closer new) {s : Section}
    (hends : Text.EndsFirst c.delimiters.opening
      (normalizeOutput (replaceBetween lead closer new s.stale)))
    (hkeeps : normalizeOutput (replaceBetween lead closer new s.stale) = ['\n'] ∨
      KeepsEnds ⟨lead, closer⟩ (replaceBetween lead closer new s.stale)) : c.Settles s where
  endsFirst r hr := eq_of_renders_rewriting he hr ▸ hends
  again r hr := by
    have hr' := eq_of_renders_rewriting he hr
    have huniform : GapPattern.Uniform ⟨lead, closer⟩ new r := by
      rw [hr']
      rcases hkeeps with hblank | hkeeps
      · rw [hblank]
        exact GapPattern.uniform_singleton hl hc new '\n'
      · exact (GapPattern.replace_uniform hc hn false s.stale).normalizeOutput hl hc hkeeps
    -- so the section finds its own output, normalized as it is
    have hagain : r = normalizeOutput (replaceBetween lead closer new r) := by
      rw [replaceBetween, huniform.replace_eq hc, hr', normalizeOutput_idempotent]
    obtain ⟨program, -, hprogram, ⟨st, -⟩, -⟩ := hr
    exact ⟨program, _, hprogram, ⟨st, by rw [he]; rfl⟩, hagain⟩

theorem steady_of_rewriting (he : c.evaluator = rewriting lead closer new)
    (hresolver : ∀ name key, (c.resolver name key).Steady) : c.Steady :=
  ⟨hresolver, fun _ _ _ => he ▸ .pure _⟩

/-- **A document whose sections rewrite their output is a fixed point once it is compiled,** in
either tag style and however many workers there are. The closer must not be found within the new
text or across its end, nor an open-marker in the outputs, and normalization has to keep the ends of
what is written unless that is blank. -/
theorem compile_rewritten (hresolver : ∀ name key, (c.resolver name key).Steady)
    (he : c.evaluator = rewriting lead closer new)
    (hb : c.style = .verbatim ∨ ' ' ∉ c.delimiters.closing) (hl : lead ≠ []) (hc : closer ≠ [])
    (hn : Text.EndsFirst closer new) {document out : Text} {parts : List Part} {st : σ}
    (hp : parse c.delimiters document = .ok parts)
    (ho : ((c.compile document).run st).result = .ok out)
    (hs : ∀ s ∈ sectionsOf parts, let written := replaceBetween lead closer new s.stale
      Text.EndsFirst c.delimiters.opening (normalizeOutput written) ∧
        (normalizeOutput written = ['\n'] ∨ KeepsEnds ⟨lead, closer⟩ written))
    (n : Nat) (st' : σ) : ((c.recompile n out).run st').result = .ok out := by
  refine recompile_of_settles (steady_of_rewriting he hresolver) hb hp ho (fun s hmem => ?_) n st'
  obtain ⟨hends, hkeeps⟩ := hs s hmem
  exact settles_of_rewriting he hl hc hn hends hkeeps

/-- What stands between the letter and the end of its line becomes a new number, whatever the
program is. -/
def renumbering : Compiler Unit where
  delimiters := .angled
  resolver := fun _ _ st => ⟨st, [], .ok none⟩
  evaluator := rewriting ['v'] ['\n'] ['2']
  unknownSuffix := ['?']
  workers := ⟨2, by decide⟩

/-- The line feed behind the number is there before the first compilation. -/
theorem compile_rewritten_renumbering :
    let document := "<<a\np>>v1\n<</a>>".toList
    let out := "<<a\np>>\nv2\n<</a>>".toList
    (∀ name key, (renumbering.resolver name key).Steady) ∧ Text.EndsFirst ['\n'] ['2'] ∧
      ((renumbering.compile document).run ()).result = .ok out ∧
      (∃ parts, parse .angled document = .ok parts ∧ ∀ s ∈ sectionsOf parts,
        let written := replaceBetween ['v'] ['\n'] ['2'] s.stale
        Text.EndsFirst ['<', '<'] (normalizeOutput written) ∧
          (normalizeOutput written = ['\n'] ∨ KeepsEnds ⟨['v'], ['\n']⟩ written)) ∧
      ∀ n, ((renumbering.recompile n out).run ()).result = .ok out := by
  intro document out
  let s : Section := {
    name := ['a'], header := ['a'], program := ['p'], stale := "v1\n".toList,
    closingTag := "<</a>>".toList, span := ⟨0, 16⟩ }
  have hresolver (name key : Text) : (renumbering.resolver name key).Steady :=
    fun _ _ => ⟨rfl, rfl⟩
  have hn : Text.EndsFirst ['\n'] ['2'] := by decide
  have hp : parse .angled document = .ok [.live s] := by decide +kernel
  have ho : ((renumbering.compile document).run ()).result = .ok out := by decide +kernel
  have hwritten : replaceBetween ['v'] ['\n'] ['2'] s.stale = "v2\n".toList := by decide +kernel
  have hs : ∀ s' ∈ sectionsOf [.live s],
      let written := replaceBetween ['v'] ['\n'] ['2'] s'.stale
      Text.EndsFirst ['<', '<'] (normalizeOutput written) ∧
        (normalizeOutput written = ['\n'] ∨ KeepsEnds ⟨['v'], ['\n']⟩ written) := by
    intro s' hs'
    obtain rfl : s' = s := List.mem_singleton.mp hs'
    rw [hwritten]
    exact ⟨by decide +kernel, .inr ⟨fun h => absurd h (by decide), fun _ => rfl⟩⟩
  exact ⟨hresolver, hn, ho, ⟨_, hp, hs⟩, fun n =>
    compile_rewritten hresolver rfl (.inl rfl) (by decide) (by decide) hn hp ho hs n ()⟩

/-- Normalization puts the line feed behind the number, and so the next compilation finds the gap
that the first one did not find. -/
theorem compile_rewritten_differs :
    let document := "<<a\np>>v1<</a>>".toList
    let once := "<<a\np>>\nv1\n<</a>>".toList
    let twice := "<<a\np>>\nv2\n<</a>>".toList
    renumbering.evaluator = rewriting ['v'] ['\n'] ['2'] ∧ Text.EndsFirst ['\n'] ['2'] ∧
      Text.EndsFirst renumbering.delimiters.opening "\nv1\n".toList ∧
      Text.EndsFirst renumbering.delimiters.opening "\nv2\n".toList ∧
      ((renumbering.compile document).run ()).result = .ok once ∧
      ((renumbering.compile once).run ()).result = .ok twice ∧ once ≠ twice := by
  intro document once twice
  exact ⟨rfl, by decide, by decide +kernel, by decide +kernel, by decide +kernel,
    by decide +kernel, by decide +kernel⟩

/-! ## From the second compilation on -/

/-- What was normalized has ends that normalization keeps also when it is rewritten, unless the lead
is a single line feed. -/
theorem keepsEnds_replace_normalizeOutput {p : GapPattern} (hl : p.lead ≠ ['\n'])
    (hc : p.closer ≠ []) (new t : Text) :
    KeepsEnds p (p.replace new false (normalizeOutput t)) := by
  obtain ⟨rest, hfront, hrest, hback⟩ := exists_normalizeOutput_eq t
  refine ⟨fun hlead => ?_, fun _ => (GapPattern.getLast?_replace hc new false _).trans hback⟩
  -- the lead takes two characters, and as many in front are the same as before
  obtain ⟨c, lead, hcons⟩ : ∃ c lead, p.lead = '\n' :: c :: lead := by
    match hp : p.lead with
    | [] => rw [hp] at hlead; cases hlead
    | [a] =>
      rw [hp] at hlead hl
      cases hlead
      exact absurd rfl hl
    | a :: c :: lead =>
      rw [hp] at hlead
      cases hlead
      exact ⟨c, lead, rfl⟩
  have hsame := congrArg (List.take 2)
    (GapPattern.take_length_lead_replace (p := p) new false (normalizeOutput t))
  have htwo : min 2 p.lead.length = 2 := by
    rw [hcons, List.length_cons, List.length_cons]
    omega
  rw [List.take_take, List.take_take, htwo, hfront] at hsame
  rw [hfront]
  cases hy : p.replace new false ('\n' :: rest) with
  | nil =>
    rw [hy] at hsame
    cases hsame
  | cons a rest' =>
    rw [hy, List.take_succ_cons, List.take_succ_cons] at hsame
    obtain ⟨rfl, htake⟩ := List.cons.inj hsame
    refine ⟨rest', rfl, fun hhead => hrest ?_⟩
    have hheads := congrArg List.head? htake
    rwa [List.head?_take, List.head?_take, hhead, eq_comm] at hheads

/-- **Whatever the closer ends with, a second compilation reaches the fixed point,** unless the lead
is a single line feed. -/
theorem compile_rewritten_twice (hresolver : ∀ name key, (c.resolver name key).Steady)
    (he : c.evaluator = rewriting lead closer new)
    (hb : c.style = .verbatim ∨ ' ' ∉ c.delimiters.closing) (hl : lead ≠ []) (hl' : lead ≠ ['\n'])
    (hc : closer ≠ []) (hn : Text.EndsFirst closer new) {document once twice : Text}
    {parts : List Part} {st st' : σ} (hp : parse c.delimiters document = .ok parts)
    (ho : ((c.compile document).run st).result = .ok once)
    (ht : ((c.compile once).run st').result = .ok twice)
    (hs : ∀ s ∈ sectionsOf parts, Text.EndsFirst c.delimiters.opening
      (normalizeOutput (replaceBetween lead closer new s.stale)))
    (hs' : ∀ parts', parse c.delimiters once = .ok parts' → ∀ s ∈ sectionsOf parts',
      Text.EndsFirst c.delimiters.opening
        (normalizeOutput (replaceBetween lead closer new s.stale))) (n : Nat) (st'' : σ) :
    ((c.recompile n twice).run st'').result = .ok twice := by
  have hsteady := steady_of_rewriting he hresolver
  obtain ⟨rs, horigins, hrenders, rfl⟩ := exists_rendered_of_compile hp ho
  have houtput : ∀ r ∈ rs,
      r.output = normalizeOutput (replaceBetween lead closer new r.origin.stale) :=
    fun r hr => eq_of_renders_rewriting he (hrenders r hr)
  obtain ⟨parts', hwritten, -, hstale, -⟩ := (parse_eq_ok_iff.mp hp).reread_styled hb horigins
    (fun r hr => houtput r hr ▸ hs r.origin (horigins ▸ List.mem_map_of_mem hr)) 0
  have hp' := parse_eq_ok_iff.mpr hwritten
  refine recompile_of_settles hsteady hb hp' ht (fun s hmem => ?_) n st''
  -- the previous outputs were normalized by the first compilation
  obtain ⟨r, hr, hrs⟩ := List.mem_map.mp (hstale ▸ List.mem_map_of_mem hmem)
  refine settles_of_rewriting he hl hc hn (hs' parts' hp' s hmem) (.inr ?_)
  rw [← hrs, houtput r hr]
  exact keepsEnds_replace_normalizeOutput hl' hc new _

end Compiler

end LiveSections
