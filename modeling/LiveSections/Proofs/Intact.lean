import LiveSections.Proofs.FixedPoint

/-!
# Output that leaves a document intact

Fresh output is put between a program and a closing tag as it is. Nothing in it is escaped, and
nothing is refused, so output that holds a closing tag ends its section early.

- `ReadsBack`: a text is read with the frame of a document, and with given outputs.
- `compile_closingTag_not_readsBack`: an output that holds a closing tag makes a document that is
  not read.
- `compile_readsBack_iff`: **a compiled document reads back exactly if every output is passed
  over** by a scan for the closing tag behind it.
-/

namespace LiveSections

variable {d : Delimiters}

/-- The text is read with the same literals, names, headers, programs and closing tags as the
parts, and the previous outputs of its sections are the given ones. -/
def ReadsBack (d : Delimiters) (parts : List Part) (outputs : List Text) (t : Text) : Prop :=
  ∃ parts', parse d t = .ok parts' ∧ parts'.map Part.frame = parts.map Part.frame ∧
    (sectionsOf parts').map Section.stale = outputs

/-- The closing tags are part of the frame. -/
theorem map_closingTag_of_frame {parts parts' : List Part}
    (h : parts'.map Part.frame = parts.map Part.frame) :
    (sectionsOf parts').map Section.closingTag = (sectionsOf parts).map Section.closingTag := by
  have hframe (ps : List Part) : (sectionsOf ps).map Section.closingTag =
      (ps.map Part.frame).filterMap fun p => p.section?.map Section.closingTag := by
    rw [sectionsOf, List.map_filterMap, List.filterMap_map]
    refine List.filterMap_congr fun p _ => ?_
    cases p <;> rfl
  rw [hframe, hframe, h]

/-- Outputs that are read back stand before the closing tags that they were put before. -/
theorem map_stale_closingTag {parts parts' : List Part} {rs : List Rendered}
    (hframe : parts'.map Part.frame = parts.map Part.frame)
    (hr : rs.map Rendered.origin = sectionsOf parts)
    (hstale : (sectionsOf parts').map Section.stale = rs.map Rendered.output) :
    (sectionsOf parts').map (fun s => (s.stale, s.closingTag)) =
      rs.map fun r => (r.output, r.origin.closingTag) := by
  have htags : (sectionsOf parts').map Section.closingTag =
      rs.map fun r => r.origin.closingTag := by
    rw [map_closingTag_of_frame hframe, ← hr, List.map_map]
    rfl
  rw [← List.zip_map', ← List.zip_map', hstale, htags]

namespace Compiler

variable {σ : Type} {c : Compiler σ}

/-- The evaluator answers with the closing tag of the section, and the compiled document has one
closing tag too many. -/
theorem compile_closingTag_not_readsBack :
    let c : Compiler Nat := { counting with
      evaluator := fun _ _ _ n => ⟨n + 1, [], .ok (.text "<</a>>".toList)⟩ }
    let document := "<<a\np>>old<</a>>".toList
    let out := "<<a\np>>\n<</a>>\n<</a>>".toList
    let s : Section := {
      name := ['a'], header := ['a'], program := ['p'], stale := "old".toList,
      closingTag := "<</a>>".toList, span := ⟨0, 16⟩ }
    c.style = .verbatim ∧ parse .angled document = .ok [.live s] ∧
      ((c.compile document).run 0).result = .ok out ∧
      parse .angled out = .error ⟨.strayClosingTag, 15⟩ ∧
      ¬ReadsBack .angled [.live s] ["\n<</a>>\n".toList] out := by
  intro c document out s
  have hfault : parse .angled out = .error ⟨.strayClosingTag, 15⟩ := by decide +kernel
  refine ⟨rfl, by decide +kernel, by decide +kernel, hfault, ?_⟩
  rintro ⟨parts', hparse, -⟩
  cases hfault.symm.trans hparse

/-- **A compiled document reads back exactly if every output is passed over:** if a scan that goes
from open-marker to open-marker finds no closing tag before the one behind the output. -/
theorem compile_readsBack_iff (hv : c.style = .verbatim) {document out : Text}
    {parts : List Part} {st : σ} (hp : parse c.delimiters document = .ok parts)
    (ho : ((c.compile document).run st).result = .ok out) :
    ∃ rendered, rendered.map Rendered.origin = sectionsOf parts ∧
      (∀ r ∈ rendered, c.Renders r.origin r.output) ∧
      out = assemble c.delimiters .verbatim (weave parts rendered) ∧
      (ReadsBack c.delimiters parts (rendered.map Rendered.output) out ↔
        ∀ r ∈ rendered, PassedOver c.delimiters r.origin.closingTag r.output) := by
  obtain ⟨rendered, horigins, hrenders, hout⟩ := exists_rendered_of_compile hp ho
  rw [hv] at hout
  refine ⟨rendered, horigins, hrenders, hout, ?_, ?_⟩
  · rintro ⟨parts', hp', hframe, hstale⟩ r hr
    have hw' : Written c.delimiters 0 out parts' := parse_eq_ok_iff.mp hp'
    have hpairs := map_stale_closingTag hframe horigins hstale
    have hmem : (r.output, r.origin.closingTag) ∈
        (sectionsOf parts').map fun s => (s.stale, s.closingTag) := by
      rw [hpairs]
      exact List.mem_map_of_mem hr
    obtain ⟨s, hs, hpair⟩ := List.mem_map.mp hmem
    obtain ⟨hstale', htag'⟩ := Prod.mk.inj hpair
    obtain ⟨hf, hsealed⟩ := hw'.formed hs
    rw [← hstale', ← htag']
    exact hf.sealed_iff.mp hsealed
  · intro hpassed
    obtain ⟨parts', hwritten, hframe, hplaced⟩ :=
      (parse_eq_ok_iff.mp hp).reread_of_passedOver horigins hpassed 0
    rw [← hout] at hwritten
    refine ⟨parts', parse_eq_ok_iff.mpr hwritten, hframe, ?_⟩
    refine map_eq_map_of_forall₂ hplaced ?_
    rintro s r ⟨start, rfl⟩
    rfl

/-- An output with an open-marker that begins no closing tag. -/
theorem compile_readsBack_iff_counting :
    let document := "x<<a\n<<b>>old<</a>>".toList
    let out := "x<<a\n<<b>>\n<<b\n<</a>>".toList
    let s : Section := {
      name := ['a'], header := ['a'], program := "<<b".toList, stale := "old".toList,
      closingTag := "<</a>>".toList, span := ⟨1, 19⟩ }
    let parts := [.literal ['x'] ⟨0, 1⟩, .live s]
    counting.style = .verbatim ∧ parse .angled document = .ok parts ∧
      ((counting.compile document).run 0).result = .ok out ∧
      ∃ rendered, rendered.map Rendered.origin = sectionsOf parts ∧
        (∀ r ∈ rendered, counting.Renders r.origin r.output) ∧
        out = assemble .angled .verbatim (weave parts rendered) ∧
        (ReadsBack .angled parts (rendered.map Rendered.output) out ↔
          ∀ r ∈ rendered, PassedOver .angled r.origin.closingTag r.output) := by
  intro document out s parts
  have hv : counting.style = .verbatim := rfl
  have hp : parse .angled document = .ok parts := by decide +kernel
  have ho : ((counting.compile document).run 0).result = .ok out := by decide +kernel
  exact ⟨hv, hp, ho, compile_readsBack_iff hv hp ho⟩

end Compiler

end LiveSections
