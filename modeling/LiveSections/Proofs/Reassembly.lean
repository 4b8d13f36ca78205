import LiveSections.Proofs.Splice

/-!
# Documents put together anew

A document with fresh output is read again. Its sections stand at other offsets, and the tags may
be written in another style.

- `Rendered.ReadAs`: the section that the reader finds where fresh output was put in.
- `Written.reassembled`: **if every section is read as a section again, the whole is laid out as
  before**, and whatever is common to a section and what it is read as is common to the documents.
-/

namespace LiveSections

variable {d : Delimiters}

/-! ## Lists side by side -/

section SideBySide

variable {α β γ : Type} {R : α → β → Prop} {as : List α} {bs : List β}

theorem forall₂_exists_of_mem_left (h : List.Forall₂ R as bs) {a : α} (ha : a ∈ as) :
    ∃ b ∈ bs, R a b := by
  induction h with
  | nil => cases ha
  | @cons a' b as bs hab _ ih =>
    rcases List.mem_cons.mp ha with rfl | ha
    · exact ⟨b, List.mem_cons_self, hab⟩
    · obtain ⟨b', hb', hab'⟩ := ih ha
      exact ⟨b', List.mem_cons_of_mem b hb', hab'⟩

theorem map_eq_map_of_forall₂ {f : α → γ} {g : β → γ} (h : List.Forall₂ R as bs)
    (hfg : ∀ a b, R a b → f a = g b) : as.map f = bs.map g := by
  induction h with
  | nil => rfl
  | cons hab _ ih => rw [List.map_cons, List.map_cons, hfg _ _ hab, ih]

end SideBySide

/-! ## Sections in another place -/

/-- What a reader makes of a section with fresh output, written in a tag style at an offset. -/
structure Rendered.ReadAs (d : Delimiters) (style : TagStyle) (start : Nat) (r : Rendered)
    (s : Section) : Prop where
  source_eq : s.source d = r.text d style
  span_eq : s.span = ⟨start, start + (r.text d style).length⟩
  formed : s.Formed d
  sealed : s.Sealed d

/-- **A document whose sections are read as sections again is laid out as before.** Here `place`
tells what a section is read as, and `key` is what the two have in common. -/
theorem Written.reassembled {β : Type} {style : TagStyle} {position : Nat} {t : Text}
    {parts : List Part} (h : Written d position t parts) (key : Part → β)
    (hliteral : ∀ t span span', key (.literal t span) = key (.literal t span'))
    {rs : List Rendered} (hr : rs.map Rendered.origin = sectionsOf parts)
    {place : Nat → Rendered → Section}
    (hread : ∀ r ∈ rs, ∀ start, r.ReadAs d style start (place start r))
    (hkey : ∀ r ∈ rs, ∀ start, key (.live (place start r)) = key (.live r.origin))
    (position' : Nat) :
    ∃ parts', Written d position' (assemble d style (Compiler.weave parts rs)) parts' ∧
      parts'.map key = parts.map key ∧
      List.Forall₂ (fun s r => ∃ start, s = place start r) (sectionsOf parts') rs := by
  have hliteralAt (a b : Nat) (u : Text) :
      (literalAt a u).map key = (literalAt b u).map key := by
    cases u with
    | nil => rfl
    | cons c cs => exact congrArg (fun k => [k]) (hliteral _ _ _)
  induction h generalizing rs position' with
  | @rest position t ht =>
    rw [sectionsOf_literalAt] at hr
    have hrs : rs = [] := List.map_eq_nil_iff.mp hr
    rw [hrs, assemble_weave_rest]
    refine ⟨literalAt position' t, .rest ht, hliteralAt position' position t, ?_⟩
    rw [sectionsOf_literalAt]
    exact .nil
  | @step position before rest s parts hb _ _ _ _ ih =>
    rw [sectionsOf_literalAt_append] at hr
    obtain ⟨r, rs, rfl, rfl, hmore⟩ := List.map_eq_cons_iff.mp hr
    have hmore : rs.map Rendered.origin = sectionsOf parts := hmore
    -- the section moves to where the text before it ends now
    let s' : Section := place (position' + before.length) r
    have hs' : r.ReadAs d style (position' + before.length) s' := hread r List.mem_cons_self _
    obtain ⟨parts', hwritten, hkeys, hplaced⟩ :=
      ih hmore (fun r' hr' => hread r' (List.mem_cons_of_mem r hr'))
        (fun r' hr' => hkey r' (List.mem_cons_of_mem r hr')) s'.span.stop
    refine ⟨literalAt position' before ++ .live s' :: parts', ?_, ?_, ?_⟩
    · rw [assemble_weave_literalAt, assemble_weave_live, ← hs'.source_eq, ← List.append_assoc]
      refine .step hb hs'.formed hs'.sealed ?_ hwritten
      rw [hs'.span_eq, hs'.source_eq]
    · rw [List.map_append, List.map_append, List.map_cons, List.map_cons, hkeys,
        hliteralAt position' position, hkey r List.mem_cons_self]
    · rw [sectionsOf_literalAt_append]
      exact .cons ⟨_, rfl⟩ hplaced

end LiveSections
