import LiveSections.Proofs.Occurrence
import LiveSections.Text.Between

/-!
# Replacing twice

A match of a lead, a gap and a closer takes the first lead and the first closer behind it. Once all
gaps hold a text of which the closer is not a part, the same matches are found again.

- `GapPattern.search_eq_some_iff`: **the leftmost match is what stands before the first lead, the
  gap up to the first closer, and anything behind.**
- `GapPattern.Uniform new t`: all gaps of the text are `new`.
- `replace_uniform`, `Uniform.replace_eq`: what was replaced is uniform, and stays as it is.
- `Uniform.of_append`, `uniform_cons_iff`, `Uniform.concat`: what may be taken off and put on at
  the ends.
- `take_length_lead_replace`, `getLast?_replace`: what stays at the ends of a text.
-/

namespace LiveSections

namespace GapPattern

variable {p : GapPattern} {new t before gap behind : Text} {a : Char}

/-! ## The leftmost match -/

theorem isVoid_eq_false (hc : p.closer ≠ []) : p.isVoid = false := by
  rw [isVoid, List.isEmpty_eq_false_iff.mpr hc, Bool.and_false]

/-- With a lead or a closer a match is a lead, and the text behind it split at the closer. -/
theorem matchAt_append (hv : p.isVoid = false) (nonEmpty : Bool) (rest : Text) :
    p.matchAt nonEmpty (p.lead ++ rest) = Text.splitFirst p.closer rest := by
  rw [matchAt, Text.dropLead?_append]
  dsimp only
  rw [if_neg (by simp [hv])]

theorem matchAt_eq_none_of_not_isPrefix (nonEmpty : Bool) (h : ¬p.lead <+: t) :
    p.matchAt nonEmpty t = none := by
  rw [matchAt, Text.dropLead?_eq_none.mpr h]

theorem search_of_matchAt {nonEmpty : Bool} (h : p.matchAt nonEmpty t = some (gap, behind)) :
    p.search nonEmpty t = some ([], gap, behind) := by
  cases t with
  | nil => rw [search, h]; rfl
  | cons c cs => rw [search, h]

theorem search_cons_of_matchAt {nonEmpty : Bool} {c : Char}
    (h : p.matchAt nonEmpty (c :: t) = none) :
    p.search nonEmpty (c :: t) =
      (p.search false t).map fun found => (c :: found.1, found.2.1, found.2.2) := by
  rw [search, h]

/-- The gap of a match comes first before the closer, and what stands before the match comes first
before the lead. -/
theorem endsFirst_of_search (hv : p.isVoid = false) {nonEmpty : Bool}
    (h : p.search nonEmpty t = some (before, gap, behind)) :
    Text.EndsFirst p.lead before ∧ Text.EndsFirst p.closer gap := by
  have hmatch {nonEmpty : Bool} {t : Text} (hm : p.matchAt nonEmpty t = some (gap, behind)) :
      Text.EndsFirst p.closer gap := by
    by_cases hl : p.lead <+: t
    · obtain ⟨rest, rfl⟩ := hl
      rw [matchAt_append hv] at hm
      exact Text.endsFirst_of_splitFirst hm
    · rw [matchAt_eq_none_of_not_isPrefix _ hl] at hm
      cases hm
  -- the search goes on behind the first character only where no match starts
  induction t generalizing nonEmpty before with
  | nil =>
    obtain ⟨⟨g, r⟩, hm, he⟩ := Option.map_eq_some_iff.mp h
    obtain ⟨rfl, rfl, rfl⟩ : [] = before ∧ g = gap ∧ r = behind := by simpa using he
    exact ⟨Text.endsFirst_nil _, hmatch hm⟩
  | cons c cs ih =>
    cases hm : p.matchAt nonEmpty (c :: cs) with
    | some found =>
      obtain ⟨g, r⟩ := found
      rw [search_of_matchAt hm] at h
      obtain ⟨rfl, rfl, rfl⟩ : [] = before ∧ g = gap ∧ r = behind := by simpa using h
      exact ⟨Text.endsFirst_nil _, hmatch hm⟩
    | none =>
      rw [search_cons_of_matchAt hm] at h
      obtain ⟨⟨b, g, r⟩, hs, he⟩ := Option.map_eq_some_iff.mp h
      obtain ⟨rfl, rfl, rfl⟩ : c :: b = before ∧ g = gap ∧ r = behind := by simpa using he
      obtain ⟨hb, hg⟩ := ih hs
      refine ⟨Text.endsFirst_cons_iff.mpr ⟨?_, hb⟩, hg⟩
      -- a lead that starts earlier has the closer of the match behind it, and would match
      rintro ⟨w, hw⟩
      have hcs : c :: cs = p.lead ++ (w ++ g ++ p.closer ++ r) := by
        rw [search_eq_append hs, ← List.cons_append, ← List.cons_append, ← List.cons_append,
          ← hw]
        simp only [List.append_assoc]
      rw [hcs, matchAt_append hv, Text.splitFirst_eq_none_iff] at hm
      exact hm ⟨w ++ g, r, rfl⟩

/-- **The leftmost match** is what stands before the first lead, the gap up to the first closer
behind it, and anything behind. -/
theorem search_eq_some_iff (hv : p.isVoid = false) {nonEmpty : Bool} :
    p.search nonEmpty t = some (before, gap, behind) ↔
      Text.EndsFirst p.lead before ∧ Text.EndsFirst p.closer gap ∧
        t = before ++ p.lead ++ gap ++ p.closer ++ behind := by
  constructor
  · intro h
    obtain ⟨hb, hg⟩ := endsFirst_of_search hv h
    exact ⟨hb, hg, search_eq_append h⟩
  · rintro ⟨hb, hg, rfl⟩
    induction before generalizing nonEmpty with
    | nil =>
      have hm := matchAt_append hv nonEmpty (gap ++ p.closer ++ behind)
      rw [hg.splitFirst behind] at hm
      have hs := search_of_matchAt hm
      rwa [← List.append_assoc, ← List.append_assoc] at hs
    | cons c before ih =>
      obtain ⟨hp, hb⟩ := Text.endsFirst_cons_iff.mp hb
      have hl : ¬p.lead <+: c :: (before ++ p.lead ++ gap ++ p.closer ++ behind) := by
        intro hl
        refine hp (List.prefix_of_prefix_length_le hl ?_ ?_)
        · exact ⟨gap ++ p.closer ++ behind, by simp only [List.append_assoc, List.cons_append]⟩
        · simp only [List.length_cons, List.length_append]
          omega
      have hm := matchAt_eq_none_of_not_isPrefix nonEmpty hl
      have hs := search_cons_of_matchAt hm
      rw [ih hb] at hs
      exact hs

/-- What is put behind a text does not move a match in it. -/
theorem search_append (hv : p.isVoid = false) {nonEmpty : Bool}
    (h : p.search nonEmpty t = some (before, gap, behind)) (rest : Text) :
    p.search nonEmpty (t ++ rest) = some (before, gap, behind ++ rest) := by
  obtain ⟨hb, hg, rfl⟩ := (search_eq_some_iff hv).mp h
  exact (search_eq_some_iff hv).mpr ⟨hb, hg, by simp only [List.append_assoc]⟩

/-- A character with which no lead starts moves a match by one. -/
theorem search_cons (hl : p.lead ≠ []) (ha : p.lead.head? ≠ some a) (nonEmpty : Bool) (t : Text) :
    p.search nonEmpty (a :: t) =
      (p.search false t).map fun found => (a :: found.1, found.2.1, found.2.2) := by
  refine search_cons_of_matchAt (matchAt_eq_none_of_not_isPrefix _ fun hp => ?_)
  obtain ⟨c, lead, hlead⟩ := List.exists_cons_of_ne_nil hl
  rw [hlead] at hp ha
  obtain ⟨rfl, -⟩ := List.cons_prefix_cons.mp hp
  exact ha rfl

/-- Whether a match has to take a character does not matter with a lead or a closer. -/
theorem search_eq_search_false (hv : p.isVoid = false) (nonEmpty : Bool) (t : Text) :
    p.search nonEmpty t = p.search false t :=
  Option.ext fun ⟨_, _, _⟩ => (search_eq_some_iff hv).trans (search_eq_some_iff hv).symm

/-! ## Texts with the same text in all gaps -/

/-- All gaps of the text are the new one. -/
inductive Uniform (p : GapPattern) (new : Text) : Text → Prop where
  | rest {t : Text} (h : p.search false t = none) : Uniform p new t
  | gap {t before behind : Text} (h : p.search false t = some (before, new, behind))
      (hb : Uniform p new behind) : Uniform p new t

/-- **What was replaced is uniform,** if the closer is found behind the new text and not in it. -/
theorem replace_uniform (hc : p.closer ≠ []) (hn : Text.EndsFirst p.closer new) (nonEmpty : Bool)
    (t : Text) : p.Uniform new (p.replace new nonEmpty t) := by
  have hv := isVoid_eq_false hc
  fun_induction p.replace new nonEmpty t with
  | case1 nonEmpty t h =>
    exact .rest ((search_eq_search_false hv nonEmpty t).symm.trans h)
  | case2 nonEmpty t before gap behind h ih =>
    -- the lead stays the first one, and the closer is found right behind the new text
    obtain ⟨hb, -⟩ := endsFirst_of_search hv h
    exact .gap ((search_eq_some_iff hv).mpr ⟨hb, hn, rfl⟩) ih

namespace Uniform

/-- A uniform text stays as it is. -/
theorem replace_eq (hc : p.closer ≠ []) (h : p.Uniform new t) (nonEmpty : Bool) :
    p.replace new nonEmpty t = t := by
  have hv := isVoid_eq_false hc
  induction h generalizing nonEmpty with
  | rest h =>
    rw [← search_eq_search_false hv nonEmpty] at h
    rw [replace, h]
  | gap h _ ih =>
    have hs := (search_eq_search_false hv nonEmpty _).trans h
    rw [replace, hs]
    dsimp only
    rw [ih, ← search_eq_append h]

/-- The beginning of a uniform text is uniform. -/
theorem of_append (hc : p.closer ≠ []) {rest : Text} (h : p.Uniform new (t ++ rest)) :
    p.Uniform new t := by
  have hv := isVoid_eq_false hc
  generalize hu : t ++ rest = u at h
  induction h generalizing t with
  | rest h =>
    cases hs : p.search false t with
    | none => exact .rest hs
    | some found =>
      rw [← hu, search_append hv hs] at h
      cases h
  | gap h _ ih =>
    cases hs : p.search false t with
    | none => exact .rest hs
    | some found =>
      obtain ⟨b, g, r⟩ := found
      rw [← hu, search_append hv hs] at h
      obtain ⟨rfl, rfl, rfl⟩ : b = _ ∧ g = new ∧ r ++ rest = _ := by simpa using h
      exact .gap hs (ih rfl)

/-- A character with which no closer ends completes no match. -/
theorem concat (hc : p.closer ≠ []) (ha : p.closer.getLast? ≠ some a) (h : p.Uniform new t) :
    p.Uniform new (t ++ [a]) := by
  have hv := isVoid_eq_false hc
  induction h with
  | @rest t h =>
    cases hs : p.search false (t ++ [a]) with
    | none => exact .rest hs
    | some found =>
      obtain ⟨b, g, r⟩ := found
      obtain ⟨hb, hg, ht⟩ := (search_eq_some_iff hv).mp hs
      cases r using List.reverseRecOn with
      | nil =>
        -- the match would end with the character
        have hlast := congrArg List.getLast? ht
        rw [List.append_nil, List.getLast?_concat, List.getLast?_append_of_ne_nil _ hc] at hlast
        exact absurd hlast.symm ha
      | append_singleton r c _ =>
        rw [← List.append_assoc] at ht
        obtain ⟨rfl, -⟩ := List.append_inj' ht rfl
        rw [(search_eq_some_iff hv).mpr ⟨hb, hg, rfl⟩] at h
        cases h
  | gap h _ ih => exact .gap (search_append hv h [a]) ih

end Uniform

/-- A character with which no lead starts can stand in front or not. -/
theorem uniform_cons_iff (hl : p.lead ≠ []) (ha : p.lead.head? ≠ some a) :
    p.Uniform new (a :: t) ↔ p.Uniform new t := by
  have hsearch := search_cons hl ha false t
  constructor
  · intro h
    cases h with
    | rest h => exact .rest (Option.map_eq_none_iff.mp (hsearch.symm.trans h))
    | gap h hb =>
      obtain ⟨⟨b, g, r⟩, hs, he⟩ := Option.map_eq_some_iff.mp (hsearch.symm.trans h)
      cases he
      exact .gap hs hb
  · intro h
    cases h with
    | rest h => exact .rest (hsearch.trans (Option.map_eq_none_iff.mpr h))
    | gap h hb =>
      rw [h] at hsearch
      exact .gap hsearch hb

/-- To replace gaps leaves the last character. -/
theorem getLast?_replace (hc : p.closer ≠ []) (new : Text) (nonEmpty : Bool) (t : Text) :
    (p.replace new nonEmpty t).getLast? = t.getLast? := by
  fun_induction p.replace new nonEmpty t with
  | case1 => rfl
  | case2 nonEmpty t before gap behind h ih =>
    obtain ⟨a, ha⟩ := Option.ne_none_iff_exists'.mp (mt List.getLast?_eq_none_iff.mp hc)
    conv_rhs => rw [search_eq_append h]
    simp only [List.getLast?_append, ih, ha, Option.some_or, Option.or_some]

/-- To replace gaps leaves the front, as far as a lead reaches. -/
theorem take_length_lead_replace (new : Text) (nonEmpty : Bool) (t : Text) :
    (p.replace new nonEmpty t).take p.lead.length = t.take p.lead.length := by
  rw [replace]
  split
  · rfl
  · next before gap behind h =>
    have hshort : p.lead.length ≤ (before ++ p.lead).length := by
      rw [List.length_append]
      omega
    conv_rhs => rw [search_eq_append h]
    simp only [List.append_assoc]
    rw [← List.append_assoc before, ← List.append_assoc before,
      List.take_append_of_le_length hshort, List.take_append_of_le_length hshort]

/-- Nothing matches in a text of one character. -/
theorem uniform_singleton (hl : p.lead ≠ []) (hc : p.closer ≠ []) (new : Text) (a : Char) :
    p.Uniform new [a] := by
  cases hs : p.search false [a] with
  | none => exact .rest hs
  | some found =>
    have hlen := congrArg List.length (search_eq_append hs)
    have := List.length_pos_iff.mpr hl
    have := List.length_pos_iff.mpr hc
    simp only [List.length_append, List.length_singleton] at hlen
    omega

end GapPattern

end LiveSections
