import LiveSections.Text.Basic

/-!
# Replacing what stands between a lead and a closer

A gap pattern matches a lead, the shortest gap that does, and a closer. Replacing goes from left to
right and keeps lead and closer of each match. A match may be empty only if the match before it
did not end, empty itself, at the same place.

- `GapPattern.matchAt`: the match at the front of a text.
- `GapPattern.search`: the leftmost match.
- `GapPattern.replace`: the replacement of all gaps.
- `replaceBetween`: the same from the texts.
-/

namespace LiveSections

/-- A lead, a gap, a closer. -/
structure GapPattern where
  lead : Text
  closer : Text
  deriving DecidableEq, Repr

namespace GapPattern

/-- Whether the pattern matches without any character in its gap and its ends. -/
def isVoid (p : GapPattern) : Bool := p.lead.isEmpty && p.closer.isEmpty

/-- The match at the front of a text: its gap and what lies behind it. With `nonEmpty` the match
has to take at least one character. -/
def matchAt (p : GapPattern) (nonEmpty : Bool) (t : Text) : Option (Text × Text) :=
  match Text.dropLead? p.lead t with
  | none => none
  | some rest =>
    if nonEmpty && p.isVoid then
      match rest with
      | [] => none
      | c :: cs => some ([c], cs)
    else Text.splitFirst p.closer rest

/-- The leftmost match: what stands before it, its gap, and what lies behind it. Only a match at
the front has to take a character if `nonEmpty` says so. -/
def search (p : GapPattern) (nonEmpty : Bool) : Text → Option (Text × Text × Text)
  | [] => (p.matchAt nonEmpty []).map fun (gap, behind) => ([], gap, behind)
  | c :: cs =>
    match p.matchAt nonEmpty (c :: cs) with
    | some (gap, behind) => some ([], gap, behind)
    | none => (p.search false cs).map fun (before, gap, behind) => (c :: before, gap, behind)

theorem matchAt_eq_append {p : GapPattern} {nonEmpty : Bool} {t gap behind : Text}
    (h : p.matchAt nonEmpty t = some (gap, behind)) :
    t = p.lead ++ gap ++ p.closer ++ behind := by
  unfold matchAt at h
  split at h
  · simp at h
  · next rest hl =>
    rw [Text.dropLead?_eq_some.mp hl]
    split at h
    · next hv =>
      obtain ⟨-, hl', hc'⟩ : nonEmpty = true ∧ p.lead = [] ∧ p.closer = [] := by
        simpa [isVoid] using hv
      split at h
      · simp at h
      · obtain ⟨rfl, rfl⟩ := Prod.mk.inj (Option.some.inj h)
        simp [hl', hc']
    · simp [Text.splitFirst_eq_append h]

theorem matchAt_nonEmpty {p : GapPattern} {t gap behind : Text}
    (h : p.matchAt true t = some (gap, behind)) :
    0 < p.lead.length + gap.length + p.closer.length := by
  unfold matchAt at h
  split at h
  · simp at h
  · split at h
    · split at h
      · simp at h
      · obtain ⟨rfl, rfl⟩ := Prod.mk.inj (Option.some.inj h)
        simp only [List.length_singleton]
        omega
    · next hv =>
      have : ¬(p.lead = [] ∧ p.closer = []) := by simpa [isVoid] using hv
      rcases Decidable.not_and_iff_or_not.mp this with h₁ | h₁
      · have := List.length_pos_iff.mpr h₁
        omega
      · have := List.length_pos_iff.mpr h₁
        omega

/-- A match lies in its text: before, lead, gap, closer, behind. -/
theorem search_eq_append {p : GapPattern} {nonEmpty : Bool} {t before gap behind : Text}
    (h : p.search nonEmpty t = some (before, gap, behind)) :
    t = before ++ p.lead ++ gap ++ p.closer ++ behind := by
  induction t generalizing nonEmpty before with
  | nil =>
    obtain ⟨⟨g, r⟩, hm, he⟩ := Option.map_eq_some_iff.mp h
    obtain ⟨rfl, rfl, rfl⟩ : [] = before ∧ g = gap ∧ r = behind := by simpa using he
    simpa using matchAt_eq_append hm
  | cons c cs ih =>
    unfold search at h
    split at h
    · next g r hm =>
      obtain ⟨rfl, rfl, rfl⟩ : [] = before ∧ g = gap ∧ r = behind := by simpa using h
      simpa using matchAt_eq_append hm
    · obtain ⟨⟨b, g, r⟩, hs, he⟩ := Option.map_eq_some_iff.mp h
      obtain ⟨rfl, rfl, rfl⟩ : c :: b = before ∧ g = gap ∧ r = behind := by simpa using he
      simp [ih hs]

/-- A match that has to take a character does so, or begins behind the front. -/
theorem search_nonEmpty {p : GapPattern} {t before gap behind : Text}
    (h : p.search true t = some (before, gap, behind)) :
    0 < before.length + p.lead.length + gap.length + p.closer.length := by
  cases t with
  | nil =>
    obtain ⟨⟨g, r⟩, hm, he⟩ := Option.map_eq_some_iff.mp h
    obtain ⟨rfl, rfl, rfl⟩ : [] = before ∧ g = gap ∧ r = behind := by simpa using he
    simpa using matchAt_nonEmpty hm
  | cons c cs =>
    unfold search at h
    split at h
    · next g r hm =>
      obtain ⟨rfl, rfl, rfl⟩ : [] = before ∧ g = gap ∧ r = behind := by simpa using h
      simpa using matchAt_nonEmpty hm
    · obtain ⟨⟨b, g, r⟩, hs, he⟩ := Option.map_eq_some_iff.mp h
      obtain ⟨rfl, rfl, rfl⟩ : c :: b = before ∧ g = gap ∧ r = behind := by simpa using he
      rw [List.length_cons]
      omega

/-- Replaces the gap of every match. -/
def replace (p : GapPattern) (new : Text) (nonEmpty : Bool) (t : Text) : Text :=
  match _h : p.search nonEmpty t with
  | none => t
  | some (before, gap, behind) =>
    before ++ p.lead ++ new ++ p.closer ++ p.replace new (p.isVoid && gap.isEmpty) behind
termination_by (2 * t.length + if nonEmpty then 0 else 1)
decreasing_by
  have hlen := congrArg List.length (search_eq_append _h)
  simp only [List.length_append] at hlen
  cases nonEmpty with
  | true =>
    have := search_nonEmpty _h
    split <;> simp <;> omega
  | false =>
    split
    · simp
      omega
    · next hv =>
      have : ¬(p.lead = [] ∧ p.closer = [] ∧ gap = []) := by
        simpa [isVoid, and_assoc] using hv
      have hpos : 0 < p.lead.length + gap.length + p.closer.length := by
        rcases Decidable.em (p.lead = []) with h₁ | h₁
        · rcases Decidable.em (p.closer = []) with h₂ | h₂
          · have := List.length_pos_iff.mpr fun h₃ => this ⟨h₁, h₂, h₃⟩
            omega
          · have := List.length_pos_iff.mpr h₂
            omega
        · have := List.length_pos_iff.mpr h₁
          omega
      simp
      omega

end GapPattern

/-- Replaces what stands between each lead and the next closer. -/
def replaceBetween (lead closer new t : Text) : Text :=
  GapPattern.replace ⟨lead, closer⟩ new false t

end LiveSections
