import LiveSections.Text.Basic
import Mathlib.Data.List.Infix

/-!
# First occurrences

Every scanner goes to a first occurrence, and what lies behind it is read later. A search must
therefore land at the same place whatever follows the match.

- `Text.EndsFirst pat t`: with `pat` put behind `t`, the first `pat` is the one at the end. This
  rules out a match inside `t` and one that begins in `t` and goes on behind it.
- `splitFirst_eq_some_iff`: **a split is a text that ends first in the pattern, the pattern, and
  anything behind.**
- `Text.Unbordered pat`: no two occurrences of the pattern overlap.
- `Unbordered.endsFirst`: for such a pattern, to end first in it is to be without it.
- `replaceAll_singleton`: the replacement of a single character, character by character.
-/

namespace LiveSections.Text

/-- The first occurrence of `pat` in `t ++ pat` is the one at the end of `t`. -/
def EndsFirst (pat t : Text) : Prop := splitFirst pat (t ++ pat) = some (t, [])

instance (pat t : Text) : Decidable (EndsFirst pat t) :=
  inferInstanceAs (Decidable (splitFirst pat (t ++ pat) = some (t, [])))

variable {pat t before behind : Text}

theorem dropLead?_eq_none : dropLead? pat t = none ↔ ¬pat <+: t := by
  constructor
  · rintro h ⟨rest, rfl⟩
    rw [dropLead?_append] at h
    cases h
  · intro h
    cases hd : dropLead? pat t with
    | none => rfl
    | some rest => exact absurd ⟨rest, (dropLead?_eq_some.mp hd).symm⟩ h

/-- A text that does not start with the pattern is split behind its first character. -/
theorem splitFirst_cons_of_not_isPrefix {c : Char} (h : ¬pat <+: c :: t) :
    splitFirst pat (c :: t) = (splitFirst pat t).map fun s => (c :: s.1, s.2) := by
  rw [splitFirst, dropLead?_eq_none.mpr h]

/-- A text that starts with the pattern is split at once. -/
theorem splitFirst_append_self (pat rest : Text) :
    splitFirst pat (pat ++ rest) = some ([], rest) := by
  cases h : pat ++ rest with
  | nil =>
    obtain ⟨rfl, rfl⟩ := List.append_eq_nil_iff.mp h
    rfl
  | cons c cs =>
    have hd : dropLead? pat (c :: cs) = some rest := dropLead?_eq_some.mpr h.symm
    rw [splitFirst, hd]

/-- The cases of a split: at the front, or behind the first character. -/
theorem splitFirst_cases (h : splitFirst pat t = some (before, behind)) :
    (before = [] ∧ t = pat ++ behind) ∨
      ∃ c cs b, t = c :: cs ∧ before = c :: b ∧ ¬pat <+: c :: cs ∧
        splitFirst pat cs = some (b, behind) := by
  cases t with
  | nil =>
    left
    have ht := splitFirst_eq_append h
    simp only [List.nil_eq, List.append_eq_nil_iff] at ht
    obtain ⟨⟨rfl, rfl⟩, rfl⟩ := ht
    exact ⟨rfl, rfl⟩
  | cons c cs =>
    by_cases hp : pat <+: c :: cs
    · left
      obtain ⟨rest, hr⟩ := hp
      rw [← hr, splitFirst_append_self] at h
      obtain ⟨rfl, rfl⟩ := Prod.mk.inj (Option.some.inj h)
      exact ⟨rfl, hr.symm⟩
    · right
      rw [splitFirst_cons_of_not_isPrefix hp] at h
      obtain ⟨⟨b, r⟩, hs, he⟩ := Option.map_eq_some_iff.mp h
      obtain ⟨rfl, rfl⟩ := Prod.mk.inj he
      exact ⟨c, cs, b, rfl, rfl, hp, hs⟩

/-- What is put behind a text does not move a match in it. -/
theorem splitFirst_append (h : splitFirst pat t = some (before, behind)) (rest : Text) :
    splitFirst pat (t ++ rest) = some (before, behind ++ rest) := by
  induction t generalizing before with
  | nil =>
    rcases splitFirst_cases h with ⟨rfl, ht⟩ | ⟨c, cs, b, ht, -⟩
    · have hs : splitFirst pat (pat ++ (behind ++ rest)) = some ([], behind ++ rest) :=
        splitFirst_append_self pat _
      rwa [← List.append_assoc, ← ht] at hs
    · cases ht
  | cons c cs ih =>
    rcases splitFirst_cases h with ⟨rfl, ht⟩ | ⟨_, _, b, ht, rfl, hp, hs⟩
    · rw [ht, List.append_assoc, splitFirst_append_self]
    · obtain ⟨rfl, rfl⟩ := List.cons.inj ht
      -- the match lies in `cs`, so the pattern is too short to start at `c` and reach `rest`
      have hlen : pat.length ≤ (c :: cs).length := by
        have := congrArg List.length (splitFirst_eq_append hs)
        simp only [List.length_append, List.length_cons] at this ⊢
        omega
      have hp' : ¬pat <+: c :: (cs ++ rest) := fun hp' =>
        hp (List.prefix_of_prefix_length_le hp' (List.prefix_append (c :: cs) rest) hlen)
      rw [List.cons_append, splitFirst_cons_of_not_isPrefix hp', ih hs]
      rfl

/-- The text before a match ends first in the pattern. -/
theorem endsFirst_of_splitFirst (h : splitFirst pat t = some (before, behind)) :
    EndsFirst pat before := by
  induction t generalizing before with
  | nil =>
    rcases splitFirst_cases h with ⟨rfl, -⟩ | ⟨c, cs, b, ht, -⟩
    · simpa [EndsFirst] using splitFirst_append_self pat []
    · cases ht
  | cons c cs ih =>
    rcases splitFirst_cases h with ⟨rfl, -⟩ | ⟨_, _, b, ht, rfl, hp, hs⟩
    · simpa [EndsFirst] using splitFirst_append_self pat []
    · obtain ⟨rfl, rfl⟩ := List.cons.inj ht
      have hb : EndsFirst pat b := ih hs
      -- `b ++ pat` is a beginning of the text, so the pattern starts no earlier in it
      have hp' : ¬pat <+: c :: (b ++ pat) := by
        intro hp'
        refine hp (hp'.trans ?_)
        rw [splitFirst_eq_append hs]
        exact List.prefix_append (c :: (b ++ pat)) behind
      rw [EndsFirst, List.cons_append, splitFirst_cons_of_not_isPrefix hp', hb]
      rfl

/-- A text that ends first in the pattern is found, whatever lies behind the pattern. -/
theorem EndsFirst.splitFirst (h : EndsFirst pat before) (rest : Text) :
    splitFirst pat (before ++ pat ++ rest) = some (before, rest) :=
  splitFirst_append h rest

/-- **A split is a text that ends first in the pattern, the pattern, and anything behind.** -/
theorem splitFirst_eq_some_iff :
    splitFirst pat t = some (before, behind) ↔
      EndsFirst pat before ∧ t = before ++ pat ++ behind := by
  constructor
  · intro h
    exact ⟨endsFirst_of_splitFirst h, splitFirst_eq_append h⟩
  · rintro ⟨h, rfl⟩
    exact h.splitFirst behind

/-- For a single character, ending first in it is to be without it. -/
theorem endsFirst_singleton_iff {c : Char} : EndsFirst [c] t ↔ c ∉ t := by
  induction t with
  | nil => simp [EndsFirst, Text.splitFirst, dropLead?]
  | cons x xs ih =>
    by_cases hx : c = x
    · subst hx
      simp [EndsFirst, Text.splitFirst, dropLead?]
    · have hp : ¬[c] <+: x :: (xs ++ [c]) := by simp [hx]
      unfold EndsFirst at ih ⊢
      rw [List.cons_append, splitFirst_cons_of_not_isPrefix hp]
      simp [← ih, hx, Option.map_eq_some_iff]

/-! ## Absence -/

/-- Nothing is found exactly if the pattern does not occur. -/
theorem splitFirst_eq_none_iff : splitFirst pat t = none ↔ ¬pat <:+: t := by
  induction t with
  | nil => simp [splitFirst]
  | cons c cs ih =>
    rw [List.infix_cons_iff, not_or]
    by_cases hp : pat <+: c :: cs
    · obtain ⟨rest, hr⟩ := hp
      rw [← hr, splitFirst_append_self]
      simp
    · rw [splitFirst_cons_of_not_isPrefix hp, Option.map_eq_none_iff, ih]
      exact (and_iff_right hp).symm

theorem contains_eq_false_iff : contains pat t = false ↔ ¬pat <:+: t := by
  rw [contains, Option.isSome_eq_false_iff, Option.isNone_iff_eq_none, splitFirst_eq_none_iff]

/-- A text that ends first in a pattern does not hold it. -/
theorem EndsFirst.not_isInfix (h : EndsFirst pat t) (hp : pat ≠ []) : ¬pat <:+: t := by
  intro hi
  cases hs : Text.splitFirst pat t with
  | none => exact splitFirst_eq_none_iff.mp hs hi
  | some cut =>
    have hcut := splitFirst_append hs pat
    rw [EndsFirst] at h
    obtain ⟨-, hrest⟩ := Prod.mk.inj (Option.some.inj (h.symm.trans hcut))
    exact hp (List.append_eq_nil_iff.mp hrest.symm).2

/-! ## Ending first, from the left -/

theorem endsFirst_nil (pat : Text) : EndsFirst pat [] := by
  have := splitFirst_append_self pat []
  rwa [List.append_nil] at this

/-- To end first in a pattern is to start with it nowhere before the end. -/
theorem endsFirst_cons_iff {c : Char} :
    EndsFirst pat (c :: t) ↔ ¬pat <+: c :: (t ++ pat) ∧ EndsFirst pat t := by
  unfold EndsFirst
  rw [List.cons_append]
  by_cases hp : pat <+: c :: (t ++ pat)
  · obtain ⟨rest, hr⟩ := hp
    rw [← hr, splitFirst_append_self]
    simp
  · rw [splitFirst_cons_of_not_isPrefix hp, Option.map_eq_some_iff]
    simp [hp]

/-- No occurrence of the pattern begins before the one that a text ends first in. -/
theorem EndsFirst.not_isPrefix_drop (h : EndsFirst pat t) {i : Nat} (hi : i < t.length)
    (rest : Text) : ¬pat <+: (t ++ pat ++ rest).drop i := by
  induction t generalizing i with
  | nil => exact absurd hi (Nat.not_lt_zero i)
  | cons c cs ih =>
    obtain ⟨hp, hcs⟩ := endsFirst_cons_iff.mp h
    cases i with
    | zero =>
      intro hfront
      -- the match is too short to reach behind the pattern at the end
      have hlen : pat.length ≤ (c :: (cs ++ pat)).length := by
        simp only [List.length_cons, List.length_append]
        omega
      have hleft : c :: (cs ++ pat) <+: c :: cs ++ pat ++ rest := ⟨rest, rfl⟩
      exact hp (List.prefix_of_prefix_length_le hfront hleft hlen)
    | succ i => exact ih hcs (Nat.lt_of_succ_lt_succ hi)

/-- A pattern that begins nowhere before the end of a text comes first behind it. -/
theorem endsFirst_of_not_isPrefix_drop {rest : Text}
    (h : ∀ i < t.length, ¬pat <+: (t ++ pat ++ rest).drop i) : EndsFirst pat t := by
  induction t with
  | nil => exact endsFirst_nil pat
  | cons c cs ih =>
    refine endsFirst_cons_iff.mpr ⟨fun hp => ?_, ih fun i hi => ?_⟩
    · exact h 0 (Nat.succ_pos _) (hp.trans ⟨rest, rfl⟩)
    · exact h (i + 1) (Nat.succ_lt_succ hi)

/-- What lies behind any occurrence lies behind the first one. -/
theorem isSuffix_of_splitFirst {lead inside : Text}
    (h : splitFirst pat (lead ++ pat ++ inside) = some (before, behind)) : inside <:+ behind := by
  obtain ⟨hends, ht⟩ := splitFirst_eq_some_iff.mp h
  have hle : before.length ≤ lead.length := by
    by_contra hlt
    refine hends.not_isPrefix_drop (Nat.not_le.mp hlt) behind ?_
    rw [← ht, List.append_assoc, List.drop_left]
    exact List.prefix_append pat inside
  have hlen := congrArg List.length ht
  simp only [List.length_append] at hlen
  have hinside : inside <:+ lead ++ pat ++ inside := List.suffix_append _ _
  have hbehind : behind <:+ lead ++ pat ++ inside := ht ▸ List.suffix_append _ _
  exact List.suffix_of_suffix_length_le hinside hbehind (by omega)

/-- A pattern at the start of two texts put together lies in the first, or goes on in the second. -/
theorem isPrefix_append_cases {u v : Text} (h : pat <+: u ++ v) :
    pat <+: u ∨ ∃ w, pat = u ++ w ∧ w <+: v := by
  obtain ⟨rest, h⟩ := h
  rcases List.append_eq_append_iff.mp h with ⟨w, hu, -⟩ | ⟨w, hpat, hv⟩
  · exact .inl ⟨w, hu.symm⟩
  · exact .inr ⟨w, hpat, rest, hv.symm⟩

/-- A pattern of which no beginning, but for nothing and all of it, is also an end. Two occurrences
of it never overlap. -/
def Unbordered (pat : Text) : Prop := ∀ t, t <+: pat → t <:+ pat → t = [] ∨ t = pat

instance (pat : Text) : Decidable (Unbordered pat) :=
  decidable_of_iff (∀ t ∈ pat.inits, t <:+ pat → t = [] ∨ t = pat) (by
    simp only [List.mem_inits, Unbordered])

/-- A pattern that does not overlap itself comes first behind every text that does not hold it. -/
theorem Unbordered.endsFirst (hu : Unbordered pat) (h : ¬pat <:+: t) : EndsFirst pat t := by
  induction t with
  | nil => exact endsFirst_nil pat
  | cons c cs ih =>
    rw [List.infix_cons_iff, not_or] at h
    refine endsFirst_cons_iff.mpr ⟨fun hp => ?_, ih h.2⟩
    rw [← List.cons_append] at hp
    rcases isPrefix_append_cases hp with hp | ⟨w, hw, hend⟩
    · exact h.1 hp
    · -- what goes on behind the text is a beginning and an end of the pattern
      rcases hu w hend ⟨c :: cs, hw.symm⟩ with rfl | rfl
      · exact h.1 (by simp [hw])
      · have := congrArg List.length hw
        simp at this
        omega

/-- A character that a pattern does not hold adds no occurrence in front. -/
theorem not_isInfix_cons {c : Char} (hc : c ∉ pat) (h : ¬pat <:+: t) : ¬pat <:+: c :: t := by
  intro hi
  rcases List.infix_cons_iff.mp hi with hp | hi
  · cases pat with
    | nil => exact h List.nil_infix
    | cons x pat =>
      obtain ⟨rfl, -⟩ := List.cons_prefix_cons.mp hp
      exact hc List.mem_cons_self
  · exact h hi

/-- Behind a character that it does not hold a pattern cannot begin earlier. -/
theorem endsFirst_concat {c : Char} (hc : c ∉ pat) (h : ¬pat <:+: t) :
    EndsFirst pat (t ++ [c]) := by
  have hbegin (u : Text) (hu : ¬pat <+: u) : ¬pat <+: u ++ (c :: pat) := by
    intro hp
    rcases isPrefix_append_cases hp with hp | ⟨w, rfl, hw⟩
    · exact hu hp
    · cases w with
      | nil => exact hu (by simp)
      | cons x w =>
        obtain ⟨rfl, -⟩ := List.cons_prefix_cons.mp hw
        simp at hc
  induction t with
  | nil => exact endsFirst_cons_iff.mpr ⟨hbegin [] (by simpa using h), endsFirst_nil pat⟩
  | cons x xs ih =>
    rw [List.infix_cons_iff, not_or] at h
    refine endsFirst_cons_iff.mpr ⟨?_, ih h.2⟩
    have := hbegin (x :: xs) h.1
    simpa using this

/-! ## Replacing one character -/

theorem flatMap_replacement_of_notMem {c : Char} (new : Text) (h : c ∉ t) :
    (t.flatMap fun x => if x = c then new else [x]) = t := by
  induction t with
  | nil => rfl
  | cons x t ih =>
    rw [List.mem_cons, not_or] at h
    rw [List.flatMap_cons, ih h.2, if_neg (Ne.symm h.1)]
    rfl

/-- Where a single character is replaced, each one of them gives the new text by itself. -/
theorem replaceAll_singleton (c : Char) (new t : Text) :
    replaceAll [c] new t = t.flatMap fun x => if x = c then new else [x] := by
  -- any bound that is at least the length will do for the number of occurrences
  suffices h : ∀ n, ∀ t : Text, t.length ≤ n →
      replaceFirst n [c] new t = t.flatMap fun x => if x = c then new else [x] from
    h t.length t (Nat.le_refl _)
  intro n
  induction n with
  | zero =>
    intro t ht
    rw [List.length_eq_zero_iff.mp (Nat.le_zero.mp ht)]
    rfl
  | succ n ih =>
    intro t ht
    rw [replaceFirst]
    cases hs : splitFirst [c] t with
    | none =>
      have hc : c ∉ t := fun hc =>
        splitFirst_eq_none_iff.mp hs ((List.singleton_infix_iff c t).mpr hc)
      exact (flatMap_replacement_of_notMem new hc).symm
    | some cut =>
      obtain ⟨before, behind⟩ := cut
      obtain ⟨hends, rfl⟩ := splitFirst_eq_some_iff.mp hs
      have hlt := length_lt_of_splitFirst hs (List.cons_ne_nil c [])
      have hbehind := ih behind (by omega)
      dsimp only
      rw [hbehind, List.flatMap_append, List.flatMap_append,
        flatMap_replacement_of_notMem new (endsFirst_singleton_iff.mp hends),
        List.flatMap_singleton, if_pos rfl]

end LiveSections.Text
