import LiveSections.Document.Basic
import Mathlib.Data.List.Basic

/-!
# Normalized output

Fresh output is written with one line feed at either end, so that it stands on lines of its own.
Normalization adds and takes away line feeds at the ends, and touches nothing between them.

- `eq_replicate_or_padded`: a text is nothing but line feeds, or has something between them.
- `normalizeOutput_padded`: what normalization leaves of the line feeds at the ends.
- `SameWithin`: texts that differ in nothing but line feeds at their ends.
- `normalizeOutput_normalForm`: **normalized output is a normal form,** one and the same for just
  those texts that are the same within.
-/

namespace LiveSections

/-! ## Line feeds at the ends -/

/-- A text that has something in it, and no line feed at either end. -/
structure Trimmed (body : Text) : Prop where
  ne_nil : body ≠ []
  front : body.head? ≠ some '\n'
  back : body.getLast? ≠ some '\n'

/-- A text between line feeds. -/
def padded (i : Nat) (body : Text) (j : Nat) : Text :=
  List.replicate i '\n' ++ body ++ List.replicate j '\n'

/-- All that a text starts with of one character, and the rest. -/
theorem exists_eq_replicate_append (a : Char) (t : Text) :
    ∃ n rest, t = List.replicate n a ++ rest ∧ rest.head? ≠ some a := by
  induction t with
  | nil => exact ⟨0, [], rfl, nofun⟩
  | cons c t ih =>
    by_cases h : c = a
    · obtain ⟨n, rest, rfl, hrest⟩ := ih
      exact ⟨n + 1, rest, by rw [h]; rfl, hrest⟩
    · exact ⟨0, c :: t, rfl, fun hc => h (Option.some.inj hc)⟩

theorem dropWhile_replicate_append {a : Char} {rest : Text} (h : rest.head? ≠ some a) (n : Nat) :
    (List.replicate n a ++ rest).dropWhile (· = a) = rest := by
  induction n with
  | zero =>
    cases rest with
    | nil => rfl
    | cons c rest => exact List.dropWhile_cons_of_neg fun hc => h (by simpa using hc)
  | succ n ih => rwa [List.replicate_succ, List.cons_append, List.dropWhile_cons_of_pos (by simp)]

/-- A text is nothing but line feeds, or has something between them. -/
theorem eq_replicate_or_padded (t : Text) :
    (∃ n, t = List.replicate n '\n') ∨ ∃ i body j, Trimmed body ∧ t = padded i body j := by
  obtain ⟨i, rest, rfl, hfront⟩ := exists_eq_replicate_append '\n' t
  obtain ⟨j, body, hbody, hback⟩ := exists_eq_replicate_append '\n' rest.reverse
  obtain rfl : rest = body.reverse ++ List.replicate j '\n' := by
    rw [← List.reverse_reverse rest, hbody, List.reverse_append, List.reverse_replicate]
  by_cases hnil : body.reverse = []
  · left
    refine ⟨i + j, ?_⟩
    rw [hnil, List.nil_append, List.replicate_append_replicate]
  · right
    rw [List.head?_append_of_ne_nil _ hnil] at hfront
    refine ⟨i, body.reverse, j, ⟨hnil, hfront, ?_⟩, by rw [padded, List.append_assoc]⟩
    rwa [List.getLast?_reverse]

theorem normalizeOutput_replicate (n : Nat) :
    normalizeOutput (List.replicate n '\n') = ['\n'] := by
  have hdrop : (List.replicate n '\n' ++ []).dropWhile (· = '\n') = [] :=
    dropWhile_replicate_append (by simp) n
  rw [List.append_nil] at hdrop
  rw [normalizeOutput, Text.trim, hdrop]
  rfl

theorem normalizeOutput_padded {body : Text} (h : Trimmed body) (i j : Nat) :
    normalizeOutput (padded i body j) = padded 1 body 1 := by
  obtain ⟨c, cs, rfl⟩ := List.exists_cons_of_ne_nil h.ne_nil
  have hfront : ((c :: cs) ++ List.replicate j '\n').head? ≠ some '\n' := h.front
  have hback : (c :: cs).reverse.head? ≠ some '\n' := by
    rw [List.head?_reverse]
    exact h.back
  have htrim : Text.trim (· = '\n') (padded i (c :: cs) j) = c :: cs := by
    rw [Text.trim, padded, List.append_assoc, dropWhile_replicate_append hfront,
      List.reverse_append, List.reverse_replicate, dropWhile_replicate_append hback,
      List.reverse_reverse]
  rw [normalizeOutput, htrim]
  rfl

theorem normalizeOutput_idempotent (t : Text) :
    normalizeOutput (normalizeOutput t) = normalizeOutput t := by
  rcases eq_replicate_or_padded t with ⟨n, rfl⟩ | ⟨i, body, j, h, rfl⟩
  · rw [normalizeOutput_replicate]
    exact normalizeOutput_replicate 1
  · rw [normalizeOutput_padded h, normalizeOutput_padded h]

/-- Normalized output has one line feed in front, and one at its end. -/
theorem exists_normalizeOutput_eq (t : Text) :
    ∃ rest, normalizeOutput t = '\n' :: rest ∧ rest.head? ≠ some '\n' ∧
      (normalizeOutput t).getLast? = some '\n' := by
  rcases eq_replicate_or_padded t with ⟨n, rfl⟩ | ⟨i, body, j, h, rfl⟩
  · rw [normalizeOutput_replicate]
    exact ⟨[], rfl, nofun, rfl⟩
  · rw [normalizeOutput_padded h]
    refine ⟨body ++ ['\n'], rfl, ?_, List.getLast?_concat⟩
    rw [List.head?_append_of_ne_nil _ h.ne_nil]
    exact h.front

/-- Only blank output becomes a single line feed. -/
theorem normalizeOutput_eq_lineFeed_iff {t : Text} :
    normalizeOutput t = ['\n'] ↔ ∃ n, t = List.replicate n '\n' := by
  constructor
  · intro h
    rcases eq_replicate_or_padded t with hblank | ⟨i, body, j, hbody, rfl⟩
    · exact hblank
    · have hpos : 0 < body.length := List.length_pos_iff.mpr hbody.ne_nil
      have hlength := congrArg List.length ((normalizeOutput_padded hbody i j).symm.trans h)
      simp only [padded, List.length_append, List.length_replicate, List.length_singleton]
        at hlength
      omega
  · rintro ⟨n, rfl⟩
    exact normalizeOutput_replicate n

/-! ## Texts that are the same within -/

/-- Texts that differ in nothing but line feeds at their ends. -/
def SameWithin (s t : Text) : Prop :=
  ∃ body i j i' j', s = padded i body j ∧ t = padded i' body j'

/-- Line feeds around a text make no difference to what it is normalized to. -/
theorem normalizeOutput_padded_eq (i : Nat) (t : Text) (j : Nat) :
    normalizeOutput (padded i t j) = normalizeOutput t := by
  rcases eq_replicate_or_padded t with ⟨n, rfl⟩ | ⟨a, body, b, hbody, rfl⟩
  · have hblank : padded i (List.replicate n '\n') j = List.replicate (i + n + j) '\n' := by
      simp only [padded, List.replicate_append_replicate]
    rw [hblank, normalizeOutput_replicate, normalizeOutput_replicate]
  · have hpadded : padded i (padded a body b) j = padded (i + a) body (b + j) := by
      simp only [padded, ← List.replicate_append_replicate, List.append_assoc]
    rw [hpadded, normalizeOutput_padded hbody, normalizeOutput_padded hbody]

theorem SameWithin.normalizeOutput_eq {s t : Text} (h : SameWithin s t) :
    normalizeOutput s = normalizeOutput t := by
  obtain ⟨body, i, j, i', j', rfl, rfl⟩ := h
  rw [normalizeOutput_padded_eq, normalizeOutput_padded_eq]

theorem SameWithin.of_normalizeOutput_eq {s t : Text}
    (h : normalizeOutput s = normalizeOutput t) : SameWithin s t := by
  by_cases hblank : normalizeOutput s = ['\n']
  · obtain ⟨n, rfl⟩ := normalizeOutput_eq_lineFeed_iff.mp hblank
    obtain ⟨m, rfl⟩ := normalizeOutput_eq_lineFeed_iff.mp (h.symm.trans hblank)
    exact ⟨[], n, 0, m, 0, by simp [padded], by simp [padded]⟩
  · have hblank' : normalizeOutput t ≠ ['\n'] := h ▸ hblank
    rcases eq_replicate_or_padded s with hs | ⟨i, body, j, hbody, rfl⟩
    · exact absurd (normalizeOutput_eq_lineFeed_iff.mpr hs) hblank
    rcases eq_replicate_or_padded t with ht | ⟨i', body', j', hbody', rfl⟩
    · exact absurd (normalizeOutput_eq_lineFeed_iff.mpr ht) hblank'
    -- both bodies stand between single line feeds now
    rw [normalizeOutput_padded hbody, normalizeOutput_padded hbody'] at h
    obtain rfl : body = body' := List.append_cancel_left (List.append_cancel_right h)
    exact ⟨body, i, j, i', j', rfl, rfl⟩

/-- **Normalized output is a normal form.** It is a single line feed exactly if there is nothing
else in the output, and otherwise the output without the line feeds at its ends, between two of
them. It is left alone when it is normalized again, and it is one text for two outputs exactly if
these are the same within. -/
theorem normalizeOutput_normalForm (s t : Text) :
    (normalizeOutput s = ['\n'] ↔ ∀ c ∈ s, c = '\n') ∧
      (normalizeOutput s = ['\n'] ∨ ∃ i body j, Trimmed body ∧ s = padded i body j ∧
        normalizeOutput s = '\n' :: body ++ ['\n']) ∧
      normalizeOutput (normalizeOutput s) = normalizeOutput s ∧
      (normalizeOutput s = normalizeOutput t ↔ SameWithin s t) := by
  refine ⟨?_, ?_, normalizeOutput_idempotent s, ?_⟩
  · rw [normalizeOutput_eq_lineFeed_iff]
    constructor
    · rintro ⟨n, rfl⟩ c hc
      exact List.eq_of_mem_replicate hc
    · intro h
      exact ⟨s.length, List.eq_replicate_of_mem h⟩
  · rcases eq_replicate_or_padded s with hblank | ⟨i, body, j, hbody, rfl⟩
    · exact .inl (normalizeOutput_eq_lineFeed_iff.mpr hblank)
    · exact .inr ⟨i, body, j, hbody, rfl, normalizeOutput_padded hbody i j⟩
  · constructor
    · exact SameWithin.of_normalizeOutput_eq
    · exact SameWithin.normalizeOutput_eq

end LiveSections
