import LiveSections.Text.Newline
import Mathlib.Data.List.Infix

/-!
# Conversion of ends of line

- `hasCrlf_iff`: a text has an end of line of two characters exactly if they stand side by side.
- `toLf_toCrlf`: **what was converted to two characters is converted back.**
- `toLf_eq_self`: a text without such an end of line is left alone.
- `BareLf`: a line feed without a carriage return before it, which `toCrlf` leaves nowhere.
- `toLf_restoring`: what was restored is converted back.
-/

namespace LiveSections.Text

variable {t : Text}

/-! ## Which texts are converted -/

/-- A character that does not begin an end of line has no part in one. -/
theorem hasCrlf_cons {c : Char} (h : c ≠ '\r' ∨ t.head? ≠ some '\n') :
    hasCrlf (c :: t) = hasCrlf t := by
  rw [hasCrlf.eq_def]
  split
  · next heq =>
    obtain ⟨rfl, rfl⟩ := List.cons.inj heq
    rcases h with h | h <;> exact absurd rfl h
  · next heq =>
    obtain ⟨-, rfl⟩ := List.cons.inj heq
    rfl
  · next heq => cases heq

theorem toLf_cons {c : Char} (h : c ≠ '\r' ∨ t.head? ≠ some '\n') :
    toLf (c :: t) = c :: toLf t := by
  rw [toLf.eq_def]
  split
  · next heq =>
    obtain ⟨rfl, rfl⟩ := List.cons.inj heq
    rcases h with h | h <;> exact absurd rfl h
  · next heq =>
    obtain ⟨rfl, rfl⟩ := List.cons.inj heq
    rfl
  · next heq => cases heq

/-- A text that is not empty begins with an end of line of two characters, or with a character that
has no part in one. -/
theorem crlf_or_cons (c : Char) (t : Text) :
    (∃ behind, c :: t = '\r' :: '\n' :: behind) ∨ c ≠ '\r' ∨ t.head? ≠ some '\n' := by
  by_cases hc : c = '\r'
  · cases t with
    | nil => exact .inr (.inr nofun)
    | cons x behind =>
      by_cases hx : x = '\n'
      · exact .inl ⟨behind, by rw [hc, hx]⟩
      · exact .inr (.inr fun h => hx (Option.some.inj h))
  · exact .inr (.inl hc)

theorem hasCrlf_iff : hasCrlf t = true ↔ ['\r', '\n'] <:+: t := by
  induction t with
  | nil => simp [hasCrlf]
  | cons c t ih =>
    rcases crlf_or_cons c t with ⟨behind, heq⟩ | h
    · rw [heq]
      exact iff_of_true rfl (List.prefix_append ['\r', '\n'] behind).isInfix
    · rw [hasCrlf_cons h, ih, List.infix_cons_iff, or_iff_right]
      rintro ⟨behind, heq⟩
      obtain ⟨rfl, rfl⟩ := List.cons.inj heq
      rcases h with h | h <;> exact absurd rfl h

/-- A text without an end of line of two characters is left alone. -/
theorem toLf_eq_self (h : hasCrlf t = false) : toLf t = t := by
  induction t with
  | nil => rfl
  | cons c t ih =>
    rcases crlf_or_cons c t with ⟨behind, heq⟩ | hc
    · rw [heq] at h
      cases h
    · rw [hasCrlf_cons hc] at h
      rw [toLf_cons hc, ih h]

/-! ## There and back -/

theorem toCrlf_cons (c : Char) (t : Text) :
    toCrlf (c :: t) = (if c = '\n' then ['\r', '\n'] else [c]) ++ toCrlf t := List.flatMap_cons

/-- No line feed stands at the beginning of what was converted. -/
theorem head?_toCrlf (t : Text) : (toCrlf t).head? ≠ some '\n' := by
  cases t with
  | nil => nofun
  | cons c t =>
    rw [toCrlf_cons]
    split
    · nofun
    · next hc => exact fun h => hc (Option.some.inj h)

/-- **What was converted to two characters is converted back,** carriage returns of its own
included. -/
theorem toLf_toCrlf (t : Text) : toLf (toCrlf t) = t := by
  induction t with
  | nil => rfl
  | cons c t ih =>
    rw [toCrlf_cons]
    split
    · next hc =>
      subst hc
      exact congrArg ('\n' :: ·) ih
    · exact (toLf_cons (.inr (head?_toCrlf t))).trans (congrArg (c :: ·) ih)

theorem hasCrlf_toCrlf_iff : hasCrlf (toCrlf t) = true ↔ '\n' ∈ t := by
  induction t with
  | nil => simp [toCrlf, hasCrlf]
  | cons c t ih =>
    rw [toCrlf_cons, List.mem_cons]
    split
    · next hc => exact iff_of_true rfl (.inl hc.symm)
    · next hc =>
      show hasCrlf (c :: toCrlf t) = true ↔ _
      rw [hasCrlf_cons (.inr (head?_toCrlf t)), ih, or_iff_right (Ne.symm hc)]

/-- Without a line feed there is nothing to convert. -/
theorem toCrlf_eq_self (h : '\n' ∉ t) : toCrlf t = t := by
  induction t with
  | nil => rfl
  | cons c t ih =>
    rw [List.mem_cons, not_or] at h
    rw [toCrlf_cons, if_neg (Ne.symm h.1), ih h.2]
    rfl

/-! ## Bare line feeds -/

/-- Somewhere a line feed has no carriage return before it. -/
def BareLf (t : Text) : Prop :=
  ∃ before behind, t = before ++ '\n' :: behind ∧ before.getLast? ≠ some '\r'

theorem BareLf.of_append {lead : Text} (h : BareLf (lead ++ t)) (hlead : ¬BareLf lead) :
    BareLf t := by
  obtain ⟨before, behind, heq, hlast⟩ := h
  rcases List.append_eq_append_iff.mp heq with ⟨more, rfl, ht⟩ | ⟨more, hl, ht⟩
  · refine ⟨more, behind, ht, fun h => hlast ?_⟩
    rw [List.getLast?_append, h]
    rfl
  · cases more with
    | nil => exact ⟨[], behind, ht.symm, nofun⟩
    | cons c more =>
      obtain ⟨rfl, -⟩ := List.cons.inj ht
      exact absurd ⟨before, more, hl, hlast⟩ hlead

/-- No line feed is bare in what was converted. -/
theorem not_bareLf_toCrlf (t : Text) : ¬BareLf (toCrlf t) := by
  induction t with
  | nil =>
    rintro ⟨before, behind, heq, -⟩
    cases before <;> cases heq
  | cons c t ih =>
    rw [toCrlf_cons]
    refine fun h => ih (h.of_append ?_)
    rintro ⟨before, behind, heq, hlast⟩
    -- a line feed in the lead can only be the second character of an end of line
    rcases before with _ | ⟨x, more⟩
    · split at heq
      · cases heq
      · next hc => exact hc (List.cons.inj heq).1
    · split at heq
      · obtain ⟨rfl, hmore⟩ := List.cons.inj heq
        rcases more with _ | ⟨y, more⟩
        · exact hlast rfl
        · obtain ⟨-, hnil⟩ := List.cons.inj hmore
          exact absurd hnil.symm (by simp)
      · obtain ⟨-, hnil⟩ := List.cons.inj heq
        exact absurd hnil.symm (by simp)

/-! ## Restored texts -/

/-- What was restored is converted back, and restored as before, unless a text with ends of line of
two characters was made for one without. -/
theorem toLf_restoring {raw : Text} (h : hasCrlf raw = true ∨ hasCrlf t = false) :
    toLf (restoring raw t) = t ∧ restoring (restoring raw t) t = restoring raw t := by
  unfold restoring
  by_cases hraw : hasCrlf raw = true
  · rw [if_pos hraw]
    refine ⟨toLf_toCrlf t, ?_⟩
    split
    · rfl
    · next hlf => exact (toCrlf_eq_self fun hmem => hlf (hasCrlf_toCrlf_iff.mpr hmem)).symm
  · have ht : hasCrlf t = false := h.resolve_left hraw
    rw [if_neg hraw]
    refine ⟨toLf_eq_self ht, ?_⟩
    rw [if_neg (by simp [ht])]

/-- No text is restored to one that has both kinds of ends of line. -/
theorem restoring_ne_of_bareLf (h : hasCrlf t = true) (hb : BareLf t) (t' : Text) :
    restoring t t' ≠ t := by
  intro heq
  rw [restoring, if_pos h] at heq
  exact not_bareLf_toCrlf t' (heq ▸ hb)

end LiveSections.Text
