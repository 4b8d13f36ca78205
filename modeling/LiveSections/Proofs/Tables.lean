import LiveSections.Table
import Mathlib.Data.List.Basic
import Mathlib.Data.List.Induction
import Mathlib.Tactic.Common

/-!
# What tables hold

- `firstOccurrences_induction`, `pairwise_idxOf_eraseDups`: lists with each item at its first place.
- `Table.get?_putAll`: **of all entries that are put in, the last one of a key counts.**
- `Table.keys_putAll`: **keys stay in the order in which they were first put in.**
-/

namespace LiveSections

/-! ## First occurrences -/

section FirstOccurrences

variable {α : Type} [BEq α] [LawfulBEq α]

omit [BEq α] [LawfulBEq α] in
/-- Induction along the first occurrences: items are taken out of all that comes behind an item. -/
theorem firstOccurrences_induction {P : List α → Prop} (nil : P [])
    (cons : ∀ a as, (∀ p : α → Bool, P (as.filter p)) → P (a :: as)) : ∀ l, P l
  | [] => nil
  | a :: as => cons a as fun p => firstOccurrences_induction nil cons (as.filter p)
termination_by l => l.length
decreasing_by exact Nat.lt_succ_of_le (List.length_filter_le _ _)

theorem nodup_eraseDups (l : List α) : l.eraseDups.Nodup := by
  induction l using firstOccurrences_induction with
  | nil => simp
  | cons a as ih =>
    rw [List.eraseDups_cons, List.nodup_cons]
    exact ⟨by simp [List.mem_eraseDups], ih _⟩

theorem eraseDups_of_nodup {l : List α} (h : l.Nodup) : l.eraseDups = l := by
  induction l with
  | nil => rfl
  | cons a as ih =>
    obtain ⟨hnotin, has⟩ := List.nodup_cons.mp h
    have hall : (as.filter fun b => !b == a) = as := by
      refine List.filter_eq_self.mpr fun b hb => ?_
      have hne : b ≠ a := fun hba => hnotin (hba ▸ hb)
      simp [hne]
    rw [List.eraseDups_cons, hall, ih has]

/-- To leave items out changes no order of those that are kept. -/
theorem idxOf_lt_of_filter {p : α → Bool} {b c : α} (hb : p b = true) (hc : p c = true)
    {l : List α} (h : (l.filter p).idxOf b < (l.filter p).idxOf c) : l.idxOf b < l.idxOf c := by
  induction l with
  | nil => simp at h
  | cons a as ih =>
    by_cases ha : p a = true
    · rw [List.filter_cons_of_pos ha] at h
      by_cases hac : a = c
      · simp [hac] at h
      · by_cases hab : a = b
        · subst hab
          simp [List.idxOf_cons_ne _ hac]
        · rw [List.idxOf_cons_ne _ hab, List.idxOf_cons_ne _ hac] at h ⊢
          have := ih (by omega)
          omega
    · -- an item that is left out is neither of the two, and both stand behind it
      rw [List.filter_cons_of_neg ha] at h
      have hab : a ≠ b := fun hab => ha (hab ▸ hb)
      have hac : a ≠ c := fun hac => ha (hac ▸ hc)
      rw [List.idxOf_cons_ne _ hab, List.idxOf_cons_ne _ hac]
      have := ih h
      omega

/-- The first occurrences come in their order. -/
theorem pairwise_idxOf_eraseDups (l : List α) :
    l.eraseDups.Pairwise fun a b => l.idxOf a < l.idxOf b := by
  induction l using firstOccurrences_induction with
  | nil => simp
  | cons a as ih =>
    have hother {b : α} (hb : b ∈ (as.filter fun b => !b == a).eraseDups) :
        a ≠ b ∧ (!b == a) = true := by
      have hb : (!b == a) = true := (List.mem_filter.mp (List.mem_eraseDups.mp hb)).2
      refine ⟨?_, hb⟩
      rintro rfl
      simp at hb
    rw [List.eraseDups_cons, List.pairwise_cons]
    constructor
    · intro b hb
      simp [List.idxOf_cons_ne _ (hother hb).1]
    · refine (ih _).imp_of_mem fun {b c} hb hc hlt => ?_
      have hlt : as.idxOf b < as.idxOf c :=
        idxOf_lt_of_filter (p := fun b => !b == a) (hother hb).2 (hother hc).2 hlt
      rw [List.idxOf_cons_ne _ (hother hb).1, List.idxOf_cons_ne _ (hother hc).1]
      omega

omit [LawfulBEq α] in
/-- It does not matter how items are compared, as long as those that are there are told apart. -/
theorem eraseDupsBy_eq_eraseDups {r : α → α → Bool} {l : List α}
    (h : ∀ a ∈ l, ∀ b ∈ l, r a b = (a == b)) : l.eraseDupsBy r = l.eraseDups := by
  induction l using firstOccurrences_induction with
  | nil => rfl
  | cons a as ih =>
    have hfilter : (as.filter fun b => decide (r b a = false)) = as.filter fun b => !b == a := by
      refine List.filter_congr fun b hb => ?_
      rw [h b (List.mem_cons_of_mem a hb) a List.mem_cons_self]
      cases b == a <;> rfl
    rw [List.eraseDupsBy_cons, List.eraseDups_cons, hfilter]
    congr 1
    refine ih _ fun b hb c hc => ?_
    exact h b (List.mem_cons_of_mem a (List.mem_of_mem_filter hb)) c
      (List.mem_cons_of_mem a (List.mem_of_mem_filter hc))

omit [BEq α] [LawfulBEq α] in
/-- Of changed items those are kept that are kept of the items. -/
theorem eraseDupsBy_map {β : Type} {f : β → α} {r : β → β → Bool} {r' : α → α → Bool}
    (h : ∀ a b, r' (f a) (f b) = r a b) (l : List β) :
    (l.map f).eraseDupsBy r' = (l.eraseDupsBy r).map f := by
  induction l using firstOccurrences_induction with
  | nil => rfl
  | cons a as ih =>
    rw [List.map_cons, List.eraseDupsBy_cons, List.eraseDupsBy_cons, List.map_cons, List.filter_map,
      ← ih]
    simp only [Function.comp_def, h]

end FirstOccurrences

/-! ## Tables -/

namespace Table

section Values

variable {κ α : Type} [BEq κ] {P : α → Prop} {t entries : Table κ α}

theorem forall_put {k : κ} {a : α} (ht : ∀ e ∈ t, P e.2) (ha : P a) : ∀ e ∈ t.put k a, P e.2 := by
  induction t with
  | nil => exact List.forall_mem_singleton.mpr ha
  | cons e rest ih =>
    obtain ⟨he, hrest⟩ := List.forall_mem_cons.mp ht
    rw [put]
    split
    · exact List.forall_mem_cons.mpr ⟨ha, hrest⟩
    · exact List.forall_mem_cons.mpr ⟨he, ih hrest⟩

/-- What holds of all values of two tables holds of those of one over the other. -/
theorem forall_putAll (ht : ∀ e ∈ t, P e.2) (hentries : ∀ e ∈ entries, P e.2) :
    ∀ e ∈ t.putAll entries, P e.2 := by
  induction entries generalizing t with
  | nil => exact ht
  | cons e rest ih =>
    obtain ⟨he, hrest⟩ := List.forall_mem_cons.mp hentries
    exact ih (forall_put ht he) hrest

end Values

variable {κ α : Type} [BEq κ] [LawfulBEq κ] [DecidableEq κ]

/-- The last entry of a key gives its value. -/
def last? (k : κ) (es : List (κ × α)) : Option α :=
  (es.filter fun e => e.1 == k).getLast?.map Prod.snd

omit [LawfulBEq κ] [DecidableEq κ] in
theorem last?_append (k : κ) (es fs : List (κ × α)) :
    last? k (es ++ fs) = (last? k fs).or (last? k es) := by
  rw [last?, last?, last?, List.filter_append, List.getLast?_append]
  cases (fs.filter fun e => e.1 == k).getLast? <;> rfl

omit [LawfulBEq κ] [DecidableEq κ] in
theorem last?_singleton (k : κ) (e : κ × α) :
    last? k [e] = if e.1 == k then some e.2 else none := by
  cases hk : e.1 == k <;> simp [last?, hk]

omit [LawfulBEq κ] [DecidableEq κ] in
theorem putAll_append (t : Table κ α) (es fs : List (κ × α)) :
    t.putAll (es ++ fs) = (t.putAll es).putAll fs :=
  List.foldl_append

/-- **Of all entries that are put in, the last one of a key counts.** -/
theorem get?_putAll (t : Table κ α) (es : List (κ × α)) (k : κ) :
    (t.putAll es).get? k = (last? k es).or (t.get? k) := by
  induction es using List.reverseRecOn with
  | nil => rfl
  | append_singleton es e ih =>
    have hput : (t.putAll (es ++ [e])).get? k =
        if k = e.1 then some e.2 else (t.putAll es).get? k := by
      rw [putAll_append]
      exact get?_put e.1 k e.2 (t.putAll es)
    rw [hput, ih, last?_append, last?_singleton]
    by_cases hk : k = e.1
    · simp [hk]
    · simp [hk, Ne.symm hk]

/-- **Keys stay in the order in which they were first put in.** -/
theorem keys_putAll (es : List (κ × α)) {t : Table κ α} (seen : List κ)
    (h : t.keys = seen.eraseDups) : (t.putAll es).keys = (seen ++ es.map Prod.fst).eraseDups := by
  -- what has been put in adds to the keys that have been seen, so these grow along the entries
  induction es generalizing t seen with
  | nil => simpa [putAll] using h
  | cons e es ih =>
    have hput : (t.put e.1 e.2).keys = (seen ++ [e.1]).eraseDups := by
      rw [keys_put, h, List.eraseDups_append]
      by_cases hk : e.1 ∈ seen <;>
        simp [List.removeAll, hk, List.mem_eraseDups, List.eraseDups_cons]
    have hrest := ih _ hput
    rw [List.append_assoc] at hrest
    exact hrest

theorem nodup_keys_putAll (es : List (κ × α)) : (putAll [] es).keys.Nodup := by
  rw [keys_putAll es (t := []) [] rfl]
  exact nodup_eraseDups _

omit [DecidableEq κ] in
/-- If no key is there twice, its last entry is its only one. -/
theorem last?_eq_get? {t : Table κ α} (h : t.keys.Nodup) (k : κ) : last? k t = t.get? k := by
  induction t with
  | nil => rfl
  | cons e rest ih =>
    obtain ⟨hnotin, hrest⟩ := List.nodup_cons.mp h
    rw [get?, ← ih hrest, last?, last?, List.filter_cons]
    by_cases hk : e.1 = k
    · have hnone : (rest.filter fun e => e.1 == k) = [] := by
        refine List.filter_eq_nil_iff.mpr fun e' he' hk' => hnotin ?_
        rw [hk, ← eq_of_beq hk']
        exact List.mem_map_of_mem he'
      simp [hk, hnone]
    · simp [hk]

omit [DecidableEq κ] in
theorem isSome_get?_iff_mem_keys {t : Table κ α} {k : κ} : (t.get? k).isSome ↔ k ∈ t.keys := by
  rw [← Option.ne_none_iff_isSome, Ne, get?_eq_none_iff, not_not]

omit [DecidableEq κ] in
/-- What the keys of a table lead to is what it holds, if no key is there twice. -/
theorem exists_get?_iff_mem {t : Table κ α} (h : t.keys.Nodup) {a : α} :
    (∃ k, t.get? k = some a) ↔ a ∈ t.map Prod.snd := by
  constructor
  · rintro ⟨k, hk⟩
    exact List.mem_map.mpr ⟨(k, a), mem_of_get? hk, rfl⟩
  · intro ha
    induction t with
    | nil => cases ha
    | cons e rest ih =>
      obtain ⟨hnotin, hrest⟩ := List.nodup_cons.mp h
      rcases List.mem_cons.mp ha with rfl | ha
      · exact ⟨e.1, by simp [get?]⟩
      · obtain ⟨k, hk⟩ := ih hrest ha
        have hne : e.1 ≠ k := by
          rintro rfl
          exact hnotin (List.mem_map.mpr ⟨(e.1, a), mem_of_get? hk, rfl⟩)
        exact ⟨k, by simp [get?, hne, hk]⟩

end Table

end LiveSections
