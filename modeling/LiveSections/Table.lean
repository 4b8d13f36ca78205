/-!
# Tables

Keys with values, in the order in which the keys were first put in.

- `Table.put`: a new key goes to the end, a present key keeps its place.
- `Table.putAll`: puts in all entries of another table, in their order.
- `get?_put`: **what was put in is found, and nothing else changes.**
- `exists_get?_putAll_of_mem`, `get?_putAll_of_notMem`: the same for all entries of another table.
-/

namespace LiveSections

/-- Keys with values, in order of first insertion. -/
abbrev Table (κ α : Type) : Type := List (κ × α)

namespace Table

variable {κ α : Type} [BEq κ]

/-- The value of a key. -/
def get? (k : κ) : Table κ α → Option α
  | [] => none
  | (k', a) :: rest => if k' == k then some a else get? k rest

/-- Whether a key is present. -/
def has (k : κ) (t : Table κ α) : Bool := (t.get? k).isSome

/-- Gives a key a value. -/
def put (k : κ) (a : α) : Table κ α → Table κ α
  | [] => [(k, a)]
  | (k', a') :: rest => if k' == k then (k', a) :: rest else (k', a') :: put k a rest

/-- Puts in the entries of another table, one after another. -/
def putAll (t entries : Table κ α) : Table κ α :=
  entries.foldl (fun t e => t.put e.1 e.2) t

/-- The keys, in order. -/
def keys (t : Table κ α) : List κ := t.map Prod.fst

/-- What is found under a key is an entry. -/
theorem mem_of_get? [LawfulBEq κ] {k : κ} {a : α} {t : Table κ α} (h : t.get? k = some a) :
    (k, a) ∈ t := by
  induction t with
  | nil => cases h
  | cons e rest ih =>
    rw [get?] at h
    split at h
    · next hk =>
      cases h
      rw [← eq_of_beq hk]
      exact List.mem_cons_self
    · exact List.mem_cons_of_mem e (ih h)

/-- Values that are changed are found changed. -/
theorem get?_map {β : Type} (f : α → β) (k : κ) (t : Table κ α) :
    get? k (t.map fun e => (e.1, f e.2)) = (t.get? k).map f := by
  induction t with
  | nil => rfl
  | cons e rest ih =>
    rw [List.map_cons, get?, get?]
    split
    · rfl
    · exact ih

/-- Other values leave the keys that are present. -/
theorem has_map {β : Type} (f : α → β) (k : κ) (t : Table κ α) :
    has k (t.map fun e => (e.1, f e.2)) = has k t := by
  rw [has, get?_map, Option.isSome_map, has]

/-- A value that is put in may be changed before or afterwards. -/
theorem put_map {β : Type} (f : α → β) (k : κ) (a : α) (t : Table κ α) :
    put k (f a) (t.map fun e => (e.1, f e.2)) = (t.put k a).map fun e => (e.1, f e.2) := by
  induction t with
  | nil => rfl
  | cons e rest ih =>
    rw [List.map_cons, put, put]
    split
    · rfl
    · rw [ih, List.map_cons]

/-- A key of the table is found. -/
theorem exists_get?_of_mem_keys [LawfulBEq κ] {k : κ} {t : Table κ α} (h : k ∈ t.keys) :
    ∃ a, t.get? k = some a := by
  induction t with
  | nil => cases h
  | cons e rest ih =>
    rw [get?]
    split
    · exact ⟨e.2, rfl⟩
    · next hk =>
      rcases List.mem_cons.mp h with rfl | h
      · exact absurd (beq_self_eq_true e.1) hk
      · exact ih h

/-- **What was put in is found, and nothing else changes.** -/
theorem get?_put [LawfulBEq κ] [DecidableEq κ] (k k' : κ) (a : α) (t : Table κ α) :
    (t.put k a).get? k' = if k' = k then some a else t.get? k' := by
  induction t with
  | nil =>
    by_cases h : k' = k
    · simp [put, get?, h]
    · simp [put, get?, h, Ne.symm h]
  | cons e rest ih =>
    obtain ⟨k₀, a₀⟩ := e
    by_cases h₀ : k₀ = k
    · subst h₀
      by_cases h : k' = k₀
      · simp [put, get?, h]
      · simp [put, get?, h, Ne.symm h]
    · by_cases h : k₀ = k'
      · subst h
        simp [put, get?, h₀]
      · simp [put, get?, h₀, h, ih]

/-- A put keeps the keys in place; a new key comes last. -/
theorem keys_put [LawfulBEq κ] [DecidableEq κ] (k : κ) (a : α) (t : Table κ α) :
    (t.put k a).keys = if k ∈ t.keys then t.keys else t.keys ++ [k] := by
  induction t with
  | nil => simp [put, keys]
  | cons e rest ih =>
    obtain ⟨k₀, a₀⟩ := e
    by_cases h₀ : k₀ = k
    · subst h₀
      simp [put, keys]
    · have hne : k ≠ k₀ := Ne.symm h₀
      have hput : keys (put k a ((k₀, a₀) :: rest)) = k₀ :: keys (put k a rest) := by
        simp [put, h₀, keys]
      have hcons : keys ((k₀, a₀) :: rest) = k₀ :: keys rest := rfl
      rw [hput, hcons, ih]
      by_cases hm : k ∈ keys rest
      · simp [hm]
      · simp [hm, hne]

/-- Keys that are not put in keep their values. -/
theorem get?_putAll_of_notMem [LawfulBEq κ] [DecidableEq κ] {k : κ} {t entries : Table κ α}
    (hk : k ∉ entries.keys) : (t.putAll entries).get? k = t.get? k := by
  induction entries generalizing t with
  | nil => rfl
  | cons e rest ih =>
    obtain ⟨hne, hrest⟩ := List.ne_and_not_mem_of_not_mem_cons hk
    calc ((t.put e.1 e.2).putAll rest).get? k
        = (t.put e.1 e.2).get? k := ih hrest
      _ = t.get? k := by rw [get?_put, if_neg hne]

/-- A key that is put in gets one of its new values. -/
theorem exists_get?_putAll_of_mem [LawfulBEq κ] [DecidableEq κ] {k : κ} {entries : Table κ α}
    (hk : k ∈ entries.keys) (t : Table κ α) :
    ∃ a, (k, a) ∈ entries ∧ (t.putAll entries).get? k = some a := by
  induction entries generalizing t with
  | nil => cases hk
  | cons e rest ih =>
    by_cases hrest : k ∈ keys rest
    · obtain ⟨a, ha, hget⟩ := ih hrest (t.put e.1 e.2)
      exact ⟨a, List.mem_cons_of_mem e ha, hget⟩
    · obtain rfl | hmem := List.mem_cons.mp hk
      · refine ⟨e.2, List.mem_cons_self, (get?_putAll_of_notMem hrest).trans ?_⟩
        rw [get?_put, if_pos rfl]
      · exact absurd hmem hrest

/-- A choice of keys leaves the values of those that it keeps. -/
theorem get?_filter [LawfulBEq κ] {p : κ → Bool} {k : κ} (hk : p k = true) (t : Table κ α) :
    get? k (t.filter fun e => p e.1) = t.get? k := by
  induction t with
  | nil => rfl
  | cons e rest ih =>
    rw [List.filter_cons]
    split
    · rw [get?, get?, ih]
    · next hp =>
      have hne : (e.1 == k) = false := by
        refine beq_eq_false_iff_ne.mpr ?_
        rintro rfl
        exact hp hk
      rw [get?, hne, ih]
      rfl

/-- Nothing is found under a key that is not there. -/
theorem get?_eq_none_iff [LawfulBEq κ] {k : κ} {t : Table κ α} :
    t.get? k = none ↔ k ∉ t.keys := by
  constructor
  · intro hnone hk
    obtain ⟨a, ha⟩ := exists_get?_of_mem_keys hk
    rw [hnone] at ha
    cases ha
  · intro hk
    cases ha : t.get? k with
    | none => rfl
    | some a => exact absurd (List.mem_map_of_mem (mem_of_get? ha)) hk

end Table

end LiveSections
