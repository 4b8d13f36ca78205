import LiveSections.Helper.Registry
import LiveSections.Proofs.Tables

/-!
# What a registry holds

A registry is filled by registrations, each of a new helper or, once more, of one that is known. A
later registration takes names over, so of the names of a helper some can lead elsewhere by now, or
all of them.

- `Registry.bindAll`: the registry behind registrations.
- `Registry.get?_bindAll`, `Registry.keys_bindAll`: the two laws of the table of names.
- `Registry.Reflects`: names, listings and descriptions as the registrations alone tell them.
- `Registry.History`: a registry with the registrations that have led to it.
- `Registry.History.reflects`: **behind any registrations, a registry reflects them.**
-/

namespace LiveSections

/-! ## Registrations -/

namespace Registry

/-- The registry behind registrations. -/
def bindAll (r : Registry) (calls : List Registered) : Registry := calls.foldl bind r

/-- New helpers with their numbers, from a number on. -/
def numbered (first : Nat) (hs : List Helper) : List Registered :=
  (hs.zipIdx first).map fun h => ⟨h.2, h.1⟩

/-- The last helper to be registered among those that have a name. -/
def lastNamed? (calls : List Registered) (name : Text) : Option Registered :=
  (calls.filter fun e => e.helper.answersTo name).getLast?

/-- Where a helper has its first name, among all names that are bound. -/
def place (r : Registry) (e : Registered) : Nat := (r.bindings.map Prod.snd).idxOf e

/-- The registered helpers of a category. -/
def listing (r : Registry) (c : HelperCategory) : List Registered :=
  r.helpers.filter fun e => e.helper.category == c

/-- The heading of a category. -/
def heading (c : HelperCategory) : Text := '[' :: c.name ++ [']']

/-- The line that describes a helper. -/
def line (e : Registered) : Text := ' ' :: ' ' :: e.helper.summary

theorem answersTo_iff {h : Helper} {name : Text} : h.answersTo name = true ↔ name ∈ h.names := by
  simp [Helper.answersTo]

/-- Every name with the helper that it is bound to, registration by registration. -/
def entries (calls : List Registered) : List (Text × Registered) :=
  calls.flatMap fun e => e.helper.names.map (·, e)

theorem bindings_bindAll (r : Registry) (calls : List Registered) :
    (r.bindAll calls).bindings = r.bindings.putAll (entries calls) := by
  induction calls generalizing r with
  | nil => rfl
  | cons e calls ih =>
    have hbind : (r.bind e).bindings = r.bindings.putAll (e.helper.names.map (·, e)) := by
      rw [Table.putAll, List.foldl_map]
      rfl
    calc ((r.bind e).bindAll calls).bindings
        = (r.bind e).bindings.putAll (entries calls) := ih (r.bind e)
      _ = r.bindings.putAll (entries (e :: calls)) := by
        rw [hbind, ← Table.putAll_append]
        rfl

theorem last?_names (name : Text) (e : Registered) (names : List Text) :
    Table.last? name (names.map (·, e)) = if name ∈ names then some e else none := by
  induction names with
  | nil => rfl
  | cons n names ih =>
    rw [List.map_cons, ← List.singleton_append, Table.last?_append, Table.last?_singleton, ih]
    by_cases hn : n = name
    · by_cases hname : name ∈ names <;> simp [hn, hname]
    · by_cases hname : name ∈ names <;> simp [hn, Ne.symm hn, hname]

/-- The last entry of a name is from the last registration of a helper that has it. -/
theorem last?_entries (calls : List Registered) (name : Text) :
    Table.last? name (entries calls) = lastNamed? calls name := by
  induction calls using List.reverseRecOn with
  | nil => rfl
  | append_singleton calls e ih =>
    have hsplit : entries (calls ++ [e]) = entries calls ++ e.helper.names.map (·, e) := by
      simp [entries]
    rw [hsplit, Table.last?_append, ih, last?_names, lastNamed?, lastNamed?, List.filter_append]
    by_cases h : name ∈ e.helper.names
    · simp [h, answersTo_iff.mpr h]
    · have hno : e.helper.answersTo name = false :=
        Bool.eq_false_iff.mpr fun ha => h (answersTo_iff.mp ha)
      simp [h, hno]

/-- **A name leads to the last helper to be registered among those that have it.** -/
theorem get?_bindAll (calls : List Registered) (name : Text) :
    (empty.bindAll calls).get? name = lastNamed? calls name := by
  rw [get?, bindings_bindAll, Table.get?_putAll, last?_entries]
  exact Option.or_none

/-- **Names stay in the order in which they were first bound.** -/
theorem keys_bindAll (calls : List Registered) :
    (empty.bindAll calls).bindings.keys = (calls.flatMap fun e => e.helper.names).eraseDups := by
  have hkeys : (entries calls).map Prod.fst = calls.flatMap fun e => e.helper.names := by
    simp [entries, List.map_flatMap, Function.comp_def]
  rw [bindings_bindAll, Table.keys_putAll (entries calls) [] rfl, hkeys]
  rfl

/-! ## Listings -/

/-- Names, listings and descriptions of a registry as its registrations tell them. -/
structure Reflects (r : Registry) (calls : List Registered) : Prop where
  /-- A name leads to the last helper to be registered among those that have it. -/
  get?_eq : ∀ name, r.get? name = lastNamed? calls name
  answersTo : ∀ name e, r.get? name = some e → e.helper.answersTo name = true
  /-- Three ways to a function. -/
  function?_eq : ∀ name, r.function? name = (r.get? name).map fun e => e.helper.function
  functions_eq : ∀ name, r.functions.get? name = r.function? name
  /-- Names are in the order in which they were first bound, and so are their functions. -/
  keys_eq : r.bindings.keys = (calls.flatMap fun e => e.helper.names).eraseDups
  functions_keys : r.functions.keys = r.bindings.keys
  /-- A category lists its helpers that have a name, in the order of their first names. -/
  ofCategory_eq : ∀ c, r.ofCategory c = (r.listing c).map Registered.helper
  mem_listing : ∀ c e, e ∈ r.listing c ↔ e.helper.category = c ∧ ∃ name, r.get? name = some e
  nodup_listing : ∀ c, (r.listing c).Nodup
  ordered : ∀ c, (r.listing c).Pairwise fun e e' => r.place e < r.place e'
  /-- A description has a heading for each category that lists something, and a line for each of its
  helpers below. -/
  describe_eq : r.describe =
    (HelperCategory.all.filter fun c => !(r.listing c).isEmpty).flatMap
      fun c => heading c :: (r.listing c).map line
  mem_all : ∀ c : HelperCategory, c ∈ HelperCategory.all
  nodup_all : HelperCategory.all.Nodup

/-- Registrations under one number are of one helper. -/
def Identified (calls : List Registered) : Prop :=
  ∀ e ∈ calls, ∀ e' ∈ calls, e.serial = e'.serial → e = e'

theorem mem_of_lastNamed? {calls : List Registered} {name : Text} {e : Registered}
    (h : lastNamed? calls name = some e) : e ∈ calls ∧ e.helper.answersTo name = true :=
  List.mem_filter.mp (List.mem_of_getLast? h)

/-- Helpers that are bound are told apart by their numbers, so each is listed once. -/
theorem helpers_bindAll {calls : List Registered} (hid : Identified calls) :
    (empty.bindAll calls).helpers = ((empty.bindAll calls).bindings.map Prod.snd).eraseDups := by
  have hkeys : (empty.bindAll calls).bindings.keys.Nodup :=
    keys_bindAll calls ▸ nodup_eraseDups _
  have hmem : ∀ e ∈ (empty.bindAll calls).bindings.map Prod.snd, e ∈ calls := by
    intro e he
    obtain ⟨name, hname⟩ := (Table.exists_get?_iff_mem hkeys).mpr he
    exact (mem_of_lastNamed? ((get?_bindAll calls name).symm.trans hname)).1
  refine eraseDupsBy_eq_eraseDups fun e he e' he' => ?_
  by_cases h : e = e'
  · simp [h]
  · have hserial : e.serial ≠ e'.serial := fun hs => h (hid e (hmem e he) e' (hmem e' he') hs)
    simp [h, hserial]

theorem ofCategory_eq_listing (r : Registry) (c : HelperCategory) :
    r.ofCategory c = (r.listing c).map Registered.helper := by
  rw [ofCategory, listing, List.filter_map]
  rfl

/-- The lines of a category that lists nothing are none. -/
theorem describe_eq_listing (r : Registry) :
    r.describe = (HelperCategory.all.filter fun c => !(r.listing c).isEmpty).flatMap
      fun c => heading c :: (r.listing c).map line := by
  unfold describe
  induction HelperCategory.all with
  | nil => rfl
  | cons c cs ih =>
    rw [List.flatMap_cons, ih, ofCategory_eq_listing]
    cases h : r.listing c with
    | nil => simp [h]
    | cons e es => simp [h, heading, line]

/-- **Whatever names the helpers have and share, a registry reflects its registrations.** -/
theorem reflects_bindAll {calls : List Registered} (hid : Identified calls) :
    (empty.bindAll calls).Reflects calls := by
  have hget := get?_bindAll calls
  have hkeys := keys_bindAll calls
  have hhelpers := helpers_bindAll hid
  have hnodup : (empty.bindAll calls).bindings.keys.Nodup := hkeys ▸ nodup_eraseDups _
  have hsublist (c : HelperCategory) : ((empty.bindAll calls).listing c).Sublist
      ((empty.bindAll calls).bindings.map Prod.snd).eraseDups :=
    hhelpers ▸ List.filter_sublist
  constructor
  case get?_eq => exact hget
  case answersTo => exact fun name e he => (mem_of_lastNamed? ((hget name).symm.trans he)).2
  case function?_eq => exact fun name => rfl
  case functions_eq =>
    exact fun name => Table.get?_map (fun e : Registered => e.helper.function) name _
  case keys_eq => exact hkeys
  case functions_keys => simp [functions, Table.keys]
  case ofCategory_eq => exact ofCategory_eq_listing _
  case mem_listing =>
    intro c e
    rw [listing, List.mem_filter, hhelpers, List.mem_eraseDups,
      ← Table.exists_get?_iff_mem hnodup]
    simp [get?, and_comm]
  case nodup_listing => exact fun c => (hsublist c).nodup (nodup_eraseDups _)
  case ordered => exact fun c => (pairwise_idxOf_eraseDups _).sublist (hsublist c)
  case describe_eq => exact describe_eq_listing _
  case mem_all => rintro ⟨⟩ <;> decide
  case nodup_all => decide

/-! ## Histories -/

/-- A registry with the registrations that have led to it: the built-in helpers, and then new ones
or, once more, some that are known. -/
inductive History : Registry → List Registered → Prop where
  | standard : History standard (numbered 0 builtIns)
  | new {r : Registry} {calls : List Registered} (hr : History r calls) (h : Helper) :
      History (r.register h) (calls ++ [⟨r.count, h⟩])
  | again {r : Registry} {calls : List Registered} (hr : History r calls) {e : Registered}
      (he : e ∈ calls) : History (r.bind e) (calls ++ [e])

/-- What registrations have left: the table that they make, and numbers below the next one. -/
structure Traced (r : Registry) (calls : List Registered) : Prop where
  bindings_eq : r.bindings = (empty.bindAll calls).bindings
  serial_lt : ∀ e ∈ calls, e.serial < r.count
  identified : Identified calls

theorem bindAll_concat (r : Registry) (calls : List Registered) (e : Registered) :
    r.bindAll (calls ++ [e]) = (r.bindAll calls).bind e :=
  List.foldl_append

/-- Names are bound in the table alone. -/
theorem bindings_bind_congr {r r' : Registry} (h : r.bindings = r'.bindings) (e : Registered) :
    (r.bind e).bindings = (r'.bind e).bindings := by
  rw [bind, bind, h]

theorem Traced.new {r : Registry} {calls : List Registered} (ht : r.Traced calls) (h : Helper) :
    (r.register h).Traced (calls ++ [⟨r.count, h⟩]) where
  bindings_eq := by
    rw [bindAll_concat]
    exact bindings_bind_congr ht.bindings_eq ⟨r.count, h⟩
  serial_lt := by
    intro e he
    show e.serial < r.count + 1
    rcases List.mem_append.mp he with he | he
    · have := ht.serial_lt e he
      omega
    · rw [List.mem_singleton.mp he]
      exact Nat.lt_succ_self _
  identified := by
    -- a number that is not used yet tells the new helper from all others
    intro e he e' he' heq
    rcases List.mem_append.mp he with he | he <;> rcases List.mem_append.mp he' with he' | he'
    · exact ht.identified e he e' he' heq
    · have hlt := ht.serial_lt e he
      rw [heq, List.mem_singleton.mp he'] at hlt
      exact absurd hlt (Nat.lt_irrefl _)
    · have hlt := ht.serial_lt e' he'
      rw [← heq, List.mem_singleton.mp he] at hlt
      exact absurd hlt (Nat.lt_irrefl _)
    · rw [List.mem_singleton.mp he, List.mem_singleton.mp he']

theorem Traced.again {r : Registry} {calls : List Registered} (ht : r.Traced calls)
    {e : Registered} (he : e ∈ calls) : (r.bind e).Traced (calls ++ [e]) := by
  have hmem {a : Registered} (ha : a ∈ calls ++ [e]) : a ∈ calls := by
    rcases List.mem_append.mp ha with ha | ha
    · exact ha
    · exact List.mem_singleton.mp ha ▸ he
  refine ⟨?_, fun a ha => ht.serial_lt a (hmem ha), fun a ha b hb =>
    ht.identified a (hmem ha) b (hmem hb)⟩
  rw [bindAll_concat]
  exact bindings_bind_congr ht.bindings_eq e

theorem History.traced {r : Registry} {calls : List Registered} (hr : History r calls) :
    r.Traced calls := by
  induction hr with
  | standard => exact ⟨rfl, by decide, by unfold Identified; decide⟩
  | new _ h ih => exact ih.new h
  | again _ he ih => exact ih.again he

/-- **Behind any registrations, a registry reflects them.** -/
theorem History.reflects {r : Registry} {calls : List Registered} (hr : History r calls) :
    r.Reflects calls := by
  obtain ⟨hbindings, -, hid⟩ := hr.traced
  have h := reflects_bindAll hid
  obtain ⟨bindings, count⟩ := r
  cases hbindings
  exact ⟨h.get?_eq, h.answersTo, h.function?_eq, h.functions_eq, h.keys_eq, h.functions_keys,
    h.ofCategory_eq, h.mem_listing, h.nodup_listing, h.ordered, h.describe_eq, h.mem_all,
    h.nodup_all⟩

/-- A helper with names that built-in helpers have. -/
def emphasis : Helper where
  name := "link".toList
  category := .text
  description := "Emphasis".toList
  function := .surround ['*'] ['*']
  examples := []
  aliases := ["image".toList, "em".toList, "link".toList]

/-- The helper for images loses its only name, and the one for links gets its own back. -/
theorem reflects_emphasis :
    ((standard.register emphasis).bind ⟨0, builtIns.head (by decide)⟩).Reflects
        (numbered 0 builtIns ++ [⟨4, emphasis⟩] ++ [⟨0, builtIns.head (by decide)⟩])
      ∧ (((standard.register emphasis).bind ⟨0, builtIns.head (by decide)⟩).listing .markdown).map
          Registered.serial = [0]
      ∧ (((standard.register emphasis).bind ⟨0, builtIns.head (by decide)⟩).listing .text).map
          Registered.serial = [4, 3] :=
  ⟨History.reflects (.again (.new .standard emphasis) (by decide)), by decide, by decide⟩

end Registry

end LiveSections
