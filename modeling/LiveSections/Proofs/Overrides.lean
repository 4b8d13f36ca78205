import LiveSections.CommandLine.Run
import LiveSections.Proofs.Tables
import LiveSections.Proofs.Untouched

/-!
# Values set over those of a file

- `Assignment.key`, `Assignment.value`, `Assignment.Keyless`: an assignment and its first equals
  sign.
- `readAssignments_eq`: the first assignment without a key is refused; if there is none, the last
  one of a key counts.
- `Job.Overlays`: the table that values make over that of a file.
- `Job.loadProperties_overlays`: **how the properties are loaded, given those of the file.**

## What is not so

To be well formed is not enough for an assignment. One of the key `self` ends the job with an
exception that nobody handles (`Job.loadProperties_self`): values are handed over by name, to a
function with a parameter of that name.
-/

namespace LiveSections

/-! ## Assignments -/

namespace Assignment

/-- The text before the first equals sign. -/
def key (a : Text) : Text := a.takeWhile (· ≠ '=')

/-- The text behind the first equals sign. -/
def value (a : Text) : Text := (a.dropWhile (· ≠ '=')).tail

/-- An assignment without an equals sign, or with nothing before it. -/
def Keyless (a : Text) : Prop := '=' ∉ a ∨ a.head? = some '='

instance (a : Text) : Decidable (Keyless a) :=
  inferInstanceAs (Decidable ('=' ∉ a ∨ a.head? = some '='))

/-- The value of the last assignment of a key. -/
def last? (k : Text) (assignments : List Text) : Option Text :=
  (assignments.filter fun a => key a == k).getLast?.map value

theorem splitFirst_eq (a : Text) :
    Text.splitFirst ['='] a = if '=' ∈ a then some (key a, value a) else none := by
  induction a with
  | nil => rfl
  | cons c cs ih =>
    by_cases hc : c = '='
    · subst hc
      simp [Text.splitFirst, Text.dropLead?, key, value]
    · have hsplit : Text.splitFirst ['='] (c :: cs) =
          (Text.splitFirst ['='] cs).map fun s => (c :: s.1, s.2) := by
        refine Text.splitFirst_cons_of_not_isPrefix ?_
        rintro ⟨rest, h⟩
        exact hc (List.cons.inj h).1.symm
      rw [hsplit, ih]
      by_cases hcs : '=' ∈ cs <;> simp [hcs, Ne.symm hc, hc, key, value]

theorem keyless_iff {a : Text} : Keyless a ↔ ('=' ∈ a → key a = []) := by
  cases a with
  | nil => simp [Keyless]
  | cons c cs =>
    by_cases hc : c = '='
    · simp [Keyless, key, hc]
    · simp [Keyless, key, hc, Ne.symm hc]

theorem read_eq (a : Text) :
    readAssignment a = if Keyless a then .error ⟨a⟩ else .ok (key a, value a) := by
  rw [readAssignment, splitFirst_eq]
  by_cases ha : '=' ∈ a <;> by_cases hk : key a = [] <;> simp [keyless_iff, ha, hk]

theorem last?_entries (k : Text) (assignments : List Text) :
    Table.last? k (assignments.map fun a => (key a, value a)) = last? k assignments := by
  rw [Table.last?, last?, List.filter_map, List.getLast?_map, Option.map_map]
  rfl

end Assignment

open Assignment

theorem mapM_readAssignment (assignments : List Text) :
    assignments.mapM readAssignment =
      match assignments.find? (Keyless ·) with
      | some a => .error ⟨a⟩
      | none => .ok (assignments.map fun a => (key a, value a)) := by
  induction assignments with
  | nil => rfl
  | cons a rest ih =>
    rw [List.mapM_cons, ih, read_eq]
    by_cases ha : Keyless a
    · simp [ha]
      rfl
    · rw [if_neg ha, List.find?_cons_of_neg (by simpa using ha)]
      cases rest.find? (Keyless ·) <;> rfl

/-- **The first assignment without a key is refused; if there is none, the last one of a key
counts.** -/
theorem readAssignments_eq (assignments : List Text) :
    readAssignments assignments =
      match assignments.find? (Keyless ·) with
      | some a => .error ⟨a⟩
      | none => .ok (Table.putAll [] (assignments.map fun a => (key a, value a))) := by
  rw [readAssignments, mapM_readAssignment]
  cases assignments.find? (Keyless ·) <;> rfl

/-! ## Loading -/

namespace Job

open JobStep Session CommandLine

variable {j : Job} {w w' : Workplace} {p table : Properties}

/-- A table with the assigned values over those of another table. -/
structure Overlays (assignments : List Text) (p table : Properties) : Prop where
  /-- The last assignment of a key gives its value. -/
  get?_eq : ∀ k, table.get? k = ((last? k assignments).map Value.text).or (p.get? k)
  nodup_keys : table.keys.Nodup
  mem_keys : ∀ k, k ∈ table.keys ↔ k ∈ p.keys ∨ ∃ a ∈ assignments, key a = k

/-- How the properties are loaded over those of the file. -/
inductive Overlaid (j : Job) (p : Properties) : Except Stop Job → Prop where
  | refused {a : Text} (ha : j.assignments.find? (Keyless ·) = some a) :
      Overlaid j p (.error (.refused (.assignment ⟨a⟩)))
  | reserved (hkeys : ∀ a ∈ j.assignments, ¬Keyless a)
      (hself : ∃ a ∈ j.assignments, key a = Properties.reservedKey) :
      Overlaid j p (.error (.escaped .reservedKey))
  | loaded (hkeys : ∀ a ∈ j.assignments, ¬Keyless a)
      (hself : ∀ a ∈ j.assignments, key a ≠ Properties.reservedKey) {table : Properties}
      (htable : Overlays j.assignments p table) :
      Overlaid j p (.ok { j with table := some table })

theorem exists_of_map_ok {ε α β : Type} {x : Except ε α} {f : α → β} {b : β}
    (h : f <$> x = .ok b) : ∃ a, x = .ok a ∧ f a = b := by
  cases x with
  | error e => cases h
  | ok a => exact ⟨a, rfl, Except.ok.inj h⟩

theorem isSome_last? {k : Text} {assignments : List Text} :
    (last? k assignments).isSome ↔ ∃ a ∈ assignments, key a = k := by
  simp [last?]

theorem nodup_of_ofEntries {h : Heap} {es : List (Value × Value)}
    (hp : Properties.ofEntries h es = .ok p) : p.keys.Nodup := by
  obtain ⟨named, -, rfl⟩ := exists_of_map_ok hp
  exact Table.nodup_keys_putAll named

/-- A file holds no key twice. -/
theorem nodup_of_ofFile {tree : FileTree} {path : Path} {h h' : Heap}
    (hp : Properties.ofFile tree path h = .ok (h', p)) : p.keys.Nodup := by
  obtain ⟨bytes, -, hbytes⟩ := exists_of_bind_ok hp
  obtain ⟨t, -, htext⟩ := exists_of_bind_ok hbytes
  obtain ⟨v, -, hv⟩ := Properties.ofYaml_ok_iff.mp htext
  obtain ⟨-, rfl⟩ | ⟨r, -, hes⟩ := Properties.ofValue_ok_iff.mp hv
  · exact List.nodup_nil
  · exact nodup_of_ofEntries hes

theorem nodup_of_fileProperties (hp : j.fileProperties.Leads w w' (.ok p)) : p.keys.Nodup := by
  unfold fileProperties at hp
  cases hpath : j.propertyPath? with
  | none =>
    rw [hpath] at hp
    obtain ⟨-, hp⟩ := (leads_pure _ w).unique hp
    cases hp
    exact List.nodup_nil
  | some path =>
    rw [hpath] at hp
    obtain ⟨_, _, hlog, hfile⟩ := leads_bind_ok_iff.mp hp
    obtain ⟨rfl, -⟩ := (leads_log _ _ w).unique hlog
    cases hr : Properties.ofFile w.tree path w.heap with
    | error e =>
      obtain ⟨-, hend⟩ := (leads_loadFile_error hr).unique hfile
      cases hend
    | ok r =>
      obtain ⟨-, hend⟩ := (leads_loadFile_ok hr).unique hfile
      cases hend
      exact nodup_of_ofFile hr

/-- The values of assignments lie over a table that they are put into. -/
theorem overlays_putAll (assignments : List Text) (hp : p.keys.Nodup) :
    Overlays assignments p (p.putAll
      ((Table.putAll [] (assignments.map fun a => (key a, value a))).map
        fun v => (v.1, Value.text v.2))) := by
  generalize hvalues : Table.putAll [] (assignments.map fun a => (key a, value a)) = values
  have hnodup : values.keys.Nodup := hvalues ▸ Table.nodup_keys_putAll _
  have hget (k : Text) : values.get? k = last? k assignments := by
    rw [← hvalues, Table.get?_putAll, last?_entries]
    exact Option.or_none
  have hlast (k : Text) : Table.last? k (values.map fun v => (v.1, Value.text v.2)) =
      (last? k assignments).map Value.text := by
    have hkeys : (Table.keys (values.map fun v => (v.1, Value.text v.2))).Nodup := by
      simpa [Table.keys, Function.comp_def] using hnodup
    rw [Table.last?_eq_get? hkeys, Table.get?_map, hget]
  have hget' (k : Text) : (p.putAll (values.map fun v => (v.1, Value.text v.2))).get? k =
      ((last? k assignments).map Value.text).or (p.get? k) := by
    rw [Table.get?_putAll, hlast]
  refine ⟨hget', ?_, fun k => ?_⟩
  · rw [Table.keys_putAll _ p.keys (eraseDups_of_nodup hp).symm]
    exact nodup_eraseDups _
  · rw [← Table.isSome_get?_iff_mem_keys, hget', Option.isSome_or, Option.isSome_map]
    simp only [Bool.or_eq_true, isSome_last?, Table.isSome_get?_iff_mem_keys, or_comm]

theorem overlaid_loadProperties (hp : j.fileProperties.Leads w w' (.ok p)) :
    ∃ r, j.loadProperties.Leads w w' r ∧ Overlaid j p r := by
  have hread := readAssignments_eq j.assignments
  cases hfind : j.assignments.find? (Keyless ·) with
  | some a =>
    rw [hfind] at hread
    refine ⟨_, (hp.bind (r := .error (.refused (.assignment ⟨a⟩))) ?_).bind_error, .refused hfind⟩
    rw [hread]
    exact leads_fail _ _
  | none =>
    rw [hfind] at hread
    have hkeys : ∀ a ∈ j.assignments, ¬Keyless a := by simpa using hfind
    -- the key is among those that are put in exactly if an assignment has it
    have hhas : Table.has Properties.reservedKey
        ((Table.putAll [] (j.assignments.map fun a => (key a, value a))).map
          fun v => (v.1, Value.text v.2)) = true ↔
        ∃ a ∈ j.assignments, key a = Properties.reservedKey := by
      rw [Table.has_map, Table.has, Table.get?_putAll, last?_entries, ← isSome_last?]
      simp [Table.get?]
    by_cases hself : ∃ a ∈ j.assignments, key a = Properties.reservedKey
    · refine ⟨_, (hp.bind (r := .error (.escaped .reservedKey)) ?_).bind_error,
        .reserved hkeys hself⟩
      rw [hread]
      refine (leads_emitAll _ _).bind ?_
      rw [Properties.merged?, if_pos (hhas.mpr hself)]
      exact leads_fail _ _
    · refine ⟨_, (hp.bind ?_).bind (leads_pure _ _), .loaded hkeys ?_
        (overlays_putAll j.assignments (nodup_of_fileProperties hp))⟩
      · rw [hread]
        refine (leads_emitAll _ _).bind ?_
        rw [Properties.merged?, if_neg (fun h => hself (hhas.mp h))]
        exact (leads_log _ _ _).bind (leads_pure _ _)
      · exact fun a ha hk => hself ⟨a, ha, hk⟩

/-- An assignment of the key `self` is well formed, and ends the job with an exception. -/
theorem loadProperties_self :
    let j := { sample with assignments := ["self=1".toList] }
    let w : Workplace := { tree := sampleTree sampleSource }
    (∃ w' p, j.fileProperties.Leads w w' (.ok p)) ∧ (∀ a ∈ j.assignments, ¬Keyless a) ∧
      ¬∃ j', (j.loadProperties.run w).result = .ok j' := by
  intro j w
  have hfile : (j.fileProperties.run w).result.isOk = true := by decide +kernel
  have hload : (j.loadProperties.run w).result.isOk = false := by decide +kernel
  obtain ⟨p, hp⟩ := exists_of_isOk hfile
  refine ⟨⟨_, p, rfl, hp⟩, by decide, ?_⟩
  rintro ⟨j', hj'⟩
  rw [hj'] at hload
  cases hload

/-- **The properties of a file with values set over them.** The job ends with exit code 1 exactly if
an assignment has no key, and with an exception if none has none and one has the key `self`. -/
theorem loadProperties_overlays (hp : j.fileProperties.Leads w w' (.ok p)) :
    ∃ r, j.loadProperties.Leads w w' r ∧
      ((Verdict.ofResult r).exitCode? w'.heap = some 1 ↔ ∃ a ∈ j.assignments, Keyless a) ∧
      (r = .error (.escaped .reservedKey) ↔ (∀ a ∈ j.assignments, ¬Keyless a) ∧
        ∃ a ∈ j.assignments, key a = Properties.reservedKey) ∧
      ((∀ a ∈ j.assignments, ¬Keyless a ∧ key a ≠ Properties.reservedKey) →
        ∃ table, r = .ok { j with table := some table } ∧ Overlays j.assignments p table) := by
  obtain ⟨r, hr, h⟩ := overlaid_loadProperties hp
  refine ⟨r, hr, ?_⟩
  cases h with
  | refused ha =>
    have hkeyless : ∃ a ∈ j.assignments, Keyless a :=
      ⟨_, List.mem_of_find?_eq_some ha, by simpa using List.find?_some ha⟩
    obtain ⟨a, hmem, hno⟩ := hkeyless
    refine ⟨iff_of_true rfl ⟨a, hmem, hno⟩, iff_of_false nofun ?_, fun hall => ?_⟩
    · exact fun hall => hall.1 a hmem hno
    · exact absurd hno (hall a hmem).1
  | reserved hkeys hself =>
    refine ⟨iff_of_false nofun ?_, iff_of_true rfl ⟨hkeys, hself⟩, fun hall => ?_⟩
    · rintro ⟨a, hmem, hno⟩
      exact hkeys a hmem hno
    · obtain ⟨a, hmem, hk⟩ := hself
      exact absurd hk (hall a hmem).2
  | loaded hkeys hself htable =>
    refine ⟨iff_of_false nofun ?_, iff_of_false nofun ?_, fun _ => ⟨_, rfl, htable⟩⟩
    · rintro ⟨a, hmem, hno⟩
      exact hkeys a hmem hno
    · rintro ⟨-, a, hmem, hk⟩
      exact hself a hmem hk

/-- The last of two values counts, and the second equals sign belongs to a value. -/
theorem loadProperties_overlays_sample :
    let j := { sample with assignments := ["v=2".toList, "w=a=b".toList, "v=3".toList] }
    let w : Workplace := { tree := sampleTree sampleSource }
    ∃ w' p table, j.fileProperties.Leads w w' (.ok p) ∧
      j.loadProperties.Leads w w' (.ok { j with table := some table }) ∧
      Overlays j.assignments p table ∧ table.get? ['v'] = some (.text ['3']) ∧
      table.get? ['w'] = some (.text "a=b".toList) := by
  intro j w
  have hfile : (j.fileProperties.run w).result.isOk = true := by decide +kernel
  obtain ⟨p, hp⟩ := exists_of_isOk hfile
  have hp : j.fileProperties.Leads w (j.fileProperties.run w).state (.ok p) := ⟨rfl, hp⟩
  obtain ⟨r, hr, -, -, hloads⟩ := loadProperties_overlays hp
  obtain ⟨table, rfl, htable⟩ := hloads (by decide)
  refine ⟨_, p, table, hp, hr, htable, ?_, ?_⟩
  · rw [htable.get?_eq]
    rfl
  · rw [htable.get?_eq]
    rfl

end Job

end LiveSections
