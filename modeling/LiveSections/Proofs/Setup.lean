import LiveSections.Proofs.Job
import LiveSections.Proofs.Warnings

/-!
# What a job compiles

- `Job.Setup`: the document, the properties and the compiler that a compilation begins with.
- `Setup.compilation`: the compilation itself.
- `leads_prepare_ok_iff`: **a job gets as far as a compiled text exactly if it has a setup, the
  compilation succeeds, and in a strict run nothing is warned of.**
-/

namespace LiveSections

namespace Job

open JobStep Session

variable {settings : Settings} {j : Job} {w w' : Workplace}

/-- What the compilation of a job begins with, as it was found. -/
structure Setup (settings : Settings) (j : Job) (w : Workplace) where
  bytes : List UInt8
  raw : Text
  table : Properties
  /-- The heap with the values of the table. -/
  heap : Heap
  compiler : Compiler Heap
  read_eq : w.tree.read j.inputPath = .ok bytes
  decode_eq : Utf8.decode bytes = .ok raw
  loads : j.loadTable.Leads w { w with heap } (.ok table)
  compiler_eq : (j.loaded table).compiler settings = .ok compiler

namespace Setup

variable (s : Setup settings j w)

/-- The document as it is compiled, with line feeds only. -/
def document : Text := Text.toLf s.raw

/-- The compilation of the document. -/
def compilation : Ending Heap CompileError Text := (s.compiler.compile s.document).run s.heap

/-- The keys that the compilation warns of. -/
def warnings : List String := warningsOf s.compilation.events

/-- The document with a compiled text. -/
def draft (text : Text) : Draft where
  raw := s.raw
  text := Text.restoring s.raw text
  warnings := s.warnings

end Setup

/-! ## Stage by stage -/

theorem leads_readDocument_ok_iff {raw : Text} : j.readDocument.Leads w w' (.ok raw) ↔
    w' = w ∧ ∃ bytes, w.tree.read j.source = .ok bytes ∧ Utf8.decode bytes = .ok raw := by
  have hask := leads_askTree (·.read j.source) w
  constructor
  · intro h
    obtain ⟨bytes, w₁, hread, hdecode⟩ := leads_bind_ok_iff.mp h
    obtain ⟨rfl, hbytes⟩ := hask.unique hread
    have hbytes : w.tree.read j.source = .ok bytes := by
      cases hr : w.tree.read j.source with
      | error e => rw [hr] at hbytes; cases hbytes
      | ok bytes' => rw [hr] at hbytes; cases hbytes; rfl
    cases hd : Utf8.decode bytes with
    | error e =>
      rw [hd] at hdecode
      cases hdecode.2
    | ok raw' =>
      rw [hd] at hdecode
      obtain ⟨rfl, hraw⟩ := hdecode
      cases hraw
      exact ⟨rfl, bytes, hbytes, hd⟩
  · rintro ⟨rfl, bytes, hread, hdecode⟩
    rw [hread] at hask
    refine hask.bind ?_
    rw [hdecode]
    exact leads_pure raw _

theorem leads_compiled (c : Compiler Heap) (document : Text) (w : Workplace) :
    let e := (c.compile document).run w.heap
    (j.compiled c document).Leads w { w with heap := e.state }
      ((e.result.mapError (Stop.ofCompilation j.source (3 ≤ j.verbosity))).map
        fun t => (t, warningsOf e.events)) := by
  intro e
  have hlisten : (((JobStep.onHeap (c.compile document)).mapError
      (Stop.ofCompilation j.source (3 ≤ j.verbosity))).listen).Leads w { w with heap := e.state }
      ((e.result.mapError (Stop.ofCompilation j.source (3 ≤ j.verbosity))).map
        (·, e.events)) := ⟨rfl, rfl⟩
  cases hr : e.result with
  | error err =>
    rw [hr] at hlisten
    exact hlisten.bind_error
  | ok t =>
    rw [hr] at hlisten
    exact hlisten.bind (leads_pure _ _)

theorem leads_requireKeys_ok_iff {warnings : List String} :
    (requireKeys settings warnings).Leads w w' (.ok ()) ↔
      w' = w ∧ (settings.strictMode = true → warnings = []) := by
  unfold requireKeys
  cases settings.strictMode <;> cases warnings <;>
    simp [Leads, refuse, Session.fail, Session.run, eq_comm, Pure.pure, Session.pure]

/-- A job that has its properties compiles its document, or stops. -/
theorem leads_compileText_ok_iff {draft : Draft} :
    (j.compileText settings).Leads w w' (.ok draft) ↔
      ∃ bytes raw c text, w.tree.read j.source = .ok bytes ∧ Utf8.decode bytes = .ok raw ∧
        j.compiler settings = .ok c ∧
        let e := (c.compile (Text.toLf raw)).run w.heap
        e.result = .ok text ∧ (settings.strictMode = true → warningsOf e.events = []) ∧
          draft = ⟨raw, Text.restoring raw text, warningsOf e.events⟩ ∧
          w' = { w with heap := e.state } := by
  constructor
  · intro h
    obtain ⟨_, _, hlog, h₁⟩ := leads_bind_ok_iff.mp h
    obtain ⟨rfl, -⟩ := (leads_log _ _ w).unique hlog
    obtain ⟨raw, _, hraw, h₂⟩ := leads_bind_ok_iff.mp h₁
    obtain ⟨rfl, bytes, hread, hdecode⟩ := leads_readDocument_ok_iff.mp hraw
    obtain ⟨_, _, hlog, h₃⟩ := leads_bind_ok_iff.mp h₂
    obtain ⟨rfl, -⟩ := (leads_log _ _ _).unique hlog
    cases hc : j.compiler settings with
    | error e =>
      rw [hc] at h₃
      cases h₃.2
    | ok c =>
      rw [hc] at h₃
      obtain ⟨_, _, hlog, h₄⟩ := leads_bind_ok_iff.mp h₃
      obtain ⟨rfl, -⟩ := (leads_emitAll _ _).unique hlog
      obtain ⟨⟨text, warnings⟩, _, hcompiled, h₅⟩ := leads_bind_ok_iff.mp h₄
      obtain ⟨rfl, hresult⟩ := (leads_compiled c (Text.toLf raw) _).unique hcompiled
      obtain ⟨_, _, hkeys, h₆⟩ := leads_bind_ok_iff.mp h₅
      obtain ⟨rfl, hstrict⟩ := leads_requireKeys_ok_iff.mp hkeys
      obtain ⟨rfl, hdraft⟩ := h₆
      cases hr : ((c.compile (Text.toLf raw)).run _).result with
      | error e =>
        rw [hr] at hresult
        cases hresult
      | ok text' =>
        rw [hr] at hresult
        obtain ⟨rfl, rfl⟩ := Prod.mk.inj (Except.ok.inj hresult)
        exact ⟨bytes, raw, c, text', hread, hdecode, rfl, hr, hstrict,
          (Except.ok.inj hdraft).symm, rfl⟩
  · rintro ⟨bytes, raw, c, text, hread, hdecode, hc, hr, hstrict, rfl, rfl⟩
    have hraw := leads_readDocument_ok_iff.mpr ⟨rfl, bytes, hread, hdecode⟩
    have hcompiled := leads_compiled (j := j) c (Text.toLf raw) w
    dsimp only at hcompiled
    rw [hr] at hcompiled
    refine (leads_log _ _ w).bind (hraw.bind ((leads_log _ _ w).bind ?_))
    rw [hc]
    refine (leads_emitAll _ w).bind (hcompiled.bind ?_)
    exact (leads_requireKeys_ok_iff.mpr ⟨rfl, hstrict⟩).bind (leads_pure _ _)

/-- To load properties does not touch files. -/
theorem tree_of_loadTable {table : Properties} (h : j.loadTable.Leads w w' (.ok table)) :
    ∃ heap, w' = { w with heap } := by
  obtain ⟨heap, r, hleads, -⟩ := loadTable_sameOver (j.sameFiles_self w.tree).properties w.heap
  obtain ⟨rfl, -⟩ := hleads.unique h
  exact ⟨heap, rfl⟩

/-- **A job gets as far as a compiled text exactly if it has a setup, the compilation succeeds, and
in a strict run nothing is warned of.** -/
theorem leads_prepare_ok_iff {table : Properties} {draft : Draft} :
    (j.prepare settings).Leads w w' (.ok (table, draft)) ↔
      ∃ (s : Setup settings j w) (text : Text), s.compilation.result = .ok text ∧
        (settings.strictMode = true → s.warnings = []) ∧ table = s.table ∧
          draft = s.draft text ∧ w' = { w with heap := s.compilation.state } := by
  constructor
  · intro h
    obtain ⟨_, _, hlog, h₁⟩ := leads_bind_ok_iff.mp h
    obtain ⟨rfl, -⟩ := (leads_log _ _ w).unique hlog
    obtain ⟨table', _, hloads, h₂⟩ := leads_bind_ok_iff.mp h₁
    obtain ⟨heap, rfl⟩ := tree_of_loadTable hloads
    obtain ⟨draft', _, hcompile, rfl, hpair⟩ := leads_bind_ok_iff.mp h₂
    cases hpair
    obtain ⟨bytes, raw, c, text, hread, hdecode, hc, hr, hstrict, rfl, rfl⟩ :=
      leads_compileText_ok_iff.mp hcompile
    exact ⟨⟨bytes, raw, table, heap, c, hread, hdecode, hloads, hc⟩, text, hr, hstrict, rfl, rfl,
      rfl⟩
  · rintro ⟨s, text, hr, hstrict, rfl, rfl, rfl⟩
    refine (leads_log _ _ w).bind (s.loads.bind (Leads.bind ?_ (leads_pure _ _)))
    exact leads_compileText_ok_iff.mpr ⟨s.bytes, s.raw, s.compiler, text, s.read_eq, s.decode_eq,
      s.compiler_eq, hr, hstrict, rfl, rfl⟩

/-! ## Setups -/

/-- A table is loaded only from a property file and assignments that can be read. -/
theorem of_leads_loadTable {table : Properties} (h : j.loadTable.Leads w w' (.ok table)) :
    (∀ path ∈ j.propertyPath?, ∃ r, Properties.ofFile w.tree path w.heap = .ok r) ∧
      ∃ values, readAssignments j.assignments = .ok values ∧
        values.has Properties.reservedKey = false := by
  obtain ⟨p, _, hfile, h₁⟩ := leads_bind_ok_iff.mp h
  constructor
  · intro path hpath
    rw [fileProperties, Option.mem_def.mp hpath] at hfile
    obtain ⟨_, _, hlog, hfile⟩ := leads_bind_ok_iff.mp hfile
    obtain ⟨rfl, -⟩ := (leads_log _ _ w).unique hlog
    cases hr : Properties.ofFile w.tree path w.heap with
    | ok r => exact ⟨r, rfl⟩
    | error e =>
      obtain ⟨-, hend⟩ := (leads_loadFile_error hr).unique hfile
      cases hend
  · cases hr : readAssignments j.assignments with
    | error e =>
      rw [hr] at h₁
      cases h₁.2
    | ok values =>
      refine ⟨values, rfl, ?_⟩
      rw [hr] at h₁
      obtain ⟨_, _, -, h₂⟩ := leads_bind_ok_iff.mp h₁
      cases hk : values.has Properties.reservedKey with
      | false => rfl
      | true =>
        rw [Properties.merged?, Table.has_map, if_pos hk] at h₂
        cases h₂.2

/-- Steps that succeed as a whole succeed one by one. -/
theorem exists_of_bind_ok {ε α β : Type} {x : Except ε α} {f : α → Except ε β} {b : β}
    (h : (x >>= f) = .ok b) : ∃ a, x = .ok a ∧ f a = .ok b := by
  cases x with
  | error e => cases h
  | ok a => exact ⟨a, rfl, h⟩

theorem exists_of_isOk {ε α : Type} {x : Except ε α} (h : x.isOk = true) : ∃ a, x = .ok a := by
  cases x with
  | error e => cases h
  | ok a => exact ⟨a, rfl⟩

theorem exists_error_of_isOk_eq_false {ε α : Type} {x : Except ε α} (h : x.isOk = false) :
    ∃ e, x = .error e := by
  cases x with
  | error e => exact ⟨e, rfl⟩
  | ok a => cases h

/-- The usual compiler looks keys up in its table, runs programs with it, and has at least one
worker. -/
theorem of_ofProperties {options : CompileOptions} {p : Properties} {c : Compiler Heap}
    (h : Compiler.ofProperties settings options p = .ok c) :
    c.resolver = Compiler.propertyResolver settings.unknownSuffix p options.sink ∧
      c.evaluator = Compiler.programEvaluator { properties := p, registry := options.registry } ∧
      1 ≤ options.workers.getD settings.maxWorkers := by
  obtain ⟨d, workers, -, hworkers, rfl⟩ := Compiler.exists_of_ofSource h
  refine ⟨rfl, rfl, ?_⟩
  unfold WorkerCount.ofInt at hworkers
  split at hworkers
  · next hpos => exact hpos
  · cases hworkers

/-- The compiler of a job is the usual one. -/
theorem Setup.compiler_spec (s : Setup settings j w) :
    s.compiler.resolver = Compiler.propertyResolver settings.unknownSuffix s.table ∧
      s.compiler.evaluator = Compiler.programEvaluator { properties := s.table } ∧
      1 ≤ j.workers.getD settings.maxWorkers := by
  have h := s.compiler_eq
  rw [Job.compiler] at h
  obtain ⟨d, -, hc⟩ := exists_of_bind_ok h
  have hspec := of_ofProperties hc
  exact hspec

/-- If a compilation succeeds and warns of nothing, the keys of all programs stand for something. -/
theorem Setup.mapped_of_warnings (s : Setup settings j w) {text : Text} {parts : List Part}
    (ht : s.compilation.result = .ok text) (hw : s.warnings = [])
    (hp : parse s.compiler.delimiters s.document = .ok parts) {sec : Section}
    (hs : sec ∈ sectionsOf parts) {key : Text} (hk : key ∈ (Template.ofText sec.program).keys) :
    ¬s.table.Unmapped key := by
  intro hu
  have hreported : unknownKey key ∈ s.compilation.events :=
    Compiler.compile_reports s.compiler_spec.1 hp hs hk hu s.heap text ht
  have hwarned : _ ∈ s.warnings := List.mem_filterMap.mpr ⟨_, hreported, rfl⟩
  rw [hw] at hwarned
  cases hwarned

/-- What a job finds is determined. -/
theorem Setup.eq (s s' : Setup settings j w) : s = s' := by
  obtain ⟨bytes, raw, table, heap, c, hread, hdecode, hloads, hc⟩ := s
  obtain ⟨bytes', raw', table', heap', c', hread', hdecode', hloads', hc'⟩ := s'
  obtain rfl := Except.ok.inj (hread.symm.trans hread')
  obtain rfl := Except.ok.inj (hdecode.symm.trans hdecode')
  obtain ⟨hheap, htable⟩ := hloads.unique hloads'
  obtain rfl := Except.ok.inj htable
  obtain rfl : heap = heap' := congrArg Workplace.heap hheap
  obtain rfl := Except.ok.inj (hc.symm.trans hc')
  rfl

end Job

end LiveSections
