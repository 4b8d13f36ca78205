import LiveSections.Proofs.BlindSections
import LiveSections.Proofs.CheckMode

/-!
# Checks of what was written

A job that has written its document over the old one is run again, to check it only.

- `Job.behind`: the workplace of the next job, with the files as a job has left them.
- `Setup.behind`: what the next job finds.
- `check_ok_iff`: **a check finds a document up to date** if its compiled text is restored to it.
- `run_checking_behind`: **a document that was just compiled is up to date, unless a section has
  brought the first end of line of two characters into it.**
-/

namespace LiveSections

namespace Job

open JobStep Session

variable {settings : Settings} {j : Job} {w w' : Workplace}

/-- The workplace of the next job: the files as a run has left them, and the heap of a new run. -/
def behind (settings : Settings) (j : Job) (w : Workplace) : Workplace :=
  { w with tree := ((j.run settings).run w).state.tree }

theorem outputPath_eq_inputPath (hd : j.outputDirectory = j.inputDirectory) :
    j.outputPath = j.inputPath := by
  rw [outputPath, inputPath, inOutput, inInput, hd]

/-- A property file is there if it gives properties. -/
theorem isFile_of_ofFile {t : FileTree} {path : Path} {h : Heap} {r : Heap × Properties}
    (hr : Properties.ofFile t path h = .ok r) : t.isFile path = .ok true := by
  obtain ⟨bytes, hbytes, -⟩ := exists_of_bind_ok hr
  cases hread : t.read path with
  | error e =>
    rw [hread] at hbytes
    cases hbytes
  | ok bytes => exact FileTree.isFile_eq_true_iff.mpr ⟨bytes, hread⟩

/-- What a job has written is what the next one finds, if the properties are the same. -/
def Setup.behind (s : Setup settings j w) {t : Text}
    (hread : w'.tree.read j.inputPath = .ok (Utf8.encode t))
    (hload : j.loadTable.Leads w' { w' with heap := s.heap } (.ok s.table)) :
    Setup settings j.checking w' where
  bytes := Utf8.encode t
  raw := t
  table := s.table
  heap := s.heap
  compiler := s.compiler
  read_eq := hread
  decode_eq := Utf8.decode_eq_ok_iff.mpr rfl
  loads := hload
  compiler_eq := s.compiler_eq

/-- A check that comes to its end has compared equal texts. -/
theorem Course.upToDate {j' : Job} (h : Course settings j w w' (.ok j'))
    (hc : j.check = true) :
    ∃ heap table draft, (j.prepare settings).Leads w { w with heap } (.ok (table, draft)) ∧
      draft.text = draft.raw ∧ j' = j.finished table draft := by
  generalize hr : (Except.ok j' : Except Stop Job) = r at h
  cases h with
  | unfound hf => cases hr
  | unopened hf hw hd => cases hr
  | unprepared hf ho hp => cases hr
  | @compared heap table draft hf _ hp =>
    split at hr
    · next heq => exact ⟨heap, table, draft, hp, heq, Except.ok.inj hr⟩
    · cases hr
  | unwritten hf hw hd hp he => cases hr
  | written hf hw hd hp he => cases hc.symm.trans hw

/-- **A check finds a document up to date** exactly if it compiles to a text that is restored to the
document, and nothing keeps the job from that text. -/
theorem check_ok_iff (hc : j.check = true) (hf : j.Found w.tree) (s : Setup settings j w) :
    (∃ j' o, ((j.run settings).run w).result = .ok j' ∧ j'.outcome = some o ∧ o.changed = false) ↔
      ∃ text, s.compilation.result = .ok text ∧ (settings.strictMode = true → s.warnings = []) ∧
        Text.restoring s.raw text = s.raw := by
  constructor
  · rintro ⟨j', o, hr, -, -⟩
    obtain ⟨heap, table, draft, hprepared, hequal, -⟩ := (course_of_result hr).upToDate hc
    obtain ⟨s', text, ht, hstrict, -, rfl, -⟩ := leads_prepare_ok_iff.mp hprepared
    obtain rfl := s'.eq s
    exact ⟨text, ht, hstrict, hequal⟩
  · rintro ⟨text, ht, hstrict, hequal⟩
    have hprepared := leads_prepare_ok_iff.mpr ⟨s, text, ht, hstrict, rfl, rfl, rfl⟩
    obtain ⟨-, hresult⟩ := (Course.compared (leads_findFiles_ok_iff.mpr hf) hc hprepared).leads
    have hequal : (s.draft text).text = (s.draft text).raw := hequal
    rw [if_pos hequal] at hresult
    exact ⟨_, _, hresult, rfl, decide_eq_false (not_not.mpr hequal)⟩

section Behind

variable {parts : List Part} {outputs : List Text} {text : Text}

/-- A text that was compiled without a warning is compiled without a warning again. -/
theorem Setup.warnings_behind (s : Setup settings j w)
    (hp : parse s.compiler.delimiters s.document = .ok parts)
    (ht : s.compilation.result = .ok text) (hw : s.warnings = []) {parts' : List Part}
    (hp' : parse s.compiler.delimiters text = .ok parts')
    (hg : parts'.map Part.gist = parts.map Part.gist) :
    warningsOf ((s.compiler.compile text).run s.heap).events = [] := by
  obtain ⟨hresolver, hevaluator, -⟩ := s.compiler_spec
  refine Compiler.compile_warnless hresolver hevaluator hp' (fun sec' hs' key hk => ?_) s.heap
  -- the programs are those of the document
  have hmem : sec'.gist ∈ (sectionsOf parts).map Section.gist := by
    rw [← map_gist_sectionsOf hg]
    exact List.mem_map_of_mem hs'
  obtain ⟨sec, hs, hgist⟩ := List.mem_map.mp hmem
  have hprogram : sec.program = sec'.program := by
    have h := congrArg Section.program hgist
    exact h
  exact s.mapped_of_warnings ht hw hp hs (hprogram ▸ hk)

/-- **A document that was just compiled is up to date, unless a section has brought the first end of
line of two characters into it.** No output may hang on the previous one, or hold an open-marker.
Canonical tags need a close-marker without a blank, and the properties have to be the same. -/
theorem run_checking_behind (hd : j.outputDirectory = j.inputDirectory) (hc : j.check = false)
    {j' : Job} (hw : ((j.run settings).run w).result = .ok j') (s : Setup settings j w)
    (hp : parse s.compiler.delimiters s.document = .ok parts)
    (hblind : s.compiler.RendersBlindly s.heap (sectionsOf parts) outputs)
    (hfirst : ∀ output ∈ outputs, Text.EndsFirst s.compiler.delimiters.opening output)
    (hb : s.compiler.style = .verbatim ∨ ' ' ∉ s.compiler.delimiters.closing)
    (hload : j.loadTable.Leads (j.behind settings w) { j.behind settings w with heap := s.heap }
      (.ok s.table)) :
    let check := (j.checking.run settings).run (j.behind settings w)
    ∃ text, s.compilation.result = .ok text ∧
      ((∃ j'' o, check.result = .ok j'' ∧ j''.outcome = some o ∧ o.changed = false) ↔
        Text.hasCrlf s.raw = true ∨ Text.hasCrlf text = false) := by
  intro check
  obtain ⟨heap, table, draft, hprepared, hwritten⟩ := (course_of_result hw).prepared
  obtain ⟨t, -, hwrite⟩ := hwritten hc
  obtain ⟨s₁, text, ht, hstrict, rfl, rfl, -⟩ := leads_prepare_ok_iff.mp hprepared
  obtain rfl := s₁.eq s
  refine ⟨text, ht, ?_⟩
  -- the next job finds what was written
  have hread : (j.behind settings w).tree.read j.inputPath =
      .ok (Utf8.encode (Text.restoring s₁.raw text)) := by
    rw [← outputPath_eq_inputPath hd]
    exact FileTree.read_of_write hwrite
  have hfound : j.checking.Found (j.behind settings w).tree := by
    refine ⟨FileTree.isFile_eq_true_iff.mpr ⟨_, hread⟩, fun path hpath => ?_⟩
    obtain ⟨_, hr⟩ := (of_leads_loadTable hload).1 path hpath
    exact isFile_of_ofFile hr
  rw [check_ok_iff rfl hfound (s₁.behind hread hload)]
  constructor
  · rintro ⟨text', -, -, hequal⟩
    by_contra hcrlf
    obtain ⟨hraw, htext⟩ := not_or.mp hcrlf
    have hraw : Text.hasCrlf s₁.raw = false := Bool.eq_false_iff.mpr hraw
    have htext : Text.hasCrlf text = true := Bool.not_eq_false _ ▸ htext
    have hdocument : s₁.document = s₁.raw := Text.toLf_eq_self hraw
    -- there is a section, so a bare line feed stands behind its name
    have hbare : Text.BareLf text := by
      refine (Compiler.eq_or_bareLf_of_compile ht (hdocument ▸ hraw)).resolve_left fun hsame => ?_
      rw [hsame, hdocument, hraw] at htext
      cases htext
    have hrestored : Text.restoring s₁.raw text = text := by
      rw [Text.restoring, if_neg (by simp [hraw])]
    have hequal : Text.restoring (Text.restoring s₁.raw text) text' = Text.restoring s₁.raw text :=
      hequal
    rw [hrestored] at hequal
    exact Text.restoring_ne_of_bareLf htext hbare text' hequal
  · intro hcrlf
    obtain ⟨hdocument, hrestored⟩ := Text.toLf_restoring hcrlf
    obtain ⟨parts', hp', hgist, hagain⟩ := Compiler.compile_compiled hb hp hblind hfirst ht
    have hcompiled : (s₁.behind hread hload).compilation =
        (s₁.compiler.compile text).run s₁.heap := by
      show (s₁.compiler.compile (Text.toLf (Text.restoring s₁.raw text))).run s₁.heap = _
      rw [hdocument]
    refine ⟨text, hcompiled ▸ hagain, fun hmode => ?_, hrestored⟩
    rw [Setup.warnings, hcompiled]
    exact s₁.warnings_behind hp ht (hstrict hmode) hp' hgist

end Behind

/-! ## A job over its own document -/

/-- The job to compile the document over itself, with a value that is set by hand. -/
def overItself : Job :=
  { sample with propertyFile := none, assignments := ["v=1".toList],
                outputDirectory := sample.inputDirectory }

/-- The value that is set by hand. -/
def overItselfTable : Properties := [(['v'], .text ['1'])]

theorem overItself_loads (w : Workplace) :
    overItself.loadTable.Leads w w (.ok overItselfTable) := ⟨rfl, rfl⟩

/-- The usual compiler for this job. -/
def overItselfCompiler : Compiler Heap where
  delimiters := .angled
  resolver := Compiler.propertyResolver ({} : Settings).unknownSuffix overItselfTable
  evaluator := Compiler.programEvaluator { properties := overItselfTable }
  unknownSuffix := ({} : Settings).unknownSuffix
  workers := ⟨1, Nat.one_pos⟩

/-- What the job finds. -/
def overItselfSetup (document : Text) : Setup {} overItself { tree := sampleTree document } where
  bytes := Utf8.encode document
  raw := document
  table := overItselfTable
  heap := .empty
  compiler := overItselfCompiler
  read_eq := rfl
  decode_eq := Utf8.decode_eq_ok_iff.mpr rfl
  loads := overItself_loads _
  compiler_eq := rfl

/-- A single section renders blindly if its program, filled in, does not use the name of the
previous output. -/
theorem overItself_rendersBlindly (sec : Section) {program : Text} (output : Text)
    (hfill : ∀ h,
      ((overItselfCompiler.fillProgram sec.name sec.program).run h).result = .ok program)
    (hn : ∀ p, Program.parse program = .ok p → ProgramEvaluator.inputName ∉ p.names)
    (hr : ((overItselfCompiler.evaluateSections [sec]).run .empty).result = .ok [⟨sec, output⟩]) :
    overItselfCompiler.RendersBlindly .empty [sec] [output] := by
  refine Compiler.rendersBlindly_of_names (e := { properties := overItselfTable }) rfl ?_ hr
  rintro s' hs' program' ⟨h, hends⟩ p hp
  obtain rfl := List.mem_singleton.mp hs'
  obtain rfl : program = program' := Except.ok.inj ((hfill h).symm.trans hends)
  exact hn p hp

/-- The program of a section makes the first end of line of two characters. The document is written
with one such end of line among others, and the check that follows asks for it everywhere. -/
theorem run_checking_behind_crlf :
    let document := "<<a\noutput='a\\r\\nb'>>old<</a>>".toList
    let w : Workplace := { tree := sampleTree document }
    let s := overItselfSetup document
    let check := (overItself.checking.run {}).run (overItself.behind {} w)
    overItself.outputDirectory = overItself.inputDirectory ∧ overItself.check = false ∧
      (∃ j', ((overItself.run {}).run w).result = .ok j') ∧
      (∃ parts outputs, parse s.compiler.delimiters s.document = .ok parts ∧
        s.compiler.RendersBlindly s.heap (sectionsOf parts) outputs ∧
        (∀ output ∈ outputs, Text.EndsFirst s.compiler.delimiters.opening output)) ∧
      s.compiler.style = .verbatim ∧
      (∃ s, check.result = .error s) ∧ exitCode? check = some 1 ∧
      (CommandLine.Verdict.ofResult check.result).errorOutput check.state.heap =
        "/i/d is out of date\n" := by
  intro document w s check
  let sec : Section := {
    name := ['a'], header := ['a'], program := "output='a\\r\\nb'".toList, stale := "old".toList,
    closingTag := "<</a>>".toList, span := ⟨0, 30⟩ }
  have hp : parse .angled s.document = .ok [.live sec] := by decide +kernel
  have htemplate : Template.ofText sec.program = ⟨sec.program, []⟩ := by decide +kernel
  have hfill (h : Heap) : ((overItselfCompiler.fillProgram sec.name sec.program).run h).result =
      .ok sec.program := by
    rw [Compiler.fillProgram, htemplate]
    rfl
  have hnames : Program.avoids ProgramEvaluator.inputName sec.program = true := by decide +kernel
  have hblind := overItself_rendersBlindly sec "\na\r\nb\n".toList hfill
    (Program.avoids_iff.mp hnames) (by decide +kernel)
  have hwrite : ((overItself.run {}).run w).result.isOk = true := by decide +kernel
  have hcheck : check.result.isOk = false ∧ exitCode? check = some 1 ∧
      (CommandLine.Verdict.ofResult check.result).errorOutput check.state.heap =
        "/i/d is out of date\n" := by decide +kernel
  exact ⟨rfl, rfl, exists_of_isOk hwrite, ⟨[.live sec], _, hp, hblind, by decide⟩, rfl,
    exists_error_of_isOk_eq_false hcheck.1, hcheck.2⟩

/-- A document whose lines end in two characters: the value that is set by hand is put in, and the
check that follows finds it. -/
theorem run_checking_behind_sample :
    let w : Workplace := { tree := sampleTree sampleSource }
    let s := overItselfSetup sampleSource
    let check := (overItself.checking.run {}).run (overItself.behind {} w)
    overItself.outputDirectory = overItself.inputDirectory ∧ overItself.check = false ∧
      (∃ j', ((overItself.run {}).run w).result = .ok j') ∧
      (∃ parts outputs, parse s.compiler.delimiters s.document = .ok parts ∧
        s.compiler.RendersBlindly s.heap (sectionsOf parts) outputs ∧
        (∀ output ∈ outputs, Text.EndsFirst s.compiler.delimiters.opening output)) ∧
      s.compiler.style = .verbatim ∧
      overItself.loadTable.Leads (overItself.behind {} w)
        { overItself.behind {} w with heap := s.heap } (.ok s.table) ∧
      Text.hasCrlf s.raw = true ∧
      ∃ j'' o, check.result = .ok j'' ∧ j''.outcome = some o ∧ o.changed = false := by
  intro w s check
  let sec : Section := {
    name := ['a'], header := ['a'], program := "output='\x7b\x7bv\x7d\x7d'".toList, stale := [],
    closingTag := "<</a>>".toList, span := ⟨0, 26⟩ }
  have hp : parse .angled s.document = .ok [.live sec] := by decide +kernel
  have htemplate : Template.ofText sec.program =
      ⟨"output='".toList, [(['v'], "'".toList)]⟩ := by decide +kernel
  have hfill (h : Heap) : ((overItselfCompiler.fillProgram sec.name sec.program).run h).result =
      .ok "output='1'".toList := by
    rw [Compiler.fillProgram, htemplate]
    rfl
  have hnames : Program.avoids ProgramEvaluator.inputName "output='1'".toList = true := by
    decide +kernel
  have hblind := overItself_rendersBlindly sec "\n1\n".toList hfill
    (Program.avoids_iff.mp hnames) (by decide +kernel)
  have hfirst : ∀ output ∈ ["\n1\n".toList],
      Text.EndsFirst s.compiler.delimiters.opening output := by decide
  have hwrite : ((overItself.run {}).run w).result.isOk = true := by decide +kernel
  obtain ⟨j', hj'⟩ := exists_of_isOk hwrite
  have hload := overItself_loads (overItself.behind {} w)
  have hraw : Text.hasCrlf s.raw = true := by decide +kernel
  obtain ⟨text, -, hiff⟩ :=
    run_checking_behind rfl rfl hj' s hp hblind hfirst (.inl rfl) hload
  exact ⟨rfl, rfl, ⟨j', hj'⟩, ⟨_, _, hp, hblind, hfirst⟩, rfl, hload, hraw, hiff.mpr (.inl hraw)⟩

end Job

end LiveSections
