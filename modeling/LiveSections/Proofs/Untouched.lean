import LiveSections.Proofs.Setup

/-!
# Files that a run leaves alone

- `Job.Hindered`: what keeps a job from its end.
- `run_writes`: **a run writes the compiled document and no other file, and that only if it comes to
  its end.** Nothing that hinders a job lets it come to its end.

What is left open: how a run goes on that comes to something that is not modelled
(`Escape.unmodelled`). It stops there, but that does not count as something that hinders it.
-/

namespace LiveSections

namespace Job

open JobStep Session

variable {settings : Settings} {j : Job} {w w' : Workplace}

/-- What keeps a job from its end. -/
inductive Hindered (settings : Settings) (j : Job) (w : Workplace) : Prop where
  /-- The property file gives no properties. -/
  | propertyFile {path : Path} {e : PropertyFileError} (hp : j.propertyPath? = some path)
      (he : Properties.ofFile w.tree path w.heap = .error e) (hmodelled : ∀ u, e ≠ .unmodelled u)
  /-- A value was not set in the way it should be. -/
  | assignment {e : BadAssignment} (he : readAssignments j.assignments = .error e)
  /-- A value was to be set for the reserved key. -/
  | reserved {values : Table Text Text} (hv : readAssignments j.assignments = .ok values)
      (hk : values.has Properties.reservedKey = true)
  /-- Less than one worker is asked for. -/
  | workers (hw : j.workers.getD settings.maxWorkers < 1)
  /-- The document cannot be read. -/
  | malformed (s : Setup settings j w) {e : ParseError}
      (he : parse s.compiler.delimiters s.document = .error e)
  /-- A section has no output. -/
  | evaluation (s : Setup settings j w) {e : Failure}
      (he : s.compilation.result = .error (.failed e)) (hmodelled : ∀ u, e ≠ .unmodelled u)
  /-- In a strict run the program of a section has a key that stands for nothing. -/
  | unmapped (hs : settings.strictMode = true) (s : Setup settings j w) {parts : List Part}
      (hp : parse s.compiler.delimiters s.document = .ok parts) {sec : Section}
      (hsection : sec ∈ sectionsOf parts) {key : Text}
      (hkey : key ∈ (Template.ofText sec.program).keys) (hu : s.table.Unmapped key)

/-- What hinders a job keeps it from a compiled text. -/
theorem Hindered.not_prepared (h : Hindered settings j w) {table : Properties} {draft : Draft} :
    ¬(j.prepare settings).Leads w w' (.ok (table, draft)) := by
  intro hp
  obtain ⟨s, text, htext, hstrict, -⟩ := leads_prepare_ok_iff.mp hp
  cases h with
  | propertyFile hpath he _ =>
    obtain ⟨r, hr⟩ := (of_leads_loadTable s.loads).1 _ hpath
    cases he.symm.trans hr
  | assignment he =>
    obtain ⟨values, hvalues, -⟩ := (of_leads_loadTable s.loads).2
    cases he.symm.trans hvalues
  | reserved hv hk =>
    obtain ⟨values, hvalues, hfree⟩ := (of_leads_loadTable s.loads).2
    obtain rfl := Except.ok.inj (hv.symm.trans hvalues)
    cases hk.symm.trans hfree
  | workers hw =>
    have hpos := s.compiler_spec.2.2
    omega
  | malformed s' he =>
    obtain rfl := s'.eq s
    obtain ⟨parts, hparts⟩ := Compiler.exists_parts_of_compile_ok htext
    cases he.symm.trans hparts
  | evaluation s' he _ =>
    obtain rfl := s'.eq s
    cases he.symm.trans htext
  | unmapped hs s' hparts hsection hkey hu =>
    obtain rfl := s'.eq s
    exact s'.mapped_of_warnings htext (hstrict hs) hparts hsection hkey hu

/-- A run that does not write has made directories at most. -/
theorem Course.grows {r : Except Stop Job} (h : Course settings j w w' r)
    (hr : j.check = true ∨ ∃ s, r = .error s) : w.tree.Grows w'.tree := by
  cases h with
  | unfound hf => exact .refl _
  | unopened hf hc hd => exact FileTree.grows_of_makeDirectories hd
  | unprepared hf ho hp => exact grows_of_openTarget ho
  | compared hf hc hp => exact .refl _
  | unwritten hf hc hd hp hw => exact FileTree.grows_of_makeDirectories hd
  | written hf hc hd hp hw =>
    rcases hr with hcheck | ⟨s, hs⟩
    · cases hc.symm.trans hcheck
    · cases hs

/-- What is prepared once directories have been made is prepared without them as well. -/
theorem prepare_of_grows {t : FileTree} {h : Heap} {r : Except Stop (Properties × Draft)}
    (hf : j.findFiles.Leads w w (.ok ())) (hg : w.tree.Grows t)
    (hp : (j.prepare settings).Leads ⟨t, w.heap⟩ ⟨t, h⟩ r) :
    (j.prepare settings).Leads w { w with heap := h } r := by
  have hsame := prepare_sameOver settings ((leads_findFiles_ok_iff.mp hf).sameFiles hg)
  obtain ⟨h', heq, hleads⟩ := hsame.leads hp
  obtain rfl : h = h' := congrArg Workplace.heap heq
  exact hleads

/-- A run that comes to its end has prepared a compiled text. -/
theorem Course.prepared {j' : Job} (h : Course settings j w w' (.ok j')) :
    ∃ heap table draft, (j.prepare settings).Leads w { w with heap } (.ok (table, draft)) ∧
      (j.check = false →
        ∃ t, w.tree.Grows t ∧ t.write j.outputPath (Utf8.encode draft.text) = .ok w'.tree) := by
  generalize hr : (Except.ok j' : Except Stop Job) = r at h
  cases h with
  | unfound hf => cases hr
  | unopened hf hc hd => cases hr
  | unprepared hf ho hp => cases hr
  | compared hf hc hp => exact ⟨_, _, _, hp, fun hcheck => nomatch hc.symm.trans hcheck⟩
  | unwritten hf hc hd hp hw => cases hr
  | written hf hc hd hp hw =>
    have hgrows := FileTree.grows_of_makeDirectories hd
    exact ⟨_, _, _, prepare_of_grows hf hgrows hp, fun _ => ⟨_, hgrows, hw⟩⟩

/-- **A run writes the compiled document and no other file, and that only if it comes to its end.**
Nothing that hinders a job lets it come to its end. -/
theorem run_writes (settings : Settings) (j : Job) (w : Workplace) :
    let e := (j.run settings).run w
    ((j.check = true ∨ ∃ s, e.result = .error s) →
      ∀ place, e.state.tree.file? place = w.tree.file? place) ∧
    (∀ j', j.check = false → e.result = .ok j' →
      ∃ (s : Setup settings j w) (text : Text) (place : Place),
        s.compilation.result = .ok text ∧ e.state.tree.locate j.outputPath = .ok place ∧
        e.state.tree.file? place = some (Utf8.encode (Text.restoring s.raw text)) ∧
        ∀ other, other ≠ place → e.state.tree.file? other = w.tree.file? other) ∧
    (Hindered settings j w → ∀ j', e.result ≠ .ok j') := by
  intro e
  refine ⟨fun hr => ?_, fun j' hc hr => ?_, fun hh j' hr => ?_⟩
  · have hcourse : Course settings j w e.state e.result := course_run settings j w
    exact (hcourse.grows hr).file
  · obtain ⟨heap, table, draft, hp, hwritten⟩ := (course_of_result hr).prepared
    obtain ⟨t, hgrows, hw⟩ := hwritten hc
    obtain ⟨s, text, htext, -, -, rfl, -⟩ := leads_prepare_ok_iff.mp hp
    obtain ⟨place, hl, hfile, hothers⟩ := FileTree.write_spec hw
    exact ⟨s, text, place, htext, hl, hfile, fun other hne =>
      (hothers other hne).trans (hgrows.file other)⟩
  · obtain ⟨heap, table, draft, hp, -⟩ := (course_of_result hr).prepared
    exact hh.not_prepared hp

/-- A directory with a document and a property file. -/
def sampleTree (document : Text) : FileTree where
  entries := [([['i']], .directory), ([['i'], ['d']], .file (Utf8.encode document)),
    ([['i'], ['p']], .file (Utf8.encode "v: 1".toList))]

/-- A document whose lines end in two characters, before it is compiled. -/
def sampleSource : Text := "<<a\r\noutput='\x7b\x7bv\x7d\x7d'>><</a>>".toList

/-- The compiled document. -/
def sampleOutput : Text := "<<a\r\noutput='\x7b\x7bv\x7d\x7d'>>\r\n1\r\n<</a>>".toList

/-- The job to compile the document into another directory. -/
def sample : Job :=
  start { inputFile := ['d'], propertyFile := some ['p'], openMarker := some "<<".toList,
          closeMarker := some ">>".toList } (Path.ofText "/i".toList) (Path.ofText "/o".toList)

/-- The compiled document is written next to nothing else. The same job with a bad assignment fails
and leaves all files as they are. -/
theorem run_writes_sample :
    let w : Workplace := { tree := sampleTree sampleSource }
    let bad := { sample with assignments := [['v']] }
    let e := (sample.run {}).run w
    let e' := (bad.run {}).run w
    (∃ j', e.result = .ok j') ∧
      (∃ (s : Setup {} sample w) (text : Text) (place : Place),
        s.compilation.result = .ok text ∧ e.state.tree.locate sample.outputPath = .ok place ∧
        e.state.tree.file? place = some (Utf8.encode (Text.restoring s.raw text)) ∧
        ∀ other, other ≠ place → e.state.tree.file? other = w.tree.file? other) ∧
      e.state.tree.file? [['o'], ['d']] = some (Utf8.encode sampleOutput) ∧
      Hindered {} bad w ∧ (∀ j', e'.result ≠ .ok j') ∧ (∃ s, e'.result = .error s) ∧
      ∀ place, e'.state.tree.file? place = w.tree.file? place := by
  intro w bad e e'
  obtain ⟨-, hwrites, -⟩ := run_writes {} sample w
  obtain ⟨hkeeps, -, hends⟩ := run_writes {} bad w
  have hrun : e.result.isOk = true ∧
      e.state.tree.file? [['o'], ['d']] = some (Utf8.encode sampleOutput) := by decide +kernel
  obtain ⟨j', hj'⟩ := exists_of_isOk hrun.1
  have hbad : Hindered {} bad w := .assignment (e := ⟨['v']⟩) (by decide +kernel)
  have herror : ∃ s, e'.result = .error s := by
    cases hr : e'.result with
    | error s => exact ⟨s, rfl⟩
    | ok j' => exact absurd hr (hends hbad j')
  exact ⟨⟨j', hj'⟩, hwrites j' rfl hj', hrun.2, hbad, hends hbad, herror, hkeeps (.inr herror)⟩

end Job

end LiveSections
