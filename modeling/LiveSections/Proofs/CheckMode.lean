import LiveSections.CommandLine.Run
import LiveSections.Proofs.Untouched
import LiveSections.Proofs.Utf8

/-!
# Jobs that only check

- `Job.checking`, `Job.writing`: a job that only checks, and the same job when it writes.
- `Job.Writable`: neither the directory nor the compiled document fails to be written.
- `Job.exitCode?`: the exit code of a run.
- `run_checking`: **a check tells what writing would do, and changes nothing.**
- `run_checking_exit`: a check can end with success although nothing was compiled, if a program asks
  for that.

What is left open: how runs go on that come to something that is not modelled (`Escape.unmodelled`).
Both come to it alike, and neither has an exit code.
-/

namespace LiveSections

namespace Job

open JobStep Session

variable {settings : Settings} {j : Job} {w w' : Workplace}

/-- The job that only checks. -/
def checking (j : Job) : Job := { j with check := true }

/-- The job that writes. -/
def writing (j : Job) : Job := { j with check := false }

/-- A run that is to write can do so: the directory can be made, and the file be written. -/
structure Writable (settings : Settings) (j : Job) (w : Workplace) : Prop where
  directories : j.findFiles.Leads w w (.ok ()) →
    (w.tree.makeDirectories j.outputPath.parent).2 = .ok ()
  file : ∀ t h table draft, w.tree.makeDirectories j.outputPath.parent = (t, .ok ()) →
    (j.prepare settings).Leads ⟨t, w.heap⟩ ⟨t, h⟩ (.ok (table, draft)) →
      ∃ t', t.write j.outputPath (Utf8.encode draft.text) = .ok t'

/-- A job can write where its directory can be made and no directory has the name of its output. -/
theorem Writable.of_locate (place : Place)
    (hd : (w.tree.makeDirectories j.outputPath.parent).2 = .ok ())
    (hl : let t := (w.tree.makeDirectories j.outputPath.parent).1
      t.locate j.outputPath = .ok place ∧ t.entry? place ≠ some .directory) :
    Writable settings j w where
  directories _ := hd
  file t _ _ draft ht _ := by
    rw [ht] at hl
    exact FileTree.exists_write hl.1 hl.2 _

/-- The exit code of a run, unless an exception ends it. -/
def exitCode? (e : Ending Workplace Stop Job) : Option Nat :=
  (CommandLine.Verdict.ofResult e.result).exitCode? e.state.heap

theorem exitCode?_of_ok {e : Ending Workplace Stop Job} {j' : Job} (h : e.result = .ok j') :
    exitCode? e = some 0 := by
  rw [exitCode?, h]
  rfl

theorem exitCode?_of_refused {e : Ending Workplace Stop Job} {r : Refusal}
    (h : e.result = .error (.refused r)) : exitCode? e = some 1 := by
  rw [exitCode?, h]
  rfl

/-- How a run that checks goes, told by how the run goes that writes. -/
theorem Course.checking {r : Except Stop Job} (h : Course settings j.writing w w' r)
    (hw : Writable settings j w) :
    (∃ s, r = .error s ∧
      (j.checking.run settings).Leads w { w with heap := w'.heap } (.error s)) ∨
    (∃ table draft bytes, r = .ok (j.writing.finished table draft) ∧
      w.tree.read j.inputPath = .ok bytes ∧
      w'.tree.read j.outputPath = .ok (Utf8.encode draft.text) ∧ bytes = Utf8.encode draft.raw ∧
      (j.checking.run settings).Leads w { w with heap := w'.heap }
        (if draft.text = draft.raw then .ok (j.checking.finished table draft)
          else .error (.refused (.outOfDate j.inputPath)))) := by
  cases h with
  | unfound hf =>
    exact .inl ⟨_, rfl, (Course.unfound (j := j.checking) hf).leads⟩
  | unopened hf hc hd =>
    exact nomatch (congrArg Prod.snd hd).symm.trans (hw.directories hf)
  | unprepared hf ho hp =>
    have hprepared := prepare_of_grows (j := j.checking) hf (grows_of_openTarget ho) hp
    exact .inl ⟨_, rfl, (Course.unprepared (j := j.checking) (t := w.tree) hf
      (leads_openTarget_check rfl w) hprepared).leads⟩
  | compared hf hc hp => cases hc
  | unwritten hf hc hd hp he =>
    obtain ⟨t', ht'⟩ := hw.file _ _ _ _ hd hp
    cases he.symm.trans ht'
  | @written t t' heap table draft hf hc hd hp hwrite =>
    have hgrows := FileTree.grows_of_makeDirectories hd
    have hprepared := prepare_of_grows (j := j.checking) hf hgrows hp
    obtain ⟨s, text, -, -, -, rfl, -⟩ := leads_prepare_ok_iff.mp hprepared
    exact .inr ⟨_, _, s.bytes, rfl, s.read_eq, FileTree.read_of_write hwrite,
      Utf8.decode_eq_ok_iff.mp s.decode_eq,
      (Course.compared (j := j.checking) hf rfl hprepared).leads⟩

/-- A run that checks leaves the tree as it is. -/
theorem Course.tree_eq {r : Except Stop Job} (h : Course settings j w w' r)
    (hc : j.check = true) : w'.tree = w.tree := by
  cases h with
  | unfound hf => rfl
  | unopened hf hwrite hd => cases hc.symm.trans hwrite
  | unprepared hf ho hp =>
    obtain ⟨hw, -⟩ := ho.unique (leads_openTarget_check hc w)
    have htree := congrArg Workplace.tree hw
    exact htree
  | compared hf hcheck hp => rfl
  | unwritten hf hwrite hd hp hw => cases hc.symm.trans hwrite
  | written hf hwrite hd hp hw => cases hc.symm.trans hwrite

/-- **A check tells what writing would do, and changes nothing.** If writing comes to its end, the
check ends with success exactly if the bytes that are written are those of the document, and else it
says that the document is out of date. If writing fails, the check fails in the same way, with the
same exit code. -/
theorem run_checking (settings : Settings) (j : Job) (w : Workplace) :
    let check := (j.checking.run settings).run w
    let write := (j.writing.run settings).run w
    check.state.tree = w.tree ∧
    (Writable settings j w →
      (exitCode? check = some 0 ↔
        (∃ j' bytes, write.result = .ok j' ∧ w.tree.read j.inputPath = .ok bytes ∧
          write.state.tree.read j.outputPath = .ok bytes) ∨
        ((∃ s, write.result = .error s) ∧ exitCode? write = some 0)) ∧
      (∀ j' bytes bytes', write.result = .ok j' → w.tree.read j.inputPath = .ok bytes →
        write.state.tree.read j.outputPath = .ok bytes' → bytes' ≠ bytes →
          check.result = .error (.refused (.outOfDate j.inputPath)) ∧ exitCode? check = some 1) ∧
      (∀ s, write.result = .error s →
        check.result = .error s ∧ check.state.heap = write.state.heap ∧
          exitCode? check = exitCode? write)) := by
  intro check write
  have hcheck : Course settings j.checking w check.state check.result := course_run _ _ w
  have hwrite : Course settings j.writing w write.state write.result := course_run _ _ w
  refine ⟨hcheck.tree_eq rfl, fun hw => ?_⟩
  rcases hwrite.checking hw with ⟨s, hs, hstate, hresult⟩ |
    ⟨table, draft, bytes, hok, hread, hwritten, hbytes, hstate, hresult⟩
  · -- both fail in the same way
    have hheap : check.state.heap = write.state.heap := by
      have h := congrArg Workplace.heap hstate
      exact h
    have hcode : exitCode? check = exitCode? write := by
      rw [exitCode?, exitCode?, hheap, hs, show check.result = .error s from hresult]
    refine ⟨?_, fun _ _ _ hok => (by cases hs.symm.trans hok), fun s' hs' => ?_⟩
    · rw [hcode]
      refine ⟨fun h => .inr ⟨⟨s, hs⟩, h⟩, ?_⟩
      rintro (⟨j', _, hok, -⟩ | ⟨-, h⟩)
      · cases hs.symm.trans hok
      · exact h
    · obtain rfl := Except.error.inj (hs.symm.trans hs')
      exact ⟨hresult, hheap, hcode⟩
  · -- the texts differ exactly if the bytes do
    have hsame : draft.text = draft.raw ↔ Utf8.encode draft.text = bytes := by
      rw [hbytes, Utf8.encode_inj]
    have hresult : check.result = _ := hresult
    by_cases heq : draft.text = draft.raw
    · rw [if_pos heq] at hresult
      have hcode : exitCode? check = some 0 := exitCode?_of_ok hresult
      rw [hsame.mp heq] at hwritten
      refine ⟨iff_of_true hcode (.inl ⟨_, bytes, hok, hread, hwritten⟩), ?_, ?_⟩
      · intro j' bytes₁ bytes₂ _ hread₁ hwritten₂ hne
        cases hread.symm.trans hread₁
        cases hwritten.symm.trans hwritten₂
        exact absurd rfl hne
      · exact fun s hs => nomatch hok.symm.trans hs
    · rw [if_neg heq] at hresult
      have hcode : exitCode? check = some 1 := exitCode?_of_refused hresult
      refine ⟨?_, fun _ _ _ _ _ _ _ => ⟨hresult, hcode⟩, fun s hs => nomatch hok.symm.trans hs⟩
      rw [hcode]
      refine iff_of_false nofun ?_
      rintro (⟨j', bytes', -, hread', hwritten'⟩ | ⟨⟨s, hs⟩, -⟩)
      · cases hread.symm.trans hread'
        exact heq (hsame.mpr (Except.ok.inj (hwritten.symm.trans hwritten')))
      · cases hok.symm.trans hs

/-- A program asks to stop with success. The check ends so, and writing does as well, without a
compiled document. -/
theorem run_checking_exit :
    let w : Workplace := { tree := sampleTree "<<a\nraise SystemExit(0)>><</a>>".toList }
    let check := (sample.checking.run {}).run w
    let write := (sample.writing.run {}).run w
    Writable {} sample w ∧ exitCode? check = some 0 ∧ (∃ s, write.result = .error s) ∧
      write.state.tree.file? [['o'], ['d']] = none ∧
      ¬(exitCode? check = some 0 ↔ ∃ j' bytes, write.result = .ok j' ∧
        w.tree.read sample.inputPath = .ok bytes ∧
        write.state.tree.read sample.outputPath = .ok bytes) := by
  intro w check write
  have hw : Writable {} sample w :=
    .of_locate [['o'], ['d']] (by decide +kernel) (by decide +kernel)
  have hcheck : exitCode? check = some 0 := by decide +kernel
  have hwrite : write.result.isOk = false ∧ write.state.tree.file? [['o'], ['d']] = none := by
    decide +kernel
  obtain ⟨s, hs⟩ := exists_error_of_isOk_eq_false hwrite.1
  refine ⟨hw, hcheck, ⟨s, hs⟩, hwrite.2, fun h => ?_⟩
  obtain ⟨j', _, hok, -⟩ := h.mp hcheck
  cases hs.symm.trans hok

/-- The document is out of date before it has been compiled, and up to date afterwards. -/
theorem run_checking_sample :
    let w : Workplace := { tree := sampleTree sampleSource }
    let w' : Workplace := { tree := sampleTree sampleOutput }
    let check := (sample.checking.run {}).run w
    let check' := (sample.checking.run {}).run w'
    Writable {} sample w ∧ Writable {} sample w' ∧
      check.result = .error (.refused (.outOfDate sample.inputPath)) ∧
      exitCode? check = some 1 ∧ check.state.tree = w.tree ∧
      exitCode? check' = some 0 ∧ check'.state.tree = w'.tree := by
  intro w w' check check'
  have hw : Writable {} sample w :=
    .of_locate [['o'], ['d']] (by decide +kernel) (by decide +kernel)
  have hw' : Writable {} sample w' :=
    .of_locate [['o'], ['d']] (by decide +kernel) (by decide +kernel)
  obtain ⟨htree, h⟩ := run_checking {} sample w
  obtain ⟨-, hdiffers, -⟩ := h hw
  obtain ⟨htree', h'⟩ := run_checking {} sample w'
  obtain ⟨hsame, -, -⟩ := h' hw'
  -- writing compiles both documents to the same bytes
  have hwrite : ((sample.writing.run {}).run w).result.isOk = true ∧
      ((sample.writing.run {}).run w).state.tree.read sample.outputPath =
        .ok (Utf8.encode sampleOutput) := by decide +kernel
  have hwrite' : ((sample.writing.run {}).run w').result.isOk = true ∧
      ((sample.writing.run {}).run w').state.tree.read sample.outputPath =
        .ok (Utf8.encode sampleOutput) := by decide +kernel
  obtain ⟨j₁, hj₁⟩ := exists_of_isOk hwrite.1
  obtain ⟨j₂, hj₂⟩ := exists_of_isOk hwrite'.1
  have hread : w.tree.read sample.inputPath = .ok (Utf8.encode sampleSource) := by decide +kernel
  have hread' : w'.tree.read sample.inputPath = .ok (Utf8.encode sampleOutput) := by decide +kernel
  have hne : Utf8.encode sampleOutput ≠ Utf8.encode sampleSource := by decide +kernel
  obtain ⟨hresult, hcode⟩ := hdiffers j₁ _ _ hj₁ hread hwrite.2 hne
  exact ⟨hw, hw', hresult, hcode, htree, hsame.mpr (.inl ⟨j₂, _, hj₂, hread', hwrite'.2⟩), htree'⟩

end Job

end LiveSections
