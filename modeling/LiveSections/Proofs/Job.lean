import LiveSections.Job.Stages
import LiveSections.Proofs.FileTree
import LiveSections.Proofs.Session

/-!
# Runs of jobs

A job looks for its files, makes the directory of the compiled document, compiles, writes, and
reports. All but two of these steps do no more than read files.

- `Session.Leads`: where a run from a state leads, and how it ends.
- `JobStep.SameOver`: a step that goes the same way over two trees, and changes neither.
- `Job.prepare`: all that a job does before it writes; `Job.conclude`: the rest.
- `Job.Course`: **the ways a run can take,** with what holds on each of them.
- `Job.course_run`: every run takes one of them.
-/

namespace LiveSections

/-! ## Where runs lead -/

namespace Session

variable {σ ε α β : Type} {x : Session σ ε α} {f : α → Session σ ε β} {s s' s'' : σ}

/-- A run from `s` leads to `s'`, and ends with `r`. -/
def Leads (x : Session σ ε α) (s s' : σ) (r : Except ε α) : Prop :=
  (x.run s).state = s' ∧ (x.run s).result = r

theorem leads_run (x : Session σ ε α) (s : σ) :
    x.Leads s (x.run s).state (x.run s).result := ⟨rfl, rfl⟩

theorem Leads.unique {r r' : Except ε α} (h : x.Leads s s' r) (h' : x.Leads s s'' r') :
    s' = s'' ∧ r = r' :=
  ⟨h.1.symm.trans h'.1, h.2.symm.trans h'.2⟩

theorem Leads.bind {a : α} {r : Except ε β} (hx : x.Leads s s' (.ok a))
    (hf : (f a).Leads s' s'' r) : (x >>= f).Leads s s'' r := by
  obtain ⟨rfl, hr⟩ := hx
  rw [Leads, run_bind_of_ok hr]
  exact hf

theorem Leads.bind_error {e : ε} (hx : x.Leads s s' (.error e)) :
    (x >>= f).Leads s s' (.error e) := by
  obtain ⟨rfl, hr⟩ := hx
  rw [Leads, run_bind_of_error hr]
  exact ⟨rfl, rfl⟩

/-- A run that succeeds leads through its first step. -/
theorem leads_bind_ok_iff {b : β} : (x >>= f).Leads s s'' (.ok b) ↔
    ∃ a s', x.Leads s s' (.ok a) ∧ (f a).Leads s' s'' (.ok b) := by
  refine ⟨fun h => ?_, fun ⟨a, s', hx, hf⟩ => hx.bind hf⟩
  obtain ⟨a, ha, hb⟩ := result_bind_eq_ok_iff.mp h.2
  have hx : x.Leads s (x.run s).state (.ok a) := ⟨rfl, ha⟩
  have hf := leads_run (f a) (x.run s).state
  rw [hb] at hf
  obtain ⟨hstate, -⟩ := (hx.bind hf).unique h
  exact ⟨a, _, hx, hstate ▸ hf⟩

theorem leads_pure (a : α) (s : σ) : (pure a : Session σ ε α).Leads s s (.ok a) := ⟨rfl, rfl⟩

theorem leads_get (s : σ) : (get : Session σ ε σ).Leads s s (.ok s) := ⟨rfl, rfl⟩

theorem leads_emitAll (es : List Event) (s : σ) :
    (emitAll es : Session σ ε Unit).Leads s s (.ok ()) := ⟨rfl, rfl⟩

theorem leads_log (level : Int) (message : String) (s : σ) :
    (log level message : Session σ ε Unit).Leads s s (.ok ()) := ⟨rfl, rfl⟩

theorem leads_fail (e : ε) (s : σ) : (fail e : Session σ ε α).Leads s s (.error e) := ⟨rfl, rfl⟩

end Session

/-! ## Steps that only read -/

namespace JobStep

variable {α β : Type} {t t' : FileTree}

theorem leads_askTree (f : FileTree → Except FileError α) (w : Workplace) :
    (askTree f).Leads w w ((f w.tree).mapError fun e => .escaped (.file e)) := by
  have htree : tree.Leads w w (.ok w.tree) := ⟨rfl, rfl⟩
  refine htree.bind ?_
  cases f w.tree <;> exact ⟨rfl, rfl⟩

theorem leads_changeTree {f : FileTree → Except FileError FileTree} {w : Workplace}
    (h : f w.tree = .ok t') : (changeTree f).Leads w { w with tree := t' } (.ok ()) := by
  have hask := leads_askTree f w
  rw [h] at hask
  exact hask.bind ⟨rfl, rfl⟩

theorem leads_changeTree_error {f : FileTree → Except FileError FileTree} {w : Workplace}
    {e : FileError} (h : f w.tree = .error e) :
    (changeTree f).Leads w w (.error (.escaped (.file e))) := by
  have hask := leads_askTree f w
  rw [h] at hask
  exact hask.bind_error

/-- Over either tree a run goes the same way, and it leaves the tree as it is. -/
def SameOver (t t' : FileTree) (x : JobStep α) : Prop :=
  ∀ h, ∃ h' r, x.Leads ⟨t, h⟩ ⟨t, h'⟩ r ∧ x.Leads ⟨t', h⟩ ⟨t', h'⟩ r

namespace SameOver

theorem pure (a : α) : SameOver t t' (Pure.pure a : JobStep α) :=
  fun h => ⟨h, .ok a, ⟨rfl, rfl⟩, ⟨rfl, rfl⟩⟩

theorem fail (e : Stop) : SameOver t t' (Session.fail e : JobStep α) :=
  fun h => ⟨h, .error e, ⟨rfl, rfl⟩, ⟨rfl, rfl⟩⟩

theorem emitAll (es : List Event) : SameOver t t' (Session.emitAll es : JobStep Unit) :=
  fun h => ⟨h, .ok (), ⟨rfl, rfl⟩, ⟨rfl, rfl⟩⟩

theorem log (level : Int) (message : String) :
    SameOver t t' (Session.log level message : JobStep Unit) :=
  emitAll [.log level message]

theorem bind {x : JobStep α} {f : α → JobStep β} (hx : SameOver t t' x)
    (hf : ∀ a, SameOver t t' (f a)) : SameOver t t' (x >>= f) := by
  intro h
  obtain ⟨h', r, hl, hl'⟩ := hx h
  cases r with
  | error e => exact ⟨h', .error e, hl.bind_error, hl'.bind_error⟩
  | ok a =>
    obtain ⟨h'', r, hf, hf'⟩ := hf a h'
    exact ⟨h'', r, hl.bind hf, hl'.bind hf'⟩

/-- A run over one tree tells how a run over the other goes. -/
theorem leads {x : JobStep α} (hx : SameOver t t' x) {h : Heap} {w' : Workplace}
    {r : Except Stop α} (hr : x.Leads ⟨t', h⟩ w' r) :
    ∃ h', w' = ⟨t', h'⟩ ∧ x.Leads ⟨t, h⟩ ⟨t, h'⟩ r := by
  obtain ⟨h', r', hl, hl'⟩ := hx h
  obtain ⟨rfl, rfl⟩ := hl'.unique hr
  exact ⟨h', rfl, hl⟩

/-- A question about the files that has the same answer. -/
theorem askTree {f : FileTree → Except FileError α} (hf : f t = f t') :
    SameOver t t' (JobStep.askTree f) := by
  intro h
  refine ⟨h, _, leads_askTree f ⟨t, h⟩, ?_⟩
  show _ = _ ∧ _ = (f t).mapError _
  rw [hf]
  exact leads_askTree f ⟨t', h⟩

/-- A computation over the heap does not look at files. -/
theorem onHeap {ε : Type} (x : Session Heap ε α) (f : ε → Stop) :
    SameOver t t' ((JobStep.onHeap x).mapError f).listen :=
  fun h => ⟨(x.run h).state, ((x.run h).result.mapError f).map (·, (x.run h).events),
    ⟨rfl, rfl⟩, ⟨rfl, rfl⟩⟩

end SameOver

end JobStep

namespace Job

open JobStep Session

variable {settings : Settings} {j : Job} {t t' : FileTree} {w : Workplace}

/-! ## The stages -/

/-- The trees have the same bytes where a job reads. -/
structure SameFiles (j : Job) (t t' : FileTree) : Prop where
  source : t.read j.inputPath = t'.read j.inputPath
  properties : ∀ path ∈ j.propertyPath?, t.read path = t'.read path

theorem sameFiles_self (j : Job) (t : FileTree) : j.SameFiles t t := ⟨rfl, fun _ _ => rfl⟩

/-- Stops the job unless the path leads to a file. -/
theorem leads_requireFile (path : Path) (r : Refusal) (w : Workplace) :
    ∃ answer, (requireFile path r).Leads w w answer ∧
      (answer = .ok () ↔ w.tree.isFile path = .ok true) := by
  have hask := leads_askTree (·.isFile path) w
  cases hf : w.tree.isFile path with
  | error e =>
    rw [hf] at hask
    exact ⟨_, hask.bind_error, iff_of_false nofun nofun⟩
  | ok found =>
    rw [hf] at hask
    cases found with
    | false => exact ⟨_, hask.bind (leads_fail _ w), iff_of_false nofun nofun⟩
    | true => exact ⟨_, hask.bind (leads_pure () w), iff_of_true rfl rfl⟩

/-- The files that a job needs are there. -/
structure Found (j : Job) (t : FileTree) : Prop where
  source : t.isFile j.inputPath = .ok true
  properties : ∀ path ∈ j.propertyPath?, t.isFile path = .ok true

/-- To look for the files changes nothing. -/
theorem leads_findFiles (j : Job) (w : Workplace) :
    ∃ answer, j.findFiles.Leads w w answer ∧ (answer = .ok () ↔ j.Found w.tree) := by
  obtain ⟨r, hsource, hfound⟩ := leads_requireFile j.inputPath (.noInputFile j.inputPath) w
  have hstart {x : JobStep Unit} {r : Except Stop Unit} (hx : x.Leads w w r) :
      (do log 2 title; log 2 "Checking environment..."; x).Leads w w r :=
    (leads_log _ _ w).bind ((leads_log _ _ w).bind hx)
  cases r with
  | error s =>
    exact ⟨_, hstart hsource.bind_error, iff_of_false nofun fun h => nomatch hfound.mpr h.source⟩
  | ok u =>
    unfold findFiles
    cases hp : j.propertyPath? with
    | none =>
      exact ⟨_, hstart (hsource.bind ((leads_log _ _ w).bind (leads_pure () w))),
        iff_of_true rfl ⟨hfound.mp rfl, fun _ h => nomatch hp ▸ h⟩⟩
    | some path =>
      obtain ⟨r', hproperties, hfound'⟩ := leads_requireFile path (.noPropertyFile path) w
      refine ⟨_, hstart (hsource.bind ((leads_log _ _ w).bind hproperties)), hfound'.trans ?_⟩
      refine ⟨fun hfile => ⟨hfound.mp rfl, fun path' hpath' => ?_⟩, fun h => h.properties path hp⟩
      obtain rfl : path = path' := Option.some.inj (hp.symm.trans hpath')
      exact hfile

theorem leads_findFiles_ok_iff : j.findFiles.Leads w w (.ok ()) ↔ j.Found w.tree := by
  obtain ⟨r, hr, hfound⟩ := leads_findFiles j w
  rw [← hfound]
  exact ⟨fun h => (hr.unique h).2, fun h => h ▸ hr⟩

/-- With directories more the job reads the same. -/
theorem Found.sameFiles (h : j.Found t) (hg : t.Grows t') : j.SameFiles t t' := by
  have same {path : Path} (hf : t.isFile path = .ok true) : t.read path = t'.read path := by
    obtain ⟨bytes, hr⟩ := FileTree.isFile_eq_true_iff.mp hf
    rw [hr, hg.read hr]
  exact ⟨same h.source, fun path hp => same (h.properties path hp)⟩

theorem leads_loadFile_ok {path : Path} {heap : Heap} {p : Properties}
    (h : Properties.ofFile w.tree path w.heap = .ok (heap, p)) :
    (loadFile path).Leads w { w with heap } (.ok p) := by
  refine (leads_get w).bind ?_
  rw [h]
  exact ⟨rfl, rfl⟩

theorem leads_loadFile_error {path : Path} {e : PropertyFileError}
    (h : Properties.ofFile w.tree path w.heap = .error e) :
    (loadFile path).Leads w w (.error (.ofPropertyFile e)) := by
  refine (leads_get w).bind ?_
  rw [h]
  exact ⟨rfl, rfl⟩

theorem loadFile_sameOver {path : Path} (h : t.read path = t'.read path) :
    SameOver t t' (loadFile path) := by
  intro heap
  have hfile : Properties.ofFile t path heap = Properties.ofFile t' path heap := by
    rw [Properties.ofFile, Properties.ofFile, h]
  cases hr : Properties.ofFile t path heap with
  | error e => exact ⟨heap, _, leads_loadFile_error hr, leads_loadFile_error (hfile ▸ hr)⟩
  | ok loaded => exact ⟨loaded.1, _, leads_loadFile_ok hr, leads_loadFile_ok (hfile ▸ hr)⟩

theorem loadTable_sameOver (h : ∀ path ∈ j.propertyPath?, t.read path = t'.read path) :
    SameOver t t' j.loadTable := by
  have hfile : SameOver t t' j.fileProperties := by
    unfold fileProperties
    cases hp : j.propertyPath? with
    | none => exact .pure []
    | some path => exact (SameOver.log _ _).bind fun _ => loadFile_sameOver (h path hp)
  refine hfile.bind fun p => ?_
  cases readAssignments j.assignments with
  | error e => exact .fail _
  | ok values =>
    refine (SameOver.emitAll _).bind fun _ => ?_
    cases p.merged? (values.map fun v => (v.1, Value.text v.2)) with
    | none => exact .fail _
    | some table => exact (SameOver.log _ _).bind fun _ => .pure table

/-- A job with its properties. -/
def loaded (j : Job) (table : Properties) : Job := { j.placed with table := some table }

/-- What a job does between the making of directories and the writing of the document. -/
def prepare (settings : Settings) (j : Job) : JobStep (Properties × Draft) := do
  Session.log 2 s!"Output file: {j.outputPath.str}"
  let table ← j.loadTable
  let draft ← (j.loaded table).compileText settings
  return (table, draft)

/-- The end of a job that has a compiled text. -/
def conclude (j : Job) (draft : Draft) : JobStep Job := do
  j.writeText draft.text
  { j with outcome := some (j.outcomeOf draft) }.report

/-- A run, with what it may do to files set apart. -/
theorem run_eq (settings : Settings) (j : Job) :
    j.run settings = (do
      j.findFiles
      j.openTarget
      let prepared ← j.prepare settings
      (j.loaded prepared.1).conclude prepared.2) := by
  unfold run checkPaths loadProperties compileDocument prepare conclude
  simp only [bind_assoc, pure_bind]
  rfl

theorem compileText_sameOver (hs : t.read j.source = t'.read j.source) :
    SameOver t t' (j.compileText settings) := by
  have hread : SameOver t t' j.readDocument := by
    refine (SameOver.askTree hs).bind fun bytes => ?_
    cases Utf8.decode bytes with
    | error e => exact .fail _
    | ok raw => exact .pure raw
  refine (SameOver.log _ _).bind fun _ => hread.bind fun raw => (SameOver.log _ _).bind fun _ => ?_
  cases j.compiler settings with
  | error e => exact .fail _
  | ok c =>
    refine (SameOver.emitAll _).bind fun _ => ?_
    refine SameOver.bind ((SameOver.onHeap _ _).bind fun _ => .pure _) fun (text, warnings) => ?_
    refine SameOver.bind ?_ fun _ => .pure _
    unfold requireKeys
    split
    · exact .fail _
    · exact .pure ()

/-- All that happens before the document is written goes the same way over trees with the same
files. -/
theorem prepare_sameOver (settings : Settings) (h : j.SameFiles t t') :
    SameOver t t' (j.prepare settings) := by
  refine (SameOver.log _ _).bind fun _ => (loadTable_sameOver h.properties).bind fun table => ?_
  have hcompile : SameOver t t' ((j.loaded table).compileText settings) :=
    compileText_sameOver h.source
  exact hcompile.bind fun draft => .pure _

/-! ## The ways a run can take -/

theorem leads_openTarget_check (hc : j.check = true) (w : Workplace) :
    j.openTarget.Leads w w (.ok ()) := by
  rw [openTarget, hc]
  exact leads_pure () w

theorem leads_openTarget (hc : j.check = false) (w : Workplace) :
    j.openTarget.Leads w { w with tree := (w.tree.makeDirectories j.outputPath.parent).1 }
      ((w.tree.makeDirectories j.outputPath.parent).2.mapError fun e => .escaped (.file e)) := by
  rw [openTarget, hc]
  refine (leads_get w).bind ?_
  dsimp only
  cases (w.tree.makeDirectories j.outputPath.parent).2 <;> exact ⟨rfl, rfl⟩

/-- All that the opening of the target does to files is to make directories. -/
theorem grows_of_openTarget {r : Except Stop Unit}
    (ho : j.openTarget.Leads w { w with tree := t } r) : w.tree.Grows t := by
  cases hc : j.check with
  | true =>
    obtain ⟨hw, -⟩ := (leads_openTarget_check hc w).unique ho
    rw [show w.tree = t from congrArg Workplace.tree hw]
    exact .refl t
  | false =>
    obtain ⟨hw, -⟩ := (leads_openTarget hc w).unique ho
    rw [← show _ = t from congrArg Workplace.tree hw]
    exact FileTree.makeDirectories_grows w.tree j.outputPath.parent

/-- A job that has come to its end. -/
def finished (j : Job) (table : Properties) (draft : Draft) : Job :=
  { j.loaded table with outcome := some ((j.loaded table).outcomeOf draft) }

theorem leads_conclude_check (hc : j.check = true) (table : Properties) (draft : Draft)
    (w : Workplace) :
    ((j.loaded table).conclude draft).Leads w w
      (if draft.text = draft.raw then .ok (j.finished table draft)
        else .error (.refused (.outOfDate j.inputPath))) := by
  have hwrite : ((j.loaded table).writeText draft.text).Leads w w (.ok ()) := by
    rw [writeText, show (j.loaded table).check = true from hc]
    exact leads_pure () w
  refine hwrite.bind ?_
  show Leads (if j.check then if decide (draft.text ≠ draft.raw) then _ else _ else _) w w _
  rw [hc, if_pos rfl]
  by_cases heq : draft.text = draft.raw
  · rw [if_pos heq, if_neg (by simp [heq])]
    exact ⟨rfl, rfl⟩
  · rw [if_neg heq, if_pos (by simp [heq])]
    exact ⟨rfl, rfl⟩

theorem leads_conclude (hc : j.check = false) (table : Properties) (draft : Draft)
    {w : Workplace} (hw : w.tree.write j.outputPath (Utf8.encode draft.text) = .ok t') :
    ((j.loaded table).conclude draft).Leads w { w with tree := t' }
      (.ok (j.finished table draft)) := by
  have hwrite : ((j.loaded table).writeText draft.text).Leads w { w with tree := t' }
      (.ok ()) := by
    rw [writeText, show (j.loaded table).check = false from hc]
    exact (leads_changeTree hw).bind (leads_log _ _ _)
  refine hwrite.bind ?_
  show Leads (if j.check then _ else _) _ _ _
  rw [hc]
  exact (leads_emitAll _ _).bind (leads_pure _ _)

theorem leads_conclude_error (hc : j.check = false) (table : Properties) (draft : Draft)
    {w : Workplace} {e : FileError}
    (hw : w.tree.write j.outputPath (Utf8.encode draft.text) = .error e) :
    ((j.loaded table).conclude draft).Leads w w (.error (.escaped (.file e))) := by
  have hwrite : ((j.loaded table).writeText draft.text).Leads w w
      (.error (.escaped (.file e))) := by
    rw [writeText, show (j.loaded table).check = false from hc]
    exact (leads_changeTree_error hw).bind_error
  exact hwrite.bind_error

/-- Where a run from a workplace can lead, and how it can end there. -/
inductive Course (settings : Settings) (j : Job) (w : Workplace) :
    Workplace → Except Stop Job → Prop where
  /-- A file is missing. -/
  | unfound {s : Stop} (hf : j.findFiles.Leads w w (.error s)) : Course settings j w w (.error s)
  /-- The directory of the compiled document cannot be made. -/
  | unopened {t : FileTree} {e : FileError} (hf : j.findFiles.Leads w w (.ok ()))
      (hc : j.check = false) (hd : w.tree.makeDirectories j.outputPath.parent = (t, .error e)) :
      Course settings j w { w with tree := t } (.error (.escaped (.file e)))
  /-- Properties or document are not as they have to be; the tree has at most more directories. -/
  | unprepared {t : FileTree} {h : Heap} {s : Stop} (hf : j.findFiles.Leads w w (.ok ()))
      (ho : j.openTarget.Leads w { w with tree := t } (.ok ()))
      (hp : (j.prepare settings).Leads ⟨t, w.heap⟩ ⟨t, h⟩ (.error s)) :
      Course settings j w ⟨t, h⟩ (.error s)
  /-- The job only checks. -/
  | compared {h : Heap} {table : Properties} {draft : Draft}
      (hf : j.findFiles.Leads w w (.ok ())) (hc : j.check = true)
      (hp : (j.prepare settings).Leads w ⟨w.tree, h⟩ (.ok (table, draft))) :
      Course settings j w ⟨w.tree, h⟩
        (if draft.text = draft.raw then .ok (j.finished table draft)
          else .error (.refused (.outOfDate j.inputPath)))
  /-- The compiled document cannot be written. -/
  | unwritten {t : FileTree} {h : Heap} {table : Properties} {draft : Draft} {e : FileError}
      (hf : j.findFiles.Leads w w (.ok ())) (hc : j.check = false)
      (hd : w.tree.makeDirectories j.outputPath.parent = (t, .ok ()))
      (hp : (j.prepare settings).Leads ⟨t, w.heap⟩ ⟨t, h⟩ (.ok (table, draft)))
      (hw : t.write j.outputPath (Utf8.encode draft.text) = .error e) :
      Course settings j w ⟨t, h⟩ (.error (.escaped (.file e)))
  /-- The compiled document is written. -/
  | written {t t' : FileTree} {h : Heap} {table : Properties} {draft : Draft}
      (hf : j.findFiles.Leads w w (.ok ())) (hc : j.check = false)
      (hd : w.tree.makeDirectories j.outputPath.parent = (t, .ok ()))
      (hp : (j.prepare settings).Leads ⟨t, w.heap⟩ ⟨t, h⟩ (.ok (table, draft)))
      (hw : t.write j.outputPath (Utf8.encode draft.text) = .ok t') :
      Course settings j w ⟨t', h⟩ (.ok (j.finished table draft))

/-- A run goes as its courses say. -/
theorem Course.leads {w' : Workplace} {r : Except Stop Job} (h : Course settings j w w' r) :
    (j.run settings).Leads w w' r := by
  rw [run_eq]
  cases h with
  | unfound hf => exact hf.bind_error
  | unopened hf hc hd =>
    have ho := leads_openTarget hc w
    rw [hd] at ho
    exact hf.bind ho.bind_error
  | unprepared hf ho hp => exact hf.bind (ho.bind hp.bind_error)
  | compared hf hc hp =>
    exact hf.bind ((leads_openTarget_check hc w).bind (hp.bind (leads_conclude_check hc _ _ _)))
  | unwritten hf hc hd hp hw =>
    have ho := leads_openTarget hc w
    rw [hd] at ho
    exact hf.bind (ho.bind (hp.bind (leads_conclude_error hc _ _ hw)))
  | written hf hc hd hp hw =>
    have ho := leads_openTarget hc w
    rw [hd] at ho
    exact hf.bind (ho.bind (hp.bind (leads_conclude hc _ _ hw)))

/-- **Every run takes one of the courses.** -/
theorem course_run (settings : Settings) (j : Job) (w : Workplace) :
    Course settings j w ((j.run settings).run w).state ((j.run settings).run w).result := by
  suffices h : ∃ w' r, Course settings j w w' r by
    obtain ⟨w', r, h⟩ := h
    obtain ⟨rfl, rfl⟩ := h.leads
    exact h
  obtain ⟨r, hf, -⟩ := leads_findFiles j w
  rcases r with s | _
  · exact ⟨_, _, .unfound hf⟩
  have hprepare (t : FileTree) : ∃ h r, (j.prepare settings).Leads ⟨t, w.heap⟩ ⟨t, h⟩ r := by
    obtain ⟨h, r, hp, -⟩ := prepare_sameOver settings (j.sameFiles_self t) w.heap
    exact ⟨h, r, hp⟩
  cases hc : j.check with
  | true =>
    obtain ⟨h, r, hp⟩ := hprepare w.tree
    rcases r with s | ⟨table, draft⟩
    · exact ⟨_, _, .unprepared hf (leads_openTarget_check hc w) hp⟩
    · exact ⟨_, _, .compared hf hc hp⟩
  | false =>
    have ho := leads_openTarget hc w
    rcases hd : w.tree.makeDirectories j.outputPath.parent with ⟨t, e | _⟩
    · exact ⟨_, _, .unopened hf hc hd⟩
    rw [hd] at ho
    obtain ⟨h, r, hp⟩ := hprepare t
    rcases r with s | ⟨table, draft⟩
    · exact ⟨_, _, .unprepared hf ho hp⟩
    cases hw : t.write j.outputPath (Utf8.encode draft.text) with
    | error e => exact ⟨_, _, .unwritten hf hc hd hp hw⟩
    | ok t' => exact ⟨_, _, .written hf hc hd hp hw⟩

/-- A run that ends in a way takes a course that ends so. -/
theorem course_of_result {r : Except Stop Job} (h : ((j.run settings).run w).result = r) :
    Course settings j w ((j.run settings).run w).state r :=
  h ▸ course_run settings j w

end Job

end LiveSections
