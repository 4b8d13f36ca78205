import LiveSections.Compiler
import LiveSections.Proofs.Grammar
import LiveSections.Proofs.Session

/-!
# Workers

Sections are evaluated by one worker in the order of the document, up to the first failure, or by
several workers, all of them and in any order. Whoever cannot see the order of the reports cannot
tell the two apart by their end.

- `Compiler.Steady`: resolver and evaluator answer by their arguments alone.
- `evaluateSections_ends`: whatever the workers do, the end is that of the first failing section in
  the order of the document, if one fails. This holds of evaluators with a state, too.
- `Refines`: one run stands to another as a run of many workers stands to a run in turn.
- `evaluate_refines_inTurn`: **many workers refine one worker.**
-/

namespace LiveSections

/-! ## Lists by their places -/

section Places

variable {α β : Type}

/-- What is found at each place of a list is, place by place, related to the list. -/
theorem forall₂_filterMap_range {R : α → β → Prop} {l : List α} {f : Nat → Option β}
    (h : ∀ i a, l[i]? = some a → ∃ b, f i = some b ∧ R a b) :
    List.Forall₂ R l ((List.range l.length).filterMap f) := by
  induction l generalizing f with
  | nil => exact .nil
  | cons a l ih =>
    obtain ⟨b, hb, hab⟩ := h 0 a rfl
    rw [List.length_cons, List.range_succ_eq_map, List.filterMap_cons, hb, List.filterMap_map]
    exact .cons hab (ih fun i a' ha' => h (i + 1) a' ha')

/-- Going through all places of a list is going through the list. -/
theorem flatMap_range_getElem? (l : List α) (f : α → List β) :
    ((List.range l.length).flatMap fun i => l[i]?.elim [] f) = l.flatMap f := by
  induction l with
  | nil => rfl
  | cons a l ih =>
    rw [List.length_cons, List.range_succ_eq_map, List.flatMap_cons, List.flatMap_map,
      List.flatMap_cons, ← ih]
    rfl

theorem mapM_id_map_ok {ε : Type} (as : List α) :
    (as.map (Except.ok : α → Except ε α)).mapM id = .ok as := by
  induction as with
  | nil => rfl
  | cons a as ih =>
    rw [List.map_cons, List.mapM_cons, ih]
    rfl

/-- A list of ends that succeeds as a whole holds nothing but results. -/
theorem eq_map_ok_of_mapM_id {ε : Type} {ends : List (Except ε α)} {as : List α}
    (h : ends.mapM id = .ok as) : ends = as.map .ok := by
  induction ends generalizing as with
  | nil =>
    cases h
    rfl
  | cons r ends ih =>
    rw [List.mapM_cons] at h
    cases r with
    | error e => cases h
    | ok a =>
      cases hm : ends.mapM id with
      | error e =>
        rw [hm] at h
        cases h
      | ok bs =>
        rw [hm] at h
        cases h
        rw [ih hm]
        rfl

end Places

/-- What results have and sequences keep, a template has once it is filled in, if its keys have
it. -/
theorem Template.fillHolesM_induction {m : Type → Type} [Monad m] {P : m Text → Prop}
    (hpure : ∀ t, P (pure t)) (hbind : ∀ x f, P x → (∀ t, P (f t)) → P (x >>= f))
    {f : Text → m Text} {holes : List (Text × Text)}
    (hf : ∀ key ∈ holes.map Prod.fst, P (f key)) : P (fillHolesM f holes) := by
  induction holes with
  | nil => exact hpure []
  | cons hole rest ih =>
    have hmore : P (fillHolesM f rest) := ih fun key hk => hf key (List.mem_cons_of_mem _ hk)
    refine hbind _ _ (hf hole.1 List.mem_cons_self) fun value => ?_
    exact hbind _ _ hmore fun tail => hpure (value ++ hole.2 ++ tail)

theorem fillHolesM_steady {σ ε : Type} {f : Text → Session σ ε Text}
    (hf : ∀ key, (f key).Steady) (holes : List (Text × Text)) :
    (Template.fillHolesM f holes).Steady :=
  Template.fillHolesM_induction Session.Steady.pure (fun _ _ => Session.Steady.bind)
    fun key _ => hf key

namespace Compiler

variable {σ : Type} {c : Compiler σ}

/-- The answers of resolver and evaluator hang on their arguments alone: the value or the failure,
and what is reported on the way. -/
structure Steady (c : Compiler σ) : Prop where
  resolver : ∀ name key, (c.resolver name key).Steady
  evaluator : ∀ name program stale, (c.evaluator name program stale).Steady

theorem Steady.fillProgram (hc : c.Steady) (name program : Text) :
    (c.fillProgram name program).Steady := by
  have hresolve (key : Text) : (c.resolve name key).Steady := by
    refine (hc.resolver name key).bind fun found => ?_
    cases found with
    | some value => exact .pure value
    | none => exact (Session.Steady.emit _).bind fun _ => .pure _
  exact (fillHolesM_steady hresolve _).bind fun _ => .pure _

theorem Steady.evaluateSection (hc : c.Steady) (s : Section) : (c.evaluateSection s).Steady := by
  refine (Session.Steady.emit _).bind fun _ => ?_
  refine (hc.fillProgram s.name s.program).bind fun program => ?_
  refine (Session.Steady.emit _).bind fun _ => ?_
  refine ((hc.evaluator s.name program s.stale).mapError _).bind fun produced => ?_
  exact (Session.Steady.ofExcept _).bind fun _ => .pure _

/-! ## Many workers -/

theorem run_evaluateAll_cons {sections : List Section} {i : Nat} {s : Section}
    (hs : sections[i]? = some s) (order : List Nat) (st : σ) :
    let first := (c.evaluateSection s).run st
    let more := (c.evaluateAll sections order).run first.state
    (c.evaluateAll sections (i :: order)).run st =
      ⟨more.state, first.events ++ more.events, more.result.map ((i, first.result) :: ·)⟩ := by
  intro first more
  rw [evaluateAll, hs]
  dsimp only
  rw [Session.run_attempt_bind]
  cases h : more.result with
  | error e =>
    rw [Session.run_bind_of_error h]
    rfl
  | ok results =>
    rw [Session.run_bind_of_ok h, Session.run_pure, List.append_nil]
    rfl

/-- Every place of the schedule gets a result, which is that of a run of its section; what the run
reports is reported. -/
theorem evaluateAll_runs (sections : List Section) {order : List Nat}
    (h : ∀ i ∈ order, i < sections.length) (st : σ) :
    ∃ results, ((c.evaluateAll sections order).run st).result = .ok results ∧
      results.keys = order ∧
      ∀ i r, (i, r) ∈ results → ∃ s st', sections[i]? = some s ∧
        ((c.evaluateSection s).run st').result = r ∧
        ((c.evaluateSection s).run st').events ⊆
          ((c.evaluateAll sections order).run st).events := by
  induction order generalizing st with
  | nil => exact ⟨[], rfl, rfl, fun _ _ hr => nomatch hr⟩
  | cons i order ih =>
    have hi : i < sections.length := h i List.mem_cons_self
    have hs : sections[i]? = some sections[i] := List.getElem?_eq_getElem hi
    have hmore : ∀ j ∈ order, j < sections.length := fun j hj => h j (List.mem_cons_of_mem i hj)
    obtain ⟨results, hresult, hkeys, hruns⟩ :=
      ih hmore ((c.evaluateSection sections[i]).run st).state
    refine ⟨(i, ((c.evaluateSection sections[i]).run st).result) :: results, ?_, ?_, ?_⟩
    · rw [run_evaluateAll_cons hs, hresult]
      rfl
    · exact congrArg (i :: ·) hkeys
    · intro j r hr
      rw [run_evaluateAll_cons hs]
      rcases List.mem_cons.mp hr with hr | hr
      · cases hr
        exact ⟨sections[i], st, hs, rfl, List.subset_append_left _ _⟩
      · obtain ⟨s, st', hs', hr', hevents⟩ := hruns j r hr
        exact ⟨s, st', hs', hr', List.subset_append_of_subset_right _ hevents⟩

/-- Every place of the schedule gets a result, and that is how a run of its section ends. -/
theorem evaluateAll_ends (sections : List Section) {order : List Nat}
    (h : ∀ i ∈ order, i < sections.length) (st : σ) :
    ∃ results, ((c.evaluateAll sections order).run st).result = .ok results ∧
      results.keys = order ∧
      ∀ i r, (i, r) ∈ results → ∃ s, sections[i]? = some s ∧ (c.evaluateSection s).Ends r := by
  obtain ⟨results, hresult, hkeys, hruns⟩ := evaluateAll_runs (c := c) sections h st
  refine ⟨results, hresult, hkeys, fun i r hr => ?_⟩
  obtain ⟨s, st', hs, hr', -⟩ := hruns i r hr
  exact ⟨s, hs, st', hr'⟩

/-- What workers report is what the sections report, in the order of the schedule. -/
theorem evaluateAll_events (hc : c.Steady) (sections : List Section) (order : List Nat)
    (st t : σ) :
    ((c.evaluateAll sections order).run st).events = order.flatMap fun i =>
      sections[i]?.elim [] fun s => ((c.evaluateSection s).run t).events := by
  induction order generalizing st with
  | nil => rfl
  | cons i order ih =>
    rw [List.flatMap_cons]
    cases hs : sections[i]? with
    | none =>
      rw [evaluateAll, hs]
      exact ih st
    | some s =>
      rw [run_evaluateAll_cons hs]
      show _ ++ _ = _
      rw [ih, (hc.evaluateSection s st t).1]
      rfl

/-- Once every place has a result, the results are those of the sections, in their order. -/
theorem collect_ends {sections : List Section} {order : List Nat}
    (horder : order.Perm (List.range sections.length))
    {results : Table Nat (Except Failure Rendered)} (hkeys : results.keys = order)
    (hends : ∀ i r, (i, r) ∈ results →
      ∃ s, sections[i]? = some s ∧ (c.evaluateSection s).Ends r) :
    ∃ ends, List.Forall₂ (fun s r => (c.evaluateSection s).Ends r) sections ends ∧
      collect results sections.length = ends.mapM id := by
  refine ⟨_, forall₂_filterMap_range fun i s hs => ?_, rfl⟩
  have hi : i ∈ results.keys := by
    rw [hkeys, horder.mem_iff, List.mem_range]
    exact (List.getElem?_eq_some_iff.mp hs).1
  obtain ⟨r, hr⟩ := Table.exists_get?_of_mem_keys hi
  obtain ⟨s', hs', hend⟩ := hends i r (Table.mem_of_get? hr)
  obtain rfl : s = s' := Option.some.inj (hs.symm.trans hs')
  exact ⟨r, hr, hend⟩

theorem schedule_lt (c : Compiler σ) (n : Nat) : ∀ i ∈ c.schedule.val n, i < n := by
  intro i hi
  exact List.mem_range.mp ((c.schedule.property n).mem_iff.mp hi)

/-- **Whatever the workers do, the end is that of the first failing section in the order of the
document,** if one fails; else every section has its fresh output. -/
theorem evaluateSections_ends (c : Compiler σ) (sections : List Section) (st : σ) :
    ∃ ends, List.Forall₂ (fun s r => (c.evaluateSection s).Ends r) sections ends ∧
      ((c.evaluateSections sections).run st).result = ends.mapM id := by
  rw [evaluateSections]
  split
  · exact Session.mapM_ends c.evaluateSection sections st
  · obtain ⟨results, hresult, hkeys, hends⟩ :=
      evaluateAll_ends sections (schedule_lt c sections.length) st
    obtain ⟨ends, hforall, hcollect⟩ :=
      collect_ends (c.schedule.property sections.length) hkeys hends
    refine ⟨ends, hforall, ?_⟩
    rw [Session.run_bind_of_ok rfl]
    show ((c.evaluateAll _ _ >>= _).run st).result = _
    rw [Session.run_bind_of_ok hresult]
    exact hcollect

/-! ## One worker and many -/

/-- The same compiler with one worker. -/
def inTurn (c : Compiler σ) : Compiler σ := { c with workers := ⟨1, Nat.le_refl 1⟩ }

/-- What the evaluations of all sections report, each run from a state. -/
def reportsOf (c : Compiler σ) (st : σ) (sections : List Section) : List Event :=
  sections.flatMap fun s => ((c.evaluateSection s).run st).events

/-- What the evaluations of all sections of a document report; nothing if there is a fault in
it. -/
def reportsOfDocument (c : Compiler σ) (st : σ) (document : Text) : List Event :=
  match parse c.delimiters document with
  | .ok parts => c.reportsOf st (sectionsOf parts)
  | .error _ => []

/-- The failure is that of the first failing section in the order of the document. -/
def FirstFailure (c : Compiler σ) (sections : List Section) (e : Failure) : Prop :=
  ∃ before s behind, sections = before ++ s :: behind ∧
    (∀ b ∈ before, ∃ r, (c.evaluateSection b).Ends (.ok r)) ∧ (c.evaluateSection s).Ends (.error e)

end Compiler

/-- How a run stands to a run in turn: the same end. If that is a result, the same warnings and
calls; if it is a failure and the run has `many` workers, the warnings and calls of `all` sections,
and so at least those of the run in turn. -/
structure Refines {σ ε α : Type} (many : Prop) (all : List Event) (run turn : Ending σ ε α) :
    Prop where
  result_eq : run.result = turn.result
  same_of_ok : ∀ a, turn.result = .ok a → SameReports run.events turn.events
  fewer_of_error : many → ∀ e, turn.result = .error e → FewerReports turn.events run.events
  all_of_error : many → ∀ e, turn.result = .error e → SameReports run.events all

/-- Log messages in front of both runs and a change of their ends leave the relation. -/
theorem Refines.map {σ ε ε' α β : Type} {many : Prop} {all logs : List Event}
    {run turn : Ending σ ε α} (h : Refines many all run turn) (hlogs : Quiet logs)
    (f : ε → ε') (g : α → β) :
    Refines many all ⟨run.state, logs ++ run.events, (run.result.mapError f).map g⟩
      ⟨turn.state, logs ++ turn.events, (turn.result.mapError f).map g⟩ := by
  have hrun := hlogs.sameReports_append run.events
  have hturn := hlogs.sameReports_append turn.events
  refine { result_eq := by rw [h.result_eq], same_of_ok := fun b hb => ?_,
           fewer_of_error := fun hm e he => ?_, all_of_error := fun hm e he => ?_ }
  · cases hr : turn.result with
    | error e =>
      rw [hr] at hb
      cases hb
    | ok a => exact hrun.trans ((h.same_of_ok a hr).trans hturn.symm)
  · cases hr : turn.result with
    | error e => exact .same_trans hturn ((h.fewer_of_error hm e hr).trans_same hrun.symm)
    | ok a =>
      rw [hr] at he
      cases he
  · cases hr : turn.result with
    | error e => exact hrun.trans (h.all_of_error hm e hr)
    | ok a =>
      rw [hr] at he
      cases he

namespace Compiler

variable {σ : Type} {c : Compiler σ}

/-- A list of ends that fails as a whole has a first failure. -/
theorem firstFailure_of_ends {sections : List Section} {ends : List (Except Failure Rendered)}
    (h : List.Forall₂ (fun s r => (c.evaluateSection s).Ends r) sections ends) {e : Failure}
    (he : ends.mapM id = .error e) : c.FirstFailure sections e := by
  induction h with
  | nil => cases he
  | @cons s r sections ends hend _ ih =>
    cases r with
    | error e' =>
      -- nothing stands in front of this failure
      obtain rfl : e' = e := Except.error.inj he
      exact ⟨[], s, sections, rfl, fun _ hb => (nomatch hb), hend⟩
    | ok r =>
      -- this section has its output, so the failure is one of the others
      have hrest : ends.mapM id = .error e := by
        rw [List.mapM_cons] at he
        cases hm : ends.mapM id with
        | error e' =>
          rw [hm] at he
          exact he
        | ok rs =>
          rw [hm] at he
          cases he
      obtain ⟨before, s', behind, rfl, hok, hfail⟩ := ih hrest
      refine ⟨s :: before, s', behind, rfl, fun b hb => ?_, hfail⟩
      rcases List.mem_cons.mp hb with rfl | hb
      · exact ⟨r, hend⟩
      · exact hok b hb

/-- The end of an evaluation is the end that the sections give, one by one from any state. -/
theorem Steady.result_evaluateSections (hc : c.Steady) (sections : List Section) (st t : σ) :
    ((c.evaluateSections sections).run st).result =
      (sections.map fun s => ((c.evaluateSection s).run t).result).mapM id := by
  obtain ⟨ends, hends, hresult⟩ := c.evaluateSections_ends sections st
  rw [hresult]
  congr 1
  clear hresult
  induction hends with
  | nil => rfl
  | @cons s r sections ends hend _ ih =>
    rw [List.map_cons, ← ih, (hc.evaluateSection s).result_of_ends hend t]

/-- With several workers and several sections everything is reported, whatever the end. -/
theorem Steady.events_of_many (hc : c.Steady) {sections : List Section}
    (h : ¬(c.workers.val = 1 ∨ sections.length < 2)) (st t : σ) :
    SameReports ((c.evaluateSections sections).run st).events (c.reportsOf t sections) := by
  have hevents : ((c.evaluateSections sections).run st).events =
      .log 2 s!"Evaluating {sections.length} sections on {c.workers.val} workers" ::
        ((c.evaluateAll sections (c.schedule.val sections.length)).run st).events := by
    obtain ⟨results, hresult, -⟩ := evaluateAll_ends (c := c) sections
      (schedule_lt c sections.length) st
    rw [evaluateSections, if_neg h, Session.run_bind_of_ok rfl]
    show _ ++ ((c.evaluateAll _ _ >>= _).run st).events = _
    rw [Session.run_bind_of_ok hresult]
    show _ ++ (_ ++ []) = _
    rw [List.append_nil]
    rfl
  have hperm := (c.schedule.property sections.length).flatMap_right fun i =>
    sections[i]?.elim [] fun s => ((c.evaluateSection s).run t).events
  rw [flatMap_range_getElem?] at hperm
  rw [hevents, evaluateAll_events hc sections _ st t]
  exact ((Quiet.log _ _).sameReports_append _).trans (.of_perm hperm)

/-- With one worker, or with nothing to share out, sections are evaluated in turn. -/
theorem evaluateSections_of_few {sections : List Section}
    (h : c.workers.val = 1 ∨ sections.length < 2) :
    c.evaluateSections sections = sections.mapM c.evaluateSection := by
  rw [evaluateSections, if_pos h]
  rfl

theorem evaluateSections_inTurn (sections : List Section) :
    c.inTurn.evaluateSections sections = sections.mapM c.evaluateSection :=
  c.inTurn.evaluateSections_of_few (.inl rfl)

theorem Steady.inTurn (hc : c.Steady) : c.inTurn.Steady := ⟨hc.resolver, hc.evaluator⟩

/-- Any sections are evaluated by many workers as they are by one. -/
theorem Steady.evaluateSections_refines (hc : c.Steady) (sections : List Section) (st st' t : σ) :
    Refines (1 < c.workers.val) (c.reportsOf t sections)
      ((c.evaluateSections sections).run st) ((c.inTurn.evaluateSections sections).run st') := by
  have hresult : ((c.evaluateSections sections).run st).result =
      ((c.inTurn.evaluateSections sections).run st').result :=
    (hc.result_evaluateSections sections st t).trans
      (hc.inTurn.result_evaluateSections sections st' t).symm
  rw [evaluateSections_inTurn] at hresult ⊢
  obtain ⟨hbegins, hall⟩ := Session.mapM_events_isPrefix hc.evaluateSection sections st' t
  have hmany (h : 1 < c.workers.val) :
      SameReports ((c.evaluateSections sections).run st).events (c.reportsOf t sections) := by
    by_cases hturn : c.workers.val = 1 ∨ sections.length < 2
    · have hshort : sections.length < 2 := hturn.resolve_left (by omega)
      rw [evaluateSections, if_pos hturn]
      refine .of_perm (.of_eq ?_)
      exact Session.mapM_events_of_length_lt_two hc.evaluateSection hshort st t
    · exact hc.events_of_many hturn st t
  refine { result_eq := hresult, same_of_ok := fun rs hok => ?_,
           fewer_of_error := fun h _ _ => ?_, all_of_error := fun h _ _ => hmany h }
  · rw [hall rs hok]
    by_cases hturn : c.workers.val = 1 ∨ sections.length < 2
    · have heq : c.evaluateSections sections = sections.mapM c.evaluateSection := by
        rw [evaluateSections, if_pos hturn]
        rfl
      rw [heq] at hresult ⊢
      refine .of_perm (.of_eq ?_)
      exact (Session.mapM_events_isPrefix hc.evaluateSection sections st t).2 rs
        (hresult.trans hok)
    · exact hc.events_of_many hturn st t
  · exact (FewerReports.of_sublist hbegins.sublist).trans_same (hmany h).symm

/-! ## Documents -/

/-- What is logged before the first section is evaluated. -/
def preamble (c : Compiler σ) (parts : List Part) : List Event :=
  (if c.traced then trace parts else []) ++
    [.log 2 s!"Found {(sectionsOf parts).length} section(s)"]

theorem quiet_trace (traced : Bool) (parts : List Part) :
    Quiet (if traced then trace parts else []) := by
  intro e he
  cases traced with
  | false => cases he
  | true =>
    obtain ⟨s, -, rfl⟩ := List.mem_map.mp he
    exact ⟨_, _, rfl⟩

theorem quiet_preamble (c : Compiler σ) (parts : List Part) : Quiet (c.preamble parts) :=
  (quiet_trace c.traced parts).append (.log _ _)

/-- A document without a fault: its sections are evaluated, and their output is woven in. -/
theorem run_compile_of_ok {document : Text} {parts : List Part}
    (h : parse c.delimiters document = .ok parts) (st : σ) :
    let evaluation := (c.evaluateSections (sectionsOf parts)).run st
    (c.compile document).run st = ⟨evaluation.state, c.preamble parts ++ evaluation.events,
      (evaluation.result.mapError .failed).map fun rendered =>
        assemble c.delimiters c.style (weave parts rendered)⟩ := by
  intro evaluation
  have hparts : readParts c.delimiters 0 document = (parts, none) :=
    readParts_eq_iff.mpr (parse_eq_ok_iff.mp h)
  have hread : (read c.delimiters c.traced document).run st =
      ⟨st, if c.traced then trace parts else [], .ok parts⟩ := by
    rw [read, hparts]
    dsimp only
    rw [Session.run_bind_of_ok rfl, Session.run_pure, List.append_nil]
    rfl
  have hok : ((read c.delimiters c.traced document).run st).result = .ok parts := by rw [hread]
  rw [compile, Session.run_bind_of_ok hok, hread]
  dsimp only
  rw [Session.run_bind_of_ok rfl, Session.run_mapError_bind_pure, preamble, List.append_assoc]
  rfl

/-- A document with a fault: nothing is evaluated. -/
theorem run_compile_of_error {document : Text} {e : ParseError}
    (h : parse c.delimiters document = .error e) (st : σ) :
    ∃ logs, Quiet logs ∧
      (c.compile document).run st = ⟨st, logs, .error (.malformed document e)⟩ := by
  obtain ⟨parts, hparts⟩ : ∃ parts, readParts c.delimiters 0 document = (parts, some e) := by
    rw [parse] at h
    split at h
    · cases h
    · next parts e' hr =>
      cases h
      exact ⟨parts, hr⟩
  refine ⟨_, quiet_trace c.traced parts, ?_⟩
  have hread : (read c.delimiters c.traced document).run st =
      ⟨st, if c.traced then trace parts else [], .error (.malformed document e)⟩ := by
    rw [read, hparts]
    dsimp only
    rw [Session.run_bind_of_ok rfl]
    show Ending.mk _ (_ ++ []) _ = _
    rw [List.append_nil]
    rfl
  have herror : ((read c.delimiters c.traced document).run st).result =
      .error (.malformed document e) := by rw [hread]
  rw [compile, Session.run_bind_of_error herror, hread]

/-- A compilation that fails fails as the evaluation of its sections does. -/
theorem evaluate_of_compile_failed {document : Text} {parts : List Part}
    (h : parse c.delimiters document = .ok parts) {st : σ} {e : Failure}
    (he : ((c.compile document).run st).result = .error (.failed e)) :
    ((c.evaluateSections (sectionsOf parts)).run st).result = .error e := by
  rw [run_compile_of_ok h] at he
  dsimp only at he
  cases hr : ((c.evaluateSections (sectionsOf parts)).run st).result with
  | error e' =>
    rw [hr] at he
    cases he
    rfl
  | ok rendered =>
    rw [hr] at he
    cases he

/-- An evaluation that succeeds has fresh output for every section. -/
theorem ends_of_evaluateSections_ok {sections : List Section} {rendered : List Rendered} {st : σ}
    (h : ((c.evaluateSections sections).run st).result = .ok rendered) :
    List.Forall₂ (fun s r => (c.evaluateSection s).Ends (.ok r)) sections rendered := by
  obtain ⟨ends, hends, hresult⟩ := c.evaluateSections_ends sections st
  rwa [eq_map_ok_of_mapM_id (hresult.symm.trans h), List.forall₂_map_right_iff] at hends

/-- A compilation that succeeds writes what the evaluation of its sections gives. -/
theorem evaluate_of_compile_ok {document out : Text} {parts : List Part}
    (h : parse c.delimiters document = .ok parts) {st : σ}
    (ho : ((c.compile document).run st).result = .ok out) :
    ∃ rendered, ((c.evaluateSections (sectionsOf parts)).run st).result = .ok rendered ∧
      out = assemble c.delimiters c.style (weave parts rendered) := by
  rw [run_compile_of_ok h] at ho
  dsimp only at ho
  cases hr : ((c.evaluateSections (sectionsOf parts)).run st).result with
  | error e =>
    rw [hr] at ho
    cases ho
  | ok rendered =>
    rw [hr] at ho
    exact ⟨rendered, rfl, (Except.ok.inj ho).symm⟩

/-- A compilation that succeeds has read the document. -/
theorem exists_parts_of_compile_ok {document out : Text} {st : σ}
    (h : ((c.compile document).run st).result = .ok out) :
    ∃ parts, parse c.delimiters document = .ok parts := by
  cases hp : parse c.delimiters document with
  | error e =>
    obtain ⟨logs, -, hrun⟩ := run_compile_of_error (c := c) hp st
    rw [hrun] at h
    cases h
  | ok parts => exact ⟨parts, rfl⟩

/-- A compilation that succeeds has read the document and has fresh output for every section. -/
theorem compile_eq_ok {document out : Text} {st : σ}
    (h : ((c.compile document).run st).result = .ok out) :
    ∃ parts rendered, parse c.delimiters document = .ok parts ∧
      List.Forall₂ (fun s r => (c.evaluateSection s).Ends (.ok r)) (sectionsOf parts) rendered ∧
      out = assemble c.delimiters c.style (weave parts rendered) := by
  obtain ⟨parts, hp⟩ := exists_parts_of_compile_ok h
  obtain ⟨rendered, hrendered, hout⟩ := evaluate_of_compile_ok hp h
  exact ⟨parts, rendered, hp, ends_of_evaluateSections_ok hrendered, hout⟩

/-- **Many workers refine one worker,** in whatever order they get to the sections: for sections by
themselves and for documents the end is the same, that of the first failing section if one fails,
and warnings and calls differ at most in their order, or by those of sections behind a failure. -/
theorem evaluate_refines_inTurn (hc : c.Steady) (st st' t : σ) :
    (∀ sections,
      Refines (1 < c.workers.val) (c.reportsOf t sections)
        ((c.evaluateSections sections).run st) ((c.inTurn.evaluateSections sections).run st') ∧
      ∀ e, ((c.evaluateSections sections).run st).result = .error e →
        c.FirstFailure sections e) ∧
    ∀ document,
      Refines (1 < c.workers.val) (c.reportsOfDocument t document)
        ((c.compile document).run st) ((c.inTurn.compile document).run st') ∧
      ∀ parts e, parse c.delimiters document = .ok parts →
        ((c.compile document).run st).result = .error (.failed e) →
          c.FirstFailure (sectionsOf parts) e := by
  have hfirst (sections : List Section) (e : Failure)
      (he : ((c.evaluateSections sections).run st).result = .error e) :
      c.FirstFailure sections e := by
    obtain ⟨ends, hends, hresult⟩ := c.evaluateSections_ends sections st
    exact firstFailure_of_ends hends (hresult.symm.trans he)
  refine ⟨fun sections => ⟨hc.evaluateSections_refines sections st st' t, hfirst sections⟩,
    fun document => ⟨?_, fun parts e hp he => hfirst _ e (evaluate_of_compile_failed hp he)⟩⟩
  cases h : parse c.delimiters document with
  | error e =>
    obtain ⟨logs, hlogs, hrun⟩ := run_compile_of_error h st
    obtain ⟨logs', hlogs', hturn⟩ := c.inTurn.run_compile_of_error h st'
    rw [hrun, hturn, reportsOfDocument, h]
    have hnone := hlogs.sameReports_append []
    have hnone' := hlogs'.sameReports_append []
    rw [List.append_nil] at hnone hnone'
    have hsame := hnone'.trans hnone.symm
    exact { result_eq := rfl, same_of_ok := fun _ _ => hsame.symm,
            fewer_of_error := fun _ _ _ => ⟨hsame.warnings.subperm, hsame.calls.subperm⟩,
            all_of_error := fun _ _ _ => hnone }
  | ok parts =>
    rw [run_compile_of_ok h, c.inTurn.run_compile_of_ok h, reportsOfDocument, h]
    exact (hc.evaluateSections_refines (sectionsOf parts) st st' t).map (quiet_preamble c parts)
      _ _

/-- Three workers who take the last section first. The evaluator counts its calls, and fails for
sections with the name `b`. -/
def counting : Compiler Nat where
  delimiters := .angled
  resolver := fun _ key n => ⟨n, [], .ok (if key = ['k'] then some ['v'] else none)⟩
  evaluator := fun name program _ n =>
    ⟨n + 1, [], if name = ['b'] then .error (.evaluation ⟨none, .stated "no"⟩)
      else .ok (.text program)⟩
  unknownSuffix := ['?']
  workers := ⟨3, by decide⟩
  schedule := ⟨fun n => (List.range n).reverse, fun n => List.reverse_perm (List.range n)⟩

theorem counting_steady : counting.Steady :=
  ⟨fun _ _ _ _ => ⟨rfl, rfl⟩, fun _ _ _ _ _ => ⟨rfl, rfl⟩⟩

/-- The last section is evaluated first and warns of an unknown key; the failure is that of the
second section. -/
theorem evaluate_refines_inTurn_counting :
    let document :=
      "<<a\n\x7b\x7bk\x7d\x7d>><</a>><<b\n>><</b>><<c\n\x7b\x7bx\x7d\x7d>><</c>>".toList
    let e : Failure := .evaluation ⟨some ['b'], .stated "no"⟩
    counting.Steady ∧
    ((counting.compile document).run 0).result = .error (.failed e) ∧
    Refines (1 < 3) (counting.reportsOfDocument 0 document)
      ((counting.compile document).run 0) ((counting.inTurn.compile document).run 7) ∧
    ∃ parts, parse .angled document = .ok parts ∧ counting.FirstFailure (sectionsOf parts) e ∧
      Refines (1 < 3) (counting.reportsOf 0 (sectionsOf parts))
        ((counting.evaluateSections (sectionsOf parts)).run 0)
        ((counting.inTurn.evaluateSections (sectionsOf parts)).run 7) := by
  intro document e
  have hfails : ((counting.compile document).run 0).result = .error (.failed e) := by
    decide +kernel
  obtain ⟨hsections, hdocuments⟩ := evaluate_refines_inTurn counting_steady 0 7 0
  obtain ⟨hrefines, hfirst⟩ := hdocuments document
  refine ⟨counting_steady, hfails, hrefines, ?_⟩
  have hread : (parse .angled document).isOk = true := by decide +kernel
  cases hp : parse .angled document with
  | error _ =>
    rw [hp] at hread
    cases hread
  | ok parts => exact ⟨parts, rfl, hfirst parts e hp hfails, (hsections (sectionsOf parts)).1⟩

end Compiler

end LiveSections
