import LiveSections.Properties.Compiler
import LiveSections.Proofs.Workers

/-!
# Warnings about keys

- `Session.Reports`: every run that succeeds reports an event.
- `Session.Warnless`: no run warns of anything.
- `Properties.Unmapped`: a key that stands for nothing.
- `compile_reports`: **a compilation that succeeds reports every unmapped key of every program,** on
  any number of workers.
- `compile_warnless`: **a compilation warns of nothing if all keys of its programs stand for
  something.**
-/

namespace LiveSections

/-! ## Events of runs that succeed -/

namespace Session

variable {σ ε ε' α β : Type} {e : Event}

/-- Every run that succeeds reports the event. -/
def Reports (x : Session σ ε α) (e : Event) : Prop :=
  ∀ s a, (x.run s).result = .ok a → e ∈ (x.run s).events

theorem Reports.emit (e : Event) : (Session.emit e : Session σ ε Unit).Reports e :=
  fun _ _ _ => List.mem_singleton_self e

theorem Reports.bind_left {x : Session σ ε α} (hx : x.Reports e) (f : α → Session σ ε β) :
    (x >>= f).Reports e := by
  intro s b hb
  obtain ⟨a, ha, -⟩ := result_bind_eq_ok_iff.mp hb
  rw [run_bind_of_ok ha]
  exact List.mem_append_left _ (hx s a ha)

theorem Reports.bind_right (x : Session σ ε α) {f : α → Session σ ε β}
    (hf : ∀ a, (f a).Reports e) : (x >>= f).Reports e := by
  intro s b hb
  obtain ⟨a, ha, hb⟩ := result_bind_eq_ok_iff.mp hb
  rw [run_bind_of_ok ha]
  exact List.mem_append_right _ (hf a _ b hb)

theorem Reports.mapError {x : Session σ ε α} (hx : x.Reports e) (f : ε → ε') :
    (x.mapError f).Reports e :=
  fun s a ha => hx s a (result_mapError_eq_ok_iff.mp ha)

/-- A list of computations reports what one of them reports. -/
theorem Reports.mapM {f : α → Session σ ε β} {a : α} (hf : (f a).Reports e) {l : List α}
    (ha : a ∈ l) : (l.mapM f).Reports e := by
  induction l with
  | nil => cases ha
  | cons b l ih =>
    rw [List.mapM_cons]
    rcases List.mem_cons.mp ha with rfl | ha
    · exact hf.bind_left _
    · exact .bind_right _ fun _ => (ih ha).bind_left _

end Session

/-! ## Runs that warn of nothing -/

namespace Session

variable {σ ε ε' α β : Type}

/-- No run warns of anything. -/
def Warnless (x : Session σ ε α) : Prop := ∀ s, warningsOf (x.run s).events = []

namespace Warnless

theorem pure (a : α) : (Pure.pure a : Session σ ε α).Warnless := fun _ => rfl

theorem fail (e : ε) : (Session.fail e : Session σ ε α).Warnless := fun _ => rfl

theorem log (level : Int) (message : String) :
    (Session.log level message : Session σ ε Unit).Warnless := fun _ => rfl

theorem ofExcept (r : Except ε α) : (Session.ofExcept r : Session σ ε α).Warnless := fun _ => rfl

theorem bind {x : Session σ ε α} {f : α → Session σ ε β} (hx : x.Warnless)
    (hf : ∀ a, (f a).Warnless) : (x >>= f).Warnless := by
  intro s
  cases h : (x.run s).result with
  | error e =>
    rw [run_bind_of_error h]
    exact hx s
  | ok a =>
    rw [run_bind_of_ok h]
    show warningsOf (_ ++ _) = []
    rw [warningsOf, List.filterMap_append]
    exact List.append_eq_nil_iff.mpr ⟨hx s, hf a _⟩

theorem mapError {x : Session σ ε α} (hx : x.Warnless) (f : ε → ε') : (x.mapError f).Warnless :=
  hx

theorem mapM {f : α → Session σ ε β} {l : List α} (hf : ∀ a ∈ l, (f a).Warnless) :
    (l.mapM f).Warnless := by
  induction l with
  | nil => exact .pure []
  | cons a l ih =>
    rw [List.mapM_cons]
    refine (hf a List.mem_cons_self).bind fun b => Warnless.bind ?_ fun bs => .pure _
    exact ih fun a' ha' => hf a' (List.mem_cons_of_mem a ha')

end Warnless

end Session

/-! ## The usual compiler -/

/-- The usual compiler looks keys up in its table and runs programs with it. Both its resolver and
itself report to the sink that is asked for. -/
theorem Compiler.exists_of_ofSource {settings : Settings} {options : CompileOptions}
    {source : PropertySource} {c : Compiler Heap} (h : ofSource settings options source = .ok c) :
    ∃ delimiters workers, options.delimitersOr settings = .ok delimiters ∧
      WorkerCount.ofInt (options.workers.getD settings.maxWorkers) = .ok workers ∧
      c = {
        delimiters, workers, schedule := options.schedule, sink := options.sink
        resolver := propertyResolver settings.unknownSuffix source.properties options.sink
        evaluator := programEvaluator
          { properties := source.properties, registry := options.registry }
        unknownSuffix := settings.unknownSuffix
        style :=
          if options.canonicalTags.getD settings.canonicalTags then .canonical else .verbatim } := by
  unfold ofSource at h
  cases hd : options.delimitersOr settings with
  | error e =>
    rw [hd] at h
    cases h
  | ok delimiters =>
    rw [hd] at h
    cases hw : WorkerCount.ofInt (options.workers.getD settings.maxWorkers) with
    | error e =>
      rw [hw] at h
      cases h
    | ok workers =>
      rw [hw] at h
      exact ⟨delimiters, workers, rfl, rfl, (Except.ok.inj h).symm⟩

/-! ## Keys that stand for nothing -/

/-- A key that has no value, or that of nothing. -/
def Properties.Unmapped (p : Properties) (key : Text) : Prop :=
  p.get? key = none ∨ p.get? key = some .none

theorem Properties.text?_of_unmapped {p : Properties} {key : Text} (hk : p.Unmapped key)
    (h : Heap) : p.text? h key = .ok none := by
  rcases hk with hk | hk <;> rw [text?, hk]

/-- What comes of looking a key up. -/
theorem Properties.run_lookup (p : Properties) (suffix key : Text) (sink : Sink) (h : Heap) :
    (p.lookup suffix key sink).run h = match p.text? h key with
      | .error e => ⟨h, [], .error e⟩
      | .ok (some t) => ⟨h, [], .ok t⟩
      | .ok none => ⟨h, [unknownKey key sink], .ok (sentinel suffix key)⟩ := by
  rw [lookup, Session.run_bind_of_ok rfl]
  show Ending.mk ((Session.ofExcept (p.text? h key) >>= _).run h).state
    ([] ++ ((Session.ofExcept (p.text? h key) >>= _).run h).events)
    ((Session.ofExcept (p.text? h key) >>= _).run h).result = _
  cases p.text? h key with
  | error e => rfl
  | ok found => cases found <;> rfl

/-- A key that stands for nothing is reported when it is looked up. -/
theorem Properties.lookup_reports {p : Properties} {key : Text} (hk : p.Unmapped key)
    (suffix : Text) (sink : Sink) :
    (p.lookup suffix key sink).Reports (unknownKey key sink) := by
  intro h t _
  rw [run_lookup, text?_of_unmapped hk h]
  exact List.mem_singleton_self _

theorem Properties.text?_ne_none {p : Properties} {key : Text} (hk : ¬p.Unmapped key)
    (h : Heap) : p.text? h key ≠ .ok none := by
  intro hnone
  unfold text? at hnone
  split at hnone
  · next heq => exact hk (.inl heq)
  · next heq => exact hk (.inr heq)
  · next v _ heq =>
    cases hv : h.display v with
    | error e =>
      rw [hv] at hnone
      cases hnone
    | ok t =>
      rw [hv] at hnone
      cases hnone

/-- A key that stands for something is looked up without a warning. -/
theorem Properties.lookup_warnless {p : Properties} {key : Text} (hk : ¬p.Unmapped key)
    (suffix : Text) (sink : Sink) : (p.lookup suffix key sink).Warnless := by
  intro h
  rw [run_lookup]
  cases hr : p.text? h key with
  | error e => rfl
  | ok found =>
    cases found with
    | none => exact absurd hr (text?_ne_none hk h)
    | some t => rfl

/-! ## Programs and sections -/

theorem Template.fillHolesM_reports {σ ε : Type} {e : Event} {f : Text → Session σ ε Text}
    {key : Text} (hf : (f key).Reports e) {holes : List (Text × Text)}
    (hk : key ∈ holes.map Prod.fst) : (fillHolesM f holes).Reports e := by
  induction holes with
  | nil => cases hk
  | cons hole rest ih =>
    rcases List.mem_cons.mp hk with rfl | hk
    · exact hf.bind_left _
    · exact .bind_right _ fun _ => (ih hk).bind_left _

theorem Template.fillHolesM_warnless {σ ε : Type} {f : Text → Session σ ε Text}
    {holes : List (Text × Text)} (hf : ∀ key ∈ holes.map Prod.fst, (f key).Warnless) :
    (fillHolesM f holes).Warnless :=
  fillHolesM_induction Session.Warnless.pure (fun _ _ => Session.Warnless.bind) hf

namespace Compiler

section Sections

variable {σ : Type} {c : Compiler σ} {e : Event}

/-- A section reports what is reported for a key of its program. -/
theorem evaluateSection_reports {s : Section} {key : Text}
    (hk : key ∈ (Template.ofText s.program).keys) (h : (c.resolve s.name key).Reports e) :
    (c.evaluateSection s).Reports e := by
  have hfill : (c.fillProgram s.name s.program).Reports e :=
    (Template.fillHolesM_reports h hk).bind_left _
  exact .bind_right _ fun _ => hfill.bind_left _

/-- Workers that all succeed report what one of the sections reports. -/
theorem evaluateSections_reports {sections : List Section} {s : Section} (hs : s ∈ sections)
    (h : (c.evaluateSection s).Reports e) : (c.evaluateSections sections).Reports e := by
  rw [evaluateSections]
  split
  · exact h.mapM hs
  · refine .bind_right _ fun _ st rendered hr => ?_
    obtain ⟨results, hresults, hkeys, hruns⟩ :=
      evaluateAll_runs (c := c) sections (schedule_lt c sections.length) st
    rw [Session.run_bind_of_ok hresults] at hr ⊢
    have hcollect : collect results sections.length = .ok rendered := hr
    obtain ⟨i, hi, rfl⟩ := List.getElem_of_mem hs
    have hplace : i ∈ results.keys := by
      rw [hkeys, (c.schedule.property sections.length).mem_iff, List.mem_range]
      exact hi
    obtain ⟨r, hget⟩ := Table.exists_get?_of_mem_keys hplace
    -- the collection succeeds, so each of the results is one of a section that succeeds
    obtain ⟨rendered', rfl⟩ : ∃ rendered', r = .ok rendered' := by
      have hmem : r ∈ rendered.map Except.ok := by
        rw [← eq_map_ok_of_mapM_id hcollect, List.mem_filterMap]
        exact ⟨i, List.mem_range.mpr hi, hget⟩
      obtain ⟨rendered', -, rfl⟩ := List.mem_map.mp hmem
      exact ⟨rendered', rfl⟩
    obtain ⟨s, st', hs', hr', hevents⟩ := hruns i _ (Table.mem_of_get? hget)
    obtain rfl : sections[i] = s :=
      Option.some.inj ((List.getElem?_eq_getElem hi).symm.trans hs')
    exact List.mem_append_left _ (hevents (h st' rendered' hr'))

/-- A section whose keys are looked up without a warning is evaluated without one, if the evaluator
does not warn. -/
theorem evaluateSection_warnless {s : Section}
    (hk : ∀ key ∈ (Template.ofText s.program).keys, (c.resolve s.name key).Warnless)
    (he : ∀ program, (c.evaluator s.name program s.stale).Warnless) :
    (c.evaluateSection s).Warnless := by
  have hfill : (c.fillProgram s.name s.program).Warnless :=
    (Template.fillHolesM_warnless hk).bind fun _ => .pure _
  refine (Session.Warnless.log _ _).bind fun _ => hfill.bind fun program => ?_
  refine Session.Warnless.bind (fun _ => rfl) fun _ => ?_
  refine ((he program).mapError _).bind fun produced => ?_
  exact (Session.Warnless.ofExcept _).bind fun output => .pure _

theorem evaluateAll_warnless {sections : List Section}
    (h : ∀ s ∈ sections, (c.evaluateSection s).Warnless) (order : List Nat) :
    (c.evaluateAll sections order).Warnless := by
  induction order with
  | nil => exact .pure []
  | cons i order ih =>
    rw [evaluateAll]
    split
    · exact ih
    · next s hs =>
      have hsection : (c.evaluateSection s).Warnless := h s (List.mem_of_getElem? hs)
      exact Session.Warnless.bind (fun st => hsection st) fun r => ih.bind fun more => .pure _

theorem evaluateSections_warnless {sections : List Section}
    (h : ∀ s ∈ sections, (c.evaluateSection s).Warnless) :
    (c.evaluateSections sections).Warnless := by
  rw [evaluateSections]
  split
  · exact .mapM h
  · refine (Session.Warnless.log _ _).bind fun _ => ?_
    exact (evaluateAll_warnless h _).bind fun results => .ofExcept _

end Sections

variable {c : Compiler Heap} {suffix : Text} {p : Properties} {sink : Sink}

/-- **A compilation that succeeds reports every unmapped key of every program,** on any number of
workers. -/
theorem compile_reports (hc : c.resolver = propertyResolver suffix p sink) {document : Text}
    {parts : List Part} (hp : parse c.delimiters document = .ok parts) {s : Section}
    (hs : s ∈ sectionsOf parts) {key : Text} (hk : key ∈ (Template.ofText s.program).keys)
    (hu : p.Unmapped key) : (c.compile document).Reports (unknownKey key sink) := by
  have hresolve : (c.resolve s.name key).Reports (unknownKey key sink) := by
    rw [resolve, hc]
    have hlookup : (propertyResolver suffix p sink s.name key).Reports (unknownKey key sink) :=
      ((Properties.lookup_reports hu suffix sink).mapError _).bind_left _
    exact hlookup.bind_left _
  have hsections : (c.evaluateSections (sectionsOf parts)).Reports (unknownKey key sink) :=
    evaluateSections_reports hs (evaluateSection_reports hk hresolve)
  intro h out ho
  obtain ⟨rendered, hr, -⟩ := evaluate_of_compile_ok hp ho
  rw [run_compile_of_ok hp]
  exact List.mem_append_right _ (hsections h rendered hr)

/-- Programs are run without a warning. -/
theorem programEvaluator_warnless (e : ProgramEvaluator) (name program stale : Text) :
    (programEvaluator e name program stale).Warnless := by
  have hevaluate : (e.evaluate name program stale).Warnless := by
    unfold ProgramEvaluator.evaluate
    split
    · exact .fail _
    · split
      · exact .fail _
      · next q _ =>
        refine (Session.Warnless.log _ _).bind fun _ h => ?_
        show warningsOf (ProgramEvaluator.execute name q (e.scope name stale) h).events = []
        unfold ProgramEvaluator.execute
        split <;> rfl
  exact hevaluate.bind fun t => .pure _

/-- **A compilation warns of nothing if all keys of its programs stand for something,** on any
number of workers. -/
theorem compile_warnless {e : ProgramEvaluator}
    (hc : c.resolver = propertyResolver suffix p sink) (he : c.evaluator = programEvaluator e)
    {document : Text} {parts : List Part} (hp : parse c.delimiters document = .ok parts)
    (hk : ∀ s ∈ sectionsOf parts, ∀ key ∈ (Template.ofText s.program).keys, ¬p.Unmapped key) :
    (c.compile document).Warnless := by
  have hsection (s : Section) (hs : s ∈ sectionsOf parts) : (c.evaluateSection s).Warnless := by
    refine evaluateSection_warnless (fun key hkey => ?_) fun program => ?_
    · have hlookup : (p.lookup suffix key sink).Warnless :=
        Properties.lookup_warnless (hk s hs key hkey) suffix sink
      rw [resolve, hc, propertyResolver, map_eq_pure_bind, bind_assoc]
      exact (hlookup.mapError _).bind fun t => .pure t
    · rw [he]
      exact programEvaluator_warnless e _ _ _
  intro h
  rw [run_compile_of_ok hp]
  show warningsOf (_ ++ _) = []
  rw [warningsOf, List.filterMap_append]
  exact List.append_eq_nil_iff.mpr
    ⟨(quiet_preamble c parts).warningsOf_eq, evaluateSections_warnless hsection h⟩

end Compiler

end LiveSections
