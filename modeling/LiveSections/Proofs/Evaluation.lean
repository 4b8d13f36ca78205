import LiveSections.Proofs.Bindings
import LiveSections.Proofs.Raising
import Mathlib.Tactic.Common

/-!
# How evaluations end

An evaluation looks at the program, runs it, and then looks for an output among all names, also
those that the program has not bound itself.

- `ProgramEvaluator.Runs`: a text is a program, and this is what its run ends with.
- `ProgramEvaluator.Runs.result`: what the evaluation makes of that.
- `ProgramEvaluator.Course`: how an evaluation can go, and what it comes to.
- `ProgramEvaluator.course_evaluate`: every evaluation takes one of these courses.
- `ProgramEvaluator.Inside`: an evaluation that stays inside what is modelled.
- `ProgramEvaluator.evaluate_fails_within`: **an evaluation that stays inside comes to a text, to an
  error that names the section, or to the exception by which the program has asked to stop.**
- `ProgramEvaluator.evaluate_unassigned_iff`: **which programs that come to their end have left the
  output unassigned.**

What does not hold: that a program has an output only if it assigns one. A property or helper of
that name is taken for it.

What `evaluate_fails_within` leaves open: evaluations that meet a null character, those of programs
that raise a failure whose text cannot be made, and those that do not stay inside what is modelled
(`Unmodelled`). Among the last are calls of `exit`, `quit` and `exec`, by which a program may well
ask to stop without a statement that raises an exception.
-/

namespace LiveSections

/-- An exception that a program has raised, as it is seen from outside. -/
def Raised.ofProgram (c : ExceptionClass) (text : Option Text) (r : Ref) : Raised :=
  match text with
  | some t => ⟨c.name, t.str, some r⟩
  | none => ⟨c.name, "", none⟩

namespace ProgramEvaluator

variable {e : ProgramEvaluator} {name program stale : Text} {h : Heap} {p : Program}

/-! ## Courses -/

/-- A text is a program that may run, and this is what its run comes to. -/
structure Runs (e : ProgramEvaluator) (name program stale : Text) (h : Heap) (p : Program)
    (r : Except RunFault Scope) : Prop where
  admitted : nullRefusal? name program = none
  parsed : Program.parse program = .ok p
  ran : (p.run (e.scope name stale) h).1 = r

/-- How an evaluation can go, and what it comes to. -/
inductive Course (e : ProgramEvaluator) (name program stale : Text) (h : Heap) :
    Except Failure Text → Prop where
  /-- There is a null character. -/
  | refused {refusal : Raised} (hr : nullRefusal? name program = some refusal) :
      Course e name program stale h (.error (.raised refusal))
  /-- The text is no program, or none that is modelled. -/
  | unread {reason : NoProgram} (ha : nullRefusal? name program = none)
      (hp : Program.parse program = .error reason) :
      Course e name program stale h (.error (unread name reason))
  /-- The program ends with a fault. -/
  | failed {p : Program} {fault : RunFault} (hr : e.Runs name program stale h p (.error fault)) :
      Course e name program stale h (.error (failureOf name fault))
  /-- The program comes to its end. -/
  | ended {p : Program} {scope : Scope} (hr : e.Runs name program stale h p (.ok scope)) :
      Course e name program stale h (produced name scope)

/-- What the end of a program's run comes to. -/
def outcome (name : Text) : Except RunFault Scope → Except Failure Text
  | .ok scope => produced name scope
  | .error fault => .error (failureOf name fault)

theorem result_execute (name : Text) (p : Program) (scope : Scope) (h : Heap) :
    (execute name p scope h).result = outcome name (p.run scope h).1 := by
  unfold execute
  rcases hr : p.run scope h with ⟨r, h'⟩
  rw [show ((p.run scope).run).run h = (r, h') from hr]
  cases r <;> rfl

theorem Runs.result {r : Except RunFault Scope} (hr : e.Runs name program stale h p r) :
    ((e.evaluate name program stale).run h).result = outcome name r := by
  have hevaluate : ((e.evaluate name program stale).run h).result =
      (execute name p (e.scope name stale) h).result := by
    unfold evaluate
    rw [hr.admitted, hr.parsed]
    rfl
  rw [hevaluate, result_execute, hr.ran]

/-- Every evaluation takes one of the courses. -/
theorem course_evaluate (e : ProgramEvaluator) (name program stale : Text) (h : Heap) :
    Course e name program stale h ((e.evaluate name program stale).run h).result := by
  cases ha : nullRefusal? name program with
  | some refusal =>
    have hresult : ((e.evaluate name program stale).run h).result = .error (.raised refusal) := by
      unfold evaluate
      rw [ha]
      rfl
    exact hresult ▸ .refused ha
  | none =>
    cases hp : Program.parse program with
    | error reason =>
      have hresult : ((e.evaluate name program stale).run h).result =
          .error (unread name reason) := by
        unfold evaluate
        rw [ha, hp]
        rfl
      exact hresult ▸ .unread ha hp
    | ok p =>
      have hruns : e.Runs name program stale h p (p.run (e.scope name stale) h).1 := ⟨ha, hp, rfl⟩
      rw [hruns.result]
      cases hr : (p.run (e.scope name stale) h).1 with
      | error fault => exact .failed (hr ▸ hruns)
      | ok scope => exact .ended (hr ▸ hruns)

/-! ## Failures -/

theorem nullRefusal?_eq_none (hname : '\x00' ∉ name) (hprogram : '\x00' ∉ program) :
    nullRefusal? name program = none := by
  rw [nullRefusal?, if_neg hname, if_neg hprogram]

/-- The wish to stop is let through. -/
theorem failureOf_raised {c : ExceptionClass} (hc : c.isFailure = false) (name : Text)
    (text : Option Text) (r : Ref) :
    failureOf name (.raised c text r) = .raised (.ofProgram c text r) := by
  cases text <;> simp [failureOf, hc, Raised.ofProgram]

/-- A failure that can be told of is an error of the section. -/
theorem failureOf_eq_evaluation {fault : RunFault} (name : Text)
    (hfailure : ExceptionClass.isFailure ⟨fault.className⟩ = true)
    (htold : ∀ c r, fault ≠ .raised c none r) (hmodelled : ∀ u, fault ≠ .unmodelled u) :
    failureOf name fault = .evaluation ⟨some name, .faulted fault⟩ := by
  cases fault with
  | raised c text r =>
    cases text with
    | none => exact absurd rfl (htold c r)
    | some t => exact if_pos hfailure
  | unmodelled u => exact absurd rfl (hmodelled u)
  | _ => rfl

/-- An evaluation stays inside what is modelled: the text is no program, or one that is modelled and
does nothing that is left open. -/
def Inside (e : ProgramEvaluator) (name program stale : Text) (h : Heap) : Prop :=
  ∀ u, ((e.evaluate name program stale).run h).result ≠ .error (.unmodelled u)

/-- An evaluation that comes to a text has stayed inside. -/
theorem Inside.of_ok {t : Text}
    (hresult : ((e.evaluate name program stale).run h).result = .ok t) :
    e.Inside name program stale h := by
  intro u hu
  cases hresult.symm.trans hu

/-- What a program that came to its end has produced is a text or an error of the section. -/
theorem produced_within (name : Text) (scope : Scope) :
    (∃ t, produced name scope = .ok t) ∨
      ∃ fault, produced name scope = .error (.evaluation ⟨some name, fault⟩) := by
  unfold produced
  split
  · exact .inl ⟨_, rfl⟩
  · exact .inr ⟨_, rfl⟩
  · exact .inr ⟨_, rfl⟩

/-- **An evaluation that stays inside what is modelled comes to a text, to an error that names the
section, or to the exception by which the program has asked to stop.** This one comes from a
statement that is there to raise it, and does not stand for a failure. -/
theorem evaluate_fails_within (e : ProgramEvaluator) (stale : Text) (h : Heap)
    (hname : '\x00' ∉ name) (hprogram : '\x00' ∉ program)
    (hinside : e.Inside name program stale h)
    (htold : ∀ p c r, e.Runs name program stale h p (.error (.raised c none r)) →
      c.isFailure = false) :
    let result := ((e.evaluate name program stale).run h).result
    (∃ t, result = .ok t) ∨ (∃ fault, result = .error (.evaluation ⟨some name, fault⟩)) ∨
      ∃ p term c text r, .raise (some term) ∈ p ∧
        e.Runs name program stale h p (.error (.raised c text r)) ∧ c.isFailure = false ∧
        result = .error (.raised (.ofProgram c text r)) := by
  intro result
  have hcourse : Course e name program stale h result := course_evaluate e name program stale h
  have hmodelled (u : Unmodelled) : result ≠ .error (.unmodelled u) := hinside u
  clear_value result
  cases hcourse with
  | refused hr => cases (nullRefusal?_eq_none hname hprogram).symm.trans hr
  | @unread reason =>
    cases reason with
    | malformed => exact .inr (.inl ⟨_, rfl⟩)
    | unmodelled u => exact absurd rfl (hmodelled u)
  | ended hr =>
    obtain hok | herror := produced_within name ‹Scope›
    · exact .inl hok
    · exact .inr (.inl herror)
  | @failed p fault hr =>
    cases hfailure : ExceptionClass.isFailure ⟨fault.className⟩ with
    | true =>
      have hfault : ∀ c r, fault ≠ .raised c none r := by
        rintro c r rfl
        cases hfailure.symm.trans (htold p c r hr)
      have hwithin : ∀ u, fault ≠ .unmodelled u := by
        rintro u rfl
        exact hmodelled u rfl
      exact .inr (.inl ⟨_, congrArg Except.error
        (failureOf_eq_evaluation name hfailure hfault hwithin)⟩)
    | false =>
      obtain ⟨c, text, r, rfl⟩ := RunFault.exists_raised_of_isFailure hfailure
      obtain ⟨before, term, behind, scope, h₁, rfl, -, -⟩ :=
        Program.raised_by_statement (Prod.ext hr.ran rfl) rfl
      exact .inr (.inr ⟨_, term, c, text, r, by simp, hr, hfailure,
        congrArg Except.error (failureOf_raised hfailure name text r)⟩)

/-- A program asks to stop, and no error names its section. -/
theorem evaluate_exit :
    let e : ProgramEvaluator := { properties := [] }
    let result := ((e.evaluate "a".toList "raise SystemExit\n".toList []).run .empty).result
    result = .error (.raised { className := "SystemExit", text := "", arguments := some 0 }) ∧
      ¬((∃ t, result = .ok t) ∨
        ∃ fault, result = .error (.evaluation ⟨some "a".toList, fault⟩)) := by
  intro e result
  have hresult : result =
      .error (.raised { className := "SystemExit", text := "", arguments := some 0 }) := by
    decide +kernel
  refine ⟨hresult, ?_⟩
  rintro (⟨t, h⟩ | ⟨fault, h⟩)
  · cases hresult.symm.trans h
  · cases hresult.symm.trans h

/-- A failure that a program raises is an error of its section. -/
theorem evaluate_fails_within_sample :
    let e : ProgramEvaluator := { properties := [] }
    let name := "a".toList
    let program := "raise ValueError('no')\n".toList
    let result := ((e.evaluate name program []).run .empty).result
    let raised : RunFault := .raised ⟨"ValueError"⟩ (some "no".toList) 0
    '\x00' ∉ name ∧ '\x00' ∉ program ∧ e.Inside name program [] .empty ∧
      (∀ p c r, e.Runs name program [] .empty p (.error (.raised c none r)) →
        c.isFailure = false) ∧
      ((∃ t, result = .ok t) ∨ (∃ fault, result = .error (.evaluation ⟨some name, fault⟩)) ∨
        ∃ p term c text r, .raise (some term) ∈ p ∧
          e.Runs name program [] .empty p (.error (.raised c text r)) ∧ c.isFailure = false ∧
          result = .error (.raised (.ofProgram c text r))) ∧
      result = .error (.evaluation ⟨some name, .faulted raised⟩) := by
  intro e name program result raised
  have hname : '\x00' ∉ name := by decide
  have hprogram : '\x00' ∉ program := by decide
  have hresult : result = .error (.evaluation ⟨some name, .faulted raised⟩) := by decide +kernel
  have htold : ∀ p c r, e.Runs name program [] .empty p (.error (.raised c none r)) →
      c.isFailure = false := by
    intro p c r hr
    cases hc : c.isFailure with
    | false => rfl
    | true =>
      have huntold : failureOf name (.raised c none r) = .raised .tooManyDigits := if_pos hc
      rw [show result = outcome name _ from hr.result, outcome, huntold] at hresult
      cases hresult
  have hinside : e.Inside name program [] .empty := by
    intro u hu
    cases hresult.symm.trans hu
  exact ⟨hname, hprogram, hinside, htold,
    evaluate_fails_within e [] .empty hname hprogram hinside htold, hresult⟩

/-! ## Outputs that are not assigned -/

theorem produced_eq_ok_iff {name : Text} {scope : Scope} {t : Text} :
    produced name scope = .ok t ↔ scope.bindings.get? outputName = some (.text t) := by
  unfold produced
  split
  · next u hu => simp [hu]
  · next v hv hget =>
    refine iff_of_false nofun fun h => ?_
    exact hv t (Option.some.inj (hget.symm.trans h))
  · next hget => simp [hget]

theorem produced_eq_unassigned_iff {name : Text} {scope : Scope} :
    produced name scope = .error (.evaluation ⟨some name, .unassigned⟩) ↔
      scope.bindings.get? outputName = none := by
  unfold produced
  split
  · next hget => simp [hget]
  · next hget => simp [hget]
  · next hget => simp [hget]

/-- A name of the section's scope that is not the name of its previous output is one of its
context. -/
theorem scope_get? {n : Text} (hn : n ≠ inputName) :
    (e.scope name stale).bindings.get? n = (e.context name).get? n :=
  (Table.get?_put _ _ _ _).trans (if_neg hn)

theorem keys_functions (e : ProgramEvaluator) :
    Table.keys (e.registry.functions.map fun f => (f.1, Value.helper f.2)) =
      e.registry.bindings.keys := by
  simp [Table.keys, Registry.functions]

/-- A helper's name stands for the helper. -/
theorem context_helper (hbindings : e.bindings name = []) {n : Text}
    (hn : n ∈ e.registry.bindings.keys) : ∃ f, (e.context name).get? n = some (.helper f) := by
  rw [← keys_functions] at hn
  obtain ⟨v, hv, hget⟩ := Table.exists_get?_putAll_of_mem hn
    (e.properties.filter fun p => Text.isIdentifier p.1)
  obtain ⟨f, -, heq⟩ := List.mem_map.mp hv
  cases heq
  refine ⟨f.2, ?_⟩
  rw [context, hbindings]
  exact hget

/-- Any other name that programs can use stands for the property. -/
theorem context_property (hbindings : e.bindings name = []) {n : Text}
    (hident : Text.isIdentifier n = true) (hn : n ∉ e.registry.bindings.keys) :
    (e.context name).get? n = e.properties.get? n := by
  rw [← keys_functions] at hn
  rw [context, hbindings]
  exact (Table.get?_putAll_of_notMem hn).trans (Table.get?_filter hident e.properties)

/-- What the name of the output stands for behind a program that does not bind it. -/
theorem get?_outputName_of_not_bound {scope : Scope} (hbindings : e.bindings name = [])
    (hr : e.Runs name program stale h p (.ok scope)) (hbound : outputName ∉ p.bound) :
    if outputName ∈ e.registry.bindings.keys then
      ∃ f, scope.bindings.get? outputName = some (.helper f)
    else scope.bindings.get? outputName = e.properties.get? outputName := by
  have hbinds := p.run_binds (e.scope name stale) h scope _ (Prod.ext hr.ran rfl)
  have hget : scope.bindings.get? outputName = (e.context name).get? outputName :=
    (hbinds.get?_of_notMem outputName hbound).trans (scope_get? (by decide))
  rw [hget]
  split
  · exact context_helper hbindings ‹_›
  · exact context_property hbindings (by decide) ‹_›

/-- Whether a text is a program that comes to its end without binding a name. -/
def endsWithout (e : ProgramEvaluator) (n name program stale : Text) (h : Heap) : Bool :=
  (Program.parse program).toOption.any fun p =>
    (p.run (e.scope name stale) h).1.isOk && !p.bound.contains n

theorem exists_runs_of_endsWithout {n : Text} (ha : nullRefusal? name program = none)
    (hends : e.endsWithout n name program stale h = true) :
    ∃ p scope, e.Runs name program stale h p (.ok scope) ∧ n ∉ p.bound := by
  unfold endsWithout at hends
  cases hp : Program.parse program with
  | error reason =>
    rw [hp] at hends
    cases hends
  | ok p =>
    rw [hp] at hends
    obtain ⟨hok, hbound⟩ := Bool.and_eq_true_iff.mp hends
    cases hr : (p.run (e.scope name stale) h).1 with
    | error fault =>
      rw [hr] at hok
      cases hok
    | ok scope => exact ⟨p, scope, ⟨ha, hp, hr⟩, by simpa using hbound⟩

/-- A program that binds another name has a property for its output. -/
theorem evaluate_unassigned_property :
    let e : ProgramEvaluator := { properties := [(outputName, .text "x".toList)] }
    let name := "a".toList
    let program := "y = 1\n".toList
    let result := ((e.evaluate name program []).run .empty).result
    (∃ p scope, e.Runs name program [] .empty p (.ok scope) ∧ outputName ∉ p.bound) ∧
      result = .ok "x".toList ∧ result ≠ .error (.evaluation ⟨some name, .unassigned⟩) := by
  intro e name program result
  have hresult : result = .ok "x".toList := by decide +kernel
  refine ⟨exists_runs_of_endsWithout (by decide) (by decide +kernel), hresult, ?_⟩
  rw [hresult]
  exact nofun

/-- **Which programs that come to their end have left the output unassigned.** Those that do not
bind its name, where no property and no helper has it either. Where a property has it, the program
has the property for an output without binding the name. -/
theorem evaluate_unassigned_iff {scope : Scope} (hbindings : e.bindings name = [])
    (hr : e.Runs name program stale h p (.ok scope)) :
    let result := ((e.evaluate name program stale).run h).result
    (result = .error (.evaluation ⟨some name, .unassigned⟩) ↔
      outputName ∉ p.bound ∧ outputName ∉ e.properties.keys ∧
        outputName ∉ e.registry.bindings.keys) ∧
    (outputName ∉ p.bound → ∀ t, result = .ok t ↔
      outputName ∉ e.registry.bindings.keys ∧ e.properties.get? outputName = some (.text t)) := by
  intro result
  have hresult : result = produced name scope := hr.result
  rw [hresult, produced_eq_unassigned_iff]
  by_cases hbound : outputName ∈ p.bound
  · obtain ⟨v, hv⟩ := (p.run_binds (e.scope name stale) h scope _
      (Prod.ext hr.ran rfl)).get?_of_mem outputName hbound
    rw [hv]
    exact ⟨iff_of_false nofun fun h => h.1 hbound, fun h => absurd hbound h⟩
  · have hget := get?_outputName_of_not_bound hbindings hr hbound
    simp only [produced_eq_ok_iff]
    split at hget
    · next hhelper =>
      obtain ⟨f, hf⟩ := hget
      rw [hf]
      exact ⟨iff_of_false nofun fun h => h.2.2 hhelper,
        fun _ t => iff_of_false nofun fun h => h.1 hhelper⟩
    · next hhelper =>
      rw [hget, Table.get?_eq_none_iff]
      exact ⟨⟨fun h => ⟨hbound, h, hhelper⟩, fun h => h.2.1⟩,
        fun _ t => ⟨fun h => ⟨hhelper, h⟩, fun h => h.2⟩⟩

/-- A program that binds another name has no output. -/
theorem evaluate_unassigned_sample :
    let e : ProgramEvaluator := { properties := [("version".toList, .text "1".toList)] }
    let name := "a".toList
    let program := "y = version\n".toList
    let result := ((e.evaluate name program []).run .empty).result
    ∃ p scope, e.bindings name = [] ∧ e.Runs name program [] .empty p (.ok scope) ∧
      outputName ∉ p.bound ∧ result = .error (.evaluation ⟨some name, .unassigned⟩) := by
  intro e name program result
  obtain ⟨p, scope, hr, hbound⟩ : ∃ p scope,
      e.Runs name program [] .empty p (.ok scope) ∧ outputName ∉ p.bound :=
    exists_runs_of_endsWithout (by decide) (by decide +kernel)
  have hproperties : outputName ∉ e.properties.keys := by decide
  have hhelpers : outputName ∉ e.registry.bindings.keys := by decide
  exact ⟨p, scope, rfl, hr, hbound,
    (evaluate_unassigned_iff rfl hr).1.mpr ⟨hbound, hproperties, hhelpers⟩⟩

end ProgramEvaluator

end LiveSections
