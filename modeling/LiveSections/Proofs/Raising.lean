import LiveSections.Proofs.Faults

/-!
# Exceptions that programs raise

An exception of a program's own comes from a statement that is there to raise it, as far as programs
are modelled. Built-in values whose calls are left open may do more.

- `Term.eval_unraised`: **no term raises an exception,** whatever it calls of what is modelled.
- `Statement.run_unraised`: no statement does either, unless it is there to raise one.
- `Program.raised_by_statement`: **where a program ends with an exception of its own, it has come to
  a statement that raises it.**
-/

namespace LiveSections

open LiveSections.Computation

/-! ## Terms -/

theorem Scope.lookupOuter_unraised (scope : Scope) (name : Text) :
    Unraised (scope.lookupOuter name) := by
  unfold lookupOuter
  dsimp only
  split
  · split
    · exact (alloc_unraised _).bind fun _ => .pure _
    · cases BuiltIn.all.get? name with
      | none => exact Unraised.throw_iff.mpr rfl
      | some v => exact .pure v
  · refine .get_bind fun h => ?_
    split <;> simp
  · split <;> simp

theorem Scope.lookup_unraised (scope : Scope) (name : Text) : Unraised (scope.lookup name) := by
  unfold lookup
  split
  · simp
  · exact scope.lookupOuter_unraised name

theorem DisplayKind.collect_unraised (kind : DisplayKind) (items : List Value) :
    Unraised (kind.collect items) := by
  cases kind with
  | list => exact (alloc_unraised _).bind fun _ => .pure _
  | tuple => exact (alloc_unraised _).bind fun _ => .pure _
  | set =>
    refine .get_bind fun h => .guard rfl ?_
    dsimp only
    split
    · simp
    · exact (alloc_unraised _).bind fun _ => .pure _

mutual

/-- **No term raises an exception,** whatever it calls of what is modelled. -/
theorem Term.eval_unraised (scope : Scope) (term : Term) : Unraised (term.eval scope) := by
  match term with
  | .name n => exact scope.lookup_unraised n
  | .none | .bool _ | .int _ | .float _ | .text _ => exact .pure _
  | .display kind items =>
    rw [Term.eval]
    exact (evalAll_unraised scope items).bind fun _ => kind.collect_unraised _
  | .emptyDict =>
    rw [Term.eval]
    exact (alloc_unraised _).bind fun _ => .pure _
  | .binary op left right =>
    rw [Term.eval]
    exact (Term.eval_unraised scope left).bind fun _ =>
      (Term.eval_unraised scope right).bind fun _ => Value.binary_unraised _ _ _
  | .unary op operand =>
    rw [Term.eval]
    exact (Term.eval_unraised scope operand).bind fun _ => Value.unary_unraised _ _
  | .call function arguments keywords =>
    rw [Term.eval]
    exact (Term.eval_unraised scope function).bind fun _ =>
      (evalAll_unraised scope arguments).bind fun _ =>
      (evalNamed_unraised scope keywords).bind fun _ => Value.call_unraised _ _ _
  | .attribute value name =>
    rw [Term.eval]
    exact (Term.eval_unraised scope value).bind fun _ => Value.attribute_unraised _ _

theorem evalAll_unraised (scope : Scope) (terms : List Term) :
    Unraised (evalAll scope terms) := by
  match terms with
  | [] => exact .pure _
  | term :: rest =>
    rw [evalAll]
    exact (Term.eval_unraised scope term).bind fun _ =>
      (evalAll_unraised scope rest).bind fun _ => .pure _

theorem evalNamed_unraised (scope : Scope) (terms : List (Text × Term)) :
    Unraised (evalNamed scope terms) := by
  match terms with
  | [] => exact .pure _
  | (name, term) :: rest =>
    rw [evalNamed]
    exact (Term.eval_unraised scope term).bind fun _ =>
      (evalNamed_unraised scope rest).bind fun _ => .pure _

end

/-! ## Targets -/

theorem Holder.assign_unraised (scope : Scope) (v : Value) (holder : Holder) :
    Unraised (holder.assign scope v) := by
  match holder with
  | .name n => exact .pure _
  | .attribute term n =>
    exact (Term.eval_unraised scope term).bind fun _ =>
      (Value.setAttribute_unraised _ _).bind fun _ => .pure _

theorem Value.shares_unraised (v : Value) (count : Nat) : Unraised (v.shares count) := by
  refine (elementsOf_unraised v).bind fun items? => ?_
  split
  · simp
  · split
    · simp
    · split <;> simp

mutual

theorem Target.assign_unraised (scope : Scope) (v : Value) (target : Target) :
    Unraised (target.assign scope v) := by
  match target with
  | .holder holder => exact holder.assign_unraised scope v
  | .items targets =>
    rw [Target.assign]
    exact (v.shares_unraised _).bind fun vs => assignAll_unraised scope targets vs

theorem assignAll_unraised (scope : Scope) (targets : List Target) (vs : List Value) :
    Unraised (assignAll scope targets vs) := by
  match targets, vs with
  | [], _ => exact .pure _
  | _ :: _, [] => exact .pure _
  | target :: targets, v :: vs =>
    rw [assignAll]
    exact (Target.assign_unraised scope v target).bind fun scope' =>
      assignAll_unraised scope' targets vs

end

theorem foldlM_assign_unraised (scope : Scope) (v : Value) (targets : List Target) :
    Unraised (targets.foldlM (fun scope target => target.assign scope v) scope) := by
  induction targets generalizing scope with
  | nil => exact .pure scope
  | cons target targets ih =>
    rw [List.foldlM_cons]
    exact (target.assign_unraised scope v).bind ih

theorem Holder.update_unraised (scope : Scope) (op : BinaryOp) (value : Term) (holder : Holder) :
    Unraised (holder.update scope op value) := by
  match holder with
  | .name n =>
    exact (scope.lookup_unraised n).bind fun _ => (Term.eval_unraised scope value).bind fun _ =>
      (Value.update_unraised _ _ _).bind fun _ => .pure _
  | .attribute term n =>
    exact (Term.eval_unraised scope term).bind fun _ => (Value.attribute_unraised _ _).bind fun _ =>
      (Term.eval_unraised scope value).bind fun _ => (Value.update_unraised _ _ _).bind fun _ =>
      (Value.setAttribute_unraised _ _).bind fun _ => .pure _

/-! ## Statements and programs -/

/-- Whether the statement is there to raise an exception. -/
def Statement.raises : Statement → Bool
  | raise (some _) => true
  | _ => false

theorem Statement.raises_eq_true_iff {statement : Statement} :
    statement.raises = true ↔ ∃ term, statement = raise (some term) := by
  constructor
  · intro h
    cases statement with
    | raise exception =>
      cases exception with
      | none => cases h
      | some term => exact ⟨term, rfl⟩
    | _ => cases h
  · rintro ⟨term, rfl⟩
    rfl

/-- A statement that is not there to raise an exception raises none. -/
theorem Statement.run_unraised (scope : Scope) {statement : Statement}
    (h : statement.raises = false) : Unraised (statement.run scope) := by
  cases statement with
  | assign targets value =>
    exact (Term.eval_unraised scope value).bind fun v => foldlM_assign_unraised scope v targets
  | update holder op value => exact holder.update_unraised scope op value
  | evaluate term => exact (Term.eval_unraised scope term).bind fun _ => .pure _
  | raise exception =>
    cases exception with
    | none => exact Unraised.throw_iff.mpr rfl
    | some term => cases h
  | pass => exact .pure _

/-- **Where a program ends with an exception of its own, it has come to a statement that raises
it.** -/
theorem Program.raised_by_statement {program : Program} {scope : Scope} {h h' : Heap}
    {fault : RunFault} (hrun : program.run scope h = (.error fault, h'))
    (hraised : fault.isRaised = true) :
    ∃ before term behind scope' h₁, program = before ++ .raise (some term) :: behind ∧
      Program.run before scope h = (.ok scope', h₁) ∧
      (Statement.raise (some term)).run scope' h₁ = (.error fault, h') := by
  induction program generalizing scope h with
  | nil => cases hrun
  | cons statement program ih =>
    rw [Program.run, List.foldlM_cons] at hrun
    rcases hs : statement.run scope h with ⟨e | scope₁, h₁⟩
    · -- this statement ends the program
      rw [run_bind_of_error hs] at hrun
      cases hrun
      cases hraises : statement.raises with
      | false =>
        have hunraised := Statement.run_unraised scope hraises h
        rw [hs, UnraisedResult.error_iff, hraised] at hunraised
        cases hunraised
      | true =>
        obtain ⟨term, rfl⟩ := Statement.raises_eq_true_iff.mp hraises
        exact ⟨[], term, program, scope, h, rfl, rfl, hs⟩
    · rw [run_bind_of_ok hs] at hrun
      obtain ⟨before, term, behind, scope', h₂, rfl, hbefore, hraise⟩ := ih hrun
      refine ⟨statement :: before, term, behind, scope', h₂, rfl, ?_, hraise⟩
      rw [Program.run, List.foldlM_cons, run_bind_of_ok hs]
      exact hbefore

end LiveSections
