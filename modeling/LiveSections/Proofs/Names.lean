import LiveSections.Evaluation.Evaluator

/-!
# Names that programs use

A program finds its previous output under a name. One that does not use this name has the same
output whatever the previous one is.

- `Term.names`, `Holder.names`, `Target.names`, `Statement.names`, `Program.names`: the names that
  are looked up or bound.
- `Scope.AgreesOff`: two scopes with the same values but for one name.
- `Computation.Alike`: two computations that go the same way, with related results.
- `Program.run_alike`: a program runs alike in scopes that agree off a name that it does not use.
- `ProgramEvaluator.evaluate_eq_of_names`: **a program that does not use the name of the previous
  output does not hang on it.**
-/

namespace LiveSections

/-! ## Names -/

mutual

/-- The names in a term. -/
def Term.names : Term → List Text
  | .name n => [n]
  | .none | .bool _ | .int _ | .float _ | .text _ | .emptyDict => []
  | .display _ items => namesOfAll items
  | .binary _ left right => left.names ++ right.names
  | .unary _ operand => operand.names
  | .call function arguments keywords =>
    function.names ++ namesOfAll arguments ++ namesOfNamed keywords
  | .attribute value _ => value.names

/-- The names in terms. -/
def namesOfAll : List Term → List Text
  | [] => []
  | term :: rest => term.names ++ namesOfAll rest

/-- The names in the values of keywords. The keywords themselves are none. -/
def namesOfNamed : List (Text × Term) → List Text
  | [] => []
  | (_, term) :: rest => term.names ++ namesOfNamed rest

end

/-- The names in a holder. -/
def Holder.names : Holder → List Text
  | .name n => [n]
  | .attribute value _ => value.names

mutual

/-- The names in a target. -/
def Target.names : Target → List Text
  | .holder h => h.names
  | .items targets => namesOfTargets targets

/-- The names in targets. -/
def namesOfTargets : List Target → List Text
  | [] => []
  | target :: rest => target.names ++ namesOfTargets rest

end

/-- The names in a statement. -/
def Statement.names : Statement → List Text
  | assign targets value => value.names ++ namesOfTargets targets
  | update holder _ value => holder.names ++ value.names
  | evaluate term => term.names
  | raise exception => exception.elim [] Term.names
  | pass => []

/-- The names in a program. -/
def Program.names (program : Program) : List Text := program.flatMap Statement.names

/-- Whether a text is no program, or one that does not use a name. -/
def Program.avoids (n program : Text) : Bool :=
  match Program.parse program with
  | .ok p => n ∉ p.names
  | .error _ => true

theorem Program.avoids_iff {n program : Text} :
    avoids n program = true ↔ ∀ p, Program.parse program = .ok p → n ∉ p.names := by
  unfold avoids
  cases Program.parse program with
  | error reason => simp
  | ok p => simp

/-! ## Scopes -/

/-- Two scopes have the same values under all names but one. -/
structure Scope.AgreesOff (hidden : Text) (scope scope' : Scope) : Prop where
  get?_eq : ∀ n, n ≠ hidden → scope.bindings.get? n = scope'.bindings.get? n
  outer_eq : scope.outer = scope'.outer

variable {hidden : Text} {scope scope' : Scope}

theorem Scope.AgreesOff.lookup (h : scope.AgreesOff hidden scope') {n : Text} (hn : n ≠ hidden) :
    scope.lookup n = scope'.lookup n := by
  have houter : scope.lookupOuter n = scope'.lookupOuter n := by
    rw [Scope.lookupOuter, Scope.lookupOuter, h.outer_eq]
  rw [Scope.lookup, Scope.lookup, h.get?_eq n hn, houter]

/-- A name may get the same value in both. -/
theorem Scope.AgreesOff.bind (h : scope.AgreesOff hidden scope') (n : Text) (v : Value) :
    (scope.bind n v).AgreesOff hidden (scope'.bind n v) where
  get?_eq m hm := by
    show (scope.bindings.put n v).get? m = (scope'.bindings.put n v).get? m
    rw [Table.get?_put, Table.get?_put, h.get?_eq m hm]
  outer_eq := h.outer_eq

/-! ## Terms -/

mutual

/-- The value of a term hangs on the values of its names. -/
theorem Term.eval_agree (h : scope.AgreesOff hidden scope') (term : Term)
    (hn : hidden ∉ term.names) : term.eval scope = term.eval scope' := by
  match term with
  | .name n => exact h.lookup fun heq => hn (heq ▸ List.mem_singleton_self _)
  | .none | .bool _ | .int _ | .float _ | .text _ | .emptyDict => rfl
  | .display kind items => rw [Term.eval, Term.eval, evalAll_agree h items hn]
  | .binary op left right =>
    rw [Term.names, List.mem_append, not_or] at hn
    rw [Term.eval, Term.eval, Term.eval_agree h left hn.1, Term.eval_agree h right hn.2]
  | .unary op operand => rw [Term.eval, Term.eval, Term.eval_agree h operand hn]
  | .call function arguments keywords =>
    rw [Term.names, List.mem_append, List.mem_append, not_or, not_or] at hn
    rw [Term.eval, Term.eval, Term.eval_agree h function hn.1.1,
      evalAll_agree h arguments hn.1.2, evalNamed_agree h keywords hn.2]
  | .attribute value name => rw [Term.eval, Term.eval, Term.eval_agree h value hn]

theorem evalAll_agree (h : scope.AgreesOff hidden scope') (terms : List Term)
    (hn : hidden ∉ namesOfAll terms) : evalAll scope terms = evalAll scope' terms := by
  match terms with
  | [] => rfl
  | term :: rest =>
    rw [namesOfAll, List.mem_append, not_or] at hn
    rw [evalAll, evalAll, Term.eval_agree h term hn.1, evalAll_agree h rest hn.2]

theorem evalNamed_agree (h : scope.AgreesOff hidden scope') (terms : List (Text × Term))
    (hn : hidden ∉ namesOfNamed terms) : evalNamed scope terms = evalNamed scope' terms := by
  match terms with
  | [] => rfl
  | (name, term) :: rest =>
    rw [namesOfNamed, List.mem_append, not_or] at hn
    rw [evalNamed, evalNamed, Term.eval_agree h term hn.1, evalNamed_agree h rest hn.2]

end

/-! ## Computations side by side -/

namespace Computation

variable {α β : Type}

/-- From every heap both computations end with the same fault, or with related results, and leave
the same heap. -/
def Alike (R : α → α → Prop) (x x' : Computation α) : Prop :=
  ∀ h, (∃ e h', x h = (.error e, h') ∧ x' h = (.error e, h')) ∨
    ∃ a a' h', x h = (.ok a, h') ∧ x' h = (.ok a', h') ∧ R a a'

variable {R : α → α → Prop} {S : β → β → Prop}

theorem run_bind_of_ok {x : Computation α} {f : α → Computation β} {h h' : Heap} {a : α}
    (hx : x h = (.ok a, h')) : (x >>= f) h = f a h' := by
  show (ExceptT.bindCont f (x h).1 : StateM Heap _) (x h).2 = _
  rw [hx]
  rfl

theorem run_bind_of_error {x : Computation α} {f : α → Computation β} {h h' : Heap} {e : RunFault}
    (hx : x h = (.error e, h')) : (x >>= f) h = (.error e, h') := by
  show (ExceptT.bindCont f (x h).1 : StateM Heap _) (x h).2 = _
  rw [hx]
  rfl

namespace Alike

theorem refl (x : Computation α) : Alike Eq x x := by
  intro h
  rcases hx : x h with ⟨e | a, h'⟩
  · exact .inl ⟨e, h', rfl, rfl⟩
  · exact .inr ⟨a, a, h', rfl, rfl, rfl⟩

theorem pure {a a' : α} (h : R a a') : Alike R (Pure.pure a) (Pure.pure a') :=
  fun heap => .inr ⟨a, a', heap, rfl, rfl, h⟩

theorem throw (e : RunFault) : Alike R (MonadExcept.throw e) (MonadExcept.throw e) :=
  fun heap => .inl ⟨e, heap, rfl, rfl⟩

theorem bind {x x' : Computation α} {f f' : α → Computation β} (hx : Alike R x x')
    (hf : ∀ a a', R a a' → Alike S (f a) (f' a')) : Alike S (x >>= f) (x' >>= f') := by
  intro h
  rcases hx h with ⟨e, h', hl, hr⟩ | ⟨a, a', h', hl, hr, hR⟩
  · exact .inl ⟨e, h', run_bind_of_error hl, run_bind_of_error hr⟩
  · rw [run_bind_of_ok hl, run_bind_of_ok hr]
    exact hf a a' hR h'

/-- Both go through the same computation first. -/
theorem bind_same (x : Computation α) {f f' : α → Computation β}
    (hf : ∀ a, Alike S (f a) (f' a)) : Alike S (x >>= f) (x >>= f') :=
  (refl x).bind fun a _ heq => heq ▸ hf a

end Alike

end Computation

open LiveSections.Computation

/-! ## Targets and statements -/

theorem Holder.assign_alike (h : scope.AgreesOff hidden scope') (v : Value) (holder : Holder)
    (hn : hidden ∉ holder.names) :
    Alike (Scope.AgreesOff hidden) (holder.assign scope v) (holder.assign scope' v) := by
  match holder with
  | .name n => exact .pure (h.bind n v)
  | .attribute value n =>
    rw [Holder.assign, Holder.assign, Term.eval_agree h value hn]
    exact .bind_same _ fun owner => .bind_same _ fun _ => .pure h

mutual

theorem Target.assign_alike {scope scope' : Scope} (h : scope.AgreesOff hidden scope') (v : Value)
    (target : Target) (hn : hidden ∉ target.names) :
    Alike (Scope.AgreesOff hidden) (target.assign scope v) (target.assign scope' v) := by
  match target with
  | .holder holder => exact holder.assign_alike h v hn
  | .items targets =>
    rw [Target.assign, Target.assign]
    exact .bind_same _ fun vs => assignAll_alike h targets vs hn

theorem assignAll_alike {scope scope' : Scope} (h : scope.AgreesOff hidden scope')
    (targets : List Target) (vs : List Value) (hn : hidden ∉ namesOfTargets targets) :
    Alike (Scope.AgreesOff hidden) (assignAll scope targets vs) (assignAll scope' targets vs) := by
  match targets, vs with
  | [], _ => exact .pure h
  | _ :: _, [] => exact .pure h
  | target :: targets, v :: vs =>
    rw [namesOfTargets, List.mem_append, not_or] at hn
    rw [assignAll, assignAll]
    exact (Target.assign_alike h v target hn.1).bind fun _ _ h' =>
      assignAll_alike h' targets vs hn.2

end

/-- All targets of an assignment get the same value. -/
theorem foldlM_assign_alike (h : scope.AgreesOff hidden scope') (v : Value)
    (targets : List Target) (hn : hidden ∉ namesOfTargets targets) :
    Alike (Scope.AgreesOff hidden)
      (targets.foldlM (fun scope target => target.assign scope v) scope)
      (targets.foldlM (fun scope target => target.assign scope v) scope') := by
  induction targets generalizing scope scope' with
  | nil => exact .pure h
  | cons target targets ih =>
    rw [namesOfTargets, List.mem_append, not_or] at hn
    rw [List.foldlM_cons, List.foldlM_cons]
    exact (target.assign_alike h v hn.1).bind fun _ _ h' => ih h' hn.2

theorem Holder.update_alike (h : scope.AgreesOff hidden scope') (op : BinaryOp) (value : Term)
    (holder : Holder) (hn : hidden ∉ holder.names) (hv : hidden ∉ value.names) :
    Alike (Scope.AgreesOff hidden) (holder.update scope op value)
      (holder.update scope' op value) := by
  match holder with
  | .name n =>
    have hname : n ≠ hidden := fun heq => hn (heq ▸ List.mem_singleton_self _)
    rw [Holder.update, Holder.update, h.lookup hname, Term.eval_agree h value hv]
    refine .bind_same _ fun old => .bind_same _ fun v => .bind_same _ fun updated => ?_
    exact .pure (h.bind n updated)
  | .attribute term n =>
    rw [Holder.update, Holder.update, Term.eval_agree h term hn, Term.eval_agree h value hv]
    refine .bind_same _ fun owner => .bind_same _ fun old => .bind_same _ fun v => ?_
    exact .bind_same _ fun _ => .bind_same _ fun _ => .pure h

/-- A statement runs alike in scopes that agree off a name that it does not use. -/
theorem Statement.run_alike (h : scope.AgreesOff hidden scope') (statement : Statement)
    (hn : hidden ∉ statement.names) :
    Alike (Scope.AgreesOff hidden) (statement.run scope) (statement.run scope') := by
  cases statement with
  | assign targets value =>
    rw [names, List.mem_append, not_or] at hn
    rw [run, run, Term.eval_agree h value hn.1]
    exact .bind_same _ fun v => foldlM_assign_alike h v targets hn.2
  | update holder op value =>
    rw [names, List.mem_append, not_or] at hn
    exact holder.update_alike h op value hn.1 hn.2
  | evaluate term =>
    rw [run, run, Term.eval_agree h term hn]
    exact .bind_same _ fun _ => .pure h
  | raise exception =>
    cases exception with
    | none => exact .throw _
    | some term =>
      rw [run, run, Term.eval_agree h term hn]
      exact .bind_same _ fun v => .bind_same _ fun fault => .throw fault
  | pass => exact .pure h

/-- **A program runs alike in scopes that agree off a name that it does not use.** -/
theorem Program.run_alike (h : scope.AgreesOff hidden scope') (program : Program)
    (hn : hidden ∉ program.names) :
    Alike (Scope.AgreesOff hidden) (program.run scope) (program.run scope') := by
  induction program generalizing scope scope' with
  | nil => exact .pure h
  | cons statement program ih =>
    have hnames : hidden ∉ statement.names ++ Program.names program := hn
    rw [List.mem_append, not_or] at hnames
    rw [Program.run, Program.run, List.foldlM_cons, List.foldlM_cons]
    exact (statement.run_alike h hnames.1).bind fun _ _ h' => ih h' hnames.2

/-! ## Programs of sections -/

namespace ProgramEvaluator

/-- The scopes of a section with two previous outputs agree off the name of these. -/
theorem scope_agreesOff (e : ProgramEvaluator) (name stale stale' : Text) :
    (e.scope name stale).AgreesOff inputName (e.scope name stale') := by
  have hget (n : Text) (hn : n ≠ inputName) (t : Text) :
      (Table.put inputName (.text t) (e.context name)).get? n = (e.context name).get? n := by
    rw [Table.get?_put, if_neg hn]
  refine ⟨fun n hn => (hget n hn stale).trans (hget n hn stale').symm, ?_⟩
  have hne : BuiltIn.tableName ≠ inputName := by decide
  exact (hget _ hne stale).trans (hget _ hne stale').symm

/-- **A program that does not use the name of the previous output does not hang on it.** -/
theorem evaluate_eq_of_names (e : ProgramEvaluator) {program : Text}
    (hn : ∀ p, Program.parse program = .ok p → inputName ∉ p.names) (name stale stale' : Text) :
    e.evaluate name program stale = e.evaluate name program stale' := by
  have hexecute (p : Program) (hp : inputName ∉ p.names) :
      execute name p (e.scope name stale) = execute name p (e.scope name stale') := by
    funext h
    unfold execute
    rcases p.run_alike (e.scope_agreesOff name stale stale') hp h with
      ⟨fault, h', hl, hr⟩ | ⟨scope, scope', h', hl, hr, hagree⟩
    · rw [show ((p.run (e.scope name stale)).run).run h = _ from hl,
        show ((p.run (e.scope name stale')).run).run h = _ from hr]
    · rw [show ((p.run (e.scope name stale)).run).run h = _ from hl,
        show ((p.run (e.scope name stale')).run).run h = _ from hr]
      dsimp only
      rw [produced, produced, hagree.get?_eq outputName (by decide)]
  unfold evaluate
  cases nullRefusal? name program with
  | some refusal => rfl
  | none =>
    cases hp : Program.parse program with
    | error reason => rfl
    | ok p =>
      dsimp only
      rw [hexecute p (hn p hp)]

end ProgramEvaluator

end LiveSections
