import LiveSections.Proofs.MovedCalls
import LiveSections.Proofs.Tables

/-!
# Programs on displaced heaps

A program goes the same way wherever the cells are that its names lead to.

- `Scope.moved`: names whose values lead to where cells have gone.
- `Term.eval_moves`, `Statement.run_moves`: what one term and one statement do.
- `Program.run_moves`: **what a whole program does.**
- `ProgramEvaluator.execute_moves`: the output and what is reported.
-/

namespace LiveSections

open LiveSections.Computation

variable {m : Relocation} {w : Prop}

/-! ## Names -/

/-- Names whose values lead to where cells have gone. -/
def Scope.moved (m : Relocation) (scope : Scope) : Scope :=
  ⟨scope.bindings.moved m, scope.outer.map (Value.moved m)⟩

theorem BuiltIn.cell?_of_mem_all {e : Text × Value} (he : e ∈ BuiltIn.all) : e.2.cell? = none := by
  have hvalue (type name : String) : (valueOf type name).cell? = none := by
    unfold valueOf
    split <;> rfl
  have hgroup {gs : List (String × List String)}
      (h : e ∈ gs.flatMap fun g => g.2.map fun name => (name.toList, valueOf g.1 name)) :
      e.2.cell? = none := by
    obtain ⟨g, -, hg⟩ := List.mem_flatMap.mp h
    obtain ⟨name, -, rfl⟩ := List.mem_map.mp hg
    exact hvalue g.1 name
  unfold all at he
  simp only [List.mem_append] at he
  obtain ((he | he) | he) | he := he
  · exact hgroup he
  · obtain ⟨name, -, rfl⟩ := List.mem_map.mp he
    rfl
  · obtain ⟨name, -, rfl⟩ := List.mem_map.mp he
    rfl
  · exact hgroup he

namespace Scope

variable (scope : Scope)

theorem bind_moved (n : Text) (v : Value) :
    (scope.moved m).bind n (v.moved m) = (scope.bind n v).moved m := by
  rw [bind, moved, Table.put_moved]
  rfl

/-- The table of built-ins leads nowhere. -/
theorem moved_builtIns :
    Cell.moved m (.mapping (BuiltIn.all.map fun e => (.text e.1, e.2))) =
      .mapping (BuiltIn.all.map fun e => (.text e.1, e.2)) := by
  refine congrArg Cell.mapping ?_
  rw [List.map_map]
  refine List.map_congr_left fun e he => ?_
  exact Prod.ext rfl (Value.moved_of_cell? (BuiltIn.cell?_of_mem_all he))

/-- In a table that has gone elsewhere a name is found as before. -/
theorem find?_entries_moved {h h' : Heap} (hd : m.Displaced h h') (r : Ref) (n : Text) :
    (h'.entries (m.ref r)).find? (fun e => e.1.sameKey (.text n)) =
      ((h.entries r).find? fun e => e.1.sameKey (.text n)).map
        (Prod.map (Value.moved m) (Value.moved m)) := by
  have hkey (v : Value) : (v.moved m).sameKey (.text n) = v.sameKey (.text n) :=
    Value.sameKey_moved v (.text n)
  rw [hd.entries, List.find?_map]
  simp only [Function.comp_def, Prod.map_fst, hkey]

theorem lookupOuter_moves (n : Text) :
    Moves m w (Value.moved m) (scope.lookupOuter n) ((scope.moved m).lookupOuter n) := by
  unfold lookupOuter
  dsimp only [moved]
  cases scope.outer with
  | none =>
    refine .ite ?_ ?_
    · -- whoever asks for the table of built-ins gets a new one
      have halloc := alloc_moves (m := m) (w := w)
        (.mapping (BuiltIn.all.map fun e => (.text e.1, e.2)))
      rw [moved_builtIns] at halloc
      exact halloc.bind fun _ => .pure rfl
    · cases h : BuiltIn.all.get? n with
      | none => exact .fail rfl
      | some v =>
        have hv : v.cell? = none := BuiltIn.cell?_of_mem_all (Table.mem_of_get? h)
        exact .pure (Value.moved_of_cell? hv).symm
  | some v =>
    cases v
    case dict r =>
      refine .get_bind fun h h' hd => ?_
      rw [find?_entries_moved hd]
      cases (h.entries r).find? fun e => e.1.sameKey (.text n) with
      | none => exact .fail rfl
      | some e => exact .pure rfl
    all_goals exact .fail rfl

theorem lookup_moves (n : Text) :
    Moves m w (Value.moved m) (scope.lookup n) ((scope.moved m).lookup n) := by
  unfold lookup
  dsimp only [moved]
  rw [Table.get?_moved]
  cases scope.bindings.get? n with
  | none => exact scope.lookupOuter_moves n
  | some v => exact .pure rfl

end Scope

/-! ## Displays -/

theorem DisplayKind.collect_moves (kind : DisplayKind) (items : List Value) :
    Moves m w (Value.moved m) (kind.collect items) (kind.collect (items.map (Value.moved m))) := by
  cases kind
  case list => exact (alloc_moves (.sequence items)).bind fun _ => .pure rfl
  case tuple => exact (alloc_moves (.sequence items)).bind fun _ => .pure rfl
  case set =>
    refine .get_bind fun h h' hd => ?_
    rw [findSome?_moved fun v _ => hd.unhashable? v, List.any_map]
    simp only [Function.comp_def, hd.hasIdentity]
    refine .guard rfl ?_
    cases items.findSome? h.unhashable? with
    | some v =>
      dsimp only [Option.map_some]
      rw [Value.fullTypeName_moved]
      exact .fail rfl
    | none =>
      dsimp only [Option.map_none]
      rw [eraseDupsBy_map hd.sameKey]
      exact (alloc_moves (.sequence _)).bind fun _ => .pure rfl

/-! ## Terms -/

mutual

/-- The value of a term leads to where its cells have gone. -/
theorem Term.eval_moves (scope : Scope) (term : Term) :
    Moves m w (Value.moved m) (term.eval scope) (term.eval (scope.moved m)) := by
  match term with
  | .name n => exact scope.lookup_moves n
  | .none | .bool _ | .int _ | .float _ | .text _ => exact .pure rfl
  | .emptyDict => exact (alloc_moves (.mapping [])).bind fun _ => .pure rfl
  | .display kind items =>
    rw [Term.eval, Term.eval]
    exact (evalAll_moves scope items).bind fun items => kind.collect_moves items
  | .binary op left right =>
    rw [Term.eval, Term.eval]
    exact (Term.eval_moves scope left).bind fun left =>
      (Term.eval_moves scope right).bind fun right => left.binary_moves op right
  | .unary op operand =>
    rw [Term.eval, Term.eval]
    exact (Term.eval_moves scope operand).bind fun v => v.unary_moves op
  | .call function arguments keywords =>
    rw [Term.eval, Term.eval]
    exact (Term.eval_moves scope function).bind fun f =>
      (evalAll_moves scope arguments).bind fun arguments =>
        (evalNamed_moves scope keywords).bind fun keywords => f.call_moves arguments keywords
  | .attribute value name =>
    rw [Term.eval, Term.eval]
    exact (Term.eval_moves scope value).bind fun v => v.attribute_moves name

theorem evalAll_moves (scope : Scope) (terms : List Term) :
    Moves m w (List.map (Value.moved m)) (evalAll scope terms) (evalAll (scope.moved m) terms) := by
  match terms with
  | [] => exact .pure rfl
  | term :: rest =>
    rw [evalAll, evalAll]
    exact (Term.eval_moves scope term).bind fun _ => (evalAll_moves scope rest).bind fun _ =>
      .pure rfl

theorem evalNamed_moves (scope : Scope) (terms : List (Text × Term)) :
    Moves m w (Table.moved m) (evalNamed scope terms) (evalNamed (scope.moved m) terms) := by
  match terms with
  | [] => exact .pure rfl
  | (name, term) :: rest =>
    rw [evalNamed, evalNamed]
    exact (Term.eval_moves scope term).bind fun _ => (evalNamed_moves scope rest).bind fun _ =>
      .pure rfl

end

/-! ## Targets -/

theorem Holder.assign_moves (scope : Scope) (v : Value) (holder : Holder) :
    Moves m w (Scope.moved m) (holder.assign scope v)
      (holder.assign (scope.moved m) (v.moved m)) := by
  match holder with
  | .name n => exact .pure (scope.bind_moved n v)
  | .attribute term n =>
    exact (term.eval_moves scope).bind fun owner => (owner.setAttribute_moves n).bind fun _ =>
      .pure rfl

theorem Value.shares_moves (v : Value) (count : Nat) :
    Moves m w (List.map (Value.moved m)) (v.shares count) ((v.moved m).shares count) := by
  refine (elementsOf_moves v).bind fun items? => ?_
  cases items? with
  | none =>
    rw [fullTypeName_moved]
    exact .fail rfl
  | some items =>
    dsimp only [Option.map_some]
    rw [List.length_map]
    exact .ite (.fail rfl) (.ite (.fail rfl) (.pure rfl))

mutual

theorem Target.assign_moves (scope : Scope) (v : Value) (target : Target) :
    Moves m w (Scope.moved m) (target.assign scope v)
      (target.assign (scope.moved m) (v.moved m)) := by
  match target with
  | .holder holder => exact holder.assign_moves scope v
  | .items targets =>
    rw [Target.assign, Target.assign]
    exact (v.shares_moves targets.length).bind fun vs => assignAll_moves scope targets vs

theorem assignAll_moves (scope : Scope) (targets : List Target) (vs : List Value) :
    Moves m w (Scope.moved m) (assignAll scope targets vs)
      (assignAll (scope.moved m) targets (vs.map (Value.moved m))) := by
  match targets, vs with
  | [], _ => exact .pure rfl
  | _ :: _, [] => exact .pure rfl
  | target :: targets, v :: vs =>
    rw [List.map_cons, assignAll, assignAll]
    exact (Target.assign_moves scope v target).bind fun scope => assignAll_moves scope targets vs

end

/-- All targets of an assignment get the same value. -/
theorem foldlM_assign_moves (scope : Scope) (v : Value) (targets : List Target) :
    Moves m w (Scope.moved m) (targets.foldlM (fun scope target => target.assign scope v) scope)
      (targets.foldlM (fun scope target => target.assign scope (v.moved m)) (scope.moved m)) := by
  induction targets generalizing scope with
  | nil => exact .pure rfl
  | cons target targets ih =>
    rw [List.foldlM_cons, List.foldlM_cons]
    exact (target.assign_moves scope v).bind ih

theorem Holder.update_moves (hw : w) (scope : Scope) (op : BinaryOp) (value : Term) (holder : Holder) :
    Moves m w (Scope.moved m) (holder.update scope op value)
      (holder.update (scope.moved m) op value) := by
  match holder with
  | .name n =>
    exact (scope.lookup_moves n).bind fun old => (value.eval_moves scope).bind fun v =>
      (old.update_moves hw op v).bind fun updated => .pure (scope.bind_moved n updated)
  | .attribute term n =>
    have hgive (owner : Value) : Moves m w (Scope.moved m)
        (do owner.setAttribute n; return scope)
        (do (owner.moved m).setAttribute n; return scope.moved m) :=
      (owner.setAttribute_moves n).bind fun _ => .pure rfl
    exact (term.eval_moves scope).bind fun owner => (owner.attribute_moves n).bind fun old =>
      (value.eval_moves scope).bind fun v => (old.update_moves hw op v).bind fun _ => hgive owner

/-! ## Statements -/

theorem exceptionFault_moves (exception : Value) :
    Moves m w (RunFault.moved m) (exceptionFault exception) (exceptionFault (exception.moved m)) := by
  cases exception
  case exception c r =>
    refine .get_bind fun h h' hd => ?_
    have huntold : h'.isUntold (.exception c (m.ref r)) = _ := hd.isUntold (.exception c r)
    have hdisplay : h'.display (.exception c (m.ref r)) = _ := hd.display (.exception c r)
    rw [Value.moved, huntold, hdisplay]
    exact .guard rfl (.pure rfl)
  all_goals exact .pure rfl

theorem raiseFault_moves (v : Value) :
    Moves m w (RunFault.moved m) (raiseFault v) (raiseFault (v.moved m)) := by
  cases v
  case builtIn b =>
    cases b
    case exceptionClass c => exact (c.make_moves [] []).bind exceptionFault_moves
    all_goals exact Moves.bind (f := Value.moved m) (.pure rfl) exceptionFault_moves
  all_goals exact Moves.bind (f := Value.moved m) (.pure rfl) exceptionFault_moves

/-- Whether a statement updates a holder. -/
def Statement.isUpdate : Statement → Bool
  | update .. => true
  | _ => false

/-- What one statement does. Only updates change cells. -/
theorem Statement.run_moves (scope : Scope) (statement : Statement)
    (hw : statement.isUpdate = true → w) :
    Moves m w (Scope.moved m) (statement.run scope) (statement.run (scope.moved m)) := by
  cases statement with
  | assign targets value =>
    exact (value.eval_moves scope).bind fun v => foldlM_assign_moves scope v targets
  | update holder op value => exact holder.update_moves (hw rfl) scope op value
  | evaluate term => exact (term.eval_moves scope).bind fun _ => .pure rfl
  | raise exception =>
    cases exception with
    | none => exact .fail rfl
    | some term =>
      exact (term.eval_moves scope).bind fun v => (raiseFault_moves v).bind fun fault => .throw fault
  | pass => exact .pure rfl

/-- **A program goes the same way wherever the cells are that its names lead to.** -/
theorem Program.run_moves (program : Program) (scope : Scope)
    (hw : ∀ s ∈ program, s.isUpdate = true → w) :
    Moves m w (Scope.moved m) (program.run scope) (program.run (scope.moved m)) := by
  induction program generalizing scope with
  | nil => exact .pure rfl
  | cons statement program ih =>
    rw [Program.run, Program.run, List.foldlM_cons, List.foldlM_cons]
    obtain ⟨hstatement, hprogram⟩ := List.forall_mem_cons.mp hw
    exact (statement.run_moves scope hstatement).bind fun scope => ih scope hprogram

/-! ## Evaluations -/

/-- A failure with another place of the arguments of what was raised. -/
def Failure.mapRef (f : Ref → Ref) : Failure → Failure
  | .evaluation ⟨origin, .faulted fault⟩ => .evaluation ⟨origin, .faulted (fault.mapRef f)⟩
  | .raised e => .raised { e with arguments := e.arguments.map f }
  | failure => failure

/-- The second computation ended as the first one, but for the places of cells. -/
structure Ending.Displaced (m : Relocation) (x x' : Ending Heap Failure Text) : Prop where
  state : m.Displaced x.state x'.state
  events : x'.events = x.events
  result : x'.result = x.result.mapError (Failure.mapRef m.ref)

namespace ProgramEvaluator

theorem failureOf_mapRef (f : Ref → Ref) (name : Text) (fault : RunFault) :
    failureOf name (fault.mapRef f) = (failureOf name fault).mapRef f := by
  cases fault
  case raised c text r =>
    cases text with
    | none =>
      rw [RunFault.mapRef, failureOf, failureOf]
      split <;> rfl
    | some text =>
      rw [RunFault.mapRef, failureOf, failureOf]
      split <;> rfl
  all_goals rfl

/-- No output leads to a cell. -/
theorem produced_moved (name : Text) (scope : Scope) :
    produced name (scope.moved m) = (produced name scope).mapError (Failure.mapRef m.ref) := by
  unfold produced
  dsimp only [Scope.moved]
  rw [Table.get?_moved]
  cases scope.bindings.get? outputName with
  | none => rfl
  | some v => cases v <;> rfl

theorem execute_moves (name : Text) (program : Program) (scope : Scope)
    (hw : ∀ s ∈ program, s.isUpdate = true → w) {h h' : Heap} (hd : m.Displaced h h') :
    (w ∨ h.Extends (execute name program scope h).state) ∧
      Ending.Displaced m (execute name program scope h)
        (execute name program (scope.moved m) h') := by
  obtain ⟨hkeep, hcourse⟩ := program.run_moves scope hw h h' hd
  unfold execute
  rcases hcourse with ⟨fault, k, k', hl, hr, hd⟩ | ⟨scope, k, k', hl, hr, hd⟩
  · rw [hl] at hkeep
    rw [show ((program.run _).run).run h = _ from hl, show ((program.run _).run).run h' = _ from hr]
    exact ⟨hkeep, hd, rfl, congrArg Except.error (failureOf_mapRef m.ref name fault)⟩
  · rw [hl] at hkeep
    rw [show ((program.run _).run).run h = _ from hl, show ((program.run _).run).run h' = _ from hr]
    exact ⟨hkeep, hd, rfl, produced_moved name scope⟩

/-- **An evaluation goes the same way on displaced heaps,** if what its names lead to has stayed. -/
theorem evaluate_moves (e : ProgramEvaluator) (name program stale : Text)
    (hscope : (e.scope name stale).moved m = e.scope name stale)
    (hw : ∀ p, Program.parse program = .ok p → ∀ s ∈ p, s.isUpdate = true → w)
    {h h' : Heap} (hd : m.Displaced h h') :
    (w ∨ h.Extends ((e.evaluate name program stale).run h).state) ∧
      Ending.Displaced m ((e.evaluate name program stale).run h)
        ((e.evaluate name program stale).run h') := by
  unfold evaluate
  cases hrefusal : nullRefusal? name program with
  | some refusal =>
    -- a refusal is raised before there is a cell for its arguments
    have hplain : refusal.arguments = none := by
      unfold nullRefusal? at hrefusal
      split at hrefusal
      · cases hrefusal
        rfl
      · split at hrefusal
        · cases hrefusal
          rfl
        · cases hrefusal
    refine ⟨.inr (.refl h), hd, rfl, ?_⟩
    show Except.error (Failure.raised refusal) = .error (.raised { refusal with arguments := _ })
    rw [hplain, Option.map_none, ← hplain]
  | none =>
    cases hp : Program.parse program with
    | error e => exact ⟨.inr (.refl h), hd, rfl, by cases e <;> rfl⟩
    | ok p =>
      have hexecute := execute_moves name p (e.scope name stale) (hw p hp) hd
      rw [hscope] at hexecute
      obtain ⟨hkeep, hending⟩ := hexecute
      exact ⟨hkeep, hending.state, congrArg (List.cons _) hending.events, hending.result⟩

end ProgramEvaluator

end LiveSections
