import LiveSections.Evaluation.Evaluator
import LiveSections.Proofs.Names

/-!
# Names that programs bind

Programs have neither branches nor loops. So a program that comes to its end has run each of its
statements, and the names that stand in binding places are the names that it has bound.

- `Holder.bound`, `Target.bound`, `Statement.bound`, `Program.bound`: the names in binding places.
- `Computation.Returns`: what holds of a result, if there is one.
- `Scope.Binds`: behind a computation these names are bound, and all others are as they were.
- `Statement.run_binds`: a statement binds its names and no others.
- `Program.run_binds`: **a program that comes to its end has bound its names and no others.**
-/

namespace LiveSections

/-! ## Binding places -/

/-- The names that a holder binds. An attribute is none. -/
def Holder.bound : Holder → List Text
  | .name n => [n]
  | .attribute .. => []

mutual

/-- The names that a target binds. -/
def Target.bound : Target → List Text
  | .holder h => h.bound
  | .items targets => boundByTargets targets

/-- The names that targets bind. -/
def boundByTargets : List Target → List Text
  | [] => []
  | target :: rest => target.bound ++ boundByTargets rest

end

/-- The names that a statement binds. -/
def Statement.bound : Statement → List Text
  | assign targets _ => boundByTargets targets
  | update holder .. => holder.bound
  | evaluate _ | raise _ | pass => []

/-- The names that a program binds. -/
def Program.bound (program : Program) : List Text := program.flatMap Statement.bound

/-! ## Results -/

namespace Computation

variable {α β : Type}

/-- From every heap the computation ends with a fault, or with a result of which `Q` holds. -/
def Returns (Q : α → Prop) (x : Computation α) : Prop := ∀ h a h', x h = (.ok a, h') → Q a

namespace Returns

variable {Q : α → Prop} {R : β → Prop}

theorem pure {a : α} (h : Q a) : Returns Q (Pure.pure a) := by
  rintro _ _ _ ⟨⟩
  exact h

theorem throw (e : RunFault) : Returns Q (MonadExcept.throw e) := nofun

theorem bind {x : Computation α} {f : α → Computation β} (hx : Returns Q x)
    (hf : ∀ a, Q a → Returns R (f a)) : Returns R (x >>= f) := by
  intro h b h' hrun
  rcases hr : x h with ⟨e | a, h₁⟩
  · rw [run_bind_of_error hr] at hrun
    cases hrun
  · rw [run_bind_of_ok hr] at hrun
    exact hf a (hx h a h₁ hr) h₁ b h' hrun

/-- What the first computation returns has no part in it. -/
theorem bind_any {x : Computation α} {f : α → Computation β} (hf : ∀ a, Returns R (f a)) :
    Returns R (x >>= f) := by
  have hany : Returns (fun _ => True) x := fun _ _ _ _ => trivial
  exact hany.bind fun a _ => hf a

theorem mono {x : Computation α} {Q' : α → Prop} (hx : Returns Q x) (h : ∀ a, Q a → Q' a) :
    Returns Q' x :=
  fun heap a h' hrun => h a (hx heap a h' hrun)

end Returns

end Computation

open LiveSections.Computation

/-! ## Scopes -/

/-- Behind a computation some names are bound, and all others are as they were. -/
structure Scope.Binds (names : List Text) (scope scope' : Scope) : Prop where
  get?_of_mem : ∀ n ∈ names, ∃ v, scope'.bindings.get? n = some v
  get?_of_notMem : ∀ n, n ∉ names → scope'.bindings.get? n = scope.bindings.get? n

namespace Scope.Binds

theorem refl (scope : Scope) : scope.Binds [] scope := ⟨nofun, fun _ _ => rfl⟩

theorem single (scope : Scope) (n : Text) (v : Value) : scope.Binds [n] (scope.bind n v) where
  get?_of_mem m hm := by
    obtain rfl := List.mem_singleton.mp hm
    exact ⟨v, (Table.get?_put _ _ _ _).trans (if_pos rfl)⟩
  get?_of_notMem m hm := by
    have hne : m ≠ n := fun heq => hm (List.mem_singleton.mpr heq)
    exact (Table.get?_put _ _ _ _).trans (if_neg hne)

theorem trans {names names' : List Text} {scope scope₁ scope₂ : Scope}
    (h : scope.Binds names scope₁) (h' : scope₁.Binds names' scope₂) :
    scope.Binds (names ++ names') scope₂ where
  get?_of_mem n hn := by
    by_cases hlater : n ∈ names'
    · exact h'.get?_of_mem n hlater
    · rw [h'.get?_of_notMem n hlater]
      exact h.get?_of_mem n ((List.mem_append.mp hn).resolve_right hlater)
  get?_of_notMem n hn := by
    rw [List.mem_append, not_or] at hn
    exact (h'.get?_of_notMem n hn.2).trans (h.get?_of_notMem n hn.1)

end Scope.Binds

/-- What comes after a first binding binds its names too. -/
theorem Computation.Returns.bind_binds {names names' : List Text} {scope : Scope}
    {x : Computation Scope} {f : Scope → Computation Scope} (hx : Returns (scope.Binds names) x)
    (hf : ∀ scope', Returns (scope'.Binds names') (f scope')) :
    Returns (scope.Binds (names ++ names')) (x >>= f) :=
  hx.bind fun scope' h => (hf scope').mono fun _ h' => h.trans h'

/-! ## Targets -/

/-- A value is shared out in as many items as asked for. -/
theorem Value.shares_length (v : Value) (count : Nat) :
    Returns (fun items => items.length = count) (v.shares count) := by
  refine .bind_any fun h => ?_
  split
  · exact .throw _
  · split
    · exact .throw _
    · split
      · exact .throw _
      · exact .pure (by omega)

theorem Holder.assign_binds (scope : Scope) (v : Value) (holder : Holder) :
    Returns (scope.Binds holder.bound) (holder.assign scope v) := by
  match holder with
  | .name n => exact .pure (.single scope n v)
  | .attribute term n => exact .bind_any fun _ => .bind_any fun _ => .pure (.refl scope)

mutual

theorem Target.assign_binds (scope : Scope) (v : Value) (target : Target) :
    Returns (scope.Binds target.bound) (target.assign scope v) := by
  match target with
  | .holder holder => exact holder.assign_binds scope v
  | .items targets =>
    rw [Target.assign]
    exact (v.shares_length targets.length).bind fun vs hlength =>
      assignAll_binds scope targets vs hlength

/-- With a value for each of them, all targets are bound. -/
theorem assignAll_binds (scope : Scope) (targets : List Target) (vs : List Value)
    (hlength : vs.length = targets.length) :
    Returns (scope.Binds (boundByTargets targets)) (assignAll scope targets vs) := by
  match targets, vs with
  | [], _ => exact .pure (.refl scope)
  | target :: targets, v :: vs =>
    rw [assignAll, boundByTargets]
    exact (Target.assign_binds scope v target).bind_binds fun scope' =>
      assignAll_binds scope' targets vs (Nat.succ.inj hlength)

end

/-- All targets of an assignment are bound to the one value. -/
theorem foldlM_assign_binds (scope : Scope) (v : Value) (targets : List Target) :
    Returns (scope.Binds (boundByTargets targets))
      (targets.foldlM (fun scope target => target.assign scope v) scope) := by
  induction targets generalizing scope with
  | nil => exact .pure (.refl scope)
  | cons target targets ih =>
    rw [List.foldlM_cons, boundByTargets]
    exact (target.assign_binds scope v).bind_binds ih

theorem Holder.update_binds (scope : Scope) (op : BinaryOp) (value : Term) (holder : Holder) :
    Returns (scope.Binds holder.bound) (holder.update scope op value) := by
  match holder with
  | .name n =>
    exact .bind_any fun _ => .bind_any fun _ => .bind_any fun v => .pure (.single scope n v)
  | .attribute term n =>
    exact .bind_any fun _ => .bind_any fun _ => .bind_any fun _ => .bind_any fun _ =>
      .bind_any fun _ => .pure (.refl scope)

/-! ## Statements and programs -/

/-- A statement binds its names and no others. -/
theorem Statement.run_binds (scope : Scope) (statement : Statement) :
    Returns (scope.Binds statement.bound) (statement.run scope) := by
  cases statement with
  | assign targets value => exact .bind_any fun v => foldlM_assign_binds scope v targets
  | update holder op value => exact holder.update_binds scope op value
  | evaluate term => exact .bind_any fun _ => .pure (.refl scope)
  | raise exception =>
    cases exception with
    | none => exact .throw _
    | some term => exact .bind_any fun _ => .bind_any fun fault => .throw fault
  | pass => exact .pure (.refl scope)

/-- **A program that comes to its end has bound its names and no others.** -/
theorem Program.run_binds (scope : Scope) (program : Program) :
    Returns (scope.Binds program.bound) (program.run scope) := by
  induction program generalizing scope with
  | nil => exact .pure (.refl scope)
  | cons statement program ih =>
    rw [Program.run, List.foldlM_cons]
    exact (statement.run_binds scope).bind_binds ih

end LiveSections
