import LiveSections.Program.Call

/-!
# Running section programs

- `Scope`: the names that a program sees, with their values.
- `Term.eval`: the value of a term. It may change lists, but binds no name.
- `Statement.run`: the scope behind a statement.
- `Program.run`: the scope behind a program, or the first fault.
-/

namespace LiveSections

open LiveSections.Computation

/-- The names that a program sees, with their values. -/
structure Scope where
  bindings : Table Text Value
  /-- What the program finds built-in names in, if its context has bound something else to that. -/
  outer : Option Value := none

namespace Scope

/-- The scope in which a program starts. -/
def ofBindings (bindings : Table Text Value) : Scope :=
  ⟨bindings, bindings.get? BuiltIn.tableName⟩

/-- Gives a name a value. -/
def bind (scope : Scope) (name : Text) (v : Value) : Scope :=
  { scope with bindings := scope.bindings.put name v }

/-- The value of a name that is not bound. -/
def lookupOuter (scope : Scope) (name : Text) : Computation Value := do
  let unbound : Computation Value := throw (.unboundName name)
  match scope.outer with
  | none =>
    if name = BuiltIn.tableName then
      return .dict (← alloc (.mapping (BuiltIn.all.map fun e => (.text e.1, e.2))))
    else (BuiltIn.all.get? name).elim unbound pure
  | some (.dict r) =>
    match ((← getThe Heap).entries r).find? fun e => e.1.sameKey (.text name) with
    | some (_, v) => return v
    | none => unbound
  | some v =>
    match v with
    | .text _ | .list _ | .tuple _ => throw (.numberedItems v.typeName)
    | .bytes _ => throw (.numberedItems "byte")
    | v => throw (.noNames v.fullTypeName)

/-- The value of a name: the program's and its context's names come before the built-in ones. -/
def lookup (scope : Scope) (name : Text) : Computation Value :=
  match scope.bindings.get? name with
  | some v => return v
  | none => scope.lookupOuter name

end Scope

/-! ## Displays -/

/-- A collection of items. The items of a set have to be unchangeable, and each is kept once. -/
def DisplayKind.collect (kind : DisplayKind) (items : List Value) : Computation Value :=
  match kind with
  | list => return .list (← alloc (.sequence items))
  | tuple => return .tuple (← alloc (.sequence items))
  | set => do
    let h ← getThe Heap
    if items.any h.hasIdentity then beyond .identity
    match items.findSome? h.unhashable? with
    | some v => throw (.unhashable v.fullTypeName)
    | none => return .set (← alloc (.sequence (items.eraseDupsBy h.sameKey)))

/-! ## Terms -/

mutual

/-- The value of a term. -/
def Term.eval (scope : Scope) : Term → Computation Value
  | .name n => scope.lookup n
  | .none => return .none
  | .bool b => return .bool b
  | .int n => return .int n
  | .float x => return .float x
  | .text t => return .text t
  | .display kind items => do kind.collect (← evalAll scope items)
  | .emptyDict => return .dict (← alloc (.mapping []))
  | .binary op left right => do
    let left ← left.eval scope
    let right ← right.eval scope
    left.binary op right
  | .unary op operand => do (← operand.eval scope).unary op
  | .call function arguments keywords => do
    let function ← function.eval scope
    let arguments ← evalAll scope arguments
    let keywords ← evalNamed scope keywords
    function.call arguments keywords
  | .attribute value name => do (← value.eval scope).attribute name

/-- The values of terms, from left to right. -/
def evalAll (scope : Scope) : List Term → Computation (List Value)
  | [] => return []
  | term :: rest => do return (← term.eval scope) :: (← evalAll scope rest)

/-- The values of terms with names, from left to right. -/
def evalNamed (scope : Scope) : List (Text × Term) → Computation (List (Text × Value))
  | [] => return []
  | (name, term) :: rest => do
    return (name, ← term.eval scope) :: (← evalNamed scope rest)

end

/-! ## Targets -/

/-- The scope behind giving a holder a value. -/
def Holder.assign (scope : Scope) (v : Value) : Holder → Computation Scope
  | .name n => return scope.bind n v
  | .attribute term n => do
    (← term.eval scope).setAttribute n
    return scope

/-- The items of a value that is shared out between targets, one for each. -/
def Value.shares (v : Value) (count : Nat) : Computation (List Value) := do
  match ← elementsOf v with
  | .none => throw (.notShareable v.fullTypeName)
  | .some items =>
    if items.length < count then throw (.tooFewItems count items.length)
    else if count < items.length then throw (.tooManyItems count)
    else return items

mutual

/-- The scope behind giving a target a value. -/
def Target.assign (scope : Scope) (v : Value) : Target → Computation Scope
  | .holder h => h.assign scope v
  | .items targets => do assignAll scope targets (← v.shares targets.length)

/-- The scope behind giving targets their values, from left to right. -/
def assignAll (scope : Scope) : List Target → List Value → Computation Scope
  | target :: targets, v :: vs => do assignAll (← target.assign scope v) targets vs
  | _, _ => return scope

end

/-- The scope behind updating a holder by an operator. -/
def Holder.update (scope : Scope) (op : BinaryOp) (value : Term) : Holder → Computation Scope
  | .name n => do
    let old ← scope.lookup n
    let v ← value.eval scope
    return scope.bind n (← old.update op v)
  | .attribute term n => do
    let owner ← term.eval scope
    let old ← owner.attribute n
    let _ ← old.update op (← value.eval scope)
    owner.setAttribute n
    return scope

/-! ## Statements -/

/-- The fault that a raised exception stands for. -/
def exceptionFault (exception : Value) : Computation RunFault := do
  match exception with
  | .exception c r =>
    let h ← getThe Heap
    if h.isUntold exception then beyond (.shown c.name)
    return .raised c (h.display exception).toOption r
  | _ => return .notException

/-- The fault that a raised value stands for: an exception, or a class of which one is made. -/
def raiseFault (v : Value) : Computation RunFault := do
  let exception ← match v with
    | .builtIn (.exceptionClass c) => c.make [] []
    | v => pure v
  exceptionFault exception

/-- The scope behind a statement. -/
def Statement.run (scope : Scope) : Statement → Computation Scope
  | assign targets value => do
    let v ← value.eval scope
    targets.foldlM (fun scope target => target.assign scope v) scope
  | update holder op value => holder.update scope op value
  | evaluate term => do
    let _ ← term.eval scope
    return scope
  | raise (some term) => do
    let v ← term.eval scope
    throw (← raiseFault v)
  | raise none => throw .nothingToRaise
  | pass => return scope

/-- The scope behind a program. -/
def Program.run (program : Program) (scope : Scope) : Computation Scope :=
  program.foldlM Statement.run scope

end LiveSections
