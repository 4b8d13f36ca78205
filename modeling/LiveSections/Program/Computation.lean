import LiveSections.Decimal.Reader
import LiveSections.Program.Fault
import LiveSections.Program.Term

/-!
# Computations of programs

- `Computation`: what changes the heap and ends with a value or a fault. What was changed before a
  fault stays changed.
- `Computation.beyond`: where a program goes on in a way that is not modelled.
- `Keywords`: the arguments that a call gives by name.
- `Number`: what values count as in arithmetic.
-/

namespace LiveSections

/-- A computation on the heap that ends with a result or a fault. -/
abbrev Computation (α : Type) : Type := ExceptT RunFault (StateM Heap) α

namespace Computation

/-- Adds a cell. -/
def alloc (c : Cell) : Computation Ref := do
  let h ← getThe Heap
  let (h, r) := h.alloc c
  set h
  return r

/-- The items of a sequence. -/
def itemsOf (r : Ref) : Computation (List Value) := return (← getThe Heap).items r

/-- Replaces the items of a sequence. -/
def setItems (r : Ref) (items : List Value) : Computation Unit :=
  modifyThe Heap fun h => h.put r (.sequence items)

/-- A result that is known without the heap. -/
def ofExcept {α : Type} : Except RunFault α → Computation α
  | .ok a => pure a
  | .error e => throw e

/-- The program goes on in a way that is not modelled. -/
abbrev beyond {α : Type} (u : Unmodelled) : Computation α := throw (.unmodelled u)

/-- The text of a value. -/
def display (v : Value) : Computation Text := do
  let h ← getThe Heap
  if h.isUntold v then beyond (.shown v.typeName)
  match h.display v with
  | .ok t => return t
  | .error _ => throw .tooManyDigits

/-- The items of a value, if it can be gone through. -/
def elementsOf (v : Value) : Computation (Option (List Value)) := do
  let h ← getThe Heap
  if h.isUnordered v then beyond .order
  return v.elements? h

/-- The most items that a sequence may have. -/
def capacity : Nat := Decimal.twoTo 40

/-- Lets a sequence of a length be made only if it fits. -/
def checkCapacity (length : Nat) : Computation Unit :=
  if capacity < length then throw .outOfMemory else pure ()

end Computation

/-! ## Arguments -/

/-- Arguments that a call gives by name. -/
abbrev Keywords : Type := Table Text Value

/-- The name of a value's type where an argument of another type is expected. -/
def Value.argumentName : Value → String
  | .none => "None"
  | v => v.fullTypeName

namespace Computation

/-- Refuses keywords. -/
def refuseKeywords (function : String) (keywords : Keywords) : Computation Unit :=
  if keywords.isEmpty then pure () else throw (.noKeywords function)

/-- An argument that has to be an integer of a word. -/
def indexOf (v : Value) : Computation Int :=
  match v.toInt? with
  | some n => if Word.long.holds n then return n else throw .integerTooLarge
  | none =>
    throw (.argumentType s!"'{v.fullTypeName}' object cannot be interpreted as an integer")

end Computation

/-! ## Numbers -/

/-- An integer or a double. -/
inductive Number where
  | int (n : Int)
  | float (x : Float)

namespace Number

/-- The double nearest to a number. -/
def toDouble : Number → Except RunFault Float
  | int n =>
    let x := Decimal.signedQuotient n 1
    if x.isInf then .error .tooLargeForFloat else .ok x
  | float x => .ok x

end Number

/-- The number that a value counts as. -/
def Value.number? : Value → Option Number
  | float x => some (.float x)
  | v => v.toInt?.map Number.int

end LiveSections
