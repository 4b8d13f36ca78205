import LiveSections.Program.Calendar

/-!
# Operators

Numbers are added, subtracted, multiplied and divided; texts, lists and tuples are joined by `+` and
repeated by `*`; a set loses the items of another by `-`. An update of a list or set changes the
collection itself.

- `Number.combine`: arithmetic.
- `Value.binary`, `Value.update`, `Value.unary`: the operators.
-/

namespace LiveSections

open LiveSections.Computation

namespace Number

/-- Arithmetic: exact between integers, but for their quotient; else between doubles. -/
def combine (op : BinaryOp) (a b : Number) : Except RunFault Value :=
  match op, a, b with
  | .add, int m, int n => .ok (.int (m + n))
  | .sub, int m, int n => .ok (.int (m - n))
  | .mul, int m, int n => .ok (.int (m * n))
  | .div, int m, int n =>
    if n = 0 then .error .divisionByZero
    else
      let x := Decimal.signedQuotient m n
      if x.isInf then .error .quotientTooLarge else .ok (.float x)
  | op, a, b => do
    let x ← a.toDouble
    let y ← b.toDouble
    match op with
    | .add => .ok (.float (x + y))
    | .sub => .ok (.float (x - y))
    | .mul => .ok (.float (x * y))
    | .div => if y == 0.0 then .error .floatDivisionByZero else .ok (.float (x / y))

end Number

namespace Value

/-! ## Joining and repeating -/

/-- The join of two values, the left one a text, bytes, a list or a tuple. -/
def joined? (left right : Value) : Option (Computation Value) :=
  match left, right with
  | text s, text t => some (return text (s ++ t))
  | bytes s, bytes t => some (return bytes (s ++ t))
  | list r, list s => some do
    return list (← alloc (.sequence ((← itemsOf r) ++ (← itemsOf s))))
  | tuple r, tuple s => some do
    return tuple (← alloc (.sequence ((← itemsOf r) ++ (← itemsOf s))))
  | bytes _, right => some (throw (.argumentType s!"can't concat {right.fullTypeName} to bytes"))
  | text _, _ | list _, _ | tuple _, _ =>
    some (throw (.concatenation left.typeName right.fullTypeName))
  | _, _ => .none

/-- How often a sequence is repeated by a value. -/
def repetitions (count : Value) : Computation Nat :=
  match count.toInt? with
  | .none => throw (.repetition count.fullTypeName)
  | some n =>
    if Word.long.holds n then return n.toNat else throw .tooLargeForIndex

/-- The items of a sequence, repeated; no items stay none. -/
def repeatItems {α : Type} (items : List α) (n : Nat) : Computation (List α) := do
  checkCapacity (items.length * n)
  return if items.isEmpty then [] else (List.replicate n items).flatten

/-- The repetition of a value, if it is a text, bytes, a list or a tuple. -/
def repeated? (sequence count : Value) : Option (Computation Value) :=
  match sequence with
  | text t => some do
    let n ← repetitions count
    if Word.long.limit ≤ t.length * n then throw .textTooLong
    return text (← repeatItems t n)
  | bytes bs => some do return bytes (← repeatItems bs (← repetitions count))
  | list r => some do
    return list (← alloc (.sequence (← repeatItems (← itemsOf r) (← repetitions count))))
  | tuple r => some do
    return tuple (← alloc (.sequence (← repeatItems (← itemsOf r) (← repetitions count))))
  | _ => .none

/-! ## The operators -/

/-- The items of a set that are not in another one. -/
def itemsLeft (h : Heap) (r s : Ref) : List Value :=
  (h.items r).filter fun v => !(h.items s).any (h.sameKey v)

/-- What an operator between two values gives, if it gives anything. `swapped` tells whether a
sequence on the right can be repeated as well as one on the left. -/
def combine? (op : BinaryOp) (left right : Value) (swapped : Bool) : Option (Computation Value) :=
  match left.number?, right.number?, Value.onCalendar? op left right with
  | some a, some b, _ => some (Computation.ofExcept (Number.combine op a b))
  | _, _, some result => some (Computation.ofExcept result)
  | _, _, .none =>
    match op, left, right with
    | .add, left, right => joined? left right
    | .mul, left, right =>
      (repeated? left right).orElse fun _ => if swapped then repeated? right left else .none
    | .sub, set r, set s => some do
      return set (← alloc (.sequence (itemsLeft (← getThe Heap) r s)))
    | _, _, _ => .none

/-- An operator between two values. -/
def binary (op : BinaryOp) (left right : Value) : Computation Value :=
  (combine? op left right true).getD
    (throw (.operands op.sign left.fullTypeName right.fullTypeName))

/-- Whether a value has items, and so never repeats what is on its right. -/
def hasItems : Value → Bool
  | text _ | bytes _ | list _ | tuple _ | set _ | dict _ => true
  | _ => false

/-- The new value of a holder that is updated by an operator. A list or set is changed itself. -/
def update (op : BinaryOp) (left right : Value) : Computation Value :=
  match op, left, right with
  | .add, list r, right => do
    match ← elementsOf right with
    | some items =>
      setItems r ((← itemsOf r) ++ items)
      return left
    | .none => throw (.notIterable right.fullTypeName)
  | .mul, list r, right => do
    setItems r (← repeatItems (← itemsOf r) (← repetitions right))
    return left
  | .sub, set r, set s => do
    setItems r (itemsLeft (← getThe Heap) r s)
    return left
  | op, left, right =>
    (combine? op left right !left.hasItems).getD
      (throw (.operands (op.sign ++ "=") left.fullTypeName right.fullTypeName))

/-- An operator before a value. -/
def unary (op : UnaryOp) (v : Value) : Computation Value :=
  match op, v, v.number? with
  | .plus, _, some (.int n) => return int n
  | .minus, _, some (.int n) => return int (-n)
  | .plus, _, some (.float x) => return float x
  | .minus, _, some (.float x) => return float (-x)
  | .plus, duration d, _ => return duration d
  | .minus, duration d, _ =>
    Computation.ofExcept (ofCalendar duration (Duration.ofMicroseconds (-d.total)))
  | op, v, .none => throw (.unaryOperand op.sign v.fullTypeName)

end Value

end LiveSections
