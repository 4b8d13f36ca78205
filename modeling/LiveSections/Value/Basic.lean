import LiveSections.Table
import LiveSections.Helper.Function
import LiveSections.Value.Duration

/-!
# Values

What properties hold and what section programs compute with. Lists can change, so a collection is a
reference to a cell of a heap; two values with one reference are one collection.

- `Value`: the values; `Value.typeName`, `Value.fullTypeName` name their types.
- `Value.elements?`: what can be gone through; `Value.cell?`: the cell that a value leads to.
- `Heap`: the cells; `Heap.alloc`, `Heap.items`, `Heap.entries`, `Heap.put`.
- `Heap.sameKey`: when two values are one key of a mapping.
- `Heap.unhashable?`: what no key can hold.
-/

namespace LiveSections

/-- The class of an exception that programs can raise, by its name. -/
structure ExceptionClass where
  name : String
  deriving DecidableEq, Repr

/-- A name that every program knows. -/
inductive BuiltIn where
  /-- The text of a value. -/
  | str
  /-- The length of a text or collection. -/
  | len
  | exceptionClass (c : ExceptionClass)
  /-- Any other, with the name of its type. -/
  | other (name type : String)
  deriving DecidableEq, Repr

/-- The methods of texts; dates have one of them too. -/
inductive Method where
  | join
  | lower
  | replace
  | strip
  | upper
  deriving DecidableEq, Repr

/-- The name of a method. -/
def Method.name : Method → String
  | join => "join"
  | lower => "lower"
  | replace => "replace"
  | strip => "strip"
  | upper => "upper"

/-- The method with a name. -/
def Method.ofName? (name : Text) : Option Method :=
  [join, lower, replace, strip, upper].find? fun m => m.name.toList == name

/-- What a method belongs to. -/
inductive Receiver where
  | text (t : Text)
  | date (d : Date)
  | datetime (d : DateTime)
  deriving DecidableEq, Repr

/-- The name of the type of what a method belongs to. -/
def Receiver.typeName : Receiver → String
  | text _ => "str"
  | date _ => "datetime.date"
  | datetime _ => "datetime.datetime"

/-- A reference to a cell of the heap. -/
abbrev Ref : Type := Nat

/-- A value. -/
inductive Value where
  | none
  | bool (b : Bool)
  | int (n : Int)
  | float (x : Float)
  | text (t : Text)
  | bytes (bs : List UInt8)
  | date (d : Date)
  | datetime (d : DateTime)
  | duration (d : Duration)
  | list (r : Ref)
  | tuple (r : Ref)
  | dict (r : Ref)
  | set (r : Ref)
  | helper (h : HelperFunction)
  | builtIn (b : BuiltIn)
  | method (m : Method) (self : Receiver)
  /-- A method of texts without the text that it belongs to. -/
  | looseMethod (m : Method)
  | exception (c : ExceptionClass) (arguments : Ref)
  deriving Inhabited

namespace Value

/-- The name of a value's type. -/
def typeName : Value → String
  | none => "NoneType"
  | bool _ => "bool"
  | int _ => "int"
  | float _ => "float"
  | text _ => "str"
  | bytes _ => "bytes"
  | date _ => "date"
  | datetime _ => "datetime"
  | duration _ => "timedelta"
  | list _ => "list"
  | tuple _ => "tuple"
  | dict _ => "dict"
  | set _ => "set"
  | helper _ => "function"
  | builtIn .str | builtIn (.exceptionClass _) => "type"
  | builtIn .len => "builtin_function_or_method"
  | builtIn (.other _ type) => type
  | method .. => "builtin_function_or_method"
  | looseMethod _ => "method_descriptor"
  | exception c _ => c.name

/-- The name of a value's type in the messages of operators: dates carry their module's name. -/
def fullTypeName : Value → String
  | date _ => "datetime.date"
  | datetime _ => "datetime.datetime"
  | duration _ => "datetime.timedelta"
  | v => v.typeName

/-- The number that a value counts as: an integer, or a truth value as zero or one. -/
def toInt? : Value → Option Int
  | int n => some n
  | bool b => some (if b then 1 else 0)
  | _ => .none

/-- Whether a value is a collection that can change, and so no key. -/
def isMutable : Value → Bool
  | list _ | dict _ | set _ => true
  | _ => false

/-- Whether a value stands for nothing. -/
def isNone : Value → Bool
  | none => true
  | _ => false

/-- The cell that a value leads to. -/
def cell? : Value → Option Ref
  | list r | tuple r | dict r | set r | exception _ r => some r
  | _ => .none

/-- Whether an integer and a double are the same number. -/
def sameNumber (n : Int) (x : Float) : Bool :=
  let b := Decimal.Binary.ofBits (x.toBits &&& 0x7FFFFFFFFFFFFFFF)
  x.isFinite && (n < 0) == (x < 0) && n.natAbs * Decimal.twoTo (-b.q) == b.m * Decimal.twoTo b.q

/-- Whether two values other than collections are one key of a mapping: numbers by value, truth
values as numbers, all not-a-numbers alike, dates with times by the instant. -/
def sameKey (a b : Value) : Bool :=
  match a, b with
  | none, none => true
  | text s, text t => s == t
  | bytes s, bytes t => s == t
  | date d, date e => d == e
  | datetime d, datetime e => d.same e
  | duration d, duration e => d == e
  | float x, float y => x == y || x.isNaN && y.isNaN
  | helper h, helper k => h == k
  | builtIn b, builtIn c => b == c
  | method m s, method n t => m == n && s == t
  | looseMethod m, looseMethod n => m == n
  | exception _ r, exception _ s => r == s
  | _, _ =>
    match a.toInt?, b.toInt?, a, b with
    | some m, some n, _, _ => m == n
    | some n, .none, _, float x => sameNumber n x
    | .none, some n, float x, _ => sameNumber n x
    | _, _, _, _ => false

end Value

/-! ## The heap -/

/-- What a reference leads to. -/
inductive Cell where
  | sequence (items : List Value)
  | mapping (entries : List (Value × Value))

/-- The cells of all collections; a reference is the index of its cell. -/
structure Heap where
  cells : Array Cell

namespace Heap

/-- The heap without a cell. -/
def empty : Heap := ⟨#[]⟩

instance : Inhabited Heap := ⟨empty⟩

/-- Adds a cell; the reference to it is the number of cells before. -/
def alloc (h : Heap) (c : Cell) : Heap × Ref := (⟨h.cells.push c⟩, h.cells.size)

/-- The items of a sequence. -/
def items (h : Heap) (r : Ref) : List Value :=
  match h.cells[r]? with
  | some (.sequence items) => items
  | _ => []

/-- The entries of a mapping. -/
def entries (h : Heap) (r : Ref) : List (Value × Value) :=
  match h.cells[r]? with
  | some (.mapping entries) => entries
  | _ => []

/-- Replaces the cell of a reference. -/
def put (h : Heap) (r : Ref) (c : Cell) : Heap := ⟨h.cells.setIfInBounds r c⟩

end Heap

/-- The items that a value holds, if it can be gone through: the characters of a text, the bytes of
bytes, the items of a collection, the keys of a mapping. -/
def Value.elements? (h : Heap) : Value → Option (List Value)
  | text t => some (t.map fun c => text [c])
  | bytes bs => some (bs.map fun b => int b.toNat)
  | list r | tuple r | set r => some (h.items r)
  | dict r => some ((h.entries r).map Prod.fst)
  | _ => .none

namespace Heap

/-! ### Keys -/

/-- The first value in a value that can change, so that the value is no key. Only tuples are looked
into: `active` are those around the value, and `depth` bounds how many more can be entered, as there
are no more than cells. -/
def unhashableWithin (h : Heap) : Nat → List Ref → Value → Option Value
  | depth, active, v =>
    match v with
    | .tuple r =>
      if r ∈ active then none
      else match depth with
        | 0 => none
        | depth + 1 => (h.items r).findSome? (unhashableWithin h depth (r :: active))
    | v => if v.isMutable then some v else none

/-- The first value in a value that can change, so that the value is no key. -/
def unhashable? (h : Heap) (v : Value) : Option Value := h.unhashableWithin (h.cells.size + 1) [] v

/-- Whether two values are one key of a mapping; tuples by their items. `active` are the tuples
around the first value, and `depth` bounds how many more can be entered. -/
def sameKeyWithin (h : Heap) : Nat → List Ref → Value → Value → Bool
  | depth, active, a, b =>
    match a, b with
    | .tuple r, .tuple s =>
      if r ∈ active then false
      else match depth with
        | 0 => false
        | depth + 1 =>
          let (xs, ys) := (h.items r, h.items s)
          xs.length == ys.length &&
            (xs.zip ys).all fun e => sameKeyWithin h depth (r :: active) e.1 e.2
    | a, b => a.sameKey b

/-- Whether two values are one key of a mapping. -/
def sameKey (h : Heap) (a b : Value) : Bool := h.sameKeyWithin (h.cells.size + 1) [] a b

end Heap

end LiveSections
