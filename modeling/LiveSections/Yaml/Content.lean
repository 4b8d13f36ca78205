import LiveSections.Text.Base64
import LiveSections.Value.Basic
import LiveSections.Yaml.Merge

/-!
# The value of a YAML file

A node becomes one value, however many aliases lead to it. Collections are entered into the heap
empty and filled later, in the order in which they were met, so a collection can contain itself.

- `LoadFault`: why a text has no value.
- `scalarValue`: the value of a scalar.
- `Yaml.load`: the value of a text.
-/

namespace LiveSections.Yaml

/-- Why a text has no value. -/
inductive LoadFault where
  | malformed (f : Fault)
  /-- A scalar stands for nothing of its kind. -/
  | noValue (f : ValueFault)
  /-- The text asks for something that is not modelled. -/
  | unmodelled (u : Unmodelled)
  deriving DecidableEq, Repr

/-- A fault of the text. An escape that stands for nothing is a fault of its scalar. -/
def LoadFault.ofFault : Fault → LoadFault
  | .noCodePoint n => .noValue (.codePoint (Word.short.limit ≤ n))
  | .unmodelled u => .unmodelled u
  | f => .malformed f

/-! ## Scalars -/

/-- The value of a timestamp. One end of line may stand behind it. -/
def timestampValue (t : Text) : Except ValueFault Value := do
  let line := if t.getLast? = some '\n' then t.dropLast else t
  match timestamp? line with
  | none => throw .noTimestamp
  | some parts =>
    match ← readTimestamp parts with
    | .inl d => return .date d
    | .inr d => return .datetime d

/-- The value of bytes that are written in ASCII. -/
def binaryValue (t : Text) : Except Fault Value :=
  match Base64.decode t with
  | some bytes => if t.all fun c => c.toNat < 128 then .ok (.bytes bytes) else .error .wrongKind
  | none => .error .wrongKind

/-- The value of a text as a scalar of a kind. -/
def scalarValue (kind : Kind) (t : Text) : Except LoadFault Value :=
  match kind with
  | .null => .ok .none
  | .bool => ((readBool t).map .bool).mapError .noValue
  | .int => ((readInt t).map .int).mapError .noValue
  | .float => ((readFloat t).map .float).mapError .noValue
  | .timestamp => (timestampValue t).mapError .noValue
  | .binary => (binaryValue t).mapError .malformed
  | _ => .ok (.text t)

/-! ## Building -/

/-- A heap that is being filled with the values of nodes. -/
structure Building where
  graph : Graph
  heap : Heap
  /-- The values of the nodes that have one. -/
  made : Array (Option Value)
  /-- The collections in the order in which they were met. -/
  met : Array NodeId := #[]

/-- A step of building. -/
abbrev Build (α : Type) : Type := StateT Building (Except LoadFault) α

namespace Build

/-- Stops at a fault of the file. -/
def malformed {α : Type} (f : Fault) : Build α := throw (.malformed f)

/-- What a computation over the nodes gives. -/
def ofReading {α : Type} (x : Except Fault α) : Build α :=
  match x with
  | .ok a => return a
  | .error f => malformed f

/-- The node with a number. -/
def node? (n : NodeId) : Build (Option Node) := return (← getThe Building).graph.node? n

/-- Enters a collection for a node, empty as yet. -/
def enter (n : NodeId) (c : Cell) (value : Ref → Value) : Build Value := do
  let b ← getThe Building
  let (heap, r) := b.heap.alloc c
  set { b with heap, made := b.made.setIfInBounds n (some (value r)), met := b.met.push n }
  return value r

/-- Enters a tuple. -/
def enterTuple (items : List Value) : Build Value := do
  let b ← getThe Building
  let (heap, r) := b.heap.alloc (.sequence items)
  set { b with heap }
  return .tuple r

/-- The value of a node as a scalar. -/
def makeScalar (n : NodeId) (kind : Kind) : Build Value := do
  let b ← getThe Building
  let t ← ofReading (b.graph.text n)
  if kind = .timestamp && !(b.graph.entries n).isEmpty then throw (.noValue .noScalar)
  let v ← (scalarValue kind t : Except LoadFault Value)
  set { b with made := b.made.setIfInBounds n (some v) }
  return v

/-- The value of a node, made if it is not there yet. -/
def make (n : NodeId) : Build Value := do
  let b ← getThe Building
  match b.made[n]?.join, b.graph.kind n with
  | some v, _ => return v
  | none, .sequence | none, .pairs => enter n (.sequence []) .list
  | none, .mapping => enter n (.mapping []) .dict
  | none, .set => enter n (.sequence []) .set
  | none, .merge => malformed (.undefinedTag (coreLead ++ "merge".toList))
  | none, .default => malformed (.undefinedTag (coreLead ++ "value".toList))
  | none, .unknown tag => malformed (.undefinedTag tag)
  | none, kind => makeScalar n kind

theorem run_make (n : NodeId) (b : Building) :
    (make n).run b = (match b.made[n]?.join, b.graph.kind n with
      | some v, _ => (return v : Build Value)
      | none, .sequence | none, .pairs => enter n (.sequence []) .list
      | none, .mapping => enter n (.mapping []) .dict
      | none, .set => enter n (.sequence []) .set
      | none, .merge => malformed (.undefinedTag (coreLead ++ "merge".toList))
      | none, .default => malformed (.undefinedTag (coreLead ++ "value".toList))
      | none, .unknown tag => malformed (.undefinedTag tag)
      | none, kind => makeScalar n kind).run b := rfl

/-- The value of a key. -/
def makeKey (n : NodeId) : Build Value := do
  let v ← make n
  if v.isMutable then malformed .unhashableKey
  return v

/-- Gives a key a value; a key that is there keeps its place. -/
def putEntry (k v : Value) : List (Value × Value) → List (Value × Value)
  | [] => [(k, v)]
  | (k', v') :: es => if k'.sameKey k then (k', v) :: es else (k', v') :: putEntry k v es

/-- The entries of a mapping, with those that are merged into it. -/
def fillEntries (n : NodeId) : Build (List (Value × Value)) := do
  let b ← getThe Building
  match b.graph.node? n with
  | some (.mapping ..) =>
    let ((), graph) ← ofReading ((Graph.flatten n).run b.graph)
    set { b with graph }
    let pairs ← (graph.entries n).mapM fun e => do return ((← makeKey e.1), (← make e.2))
    return pairs.foldl (fun es e => putEntry e.1 e.2 es) []
  | _ => malformed .wrongKind

/-- The items of a sequence. -/
def fillItems (n : NodeId) : Build (List NodeId) := do
  match ← node? n with
  | some (.sequence _ items) => return items
  | _ => malformed .wrongKind

/-- The single entry of a mapping as a tuple. -/
def makePair (n : NodeId) : Build Value := do
  match ← node? n with
  | some (.mapping _ [(k, v)]) =>
    let k ← make k
    enterTuple [k, ← make v]
  | _ => malformed .wrongKind

/-- The items of a set. The order of several is not modelled. -/
def fillSet (n : NodeId) : Build (List Value) := do
  match ← fillEntries n with
  | _ :: _ :: _ => throw (.unmodelled .order)
  | es => return es.map Prod.fst

/-- The content of a collection. -/
def content (n : NodeId) (kind : Kind) : Build Cell := do
  match kind with
  | .mapping => return .mapping (← fillEntries n)
  | .set => return .sequence (← fillSet n)
  | .pairs => return .sequence (← (← fillItems n).mapM makePair)
  | _ => return .sequence (← (← fillItems n).mapM make)

/-- Fills the cell of a node. -/
def fill (n : NodeId) : Build Unit := do
  let c ← content n ((← getThe Building).graph.kind n)
  modifyThe Building fun b =>
    match b.made[n]?.join with
    | some (.list r) | some (.dict r) | some (.set r) => { b with heap := b.heap.put r c }
    | _ => b

/-- Fills the collections from the one with index `i` on; `count` bounds how many come up. -/
def fillFrom (i : Nat) : Nat → Build Unit
  | 0 => return
  | count + 1 => do
    match (← getThe Building).met[i]? with
    | none => return
    | some n =>
      fill n
      fillFrom (i + 1) count

/-- The value of a node with all it contains. Each node is met once. -/
def root (n : NodeId) : Build Value := do
  let v ← make n
  fillFrom 0 (← getThe Building).graph.nodes.size
  return v

end Build

/-- The value of a text, in a heap with its collections. A text without a document is nothing. -/
def load (t : Text) (h : Heap) : Except LoadFault (Heap × Value) := do
  match ← ((Token.scan t).bind Graph.ofTokens).mapError .ofFault with
  | none => return (h, .none)
  | some (n, graph) =>
    let (v, b) ← (Build.root n).run
      { graph, heap := h, made := Array.replicate graph.nodes.size none }
    return (b.heap, v)

end LiveSections.Yaml
