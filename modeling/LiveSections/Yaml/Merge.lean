import LiveSections.Yaml.Node
import LiveSections.Yaml.Typed

/-!
# Kinds of nodes, and merged mappings

The kind of a node is what its tag says, or what it is written like. Keys of two kinds are no keys
of their own: a merge takes the entries of other mappings over, and a default marks the entry that
gives a mapping its text.

- `Graph.kind`: the kind of a node.
- `Graph.text`: the text of a node.
- `Graph.flatten`: takes over the entries that are merged into a mapping.
-/

namespace LiveSections.Yaml

/-! ## Kinds -/

/-- The front of the tags that every reader knows. -/
def coreLead : Text := "tag:yaml.org,2002:".toList

/-- The kinds by the names of their tags. -/
def coreKinds : Table Text Kind :=
  [("null".toList, .null), ("bool".toList, .bool), ("int".toList, .int),
   ("float".toList, .float), ("timestamp".toList, .timestamp), ("binary".toList, .binary),
   ("str".toList, .text), ("merge".toList, .merge), ("value".toList, .default),
   ("seq".toList, .sequence), ("map".toList, .mapping), ("set".toList, .set),
   ("omap".toList, .pairs), ("pairs".toList, .pairs)]

/-- The kind that a tag asks for. -/
def Kind.ofTag (tag : Text) : Kind :=
  ((Text.dropLead? coreLead tag).bind coreKinds.get?).getD (.unknown tag)

/-- The tag of texts. -/
def textTag : Text := coreLead ++ "str".toList

namespace Node

/-- The kind of a node: its tag says it, or its text, and a quoted text is a text. -/
def kind : Node → Kind
  | .scalar (some tag) _ _ | .sequence (some tag) _ | .mapping (some tag) _ => .ofTag tag
  | .scalar none true t => .ofText t
  | .scalar none false _ => .text
  | .sequence none _ => .sequence
  | .mapping none _ => .mapping

/-- The node as a text. -/
def asText : Node → Node
  | .scalar _ _ t => .scalar (some textTag) false t
  | .sequence _ items => .sequence (some textTag) items
  | .mapping _ es => .mapping (some textTag) es

/-- The entries of a mapping. -/
def entries : Node → List (NodeId × NodeId)
  | .mapping _ es => es
  | _ => []

/-- A mapping with other entries. -/
def withEntries (es : List (NodeId × NodeId)) : Node → Node
  | .mapping tag _ => .mapping tag es
  | node => node

end Node

namespace Graph

/-- The kind of a node. -/
def kind (g : Graph) (n : NodeId) : Kind := ((g.node? n).map Node.kind).getD .null

/-- The entries of a mapping. -/
def entries (g : Graph) (n : NodeId) : List (NodeId × NodeId) :=
  ((g.node? n).map Node.entries).getD []

/-- The text of a node: a mapping has the one of its default. `depth` bounds how far defaults
lead. -/
def textWithin (g : Graph) : Nat → NodeId → Except Fault Text
  | 0, _ => .error .wrongKind
  | depth + 1, n =>
    match g.node? n with
    | some (.scalar _ _ t) => .ok t
    | some (.mapping _ es) =>
      match es.find? fun e => g.kind e.1 = .default with
      | some e => g.textWithin depth e.2
      | none => .error .wrongKind
    | _ => .error .wrongKind

/-- The text of a node. -/
def text (g : Graph) (n : NodeId) : Except Fault Text := g.textWithin (g.nodes.size + 1) n

/-! ## Merging -/

/-- Changes a node. -/
def alter (n : NodeId) (f : Node → Node) : Reading Unit := do
  match (← getThe Graph).node? n with
  | some node => replace n (f node)
  | none => return

theorem run_alter (n : NodeId) (f : Node → Node) (g : Graph) :
    (alter n f).run g = match g.node? n with
      | some node => .ok ((), { g with nodes := g.nodes.setIfInBounds n (f node) })
      | none => .ok ((), g) := by
  show (match g.node? n with | some node => replace n (f node) | none => return).run g = _
  cases g.node? n <;> rfl

/-- Takes the first entry that is to be merged out of a mapping: the node that it leads to. -/
def takeMerge (n : NodeId) : Reading (Option NodeId) := do
  let g ← getThe Graph
  let es := g.entries n
  match es.find? fun e => g.kind e.1 = .merge with
  | none => return none
  | some e =>
    alter n (Node.withEntries (es.eraseP fun e => g.kind e.1 = .merge))
    return some e.2

/-- The entries that a node merges into a mapping, once `flatten` has taken over what is merged into
themselves. Of several mappings the first one counts, so it comes last. -/
def mergedFrom (flatten : NodeId → Reading Unit) (n : NodeId) :
    Reading (List (NodeId × NodeId)) := do
  let one (n : NodeId) : Reading (List (NodeId × NodeId)) := do
    flatten n
    return (← getThe Graph).entries n
  match (← getThe Graph).node? n with
  | some (.mapping ..) => one n
  | some (.sequence _ items) =>
    let parts ← items.mapM fun item => do
      match (← getThe Graph).node? item with
      | some (.mapping ..) => one item
      | _ => throw .mergeOfNoMapping
    return parts.reverse.flatten
  | _ => throw .mergeOfNoMapping

/-- Makes texts of the keys that mark a default, and puts other entries before those of a
mapping. -/
def finish (merged : List (NodeId × NodeId)) (n : NodeId) : Reading Unit := do
  let g ← getThe Graph
  let es := g.entries n
  es.forM fun e => do if g.kind e.1 = .default then alter e.1 Node.asText
  alter n (Node.withEntries (merged ++ es))

/-- Takes over the entries that are merged into a mapping, behind those that were `merged` already.
Each call but the last ones takes an entry out, so `depth` bounds the calls by the entries there
are. -/
def flattenWithin : Nat → List (NodeId × NodeId) → NodeId → Reading Unit
  | 0, _, _ => return
  | depth + 1, merged, n => do
    match ← takeMerge n with
    | none => finish merged n
    | some source =>
      let more ← mergedFrom (flattenWithin depth []) source
      flattenWithin depth (merged ++ more) n

/-- Whether a key is one of its own. -/
def isPlainKey (g : Graph) (n : NodeId) : Bool := g.kind n ≠ .merge && g.kind n ≠ .default

/-- Takes over the entries that are merged into a mapping. -/
def flatten (n : NodeId) : Reading Unit := do
  let g ← getThe Graph
  if (g.entries n).all fun e => g.isPlainKey e.1 then return
  let count := g.nodes.foldl (fun count node => count + node.entries.length) 1
  flattenWithin count [] n

end Graph

end LiveSections.Yaml
