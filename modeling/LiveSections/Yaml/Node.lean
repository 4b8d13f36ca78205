import LiveSections.Yaml.Token

/-!
# Nodes of YAML files

Nodes are numbered, and collections hold the numbers of their parts, because an alias stands for a
node that is already there, even for one that is not finished.

- `Node`: a scalar, a sequence or a mapping.
- `Graph`: the nodes of a document.
- `Graph.ofTokens`: the single document of a file.

The readers go down at most three calls before they take a token, which bounds their fuel. None
passes over a token that cannot be read: whoever has to look at it fails with the fault behind it.
-/

namespace LiveSections.Yaml

/-- The number of a node. -/
abbrev NodeId : Type := Nat

/-- What a node is. `tag` is a tag that was written out in full, if there is one. -/
inductive Node where
  /-- `implicit` tells that the kind of the scalar shows in its text. -/
  | scalar (tag : Option Text) (implicit : Bool) (text : Text)
  | sequence (tag : Option Text) (items : List NodeId)
  | mapping (tag : Option Text) (entries : List (NodeId × NodeId))
  deriving DecidableEq, Repr, Inhabited

/-- The nodes of a document, with their anchors and the handles of tags. -/
structure Graph where
  nodes : Array Node := #[]
  anchors : Table Text NodeId := []
  handles : Table Text Text := []

/-- A reader of nodes. -/
abbrev Reading (α : Type) : Type := StateT Graph (Except Fault) α

namespace Graph

/-- The node with a number. -/
def node? (g : Graph) (n : NodeId) : Option Node := g.nodes[n]?

/-- Adds a node, under its anchor if it has one. -/
def add (anchor : Option Text) (node : Node) : Reading NodeId := do
  let g ← getThe Graph
  let n := g.nodes.size
  match anchor with
  | none => set { g with nodes := g.nodes.push node }
  | some name =>
    if g.anchors.has name then throw (.repeatedAnchor name)
    set { g with nodes := g.nodes.push node, anchors := g.anchors.put name n }
  return n

/-- Gives a number another node. -/
def replace (n : NodeId) (node : Node) : Reading Unit :=
  modifyThe Graph fun g => { g with nodes := g.nodes.setIfInBounds n node }

/-- A scalar without a text. -/
def addEmpty : Reading NodeId := add none (.scalar none true [])

/-- The node of an alias. -/
def ofAlias (name : Text) : Reading NodeId := do
  match (← getThe Graph).anchors.get? name with
  | some n => return n
  | none => throw (.undefinedAlias name)

/-- A tag in full. The tag of one exclamation mark says nothing. -/
def fullTag (t : TagName) : Reading Text := do
  match t.handle with
  | none => return t.suffix
  | some handle =>
    match (← getThe Graph).handles.get? handle with
    | some lead => return lead ++ t.suffix
    | none => throw (.undefinedHandle handle)

/-- The tag that says nothing. -/
def plainTag : Text := ['!']

/-- Fails because of the next token: with a fault, unless the token cannot even be read. -/
def failAt {α : Type} (ts : List Token) (f : Fault) : Reading α :=
  match ts with
  | .broken f :: _ => throw f
  | _ => throw f

/-- What stands before a node: an anchor, a tag, or both in either order. A tag is looked up after
the token behind it, which could be an anchor. -/
def readProperties (ts : List Token) : Reading (Option Text × Option Text × List Token) := do
  match ts with
  | .anchor name :: .tag t :: ts => return (some name, some (← fullTag t), ts)
  | .tag t :: .anchor name :: ts => return (some name, some (← fullTag t), ts)
  | .tag _ :: .broken f :: _ => throw f
  | .anchor name :: ts => return (some name, none, ts)
  | .tag t :: ts => return (none, some (← fullTag t), ts)
  | ts => return (none, none, ts)

/-- A tag, unless it says nothing. -/
def tellingTag (tag : Option Text) : Option Text := tag.filter (· ≠ plainTag)

/-- Whether no entry's node follows in a sequence. -/
def endsEntry : List Token → Bool
  | [] | .blockEntry :: _ | .blockEnd :: _ => true
  | _ => false

/-- Whether no key's or value's node follows in a mapping. -/
def endsPart : List Token → Bool
  | .key :: _ | .value :: _ | .blockEnd :: _ => true
  | _ => false

/-- Whether no entry's node follows in a sequence that is not indented. -/
def endsFlatEntry (ts : List Token) : Bool := endsEntry ts || endsPart ts

/-- Whether no key's node follows inside of brackets. -/
def endsFlowKey (closer : Token) : List Token → Bool
  | [] => false
  | t :: _ => t == .value || t == .flowEntry || t == closer

/-- Whether no value's node follows inside of brackets. -/
def endsFlowValue (closer : Token) : List Token → Bool
  | [] => false
  | t :: _ => t == .flowEntry || t == closer

/-- An empty scalar for a node of which only an anchor or a tag is written. -/
def emptyOr (anchor tag : Option Text) (ts : List Token) : Reading (NodeId × List Token) := do
  if anchor.isNone && tag.isNone then throw .noContent
  let implicit := tag.isNone || tag == some plainTag
  return (← add anchor (.scalar (tellingTag tag) implicit []), ts)

/-- What follows the comma before an item inside of brackets; the first item has none. -/
def afterComma (first : Bool) (ts : List Token) : Reading (List Token) :=
  if first then pure ts
  else match ts with
    | .flowEntry :: ts => pure ts
    | ts => failAt ts .unfinishedFlow

mutual

/-- Reads a node. `inBlock` allows collections made by indentation, `flat` a sequence that is not
indented. -/
def readNode (inBlock flat : Bool) : Nat → List Token → Reading (NodeId × List Token)
  | 0, _ => throw .noContent
  | _ + 1, .alias name :: ts => do return (← ofAlias name, ts)
  | fuel + 1, ts => do
    let (anchor, tag, ts) ← readProperties ts
    let kind := tellingTag tag
    match ts with
    | .scalar text plain :: ts =>
      let implicit := plain && tag.isNone || tag == some plainTag
      return (← add anchor (.scalar kind implicit text), ts)
    | .flowSequenceStart :: ts => do
      let n ← add anchor default
      let (items, ts) ← readFlowItems true fuel ts
      replace n (.sequence kind items)
      return (n, ts)
    | .flowMappingStart :: ts => do
      let n ← add anchor default
      let (entries, ts) ← readFlowEntries true fuel ts
      replace n (.mapping kind entries)
      return (n, ts)
    | .blockEntry :: _ =>
      if flat then do
        let n ← add anchor default
        let (items, ts) ← readFlatItems fuel ts
        replace n (.sequence kind items)
        return (n, ts)
      else emptyOr anchor tag ts
    | .blockSequenceStart :: rest =>
      if inBlock then do
        let n ← add anchor default
        let (items, ts) ← readItems fuel rest
        replace n (.sequence kind items)
        return (n, ts)
      else emptyOr anchor tag ts
    | .blockMappingStart :: rest =>
      if inBlock then do
        let n ← add anchor default
        let (entries, ts) ← readEntries fuel rest
        replace n (.mapping kind entries)
        return (n, ts)
      else emptyOr anchor tag ts
    | .broken f :: _ => throw f
    | ts => emptyOr anchor tag ts

/-- Reads a node of a collection made by indentation, or takes an empty scalar for it. -/
def readPart (ended flat : Bool) : Nat → List Token → Reading (NodeId × List Token)
  | 0, _ => throw .noContent
  | fuel + 1, ts => do
    if ended then return (← addEmpty, ts) else readNode true flat fuel ts

/-- Reads the entries of an indented sequence. -/
def readItems : Nat → List Token → Reading (List NodeId × List Token)
  | 0, _ => throw .unfinishedBlock
  | fuel + 1, .blockEntry :: ts => do
    let (n, ts) ← readPart (endsEntry ts) false fuel ts
    let (ns, ts) ← readItems fuel ts
    return (n :: ns, ts)
  | _ + 1, .blockEnd :: ts => return ([], ts)
  | _ + 1, ts => failAt ts .unfinishedBlock

/-- Reads the entries of a sequence that is not indented. -/
def readFlatItems : Nat → List Token → Reading (List NodeId × List Token)
  | 0, _ => throw .unfinishedBlock
  | fuel + 1, .blockEntry :: ts => do
    let (n, ts) ← readPart (endsFlatEntry ts) false fuel ts
    let (ns, ts) ← readFlatItems fuel ts
    return (n :: ns, ts)
  | _ + 1, ts => return ([], ts)

/-- Reads the entries of an indented mapping. -/
def readEntries : Nat → List Token → Reading (List (NodeId × NodeId) × List Token)
  | 0, _ => throw .unfinishedBlock
  | fuel + 1, .key :: ts => do
    let (k, ts) ← readPart (endsPart ts) true fuel ts
    let (v, ts) ← readValue fuel ts
    let (es, ts) ← readEntries fuel ts
    return ((k, v) :: es, ts)
  | _ + 1, .blockEnd :: ts => return ([], ts)
  | _ + 1, ts => failAt ts .unfinishedBlock

/-- Reads the value behind a key of an indented mapping. -/
def readValue : Nat → List Token → Reading (NodeId × List Token)
  | 0, _ => throw .noContent
  | fuel + 1, .value :: ts => readPart (endsPart ts) true fuel ts
  | _ + 1, ts => do return (← addEmpty, ts)

/-- Reads a node inside of brackets, or takes an empty scalar for it. -/
def readFlowPart (ended : Bool) : Nat → List Token → Reading (NodeId × List Token)
  | 0, _ => throw .noContent
  | fuel + 1, ts => do
    if ended then return (← addEmpty, ts) else readNode false false fuel ts

/-- Reads the value behind a key inside of brackets. -/
def readFlowValue (closer : Token) : Nat → List Token → Reading (NodeId × List Token)
  | 0, _ => throw .noContent
  | fuel + 1, .value :: ts => readFlowPart (endsFlowValue closer ts) fuel ts
  | _ + 1, ts => do return (← addEmpty, ts)

/-- Reads the items between square brackets; a key by itself makes a mapping. -/
def readFlowItems (first : Bool) : Nat → List Token → Reading (List NodeId × List Token)
  | 0, _ => throw .unfinishedFlow
  | _ + 1, .flowSequenceEnd :: ts => return ([], ts)
  | fuel + 1, ts => do
    let ts ← afterComma first ts
    match ts with
    | .flowSequenceEnd :: ts => return ([], ts)
    | .key :: ts =>
      let n ← add none default
      let (k, ts) ← readFlowPart (endsFlowKey .flowSequenceEnd ts) fuel ts
      let (v, ts) ← readFlowValue .flowSequenceEnd fuel ts
      replace n (.mapping none [(k, v)])
      let (ns, ts) ← readFlowItems false fuel ts
      return (n :: ns, ts)
    | ts =>
      let (n, ts) ← readNode false false fuel ts
      let (ns, ts) ← readFlowItems false fuel ts
      return (n :: ns, ts)

/-- Reads the entries between braces; an entry without a key sign has no value. -/
def readFlowEntries (first : Bool) :
    Nat → List Token → Reading (List (NodeId × NodeId) × List Token)
  | 0, _ => throw .unfinishedFlow
  | _ + 1, .flowMappingEnd :: ts => return ([], ts)
  | fuel + 1, ts => do
    let ts ← afterComma first ts
    match ts with
    | .flowMappingEnd :: ts => return ([], ts)
    | .key :: ts =>
      let (k, ts) ← readFlowPart (endsFlowKey .flowMappingEnd ts) fuel ts
      let (v, ts) ← readFlowValue .flowMappingEnd fuel ts
      let (es, ts) ← readFlowEntries false fuel ts
      return ((k, v) :: es, ts)
    | ts =>
      let (k, ts) ← readNode false false fuel ts
      let v ← addEmpty
      let (es, ts) ← readFlowEntries false fuel ts
      return ((k, v) :: es, ts)

end

/-! ## Documents -/

/-- The handles that every document knows. -/
def standardHandles : Table Text Text :=
  [(['!'], ['!']), (['!', '!'], "tag:yaml.org,2002:".toList)]

/-- Takes in the directives before a document. `seen` tells that a version was given. -/
def readDirectives (seen : Bool) : List Token → Reading (List Token)
  | .directive (.version major _) :: ts => do
    if seen || major ≠ 1 then throw .badDirective
    readDirectives true ts
  | .directive (.handle name lead) :: ts => do
    let g ← getThe Graph
    if g.handles.has name then throw .badDirective
    set { g with handles := g.handles.put name lead }
    readDirectives seen ts
  | .directive .other :: ts => readDirectives seen ts
  | ts => return ts

/-- Lets the standard handles stand for what they usually do, unless directives say otherwise. -/
def addStandardHandles : Reading Unit :=
  modifyThe Graph fun g => { g with handles := standardHandles.putAll g.handles }

/-- Whether a document has no content. -/
def endsDocument : List Token → Bool
  | [] | .directive _ :: _ | .documentStart :: _ | .documentEnd :: _ => true
  | _ => false

/-- Reads the root of a document that begins with a mark. -/
def readMarked (fuel : Nat) (ts : List Token) : Reading (NodeId × List Token) := do
  let ts ← readDirectives false ts
  addStandardHandles
  match ts with
  | .documentStart :: ts =>
    if endsDocument ts then return (← addEmpty, ts) else readNode true false fuel ts
  | ts => failAt ts .missingDocumentStart

/-- Reads the root of the first document. -/
def readRoot (fuel : Nat) (ts : List Token) : Reading (NodeId × List Token) :=
  match ts with
  | .directive _ :: _ | .documentStart :: _ => readMarked fuel ts
  | ts => do
    addStandardHandles
    readNode true false fuel ts

/-- Makes sure that nothing follows a document but its end. Directives are those of another one,
which are read before it is refused. -/
def expectEnd (ts : List Token) : Reading Unit :=
  match ts.dropWhile (· == .documentEnd) with
  | [] => pure ()
  | ts => do
    modifyThe Graph fun g => { g with handles := [] }
    failAt (← readDirectives false ts) .severalDocuments

/-- How many collections are open at once at most, where `n` are open before. -/
def nesting : Nat → List Token → Nat
  | n, [] => n
  | n, .blockSequenceStart :: ts | n, .blockMappingStart :: ts
  | n, .flowSequenceStart :: ts | n, .flowMappingStart :: ts => nesting (n + 1) ts
  | n, .blockEnd :: ts | n, .flowSequenceEnd :: ts | n, .flowMappingEnd :: ts =>
    max n (nesting (n - 1) ts)
  | n, _ :: ts => nesting n ts

/-- How deep collections may be nested. Each may hold another one that has no tokens of its own. -/
def maxNesting : Nat := 200

/-- The root of the single document of a file, with all nodes; nothing if there is no document. -/
def ofTokens (ts : List Token) : Except Fault (Option (NodeId × Graph)) :=
  if ts.isEmpty then .ok none
  else if maxNesting < nesting 0 ts then .error (.unmodelled .nesting)
  else
    let read : Reading NodeId := do
      let (n, ts) ← readRoot (4 * ts.length + 4) ts
      expectEnd ts
      return n
    (read.run {}).map some

end Graph

end LiveSections.Yaml
