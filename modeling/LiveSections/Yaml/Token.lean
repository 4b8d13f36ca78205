import LiveSections.Table
import LiveSections.Yaml.Scalar

/-!
# Tokens of YAML files

Outside of brackets, indentation makes the structure: a deeper column begins a collection, a
shallower one ends those that are open. Whether a scalar is a key shows only at the colon behind
it, so a site is left before each token that may begin a key, and filled in when the colon comes.

Tokens are read only as the nodes made of them need them, so what is wrong with the nodes before a
faulty token is told first. The list of tokens ends with that fault instead of being refused.

- `Token`: what a file is made of.
- `Scanner`: how far a file is read, with open collections and possible keys.
- `Token.scan`: the tokens of a file, as far as they can be read.
-/

namespace LiveSections.Yaml

/-- A line that begins with a percent sign. -/
inductive Directive where
  | version (major minor : Nat)
  | handle (name lead : Text)
  | other
  deriving DecidableEq, Repr

/-- A tag as it is written: with a handle, or in full. -/
structure TagName where
  handle : Option Text
  suffix : Text
  deriving DecidableEq, Repr

/-- What a file is made of. -/
inductive Token where
  | directive (d : Directive)
  | documentStart
  | documentEnd
  | blockSequenceStart
  | blockMappingStart
  | blockEnd
  | flowSequenceStart
  | flowSequenceEnd
  | flowMappingStart
  | flowMappingEnd
  | blockEntry
  | flowEntry
  | key
  | value
  | alias (name : Text)
  | anchor (name : Text)
  | tag (t : TagName)
  | scalar (text : Text) (plain : Bool)
  /-- The next token cannot be read. -/
  | broken (f : Fault)
  deriving DecidableEq, Repr

/-- A place at which a key may begin. -/
structure KeySite where
  number : Nat
  /-- Whether only a key can stand there. -/
  required : Bool
  index : Nat
  line : Nat
  column : Nat

/-- A token, or the site of a key with its number. -/
inductive Slot where
  | token (t : Token)
  | site (number : Nat)
  deriving DecidableEq

/-- How far a file is read. -/
structure Scanner where
  cursor : Cursor
  /-- How many brackets are open. -/
  depth : Nat := 0
  /-- The column of the innermost collection outside of brackets, and of those around it. -/
  indent : Int := -1
  outer : List Int := []
  /-- Whether a key may begin here. -/
  keyAllowed : Bool := true
  /-- The last site of each depth that may still turn out a key. -/
  sites : Table Nat KeySite := []
  siteCount : Nat := 0
  /-- The sites of keys, and which of them begin a mapping. -/
  keys : Table Nat Bool := []
  /-- Tokens and sites, the last one first. -/
  slots : List Slot := []

namespace Scanner

/-- Adds a token. -/
def push (s : Scanner) (t : Token) : Scanner := { s with slots := .token t :: s.slots }

/-- Forgets the possible key of this depth. -/
def dropSite (s : Scanner) : Except Fault Scanner :=
  match s.sites.get? s.depth with
  | none => .ok s
  | some site =>
    if site.required then .error .missingColon
    else .ok { s with sites := s.sites.filter fun e => e.1 != s.depth }

/-- Leaves a site for a key that may begin here. -/
def saveSite (s : Scanner) : Except Fault Scanner :=
  if s.keyAllowed then do
    let s ← s.dropSite
    let c := s.cursor
    let site : KeySite :=
      { number := s.siteCount, required := s.depth == 0 && s.indent == c.column,
        index := c.index, line := c.line, column := c.column }
    return { s with sites := s.sites.put s.depth site, siteCount := s.siteCount + 1,
                    slots := .site site.number :: s.slots }
  else .ok s

/-- Whether a possible key is too far back: on an earlier line, or more than 1024 characters. -/
def isStale (s : Scanner) (site : KeySite) : Bool :=
  site.line != s.cursor.line || site.index + 1024 < s.cursor.index

/-- Forgets the possible keys that are too far back. -/
def dropStale (s : Scanner) : Except Fault Scanner :=
  if s.sites.any fun e => s.isStale e.2 && e.2.required then .error .missingColon
  else .ok { s with sites := s.sites.filter fun e => !s.isStale e.2 }

/-- Ends the collections that are indented deeper than a column. -/
def unwind (s : Scanner) (column : Int) : Scanner :=
  if s.depth ≠ 0 then s
  else
    let rec go : List Int → Int → List Slot → Scanner
      | outer, indent, slots =>
        if column < indent then
          match outer with
          | [] => { s with outer := [], indent := -1, slots := .token .blockEnd :: slots }
          | i :: outer => go outer i (.token .blockEnd :: slots)
        else { s with outer, indent, slots }
    go s.outer s.indent s.slots

/-- Begins a collection at a column, if it is deeper than those that are open. -/
def deepen (s : Scanner) (column : Int) : Bool × Scanner :=
  if s.indent < column then (true, { s with outer := s.indent :: s.outer, indent := column })
  else (false, s)

/-- Passes over blanks, comments and ends of lines. -/
def toNextToken (s : Scanner) : Scanner :=
  let rec go : Nat → Scanner → Scanner
    | 0, s => s
    | fuel + 1, s =>
      let c := s.cursor.skipBlanks.skipComment
      match c.lineBreak? with
      | some (_, c) => go fuel { s with cursor := c, keyAllowed := s.keyAllowed || s.depth == 0 }
      | none => { s with cursor := c }
  let c := s.cursor
  let s := if c.index = 0 ∧ c.isAt '\uFEFF' then { s with cursor := c.advance } else s
  go (c.rest.length + 1) s

/-! ## One token -/

/-- A mark of three characters between documents. -/
def documentMark (s : Scanner) (t : Token) : Except Fault Scanner := do
  let s ← (s.unwind (-1)).dropSite
  return { s with keyAllowed := false, cursor := s.cursor.skip 3 }.push t

/-- An opening bracket. -/
def openFlow (s : Scanner) (t : Token) : Except Fault Scanner := do
  let s ← s.saveSite
  return { s with depth := s.depth + 1, keyAllowed := true, cursor := s.cursor.advance }.push t

/-- A closing bracket. -/
def closeFlow (s : Scanner) (t : Token) : Except Fault Scanner := do
  let s ← s.dropSite
  return { s with depth := s.depth - 1, keyAllowed := false, cursor := s.cursor.advance }.push t

/-- A comma inside of brackets. -/
def flowEntry (s : Scanner) : Except Fault Scanner := do
  let s ← { s with keyAllowed := true }.dropSite
  return { s with cursor := s.cursor.advance }.push .flowEntry

/-- Begins a collection here with a token, outside of brackets and if it is deeper. -/
def beginBlock (s : Scanner) (t : Token) : Scanner :=
  match s.deepen s.cursor.column with
  | (true, s) => s.push t
  | (false, s) => s

/-- The dash of an entry. -/
def blockEntry (s : Scanner) : Except Fault Scanner := do
  if s.depth = 0 ∧ s.keyAllowed = false then throw .entryNotAllowed
  let s := if s.depth = 0 then s.beginBlock .blockSequenceStart else s
  let s ← { s with keyAllowed := true }.dropSite
  return { s with cursor := s.cursor.advance }.push .blockEntry

/-- The question mark of a key. -/
def explicitKey (s : Scanner) : Except Fault Scanner := do
  if s.depth = 0 ∧ s.keyAllowed = false then throw .keyNotAllowed
  let s := if s.depth = 0 then s.beginBlock .blockMappingStart else s
  let s ← { s with keyAllowed := s.depth == 0 }.dropSite
  return { s with cursor := s.cursor.advance }.push .key

/-- The colon of a value. What stands at the site of this depth was a key. -/
def explicitValue (s : Scanner) : Except Fault Scanner := do
  match s.sites.get? s.depth with
  | some site =>
    let s := { s with sites := s.sites.filter fun e => e.1 != s.depth, keyAllowed := false }
    let (started, s) := if s.depth = 0 then s.deepen site.column else (false, s)
    return { s with keys := s.keys.put site.number started, cursor := s.cursor.advance }.push .value
  | none =>
    if s.depth = 0 ∧ s.keyAllowed = false then throw .valueNotAllowed
    let s := if s.depth = 0 then s.beginBlock .blockMappingStart else s
    let s ← { s with keyAllowed := s.depth == 0 }.dropSite
    return { s with cursor := s.cursor.advance }.push .value

/-- Whether a character may stand in a name. -/
def isNameChar (c : Char) : Bool := c.isAlphanum || c = '-' || c = '_'

/-- The name behind the sign of an anchor or alias. -/
def readName (c : Cursor) : Except Fault (Text × Cursor) :=
  let (name, c) := c.advance.span isNameChar
  let ends := atSpace c.peek? || c.peek?.elim false fun x => x ∈ "?:,]\x7d%@`".toList
  if name.isEmpty || !ends then .error .badName else .ok (name, c)

/-- An anchor or alias. -/
def named (s : Scanner) (t : Text → Token) : Except Fault Scanner := do
  let s ← s.saveSite
  let (name, cursor) ← readName s.cursor
  return { s with keyAllowed := false, cursor }.push (t name)

/-- Whether a character may stand in a tag. -/
def isTagChar (c : Char) : Bool :=
  c.isAlphanum || c ∈ "-;/?:@&=+$,_.!~*'()[]%".toList

/-- The characters of a tag, percent signs with two digits decoded. -/
def tagText : Text → Option Text
  | '%' :: a :: b :: rest =>
    match CodePoints.hexDigit? a, CodePoints.hexDigit? b with
    | some m, some n => (tagText rest).map (Char.ofNat (m * 16 + n) :: ·)
    | _, _ => none
  | '%' :: _ => none
  | c :: rest => (tagText rest).map (c :: ·)
  | [] => some []

/-- Characters of a tag that begin here. -/
def readTagText (c : Cursor) : Except Fault (Text × Cursor) :=
  let (raw, c) := c.span isTagChar
  match tagText raw with
  | some t => if t.isEmpty then .error .badTag else .ok (t, c)
  | none => .error .badTag

/-- A handle that begins here: its exclamation marks and the name between them. -/
def readHandle (c : Cursor) : Except Fault (Text × Cursor) :=
  if c.peekAt? 1 = some ' ' then .ok (['!'], c.advance)
  else
    let (name, c) := c.advance.span isNameChar
    if c.isAt '!' then .ok ('!' :: name ++ ['!'], c.advance) else .error .badTag

/-- A tag that begins here. -/
def readTag (c : Cursor) : Except Fault (TagName × Cursor) := do
  let next := c.peekAt? 1
  let (t, c) ←
    if next = some '<' then
      let (suffix, c) ← readTagText (c.skip 2)
      if c.isAt '>' then pure (TagName.mk none suffix, c.advance) else throw .badTag
    else if atSpace next then pure (TagName.mk none ['!'], c.advance)
    else
      let word := (c.rest.drop 1).takeWhile fun x => x ≠ ' ' ∧ !isBreak x
      let (handle, c) ← if '!' ∈ word then readHandle c else pure (['!'], c.advance)
      let (suffix, c) ← readTagText c
      pure (TagName.mk (some handle) suffix, c)
  if c.isAt ' ' || atBreak c.peek? then return (t, c) else throw .badTag

/-- A tag. -/
def tag (s : Scanner) : Except Fault Scanner := do
  let s ← s.saveSite
  let (t, cursor) ← readTag s.cursor
  return { s with keyAllowed := false, cursor }.push (.tag t)

/-- A block of lines. -/
def block (s : Scanner) : Except Fault Scanner := do
  let s ← { s with keyAllowed := true }.dropSite
  let (text, cursor) ← readBlock s.indent s.cursor
  return { s with cursor }.push (.scalar text false)

/-- A quoted scalar. -/
def quoted (s : Scanner) (quote : Char) : Except Fault Scanner := do
  let s ← s.saveSite
  let (text, cursor) ← readQuoted quote s.cursor
  return { s with keyAllowed := false, cursor }.push (.scalar text false)

/-- A plain scalar. -/
def plain (s : Scanner) : Except Fault Scanner := do
  let s ← s.saveSite
  let (text, cursor, lineEnded) := readPlain (s.depth ≠ 0) (s.indent + 1) s.cursor
  return { s with keyAllowed := lineEnded, cursor }.push (.scalar text true)

/-! ## Directives -/

/-- A number of a version. -/
def readNumber (c : Cursor) : Except Fault (Nat × Cursor) :=
  let (ds, c) := c.span Char.isDigit
  if ds.isEmpty then .error .badDirective
  else .ok (ds.foldl (fun n d => n * 10 + (d.toNat - '0'.toNat)) 0, c)

/-- The value of a directive with a name. -/
def readDirectiveValue (name : Text) (c : Cursor) : Except Fault (Directive × Cursor) := do
  let ended (c : Cursor) : Bool := c.isAt ' ' || atBreak c.peek?
  if name = "YAML".toList then
    let (major, c) ← readNumber c.skipBlanks
    if !c.isAt '.' then throw .badDirective
    let (minor, c) ← readNumber c.advance
    if ended c then return (.version major minor, c) else throw .badDirective
  else if name = "TAG".toList then
    let (handle, c) ← readHandle c.skipBlanks
    if !c.isAt ' ' then throw .badDirective
    let (lead, c) ← readTagText c.skipBlanks
    if ended c then return (.handle handle lead, c) else throw .badDirective
  else return (.other, (c.span fun x => !isBreak x).2)

/-- A directive, up to the end of its line. -/
def directive (s : Scanner) : Except Fault Scanner := do
  let s ← (s.unwind (-1)).dropSite
  let (name, c) := s.cursor.advance.span isNameChar
  if name.isEmpty || !(c.isAt ' ' || atBreak c.peek?) then throw .badDirective
  let (d, c) ← readDirectiveValue name c
  let c := c.skipBlanks.skipComment
  if !atBreak c.peek? then throw .badDirective
  let cursor := (c.lineBreak?.map Prod.snd).getD c
  return { s with keyAllowed := false, cursor }.push (.directive d)

/-! ## All tokens -/

/-- Whether a plain scalar can begin with a character. -/
def beginsPlain (inFlow : Bool) (x : Char) (next : Option Char) : Bool :=
  !atSpace (some x) && !(x ∈ "-?:,[]\x7b\x7d#&*!|>'\"%@`".toList)
    || !atSpace next && (x = '-' || !inFlow && (x = '?' || x = ':'))

/-- Reads the token that begins with the character `x` here. -/
def readToken (s : Scanner) (x : Char) : Except Fault Scanner :=
  let c := s.cursor
  let next := c.peekAt? 1
  let inFlow : Bool := s.depth ≠ 0
  if x = '%' ∧ c.column = 0 then s.directive
  else if c.column = 0 ∧ c.atDocumentMark then
    s.documentMark (if x = '-' then .documentStart else .documentEnd)
  else if x = '[' then s.openFlow .flowSequenceStart
  else if x = '\x7b' then s.openFlow .flowMappingStart
  else if x = ']' then s.closeFlow .flowSequenceEnd
  else if x = '\x7d' then s.closeFlow .flowMappingEnd
  else if x = ',' then s.flowEntry
  else if x = '-' ∧ atSpace next then s.blockEntry
  else if x = '?' ∧ (inFlow || atSpace next) then s.explicitKey
  else if x = ':' ∧ (inFlow || atSpace next) then s.explicitValue
  else if x = '*' then s.named .alias
  else if x = '&' then s.named .anchor
  else if x = '!' then s.tag
  else if (x = '|' ∨ x = '>') ∧ !inFlow then s.block
  else if x = '\'' ∨ x = '"' then s.quoted x
  else if beginsPlain inFlow x next then s.plain
  else .error (.noToken x)

/-- Reads the next token, if there is one, and otherwise ends all collections. -/
def readNext (s : Scanner) : Except Fault (Bool × Scanner) := do
  let s ← s.toNextToken.dropStale
  let s := s.unwind s.cursor.column
  match s.cursor.peek? with
  | none => return (false, ← (s.unwind (-1)).dropSite)
  | some x => return (true, ← s.readToken x)

/-- Breaks off with a fault. A token at which a key may still begin, and all behind it, are held
back until that is known, so they are lost. -/
def breakOff (s : Scanner) (f : Fault) : Scanner :=
  let pending := s.sites.filter fun e => !s.isStale e.2 || e.2.required
  let slots :=
    match (pending.map fun e => e.2.number).min? with
    | none => s.slots
    | some n => s.slots.dropWhile (· ≠ .site n)
  { s with slots := .token (.broken f) :: slots }

/-- Reads all tokens, up to the first fault. Each takes a character at least. -/
def readAll : Nat → Scanner → Scanner
  | 0, s => s
  | fuel + 1, s =>
    match s.readNext with
    | .error f => s.breakOff f
    | .ok (false, s) => s
    | .ok (true, s) => readAll fuel s

/-- The tokens that were read, with the sites of keys filled in. -/
def tokens (s : Scanner) : List Token :=
  s.slots.reverse.flatMap fun
    | .token t => [t]
    | .site n =>
      match s.keys.get? n with
      | some true => [.blockMappingStart, .key]
      | some false => [.key]
      | none => []

end Scanner

/-- Whether a text may hold a character. -/
def isAcceptable (c : Char) : Bool :=
  let n := c.toNat
  n == 9 || n == 10 || n == 13 || 0x20 ≤ n && n ≤ 0x7E || n == 0x85 || 0xA0 ≤ n && n ≤ 0xD7FF
    || 0xE000 ≤ n && n ≤ 0xFFFD || 0x10000 ≤ n

/-- The tokens of a file, up to the first that cannot be read. All its characters are looked at
before. -/
def Token.scan (t : Text) : Except Fault (List Token) :=
  match t.find? fun c => !isAcceptable c with
  | some c => .error (.unacceptable c)
  | none => .ok (Scanner.readAll (t.length + 1) { cursor := { rest := t } }).tokens

end LiveSections.Yaml
