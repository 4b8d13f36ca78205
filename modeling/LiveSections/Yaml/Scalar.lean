import LiveSections.Text.CodePoints
import LiveSections.Yaml.Cursor
import LiveSections.Yaml.Fault

/-!
# The text of scalars

A scalar is written plainly, between quotes, or as a block of lines. Ends of lines inside of a plain
or quoted scalar are folded: one becomes a blank, of several the first one is left out.

- `readPlain`: a plain scalar.
- `readQuoted`: a scalar between quotes.
- `readBlock`: a scalar as a block of lines.

The fuel of the loops is the number of characters left; each step takes at least one.
-/

namespace LiveSections.Yaml

/-! ## Plain scalars -/

/-- The signs that end a plain scalar inside of brackets. -/
def flowSigns : Text := [',', '?', '[', ']', '\x7b', '\x7d']

/-- The signs before which a colon ends a plain scalar inside of brackets. -/
def flowEnds : Text := [',', '[', ']', '\x7b', '\x7d']

/-- Whether a colon ends a plain scalar before a character. -/
def endsBefore (inFlow : Bool) (next : Option Char) : Bool :=
  atSpace next || inFlow && next.elim false fun c => c ∈ flowEnds

/-- The characters of a plain scalar up to a blank or a sign that ends it. -/
def plainRun (inFlow : Bool) : Text → Text
  | [] => []
  | c :: rest =>
    if atSpace (some c) || c = ':' && endsBefore inFlow rest.head? ||
      inFlow && c ∈ flowSigns then []
    else c :: plainRun inFlow rest

/-- The text that an end of line and the empty lines behind it stand for. -/
def folded (first breaks : Text) : Text :=
  if first ≠ ['\n'] then first ++ breaks else if breaks.isEmpty then [' '] else breaks

/-- The empty lines that begin here, with blanks around them. Nothing if a document ends. -/
def emptyLines? : Nat → Cursor → Option Text × Cursor
  | 0, c => (some [], c)
  | fuel + 1, c =>
    if c.isAt ' ' then emptyLines? fuel c.advance
    else match c.lineBreak? with
      | none => (some [], c)
      | some (first, c) =>
        if c.atDocumentMark then (none, c)
        else
          let (rest, c) := emptyLines? fuel c
          (rest.map (first ++ ·), c)

/-- What stands between two runs of a plain scalar: its text, empty if the scalar ends here, the
place behind it, and whether a line ended. -/
def plainGap (c : Cursor) : Text × Cursor × Bool :=
  let (blanks, c) := c.span (· = ' ')
  match c.lineBreak? with
  | none => (blanks, c, false)
  | some (first, c) =>
    if c.atDocumentMark then ([], c, true)
    else match emptyLines? c.rest.length c with
      | (none, c) => ([], c, true)
      | (some breaks, c) => (folded first breaks, c, true)

/-- A plain scalar: its text, the place behind it and behind the gap that ended it, and whether the
last line ended there. Outside of brackets it goes on only in lines indented to `column`. -/
def readPlainFrom (inFlow : Bool) (column : Int) :
    Nat → Text → Bool → Cursor → Text × Cursor × Bool
  | 0, _, lineEnded, c => ([], c, lineEnded)
  | fuel + 1, gap, lineEnded, c =>
    let run := plainRun inFlow c.rest
    if c.isAt '#' || run.isEmpty then ([], c, lineEnded)
    else
      let (next, c, lineEnded) := plainGap (c.skip run.length)
      if next.isEmpty || c.isAt '#' || !inFlow && c.column < column then
        (gap ++ run, c, lineEnded)
      else
        let (rest, c, lineEnded) := readPlainFrom inFlow column fuel next lineEnded c
        (gap ++ run ++ rest, c, lineEnded)

/-- A plain scalar that begins here. -/
def readPlain (inFlow : Bool) (column : Int) (c : Cursor) : Text × Cursor × Bool :=
  readPlainFrom inFlow column c.rest.length [] false c

/-! ## Quoted scalars -/

/-- The characters that single letters behind a backslash stand for. -/
def escapes : List (Char × Char) :=
  [('0', '\x00'), ('a', '\x07'), ('b', '\x08'), ('t', '\t'), ('\t', '\t'), ('n', '\n'),
   ('v', '\x0b'), ('f', '\x0c'), ('r', '\r'), ('e', '\x1b'), (' ', ' '), ('"', '"'),
   ('\\', '\\'), ('/', '/'), ('N', '\x85'), ('_', '\u00a0'), ('L', '\u2028'), ('P', '\u2029')]

/-- How many hexadecimal digits follow a letter behind a backslash. -/
def escapeWidth? (c : Char) : Option Nat :=
  if c = 'x' then some 2 else if c = 'u' then some 4 else if c = 'U' then some 8 else none

/-- The empty lines inside of quotes. -/
def quotedLines : Nat → Cursor → Except Fault (Text × Cursor)
  | 0, c => .ok ([], c)
  | fuel + 1, c =>
    if c.atDocumentMark then .error .unfinishedQuote
    else
      let (_, c) := c.span fun x => x = ' ' || x = '\t'
      match c.lineBreak? with
      | none => .ok ([], c)
      | some (first, c) => (quotedLines fuel c).map fun (rest, c) => (first ++ rest, c)

/-- The number of so many hexadecimal digits. -/
def hexEscape? (width : Nat) (c : Cursor) : Option (Nat × Cursor) :=
  let digits := c.rest.take width
  if digits.length = width ∧ digits.all fun d => (CodePoints.hexDigit? d).isSome then
    some (CodePoints.hexValue digits, c.skip width)
  else none

/-- The character of a number. Halves of surrogate pairs are none, also if they stand side by
side. -/
def readCodePoint (n : Nat) : Except Fault Char :=
  if 0x110000 ≤ n then .error (.noCodePoint n)
  else if n.isValidChar then .ok (Char.ofNat n)
  else .error (.unmodelled (.surrogate n))

/-- An escape, from behind its backslash: what it stands for. -/
def readEscape (c : Cursor) : Except Fault (Text × Cursor) :=
  match c.peek? with
  | none => .error .unfinishedQuote
  | some x =>
    match escapes.lookup x, escapeWidth? x, c.lineBreak? with
    | some y, _, _ => .ok ([y], c.advance)
    | none, some width, _ =>
      match hexEscape? width c.advance with
      | none => .error .unknownEscape
      | some (n, c) => (readCodePoint n).map fun y => ([y], c)
    | none, none, some (_, c) => quotedLines c.rest.length c
    | none, none, none => .error .unknownEscape

/-- Blanks or ends of lines inside of quotes: what they stand for. -/
def quotedGap (c : Cursor) : Except Fault (Text × Cursor) :=
  let (blanks, c) := c.span fun x => x = ' ' || x = '\t'
  match c.lineBreak? with
  | none => if c.rest.isEmpty then .error .unfinishedQuote else .ok (blanks, c)
  | some (first, c) => (quotedLines c.rest.length c).map fun (breaks, c) => (folded first breaks, c)

/-- The text up to the closing quote, and the place behind it. -/
def readQuotedFrom (quote : Char) : Nat → Cursor → Except Fault (Text × Cursor)
  | 0, _ => .error .unfinishedQuote
  | fuel + 1, c =>
    match c.peek? with
    | none => .error .unfinishedQuote
    | some x => do
      if x = quote then
        if quote = '\'' ∧ c.peekAt? 1 = some '\'' then
          let (rest, c) ← readQuotedFrom quote fuel (c.skip 2)
          return (x :: rest, c)
        else return ([], c.advance)
      else if quote = '"' ∧ x = '\\' then
        let (escaped, c) ← readEscape c.advance
        let (rest, c) ← readQuotedFrom quote fuel c
        return (escaped ++ rest, c)
      else if atSpace (some x) then
        let (gap, c) ← quotedGap c
        let (rest, c) ← readQuotedFrom quote fuel c
        return (gap ++ rest, c)
      else
        let (rest, c) ← readQuotedFrom quote fuel c.advance
        return (x :: rest, c)

/-- A quoted scalar that begins here. -/
def readQuoted (quote : Char) (c : Cursor) : Except Fault (Text × Cursor) :=
  readQuotedFrom quote c.rest.length c.advance

/-! ## Blocks of lines -/

/-- What becomes of the ends of line at the end of a block: one is kept, all, or none. -/
inductive Chomping where
  | clip
  | keep
  | drop
  deriving DecidableEq, Repr

/-- The sign of a chomping. -/
def Chomping.ofSign? (c : Option Char) : Option Chomping :=
  if c = some '+' then some keep else if c = some '-' then some drop else none

/-- The digit of an indentation, which is not zero. -/
def indentDigit? (c : Option Char) : Option Nat :=
  c.bind fun c => if c.isDigit then some (c.toNat - '0'.toNat) else none

/-- The indicators behind the sign of a block, in either order. -/
def blockHeader (c : Cursor) : Except Fault (Chomping × Option Nat × Cursor) := do
  let (chomping, width, c) :=
    match Chomping.ofSign? c.peek?, indentDigit? c.peek? with
    | some chomping, _ =>
      match indentDigit? (c.peekAt? 1) with
      | some n => (chomping, some n, c.skip 2)
      | none => (chomping, none, c.advance)
    | none, some n =>
      match Chomping.ofSign? (c.peekAt? 1) with
      | some chomping => (chomping, some n, c.skip 2)
      | none => (.clip, some n, c.advance)
    | none, none => (.clip, none, c)
  if width = some 0 then .error .badBlockHeader
  else if c.isAt ' ' || atBreak c.peek? then
    let c := c.skipBlanks.skipComment
    match c.lineBreak? with
    | some (_, c) => .ok (chomping, width, c)
    | none => if c.rest.isEmpty then .ok (chomping, width, c) else .error .badBlockHeader
  else .error .badBlockHeader

/-- The empty lines before a block whose indentation is not given: their ends, the greatest column
in them, and the place behind them. -/
def leadingLines : Nat → Nat → Cursor → Text × Nat × Cursor
  | 0, widest, c => ([], widest, c)
  | fuel + 1, widest, c =>
    if c.isAt ' ' then
      let c := c.advance
      leadingLines fuel (max widest c.column) c
    else match c.lineBreak? with
      | none => ([], widest, c)
      | some (first, c) =>
        let (rest, widest, c) := leadingLines fuel widest c
        (first ++ rest, widest, c)

/-- Behind at most as many blanks as lead to a column. -/
def indentTo (column : Nat) : Nat → Cursor → Cursor
  | 0, c => c
  | fuel + 1, c =>
    if c.column < column ∧ c.isAt ' ' then indentTo column fuel c.advance else c

/-- The empty lines between the lines of a block: their ends and the place behind them. -/
def blockGap (column : Nat) : Nat → Cursor → Text × Cursor
  | 0, c => ([], c)
  | fuel + 1, c =>
    let c := indentTo column column c
    match c.lineBreak? with
    | none => ([], c)
    | some (first, c) =>
      let (rest, c) := blockGap column fuel c
      (first ++ rest, c)

/-- Whether a line begins here with a blank or tab. -/
def atBlankOrTab (c : Cursor) : Bool := c.isAt ' ' || c.isAt '\t'

/-- The lines of a block from here on, behind the empty lines `breaks`: the text without the ends
of the last lines, these ends, and the place behind them. -/
def blockLines (foldedStyle : Bool) (column : Nat) :
    Nat → Text → Cursor → Text × (Text × Text) × Cursor
  | 0, breaks, c => ([], ([], breaks), c)
  | fuel + 1, breaks, c =>
    let startsWithText := !atBlankOrTab c
    let (line, c) := c.span fun x => !isBreak x
    let (first, c) := (c.lineBreak?).getD ([], c)
    let (next, c) := blockGap column (c.rest.length + 1) c
    if c.column = column ∧ !c.rest.isEmpty then
      let joint :=
        if foldedStyle && first == ['\n'] && startsWithText && !atBlankOrTab c then
          if next.isEmpty then [' '] else []
        else first
      let (rest, ends, c) := blockLines foldedStyle column fuel next c
      (breaks ++ line ++ joint ++ rest, ends, c)
    else (breaks ++ line, (first, next), c)

/-- A block of lines that begins here, inside of a collection indented to `indent`. -/
def readBlock (indent : Int) (c : Cursor) : Except Fault (Text × Cursor) := do
  let foldedStyle := c.isAt '>'
  let (chomping, width, c) ← blockHeader c.advance
  let least := (max (indent + 1) 1).toNat
  let fuel := c.rest.length + 1
  let (column, breaks, c) :=
    match width with
    | some n =>
      let column := least + n - 1
      let (breaks, c) := blockGap column fuel c
      (column, breaks, c)
    | none =>
      let (breaks, widest, c) := leadingLines fuel 0 c
      (max least widest, breaks, c)
  let (text, (first, last), c) :=
    if c.column = column ∧ !c.rest.isEmpty then blockLines foldedStyle column fuel breaks c
    else ([], ([], breaks), c)
  let ending := match chomping with
    | .clip => first
    | .keep => first ++ last
    | .drop => []
  return (text ++ ending, c)

end LiveSections.Yaml
