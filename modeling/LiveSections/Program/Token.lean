import LiveSections.Decimal.Reader
import LiveSections.Text.Identifier
import LiveSections.Text.Newline
import LiveSections.Unmodelled

/-!
# Tokens of section programs

- `Malformed`: why a text is no program.
- `Token`: names, literals, signs, ends of lines outside of brackets, and changes of indentation.
- `Token.scan`: the tokens of a program, up to a fault. Lines are joined inside brackets and after a
  backslash; comments and empty lines are passed over. Literals that are not modelled are tokens
  too.
-/

namespace LiveSections

/-- Why a text is no program. -/
inductive Malformed where
  | indented
  | unfinishedText
  | unknownEscape
  | badNumber
  | strayCharacter (c : Char)
  | unbalanced
  | nestedTooDeep
  | unexpected
  | reserved (word : Text)
  | notAssignable
  | repeatedKeyword (name : Text)
  deriving DecidableEq, Repr

/-- The words of a reason. -/
def Malformed.message : Malformed → String
  | indented => "unexpected indent"
  | unfinishedText => "unterminated string literal"
  | unknownEscape => "malformed character escape"
  | badNumber => "invalid number"
  | strayCharacter c => s!"invalid character {c}"
  | unbalanced => "unbalanced brackets"
  | nestedTooDeep => "too many nested parentheses"
  | unexpected => "invalid phrase"
  | reserved word => s!"'{word.str}' is a reserved word"
  | notAssignable => "cannot assign to expression"
  | repeatedKeyword name => s!"keyword argument repeated: {name.str}"

/-- A token of a program. -/
inductive Token where
  | name (t : Text)
  | int (n : Nat)
  | float (x : Float)
  | text (t : Text)
  /-- A literal that is not modelled: a text of some kind, or a number. -/
  | foreign (isText : Bool) (u : Unmodelled)
  | sign (t : Text)
  | lineEnd
  /-- The next line is indented further than the one before, or not as far. -/
  | indent
  | dedent

namespace Token

/-! ## Texts -/

/-- What a part of a literal stands for, if that is modelled. -/
abbrev Content : Type := Except Unmodelled Text

/-- The character of a code point. Half of a surrogate pair is none. -/
def charOf (n : Nat) : Except Unmodelled Char :=
  if n.isValidChar then .ok (Char.ofNat n) else .error (.surrogate n)

/-- The text of one code point. -/
def contentOf (n : Nat) : Content := (charOf n).map fun c => [c]

/-- Reads the `width` hexadecimal digits of a code point. -/
def readHex (width : Nat) (t : Text) : Except Malformed (Content × Text) :=
  let ds := t.take width
  let n := CodePoints.hexValue ds
  if ds.length = width ∧ ds.all (fun c => (CodePoints.hexDigit? c).isSome) ∧ n ≤ 0x10FFFF then
    .ok (contentOf n, t.drop width)
  else .error .unknownEscape

/-- Reads the name of a character. -/
def readNamed (t : Text) : Except Malformed (Content × Text) :=
  let isNameChar (c : Char) : Bool := c.isAlphanum || c = ' ' || c = '-'
  match t with
  | '\x7b' :: rest =>
    match rest.takeWhile isNameChar, rest.dropWhile isNameChar with
    | _ :: _, '\x7d' :: rest => .ok (.error .literal, rest)
    | _, _ => .error .unknownEscape
  | _ => .error .unknownEscape

/-- Whether a character is an octal digit. -/
def isOctal (c : Char) : Bool := '0' ≤ c && c ≤ '7'

/-- Reads an escape from behind its backslash: what it stands for. An unknown escape stands for
itself. -/
def readEscape : Text → Except Malformed (Content × Text)
  | [] => .error .unfinishedText
  | '\n' :: rest => .ok (.ok [], rest)
  | 'x' :: rest => readHex 2 rest
  | 'u' :: rest => readHex 4 rest
  | 'U' :: rest => readHex 8 rest
  | 'N' :: rest => readNamed rest
  | c :: rest =>
    match c with
    | '\\' | '\'' | '"' => .ok (.ok [c], rest)
    | 'a' => .ok (.ok ['\x07'], rest)
    | 'b' => .ok (.ok ['\x08'], rest)
    | 'f' => .ok (.ok ['\x0c'], rest)
    | 'n' => .ok (.ok ['\n'], rest)
    | 'r' => .ok (.ok ['\r'], rest)
    | 't' => .ok (.ok ['\t'], rest)
    | 'v' => .ok (.ok ['\x0b'], rest)
    | _ =>
      if isOctal c then
        let ds := c :: (rest.take 2).takeWhile isOctal
        .ok (contentOf (Decimal.digitsValue 8 ds), (c :: rest).drop ds.length)
      else .ok (.ok ['\\', c], rest)

/-- How a text literal is written. -/
structure Quote where
  mark : Char
  triple : Bool
  raw : Bool

/-- The characters that end a literal. -/
def Quote.closer (q : Quote) : Text := List.replicate (if q.triple then 3 else 1) q.mark

/-- Reads a text literal from behind its opening quotes. -/
def readText (q : Quote) : Nat → Text → Except Malformed (Content × Text)
  | 0, _ => .error .unfinishedText
  | fuel + 1, t =>
    match Text.dropLead? q.closer t with
    | some rest => .ok (.ok [], rest)
    | none =>
      match t with
      | [] => .error .unfinishedText
      | '\\' :: rest =>
        if q.raw then
          match rest with
          | [] => .error .unfinishedText
          | c :: rest =>
            (readText q fuel rest).map fun (t, rest) => (t.map ('\\' :: c :: ·), rest)
        else do
          let (escape, rest) ← readEscape rest
          let (t, rest) ← readText q fuel rest
          return (do return (← escape) ++ (← t), rest)
      | c :: rest =>
        if c = '\n' ∧ !q.triple then .error .unfinishedText
        else (readText q fuel rest).map fun (t, rest) => (t.map (c :: ·), rest)

/-- What the letters before a quote say. -/
inductive LiteralKind where
  | plain
  /-- Backslashes stand for themselves. -/
  | raw
  /-- Bytes, or a text with holes. -/
  | foreign
  deriving DecidableEq, Repr

/-- The token of a literal of a kind with a content. -/
def ofContent (kind : LiteralKind) (content : Content) : Token :=
  match kind, content with
  | .foreign, _ => .foreign true .literal
  | _, .ok t => .text t
  | _, .error u => .foreign true u

/-- Reads a text literal that begins with a quote. -/
def readQuoted (kind : LiteralKind) (t : Text) : Except Malformed (Token × Text) :=
  let raw := decide (kind ≠ .plain)
  match t with
  | [] => .error .unfinishedText
  | mark :: rest =>
    match Text.dropLead? [mark, mark] rest with
    | some inner =>
      (readText ⟨mark, true, raw⟩ (inner.length + 1) inner).map fun r => (ofContent kind r.1, r.2)
    | none =>
      (readText ⟨mark, false, raw⟩ (rest.length + 1) rest).map fun r => (ofContent kind r.1, r.2)

/-! ## Numbers -/

/-- The longest run of digits, single underscores between them left out, and the text behind it.
An underscore without a digit behind it ends the run. -/
def digitRun (isDigit : Char → Bool) : Text → Text × Text
  | '_' :: c :: rest =>
    if isDigit c then
      let (ds, rest) := digitRun isDigit rest
      (c :: ds, rest)
    else ([], '_' :: c :: rest)
  | c :: rest =>
    if isDigit c then
      let (ds, rest) := digitRun isDigit rest
      (c :: ds, rest)
    else ([], c :: rest)
  | [] => ([], [])

/-- Whether a character would go on with a name or number. -/
def isWordChar (c : Char) : Bool := c.isAlphanum || c = '_' || 128 ≤ c.toNat

/-- The words that can stand right behind a number. -/
def numberFollowers : List Text :=
  ["and", "else", "for", "if", "in", "is", "not", "or"].map String.toList

/-- Whether a number can end before a text. -/
def endsNumber (rest : Text) : Bool :=
  !rest.head?.elim false isWordChar
    || numberFollowers.any fun word => (Text.dropLead? word rest).isSome

/-- Reads a number in a base, from behind its mark. -/
def readBased (base : Nat) (isDigit : Char → Bool) (t : Text) : Except Malformed (Token × Text) :=
  let (ds, rest) := digitRun isDigit t
  if ds.isEmpty || !endsNumber rest then .error .badNumber
  else .ok (.int (Decimal.digitsValue base ds), rest)

/-- Reads an exponent with its mark: its value and the text behind, if there is one. -/
def readExponent? : Text → Option (Int × Text)
  | e :: rest =>
    if e = 'e' ∨ e = 'E' then
      let (negative, rest) : Bool × Text := match rest with
        | '-' :: r => (true, r)
        | '+' :: r => (false, r)
        | r => (false, r)
      let (ds, rest) := if rest.head? = some '_' then ([], rest) else digitRun Char.isDigit rest
      if ds.isEmpty then none
      else
        let n : Int := Decimal.digitsValue 10 ds
        some (if negative then -n else n, rest)
    else none
  | [] => none

/-- Reads a decimal number. -/
def readDecimal (t : Text) : Except Malformed (Token × Text) :=
  let (whole, rest) := digitRun Char.isDigit t
  let (hasPoint, fraction, rest) : Bool × Text × Text := match rest with
    | '.' :: r =>
      let (ds, r) := if r.head? = some '_' then ([], r) else digitRun Char.isDigit r
      (true, ds, r)
    | r => (false, [], r)
  let (exponent, rest) : Option Int × Text := match readExponent? rest with
    | some (e, r) => (some e, r)
    | none => (none, rest)
  if rest.head? = some 'j' ∨ rest.head? = some 'J' then
    if endsNumber rest.tail then .ok (.foreign false .literal, rest.tail) else .error .badNumber
  else if !endsNumber rest then .error .badNumber
  else if hasPoint || exponent.isSome then
    let x := Decimal.doubleOf (Decimal.digitsValue 10 (whole ++ fraction))
      (exponent.getD 0 - fraction.length)
    .ok (.float x, rest)
  else if whole.head? = some '0' ∧ whole.any (· ≠ '0') then .error .badNumber
  else if Decimal.maxDigits < whole.length then .error .badNumber
  else .ok (.int (Decimal.digitsValue 10 whole), rest)

/-- Reads a number. -/
def readNumber : Text → Except Malformed (Token × Text)
  | '0' :: m :: rest =>
    if m = 'x' ∨ m = 'X' then readBased 16 (fun c => (CodePoints.hexDigit? c).isSome) rest
    else if m = 'o' ∨ m = 'O' then readBased 8 isOctal rest
    else if m = 'b' ∨ m = 'B' then readBased 2 (fun c => c = '0' || c = '1') rest
    else readDecimal ('0' :: m :: rest)
  | t => readDecimal t

/-! ## Signs -/

/-- The signs of three and of two characters. -/
def longSigns : List Text :=
  ["**=", "//=", ">>=", "<<=", "...", "==", "!=", "<=", ">=", "->", "+=", "-=", "*=", "/=", "%=",
   "@=", "&=", "|=", "^=", "**", "//", "<<", ">>", ":="].map String.toList

/-- The signs of one character. -/
def shortSigns : Text := "+-*/%@&|^~<>()[]\x7b\x7d,:.;=".toList

/-- Reads a sign. -/
def readSign (t : Text) : Except Malformed (Text × Text) :=
  match longSigns.findSome? fun s => (Text.dropLead? s t).map fun rest => (s, rest) with
  | some r => .ok r
  | none =>
    match t with
    | [] => .error .unexpected
    | c :: rest => if c ∈ shortSigns then .ok ([c], rest) else .error (.strayCharacter c)

/-- The bracket that closes an opening one. -/
def closerOf : Text → Option Text
  | ['('] => some [')']
  | ['['] => some [']']
  | ['\x7b'] => some ['\x7d']
  | _ => none

/-- Whether a sign closes a bracket. -/
def isCloser (t : Text) : Bool := t == [')'] || t == [']'] || t == ['\x7d']

/-- How many brackets can be open at once. -/
def maxDepth : Nat := 200

/-! ## Programs -/

/-- Whether a character is blank inside a line. -/
def isBlank (c : Char) : Bool := c = ' ' || c = '\t' || c = '\x0c'

/-- Where the text of a line begins: the column, and what follows. A tab goes on to the next
multiple of eight, a form feed back to the first column. When the line is joined to the next one by
a backslash, its column stays that before the first backslash that was not in the first column. -/
structure Indent where
  column : Nat := 0
  joined : Nat := 0
  rest : Text

/-- The column that counts. -/
def Indent.counted (i : Indent) : Nat := if i.joined = 0 then i.column else i.joined

/-- Goes over the blanks at the front of a line. -/
def Indent.scan (column joined : Nat) : Text → Except Malformed Indent
  | ' ' :: t => Indent.scan (column + 1) joined t
  | '\t' :: t => Indent.scan ((column / 8 + 1) * 8) joined t
  | '\x0c' :: t => Indent.scan 0 joined t
  | '\\' :: '\n' :: t =>
    if t.isEmpty then .error .unexpected
    else Indent.scan column (if joined = 0 then column else joined) t
  | t => .ok ⟨column, joined, t⟩

/-- The marks before a line that begins at a column, and the columns of the lines around what
follows. -/
def Indent.marks (column : Nat) (levels : List Nat) :
    Except Malformed (List Token × List Nat) :=
  if levels.headD 0 < column then .ok ([.indent], column :: levels)
  else
    let (closed, left) := levels.span fun level => decide (column < level)
    if left.headD 0 = column then .ok (closed.map fun _ => .dedent, left) else .error .indented

/-- The kind of literal that letters before a quote stand for. -/
def literalKind? (letters : Text) : Option LiteralKind :=
  match letters.map Char.toLower with
  | ['u'] => some .plain
  | ['r'] => some .raw
  | ['b'] | ['f'] | ['b', 'r'] | ['r', 'b'] | ['f', 'r'] | ['r', 'f'] => some .foreign
  | _ => none

/-- Tokens up to the end of a text, or up to what cannot be one. -/
structure Scanned where
  tokens : List Token
  fault : Option Malformed := none

namespace Scanned

/-- Nothing has been scanned before a fault. -/
def failing (reason : Malformed) : Scanned := ⟨[], some reason⟩

/-- Puts tokens in front. -/
def behind (ts : List Token) (s : Scanned) : Scanned := { s with tokens := ts ++ s.tokens }

/-- Goes on behind a token that is read, unless it cannot be. -/
def afterRead (next : Text → Scanned) : Except Malformed (Token × Text) → Scanned
  | .ok (t, rest) => (next rest).behind [t]
  | .error reason => failing reason

end Scanned

/-- Scans on where the brackets `pending` wait to be closed and lines begin at `levels`, from the
innermost one out. At the start of a line leading blanks are looked at; empty lines and comments are
passed over. -/
def scanFrom : Nat → List Text → List Nat → Bool → Text → Scanned
  | 0, _, _, _, _ => .failing .unexpected
  | fuel + 1, pending, levels, true, t =>
    match Indent.scan 0 0 t with
    | .error reason => .failing reason
    | .ok start =>
      match start.rest with
      | [] => ⟨levels.map fun _ => .dedent, none⟩
      | '\n' :: rest => scanFrom fuel pending levels true rest
      | '#' :: rest => scanFrom fuel pending levels true (rest.dropWhile (· ≠ '\n'))
      | body =>
        match Indent.marks start.counted levels with
        | .ok (marks, levels) => (scanFrom fuel pending levels false body).behind marks
        | .error reason => .failing reason
  | fuel + 1, pending, levels, false, t =>
    let next := scanFrom fuel pending levels false
    match t with
    | [] =>
      if pending.isEmpty then ⟨.lineEnd :: levels.map fun _ => .dedent, none⟩
      else .failing .unbalanced
    | '\n' :: rest =>
      if pending.isEmpty then (scanFrom fuel pending levels true rest).behind [.lineEnd]
      else next rest
    | '#' :: rest => next (rest.dropWhile (· ≠ '\n'))
    | '\\' :: '\n' :: rest => if rest.isEmpty then .failing .unexpected else next rest
    | c :: rest =>
      if isBlank c then next rest
      else if c = '\'' ∨ c = '"' then .afterRead next (readQuoted .plain t)
      else if c.isDigit ∨ (c = '.' ∧ rest.head?.elim false Char.isDigit) then
        .afterRead next (readNumber t)
      else if isWordChar c then
        let word := t.takeWhile isWordChar
        let rest := t.dropWhile isWordChar
        let quoted := decide (rest.head? = some '\'' ∨ rest.head? = some '"')
        match literalKind? word, quoted with
        | some kind, true => .afterRead next (readQuoted kind rest)
        | _, _ =>
          if Text.isIdentifier word then (next rest).behind [.name word]
          else .failing (.strayCharacter c)
      else
        match readSign t with
        | .error reason => .failing reason
        | .ok (mark, rest) =>
          let scanned (pending : List Text) : Scanned :=
            (scanFrom fuel pending levels false rest).behind [.sign mark]
          match closerOf mark with
          | some closer =>
            if pending.length < maxDepth then scanned (closer :: pending)
            else .failing .nestedTooDeep
          | none =>
            if isCloser mark then
              match pending with
              | closer :: pending =>
                if closer = mark then scanned pending else .failing .unbalanced
              | [] => .failing .unbalanced
            else scanned pending

/-- The lines of a program. Behind an end of line of two characters at the very end stands an
empty line, which a backslash before that end may join. -/
def linesOf (program : Text) : Text :=
  let t := Text.unified program
  if ['\r', '\n'].isSuffixOf program then t ++ ['\n'] else t

/-- The tokens of a program. Every step but the first of a line takes a character. -/
def scan (program : Text) : Scanned :=
  let t := linesOf program
  scanFrom (2 * t.length + 2) [] [] true t

end Token

end LiveSections
