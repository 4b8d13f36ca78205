import LiveSections.Program.Grammar
import LiveSections.Program.Term
import LiveSections.Text.NormalForm

/-!
# Reading section programs

A program is a sequence of lines, each with statements between semicolons. Products bind tighter
than sums, signs before a term tighter than products, calls and attributes tightest. Names that look
alike are one name.

- `NoProgram`: why a text is not read as a program.
- `Program.parse`: the statements of a text. Of the other texts, those that can be programs of the
  whole language are told from those that are none.
-/

namespace LiveSections

/-- Why a text is not read as a program. -/
inductive NoProgram where
  /-- It is none. -/
  | malformed (reason : Malformed)
  /-- It may be a program, but one with something in it that is not modelled. -/
  | unmodelled (u : Unmodelled)
  deriving DecidableEq, Repr

/-- The name that stands for a truth value, and that nothing can be bound to. -/
def debugName : Text := "__debug__".toList

/-- The name that a word spells, if it can be bound to. The words that are reserved are so in one
spelling only. -/
def bindableName (word : Text) : Except Malformed Text :=
  let name := Text.normalForm word
  if reservedWords.contains word || name == debugName then .error (.reserved word) else .ok name

namespace Term

/-- The texts of neighbouring literals, joined. -/
def joinTexts : List Token → Text × List Token
  | .text t :: ts =>
    let (u, ts) := joinTexts ts
    (t ++ u, ts)
  | ts => ([], ts)

/-- A word as a term: a constant, or a name. -/
def ofWord (word : Text) : Except Malformed Term :=
  if word = "None".toList then .ok .none
  else if word = "True".toList then .ok (.bool true)
  else if word = "False".toList then .ok (.bool false)
  else if reservedWords.contains word then .error (.reserved word)
  else
    let name := Text.normalForm word
    .ok (if name = debugName then .bool true else .name name)

mutual

/-- Reads a sum. -/
def readSum : Nat → List Token → Except Malformed (Term × List Token)
  | 0, _ => .error .unexpected
  | fuel + 1, ts => do
    let (left, ts) ← readProduct fuel ts
    readSumRest fuel left ts

/-- Reads further summands. -/
def readSumRest : Nat → Term → List Token → Except Malformed (Term × List Token)
  | 0, _, _ => .error .unexpected
  | fuel + 1, left, .sign ['+'] :: ts => do
    let (right, ts) ← readProduct fuel ts
    readSumRest fuel (.binary .add left right) ts
  | fuel + 1, left, .sign ['-'] :: ts => do
    let (right, ts) ← readProduct fuel ts
    readSumRest fuel (.binary .sub left right) ts
  | _ + 1, left, ts => .ok (left, ts)

/-- Reads a product. -/
def readProduct : Nat → List Token → Except Malformed (Term × List Token)
  | 0, _ => .error .unexpected
  | fuel + 1, ts => do
    let (left, ts) ← readFactor fuel ts
    readProductRest fuel left ts

/-- Reads further factors. -/
def readProductRest : Nat → Term → List Token → Except Malformed (Term × List Token)
  | 0, _, _ => .error .unexpected
  | fuel + 1, left, .sign ['*'] :: ts => do
    let (right, ts) ← readFactor fuel ts
    readProductRest fuel (.binary .mul left right) ts
  | fuel + 1, left, .sign ['/'] :: ts => do
    let (right, ts) ← readFactor fuel ts
    readProductRest fuel (.binary .div left right) ts
  | _ + 1, left, ts => .ok (left, ts)

/-- Reads a factor: a primary term, maybe with signs before it. -/
def readFactor : Nat → List Token → Except Malformed (Term × List Token)
  | 0, _ => .error .unexpected
  | fuel + 1, .sign ['-'] :: ts => do
    let (operand, ts) ← readFactor fuel ts
    return (.unary .minus operand, ts)
  | fuel + 1, .sign ['+'] :: ts => do
    let (operand, ts) ← readFactor fuel ts
    return (.unary .plus operand, ts)
  | fuel + 1, ts => do
    let (atom, ts) ← readAtom fuel ts
    readTrailers fuel atom ts

/-- Reads attributes and calls behind a term. -/
def readTrailers : Nat → Term → List Token → Except Malformed (Term × List Token)
  | 0, _, _ => .error .unexpected
  | fuel + 1, term, .sign ['.'] :: .name n :: ts =>
    if reservedWords.contains n then .error (.reserved n)
    else readTrailers fuel (.attribute term (Text.normalForm n)) ts
  | _ + 1, _, .sign ['.'] :: _ => .error .unexpected
  | fuel + 1, term, .sign ['('] :: ts => do
    let ((arguments, keywords), ts) ← readArguments fuel [] ts
    readTrailers fuel (.call term arguments keywords) ts
  | _ + 1, term, ts => .ok (term, ts)

/-- Reads the arguments of a call up to its closing bracket. Keywords follow all other arguments,
each at most once. -/
def readArguments : Nat → List Text → List Token →
    Except Malformed ((List Term × List (Text × Term)) × List Token)
  | 0, _, _ => .error .unexpected
  | _ + 1, _, .sign [')'] :: ts => .ok (([], []), ts)
  | fuel + 1, seen, .name n :: .sign ['='] :: ts => do
    let name ← bindableName n
    if seen.contains name then throw (.repeatedKeyword name)
    let (value, ts) ← readSum fuel ts
    let ((arguments, keywords), ts) ← readMoreArguments fuel (name :: seen) ts
    return ((arguments, (name, value) :: keywords), ts)
  | fuel + 1, seen, ts =>
    if seen.isEmpty then do
      let (value, ts) ← readSum fuel ts
      let ((arguments, keywords), ts) ← readMoreArguments fuel seen ts
      return ((value :: arguments, keywords), ts)
    else .error .unexpected

/-- Goes on behind an argument. -/
def readMoreArguments : Nat → List Text → List Token →
    Except Malformed ((List Term × List (Text × Term)) × List Token)
  | 0, _, _ => .error .unexpected
  | fuel + 1, seen, .sign [','] :: ts => readArguments fuel seen ts
  | _ + 1, _, .sign [')'] :: ts => .ok (([], []), ts)
  | _ + 1, _, _ => .error .unexpected

/-- Reads the items of a display up to its closing bracket, and whether a comma came last. -/
def readItems : Nat → Text → List Token → Except Malformed ((List Term × Bool) × List Token)
  | 0, _, _ => .error .unexpected
  | fuel + 1, closer, ts => do
    let (item, ts) ← readSum fuel ts
    match ts with
    | .sign [','] :: .sign s :: ts =>
      if s = closer then return (([item], true), ts)
      else
        let ((items, comma), ts) ← readItems fuel closer (.sign s :: ts)
        return ((item :: items, comma), ts)
    | .sign [','] :: ts =>
      let ((items, comma), ts) ← readItems fuel closer ts
      return ((item :: items, comma), ts)
    | .sign s :: ts => if s = closer then return (([item], false), ts) else .error .unexpected
    | _ => .error .unexpected

/-- Reads a term that no operator can split. -/
def readAtom : Nat → List Token → Except Malformed (Term × List Token)
  | 0, _ => .error .unexpected
  | _ + 1, .name n :: ts => do return (← ofWord n, ts)
  | _ + 1, .int n :: ts => .ok (.int n, ts)
  | _ + 1, .float x :: ts => .ok (.float x, ts)
  | _ + 1, .text t :: ts =>
    let (u, ts) := joinTexts ts
    .ok (.text (t ++ u), ts)
  | _ + 1, .sign ['('] :: .sign [')'] :: ts => .ok (.display .tuple [], ts)
  | fuel + 1, .sign ['('] :: ts => do
    let ((items, comma), ts) ← readItems fuel [')'] ts
    match items, comma with
    | [item], false => return (item, ts)
    | items, _ => return (.display .tuple items, ts)
  | _ + 1, .sign ['['] :: .sign [']'] :: ts => .ok (.display .list [], ts)
  | fuel + 1, .sign ['['] :: ts => do
    let ((items, _), ts) ← readItems fuel [']'] ts
    return (.display .list items, ts)
  | _ + 1, .sign ['\x7b'] :: .sign ['\x7d'] :: ts => .ok (.emptyDict, ts)
  | fuel + 1, .sign ['\x7b'] :: ts => do
    let ((items, _), ts) ← readItems fuel ['\x7d'] ts
    return (.display .set items, ts)
  | _ + 1, _ => .error .unexpected

end

/-- Reads the terms behind a comma that no bracket surrounds. -/
def readTupleRest : Nat → List Token → Except Malformed (List Term × List Token)
  | 0, _ => .error .unexpected
  | fuel + 1, .sign [','] :: ts =>
    match ts with
    | [] | .lineEnd :: _ | .sign ['='] :: _ | .sign [';'] :: _ => .ok ([], ts)
    | _ => do
      let (item, ts) ← readSum fuel ts
      let (items, ts) ← readTupleRest fuel ts
      return (item :: items, ts)
  | _ + 1, ts => .ok ([], ts)

/-- Reads a term, or terms between commas as a tuple. -/
def readTuple (fuel : Nat) (ts : List Token) : Except Malformed (Term × List Token) := do
  let (first, ts) ← readSum fuel ts
  match ts with
  | .sign [','] :: _ =>
    let (rest, ts) ← readTupleRest fuel ts
    return (.display .tuple (first :: rest), ts)
  | _ => return (first, ts)

end Term

namespace Statement

/-- The holder that a term stands for before an equals sign. -/
def holderOf : Term → Except Malformed Holder
  | .name n => .ok (.name n)
  | .attribute value n => if n = debugName then .error .notAssignable else .ok (.attribute value n)
  | _ => .error .notAssignable

mutual

/-- The target that a term stands for before an equals sign. -/
def targetOf : Term → Except Malformed Target
  | .display .tuple items => Target.items <$> targetsOf items
  | .display .list items => Target.items <$> targetsOf items
  | term => Target.holder <$> holderOf term

/-- The targets that terms stand for. -/
def targetsOf : List Term → Except Malformed (List Target)
  | [] => .ok []
  | term :: terms => do return (← targetOf term) :: (← targetsOf terms)

end

/-- Reads what follows the equals signs of an assignment: all terms but the last are targets. -/
def readChain : Nat → Term → List Token → Except Malformed ((List Target × Term) × List Token)
  | 0, _, _ => .error .unexpected
  | fuel + 1, left, .sign ['='] :: ts => do
    let target ← targetOf left
    let (next, ts) ← Term.readTuple fuel ts
    let ((targets, value), ts) ← readChain fuel next ts
    return ((target :: targets, value), ts)
  | _ + 1, left, ts => .ok (([], left), ts)

/-- The operator of an update. -/
def updateOp? : Text → Option BinaryOp
  | ['+', '='] => some .add
  | ['-', '='] => some .sub
  | ['*', '='] => some .mul
  | ['/', '='] => some .div
  | _ => none

/-- Reads a statement. -/
def read (fuel : Nat) : List Token → Except Malformed (Statement × List Token)
  | .name n :: ts =>
    if n = "pass".toList then .ok (.pass, ts)
    else if n = "raise".toList then
      match ts with
      | .lineEnd :: _ | .sign [';'] :: _ => .ok (.raise none, ts)
      | _ => (Term.readSum fuel ts).map fun (e, ts) => (.raise (some e), ts)
    else readSimple (.name n :: ts)
  | ts => readSimple ts
where
  /-- Reads an assignment, an update or a term. -/
  readSimple (ts : List Token) : Except Malformed (Statement × List Token) := do
    let (first, ts) ← Term.readTuple fuel ts
    match ts with
    | .sign ['='] :: _ =>
      let ((targets, value), ts) ← readChain fuel first ts
      return (.assign targets value, ts)
    | .sign s :: rest =>
      match updateOp? s with
      | some op => do
        let holder ← holderOf first
        let (value, ts) ← Term.readTuple fuel rest
        return (.update holder op value, ts)
      | none => return (.evaluate first, ts)
    | _ => return (.evaluate first, ts)

/-- Reads statements up to the end of the tokens. Behind each comes the end of its line, or a
semicolon and maybe another statement. -/
def readAll : Nat → List Token → Except Malformed Program
  | 0, _ => .error .unexpected
  | _ + 1, [] => .ok []
  | _ + 1, .indent :: _ => .error .indented
  | fuel + 1, ts => do
    let (s, ts) ← read fuel ts
    match ts with
    | .lineEnd :: ts => return s :: (← readAll fuel ts)
    | .sign [';'] :: .lineEnd :: ts => return s :: (← readAll fuel ts)
    | .sign [';'] :: ts =>
      if ts.isEmpty then .error .unexpected else return s :: (← readAll fuel ts)
    | _ => .error .unexpected

end Statement

/-- Whether a text with this fault is no program of the whole language either, whatever its other
statements are. -/
def Malformed.isCertain : Malformed → Bool
  | indented | notAssignable | repeatedKeyword _ => true
  | reserved word => Text.normalForm word == debugName
  | _ => false

/-- What is not modelled of a program with these tokens: its first literal that is not, or else its
phrases. -/
def Token.beyond (ts : List Token) : Unmodelled :=
  (ts.findSome? fun
    | .foreign _ u => some u
    | _ => none).getD .phrase

/-! ## Depth -/

/-- How deep the reading of tokens leads, where what is read leads `cost` deep inside of the
innermost open bracket or block, and `outer` deep before those around. A bracket leads as deep as 29
signs do. What stands before a comma leads no deeper behind it. -/
def Token.readingDepth (cost : Nat) (outer : List Nat) : List Token → Nat
  | [] => cost + outer.sum
  | .sign s :: ts =>
    if (closerOf s).isSome then readingDepth 29 (cost :: outer) ts
    else if isCloser s then max (cost + outer.sum) (readingDepth (outer.headD 0) outer.tail ts)
    else if s = [','] then max (cost + outer.sum) (readingDepth 30 outer ts)
    else readingDepth (cost + s.length) outer ts
  | .name word :: ts =>
    readingDepth (if reservedWords.contains word then cost + 9 else cost) outer ts
  | .lineEnd :: ts => max (cost + outer.sum) (readingDepth 0 outer ts)
  | .indent :: ts => readingDepth 0 (8 :: outer) ts
  | .dedent :: ts => readingDepth 0 outer.tail ts
  | _ :: ts => readingDepth cost outer ts

/-- How deep reading may lead. -/
def maxReading : Nat := 5850

/-- How deep reading may lead to a fault. To tell of most faults a text is read once more, which
leads deeper than before. -/
def Malformed.maxReading : Malformed → Nat
  | nestedTooDeep => LiveSections.maxReading
  | _ => 5100

/-! ## Programs -/

/-- The statements of tokens whose reading leads to a depth. Every step into a bracket, operator or
statement takes a token, and no more than eight calls pass between two of them. -/
def Program.ofTokens (depth : Nat) (ts : List Token) : Except NoProgram Program :=
  match Statement.readAll (8 * (ts.length + 2)) ts with
  | .ok p =>
    if p.isDeep || maxReading < depth then .error (.unmodelled .nesting) else .ok p
  | .error reason =>
    if reason.maxReading < depth then .error (.unmodelled .nesting)
    else if reason.isCertain || !mayBeProgram ts then .error (.malformed reason)
    else .error (.unmodelled (Token.beyond ts))

/-- The statements of a text. -/
def Program.parse (text : Text) : Except NoProgram Program :=
  let scanned := Token.scan text
  let depth := Token.readingDepth 0 [] scanned.tokens
  match scanned.fault with
  | none => Program.ofTokens depth scanned.tokens
  | some reason =>
    if reason.maxReading < depth then .error (.unmodelled .nesting) else .error (.malformed reason)

end LiveSections
