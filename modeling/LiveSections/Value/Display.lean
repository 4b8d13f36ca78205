import LiveSections.Value.Exception

/-!
# The text of a value

A text is shown as itself, but quoted inside a collection. A collection that contains itself is
shown by three dots where it comes up again.

- `Value.number`: how doubles are written.
- `TooManyDigits`: integers are written only up to a number of digits.
- `Value.quotedPlain`, `Heap.quotedInside`, `Heap.quoted`: a value as it stands in a collection.
- `Heap.display`: a value as text.
- `Heap.isUntold`: whether that text is not modelled.
-/

namespace LiveSections

/-- Doubles have the fewest digits that identify them; they are written positionally from 0.0001 up
to below 10^16, otherwise with a signed exponent of at least two digits. -/
def Value.number : Decimal.Layout where
  plainFrom := -4
  plainBelow := 16
  pointZero := ['.', '0']
  exponentWidth := 2
  nan := "nan".toList
  infinity := "inf".toList

/-- Texts between brackets, with a comma and a blank between neighbours. -/
def bracketed (left right : Char) (texts : List Text) : Text :=
  left :: Text.join [',', ' '] texts ++ [right]

/-- A natural number in decimal digits. -/
def natText (n : Nat) : Text := Decimal.digitsOf n

/-- An integer has more digits than are written. -/
structure TooManyDigits where
  deriving DecidableEq, Repr

/-- The words of the refusal. -/
def TooManyDigits.message : String :=
  s!"Exceeds the limit ({Decimal.maxDigits} digits) for integer string conversion; "
    ++ "use sys.set_int_max_str_digits() to increase the limit"

/-- Whether a number has more digits than are written. Numbers of few bits need no comparison. -/
def isTooLong (n : Nat) : Bool := 3 * Decimal.maxDigits < n.log2 && Decimal.tenTo Decimal.maxDigits ≤ n

/-- An integer in decimal digits. -/
def intText (n : Int) : Except TooManyDigits Text :=
  if isTooLong n.natAbs then .error {} else .ok (Duration.signedText n)

/-- A date as the call that makes it. -/
def Date.quoted (d : Date) : Text :=
  "datetime.date".toList ++ bracketed '(' ')' [natText d.year, natText d.month, natText d.day]

/-- A distance from universal time as the call that makes it. -/
def DateTime.zoneText (minutes : Int) : Text :=
  if minutes = 0 then "datetime.timezone.utc".toList
  else
    "datetime.timezone(".toList ++ (Duration.mk (minutes * 60000000)).quoted ++ [')']

/-- A date with a time as the call that makes it; zero seconds are left out. -/
def DateTime.quoted (d : DateTime) : Text :=
  let t := d.time
  let small :=
    if t.microsecond ≠ 0 then [natText t.second, natText t.microsecond]
    else if t.second ≠ 0 then [natText t.second] else []
  let zone := d.offset.elim [] fun minutes => ["tzinfo=".toList ++ zoneText minutes]
  "datetime.datetime".toList ++ bracketed '(' ')'
    ([natText d.date.year, natText d.date.month, natText d.date.day, natText t.hour,
      natText t.minute] ++ small ++ zone)

/-- Whether a built-in is of a kind of its own, of which nothing more than its type is modelled. -/
def BuiltIn.isForeign : BuiltIn → Bool
  | other name type =>
    name == "__loader__" ||
      type ∉ ["type", "builtin_function_or_method", "ellipsis", "NotImplementedType"]
  | _ => false

/-- A built-in as it shows itself. -/
def BuiltIn.text : BuiltIn → Text
  | str => "<class 'str'>".toList
  | len => "<built-in function len>".toList
  | exceptionClass c => "<class '".toList ++ c.name.toList ++ "'>".toList
  | other name type =>
    if type = "ellipsis" ∨ type = "NotImplementedType" then name.toList
    else if type = "type" then "<class '".toList ++ name.toList ++ "'>".toList
    else "<built-in function ".toList ++ name.toList ++ ['>']

/-- A value as it stands in a collection, if it leads to no cell. -/
def Value.quotedPlain : Value → Except TooManyDigits Text
  | .none => .ok "None".toList
  | .bool b => .ok (if b then "True" else "False").toList
  | .int n => intText n
  | .float x => .ok (Value.number.text x)
  | .text t => .ok (Text.quoted t)
  | .bytes bs => .ok (Text.quotedBytes bs)
  | .date d => .ok d.quoted
  | .datetime d => .ok d.quoted
  | .duration d => .ok d.quoted
  | .helper f => .ok ("<function ".toList ++ f.name.toList ++ ['>'])
  | .builtIn b => .ok b.text
  | .method m self =>
    .ok ("<built-in method ".toList ++ m.name.toList ++ " of ".toList ++ self.typeName.toList
      ++ " object>".toList)
  | .looseMethod m => .ok ("<method '".toList ++ m.name.toList ++ "' of 'str' objects>".toList)
  | .list _ | .tuple _ | .set _ | .dict _ | .exception .. => .ok []

/-- Whether a value tells in its text where it is stored, or is of a kind of its own. -/
def Value.isPlaced : Value → Bool
  | .helper _ | .method .. => true
  | .builtIn b => b.isForeign
  | _ => false

/-- Whether a value can differ from another one that is written alike, or is of a kind of its
own. -/
def Value.isOnlyItself : Value → Bool
  | .float x => x.isNaN
  | .method .. | .helper (.surround ..) => true
  | .builtIn b => b.isForeign
  | _ => false

/-- What stands for a collection inside of itself. -/
def Value.dots : Value → Text
  | .list _ => "[...]".toList
  | .tuple _ => "(...)".toList
  | .set _ => "set(...)".toList
  | .dict _ => "\x7b...\x7d".toList
  | _ => "...".toList

namespace Heap

/-- A sequence of quoted items as a tuple: one item has a comma behind it. -/
def tupleText : List Text → Text
  | [t] => '(' :: t ++ [',', ')']
  | ts => bracketed '(' ')' ts

/-- A value that leads to a cell, where `quote` shows what the cell holds. -/
def quotedInside (h : Heap) (quote : Value → Except TooManyDigits Text) :
    Value → Except TooManyDigits Text
  | .list r => bracketed '[' ']' <$> (h.items r).mapM quote
  | .tuple r => tupleText <$> (h.items r).mapM quote
  | .set r =>
    if (h.items r).isEmpty then .ok "set()".toList
    else bracketed '\x7b' '\x7d' <$> (h.items r).mapM quote
  | .dict r =>
    bracketed '\x7b' '\x7d' <$> (h.entries r).mapM fun e => do
      return (← quote e.1) ++ ':' :: ' ' :: (← quote e.2)
  | .exception c r =>
    (fun ts => c.name.toList ++ bracketed '(' ')' ts) <$> (c.kept (h.items r)).mapM quote
  | v => v.quotedPlain

/-- A value as it stands in a collection. `active` are the cells around it, and `depth` bounds how
many more can be entered. -/
def quotedWithin (h : Heap) : Nat → List Ref → Value → Except TooManyDigits Text
  | depth, active, v =>
    match v.cell? with
    | none => v.quotedPlain
    | some r =>
      if r ∈ active then .ok v.dots
      else match depth with
        | 0 => .ok v.dots
        | depth + 1 => h.quotedInside (quotedWithin h depth (r :: active)) v

/-- A value as it stands in a collection. -/
def quoted (h : Heap) (v : Value) : Except TooManyDigits Text :=
  h.quotedWithin (h.cells.size + 1) [] v

/-- The text of an exception whose class has no form of its own: that of a codec's failure, nothing,
the text of the one argument, or the arguments in brackets. System errors begin with their number and
end with their files. -/
def argumentsText (h : Heap) (text : Value → Except TooManyDigits Text) (c : ExceptionClass)
    (arguments : List Value) : Except TooManyDigits Text :=
  match codecText? c.family arguments, arguments with
  | some t, _ => .ok t
  | none, [] => .ok []
  | none, [v] => text v
  | none, number :: words :: rest => do
    if c.family = .system && rest.length ≤ 3 then
      let lead := "[Errno ".toList ++ (← text number) ++ "] ".toList ++ (← text words)
      let files ← (c.files arguments).mapM h.quoted
      return if files.isEmpty then lead else lead ++ ": ".toList ++ Text.join " -> ".toList files
    else return tupleText (← arguments.mapM h.quoted)

/-- The text of an exception with these arguments, where `text` gives the texts of values. -/
def exceptionText (h : Heap) (text : Value → Except TooManyDigits Text) (c : ExceptionClass)
    (arguments : List Value) : Except TooManyDigits Text :=
  match c.family, arguments with
  | .key, [v] => h.quoted v
  | .malformed, [] => .ok "None".toList
  | .malformed, [message, details] => do
    return (← text message) ++ placeText ((details.elements? h).getD [])
  | .malformed, message :: _ => text message
  | .group, [message, members] => do
    let count := ((members.elements? h).getD []).length
    let plural := if count = 1 then "" else "s"
    return (← text message) ++ s!" ({count} sub-exception{plural})".toList
  | _, arguments => h.argumentsText text c arguments

/-- A value as text: texts and dates are not quoted. `active` are the exceptions around it, and
`depth` bounds how many more can be entered. -/
def displayWithin (h : Heap) : Nat → List Ref → Value → Except TooManyDigits Text
  | depth, active, v =>
    match v with
    | .text t => .ok t
    | .date d => .ok d.text
    | .datetime d => .ok d.text
    | .duration d => .ok d.text
    | .exception c r =>
      if r ∈ active then h.quoted v
      else match depth with
        | 0 => h.quoted v
        | depth + 1 => h.exceptionText (displayWithin h depth (r :: active)) c (h.items r)
    | v => h.quoted v

/-- A value as text. -/
def display (h : Heap) (v : Value) : Except TooManyDigits Text :=
  h.displayWithin (h.cells.size + 1) [] v

/-! ### Texts that are not modelled -/

/-- All that a collection or exception holds. -/
def contents (h : Heap) : Value → List Value
  | .list r | .tuple r | .set r | .exception _ r => h.items r
  | .dict r => (h.entries r).flatMap fun e => [e.1, e.2]
  | _ => []

/-- Whether a value, or one that it leads to, is of some kind. `active` are the cells around it, and
`depth` bounds how many more can be entered: what is nested deeper counts as of the kind. -/
def leadsTo (h : Heap) (isOf : Value → Bool) : Nat → List Ref → Value → Bool
  | depth, active, v =>
    isOf v ||
      match v.cell? with
      | none => false
      | some r =>
        if r ∈ active then false
        else match depth with
          | 0 => true
          | depth + 1 => (h.contents v).any (leadsTo h isOf depth (r :: active))

/-- How deep values may be nested to be shown. -/
def shownDepth : Nat := 200

/-- Whether a value is a set of several items, which have no order. -/
def isUnordered (h : Heap) : Value → Bool
  | .set r => decide (1 < (h.items r).length)
  | _ => false

/-- Whether the text of a value is not modelled: something in it tells where it is stored, or is a
set of several items. -/
def isUntold (h : Heap) (v : Value) : Bool :=
  h.leadsTo (fun v => v.isPlaced || h.isUnordered v) shownDepth [] v

/-- Whether a value is told apart from others by the place where it is stored, also inside of
tuples, or whether it is not known what it is told apart by. -/
def hasIdentity (h : Heap) (v : Value) : Bool := h.leadsTo Value.isOnlyItself shownDepth [] v

end Heap

end LiveSections
