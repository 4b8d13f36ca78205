import LiveSections.Text.Quoted
import LiveSections.Value.Basic

/-!
# Classes of exceptions

What an exception was made with shows in its text, in a way that depends on its class.

- `ExceptionClass.isFailure`: whether a class stands for a failure.
- `ExceptionClass.family`: what the exceptions of a class tell of.
- `ExceptionClass.ofErrorNumber?`: the class of a system error.
- `ExceptionClass.files`: the files that a system error is about.
-/

namespace LiveSections

/-- What an exception tells of. -/
inductive ExceptionFamily where
  | plain
  /-- A key that is missing. -/
  | key
  /-- A program that is none: a message, and the place in the program. -/
  | malformed
  /-- An error of the system: its number and words, and up to two files. -/
  | system
  /-- A message, and the exceptions that it is about. -/
  | group
  /-- A codec, a text with the span of it that has no bytes, and the reason. -/
  | encoding
  /-- A codec, bytes with the span of them that are no text, and the reason. -/
  | decoding
  /-- A text with the span of it that cannot be translated, and the reason. -/
  | translation
  deriving DecidableEq, Repr

namespace ExceptionClass

/-- Whether a class stands for the failure of a program, and not for the wish to stop. -/
def isFailure (c : ExceptionClass) : Bool :=
  not (["BaseException", "BaseExceptionGroup", "GeneratorExit", "KeyboardInterrupt",
    "SystemExit"].contains c.name)

/-- The numbers of system errors that have a class of their own. -/
def errorNumbers : List (Nat × String) :=
  [(1, "PermissionError"), (2, "FileNotFoundError"), (3, "ProcessLookupError"),
   (4, "InterruptedError"), (10, "ChildProcessError"), (11, "BlockingIOError"),
   (13, "PermissionError"), (17, "FileExistsError"), (20, "NotADirectoryError"),
   (21, "IsADirectoryError"), (32, "BrokenPipeError"), (103, "ConnectionAbortedError"),
   (104, "ConnectionResetError"), (108, "BrokenPipeError"), (110, "TimeoutError"),
   (111, "ConnectionRefusedError"), (114, "BlockingIOError"), (115, "BlockingIOError")]

/-- The class of a system error with a number, if it has one of its own. -/
def ofErrorNumber? (n : Int) : Option ExceptionClass :=
  (errorNumbers.find? fun e => (e.1 : Int) == n).map fun e => ⟨e.2⟩

/-- Whether a class says that a program is malformed. -/
def isMalformed (c : ExceptionClass) : Bool :=
  ["SyntaxError", "IndentationError", "TabError"].contains c.name

/-- Whether a class stands for errors of the system. -/
def isSystem (c : ExceptionClass) : Bool :=
  c.name = "OSError" || c.name = "ConnectionError" || errorNumbers.any fun e => e.2 = c.name

/-- What the exceptions of a class tell of. -/
def family (c : ExceptionClass) : ExceptionFamily :=
  if c.isMalformed then .malformed
  else if c.isSystem then .system
  else if c.name = "KeyError" then .key
  else if c.name = "ExceptionGroup" ∨ c.name = "BaseExceptionGroup" then .group
  else if c.name = "UnicodeEncodeError" then .encoding
  else if c.name = "UnicodeDecodeError" then .decoding
  else if c.name = "UnicodeTranslateError" then .translation
  else .plain

/-- Whether the third argument of a system error is a number of characters. -/
def countsCharacters (c : ExceptionClass) (v : Value) : Bool :=
  c.name = "BlockingIOError" && (v.toInt?.isSome || v matches .float _)

/-- The files that a system error with these arguments is about. They are no arguments of the
exception any more. -/
def files (c : ExceptionClass) : List Value → List Value
  | _ :: _ :: file :: rest =>
    if 2 < rest.length || file.isNone || c.countsCharacters file then []
    else file :: (rest.drop 1).filter fun v => !v.isNone
  | _ => []

/-- The arguments that an exception keeps. -/
def kept (c : ExceptionClass) (arguments : List Value) : List Value :=
  if c.isSystem && !(c.files arguments).isEmpty then arguments.take 2 else arguments

end ExceptionClass

/-! ## Spans -/

/-- The words for a span of units: one unit by itself is shown. -/
def spanWords (unit : String) (shown : Option Text) (start stop : Int) : Text :=
  match shown with
  | some t => s!"{unit} {t.str} in position {start}".toList
  | none => s!"{unit}s in position {start}-{stop - 1}".toList

/-- The only item of a span. -/
def onlyItem? {α : Type} (items : List α) (start stop : Int) : Option α :=
  if 0 ≤ start ∧ stop = start + 1 then items[start.toNat]? else none

/-- The words for a span of a text. -/
def textSpanWords (t : Text) (start stop : Int) : Text :=
  spanWords "character"
    ((onlyItem? t start stop).map fun c => '\'' :: Text.numericEscape c.toNat ++ ['\'']) start stop

/-- The words for a span of bytes. -/
def byteSpanWords (bs : List UInt8) (start stop : Int) : Text :=
  spanWords "byte"
    ((onlyItem? bs start stop).map fun b => '0' :: 'x' :: Text.hexDigits 2 b.toNat) start stop

/-- The text of a codec's failure on a span, if that is what the arguments tell of. -/
def codecText? : ExceptionFamily → List Value → Option Text
  | .encoding, [.text codec, .text t, start, stop, .text reason] => do
    let span := textSpanWords t (← start.toInt?) (← stop.toInt?)
    return '\'' :: codec ++ "' codec can't encode ".toList ++ span ++ ':' :: ' ' :: reason
  | .decoding, [.text codec, .bytes bs, start, stop, .text reason] => do
    let span := byteSpanWords bs (← start.toInt?) (← stop.toInt?)
    return '\'' :: codec ++ "' codec can't decode ".toList ++ span ++ ':' :: ' ' :: reason
  | .translation, [.text t, start, stop, .text reason] => do
    let span := textSpanWords t (← start.toInt?) (← stop.toInt?)
    return "can't translate ".toList ++ span ++ ':' :: ' ' :: reason
  | _, _ => none

/-! ## Places -/

/-- The place in a program that details begin with: a file without its directories, a line, or
both. A line that fills more than a word is shown as -1. -/
def placeText (details : List Value) : Text :=
  let file : Option String := match details with
    | .text t :: _ => some ((Text.splitOn '/' t).getLast?.getD []).str
    | _ => none
  let line : Option Int := match details with
    | _ :: .int n :: _ => some (if Word.long.holds n then n else -1)
    | _ => none
  match file, line with
  | some f, some n => s!" ({f}, line {n})".toList
  | some f, none => s!" ({f})".toList
  | none, some n => s!" (line {n})".toList
  | none, none => []

end LiveSections
