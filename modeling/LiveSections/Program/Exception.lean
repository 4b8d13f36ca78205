import LiveSections.Program.Computation
import LiveSections.Value.Exception

/-!
# Making exceptions

- `ExceptionClass.make`: a new exception of a class, if its arguments are what the class insists on.
-/

namespace LiveSections

open LiveSections.Computation

namespace ExceptionClass

/-! ## Keywords -/

/-- The keywords that the exceptions of a class may have, with the class that brought them in. -/
def keywords? (c : ExceptionClass) : Option (String × List String) :=
  if c.name = "ImportError" ∨ c.name = "ModuleNotFoundError" then
    some ("ImportError", ["name", "path"])
  else if c.name = "AttributeError" then some (c.name, ["name", "obj"])
  else if c.name = "NameError" ∨ c.name = "UnboundLocalError" then some ("NameError", ["name"])
  else none

/-- Refuses keywords that the exceptions of a class do not have. -/
def checkKeywords (c : ExceptionClass) (keywords : Keywords) : Computation Unit :=
  match c.keywords? with
  | none => refuseKeywords s!"{c.name}()" keywords
  | some (function, names) => do
    if names.length < keywords.length then
      let plural := if names.length = 1 then "" else "s"
      throw (.argumentCount s!"{function}()"
        s!"takes at most {names.length} keyword argument{plural}" keywords.length)
    match keywords.find? fun e => !(names.map String.toList).contains e.1 with
    | some (name, _) => throw (.argumentType
        s!"'{name.str}' is an invalid keyword argument for {function}()")
    | none => return

/-! ## Arguments -/

/-- Insists on a text as an argument. -/
def checkText (function : String) (position : Nat) (v : Value) : Computation Unit :=
  match v with
  | .text _ => return
  | v => throw (.argumentType s!"{function}argument {position} must be str, not {v.argumentName}")

/-- Insists on so many arguments. -/
def checkCount (function : String) (count : Nat) (arguments : List Value) : Computation Unit :=
  if arguments.length = count then pure ()
  else throw (.argumentCount function s!"takes exactly {count} arguments" arguments.length)

/-- Whether a value is an exception. -/
def isExceptionValue : Value → Bool
  | .exception .. => true
  | _ => false

/-- Insists on exceptions in a sequence that is not empty. -/
def checkMembers (members : Value) : Computation (List Value) := do
  let items ← match members with
    | .list r | .tuple r => itemsOf r
    | .text t => pure (t.map fun c => .text [c])
    | .bytes bs => pure (bs.map fun b => .int b.toNat)
    | _ => throw (.argumentType "second argument (exceptions) must be a sequence")
  if items.isEmpty then
    throw (.argumentValue "second argument (exceptions) must be a non-empty sequence")
  match items.findIdx? fun v => !isExceptionValue v with
  | some i => throw (.argumentValue
      s!"Item {i} of second argument (exceptions) is not an exception")
  | none => return items

/-- Whether a value is an exception that stands for a failure. -/
def isFailureValue : Value → Bool
  | .exception c _ => c.isFailure
  | _ => false

/-- The class of a group: one of failures only is a failure itself. -/
def checkGroup (c : ExceptionClass) (arguments : List Value) : Computation ExceptionClass := do
  let function := "BaseExceptionGroup.__new__()"
  checkCount function 2 arguments
  match arguments with
  | [message, members] =>
    checkText (function ++ " ") 1 message
    let members ← checkMembers members
    if members.all isFailureValue then return ⟨"ExceptionGroup"⟩
    else if c.isFailure then
      throw (.argumentType "Cannot nest BaseExceptions in an ExceptionGroup")
    else return c
  | _ => return c

/-- The class of a system error: its number tells, unless a class of its own was asked for. -/
def checkSystem (c : ExceptionClass) (arguments : List Value) : Computation ExceptionClass := do
  let c := match arguments with
    | v :: _ :: rest =>
      if c.name = "OSError" ∧ rest.length ≤ 3 then (v.toInt?.bind ofErrorNumber?).getD c else c
    | _ => c
  match arguments with
  | _ :: _ :: .float x :: rest =>
    if rest.length ≤ 2 && c.countsCharacters (.float x) then
      throw (.argumentType "'float' object cannot be interpreted as an integer")
    return c
  | _ => return c

/-- Insists on details from which the place in a program can be told. -/
def checkDetails (arguments : List Value) : Computation Unit :=
  match arguments with
  | [_, details] => do
    match ← elementsOf details with
    | none => throw (.notIterable details.fullTypeName)
    | some ds =>
      if ds.length < 4 then
        throw (.argumentCount "function" "takes at least 4 arguments" ds.length)
      if 6 < ds.length then
        throw (.argumentCount "function" "takes at most 6 arguments" ds.length)
      if ds.length = 5 then
        throw (.argumentType "end_offset must be provided when end_lineno is provided")
  | _ => return

/-- Insists on the codec, what it works on, the span and the reason; `leads` are the texts that come
before the span. -/
def checkSpan (c : ExceptionClass) (leads : Nat) (arguments : List Value) : Computation Unit := do
  checkCount "function" (leads + 3) arguments
  for (v, i) in arguments.zipIdx do
    if i < leads then
      if c.family ≠ .decoding || i ≠ 1 then checkText "" (i + 1) v
    else if i < leads + 2 then
      let _ ← indexOf v
    else checkText "" (i + 1) v
  match c.family, arguments with
  | .decoding, _ :: .bytes _ :: _ => return
  | .decoding, _ :: v :: _ =>
    throw (.argumentType s!"a bytes-like object is required, not '{v.fullTypeName}'")
  | _, _ => return

/-- The class of an exception with these arguments, if they are what a class insists on. -/
def checkArguments (c : ExceptionClass) (arguments : List Value) : Computation ExceptionClass := do
  match c.family with
  | .group => c.checkGroup arguments
  | .system => c.checkSystem arguments
  | .malformed => do
    checkDetails arguments
    return c
  | .encoding | .decoding => do
    c.checkSpan 2 arguments
    return c
  | .translation => do
    c.checkSpan 1 arguments
    return c
  | .key | .plain => return c

/-- A new exception. Groups look at their keywords last, all others first. -/
def make (c : ExceptionClass) (arguments : List Value) (keywords : Keywords) :
    Computation Value := do
  if c.family ≠ .group then c.checkKeywords keywords
  let c ← c.checkArguments arguments
  c.checkKeywords keywords
  return .exception c (← alloc (.sequence arguments))

end ExceptionClass

end LiveSections
