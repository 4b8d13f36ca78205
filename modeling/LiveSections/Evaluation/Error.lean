import LiveSections.Program.BuiltIns
import LiveSections.Program.Fault
import LiveSections.Program.Token

/-!
# Failures of evaluation

- `EvaluationFault`: why a section has no output.
- `EvaluationError`: such a fault with the section it belongs to.
- `Raised`: an exception that is not an evaluation error.
- `Failure`: one or the other, or something that is not modelled.
-/

namespace LiveSections

/-- An exception from outside, known by its class and its text. One that a program raises has
arguments in the heap. -/
structure Raised where
  className : String
  text : String
  arguments : Option Ref := none
  deriving DecidableEq, Repr

/-- The exception for an integer with more digits than are written. -/
def Raised.tooManyDigits : Raised := { className := "ValueError", text := TooManyDigits.message }

/-- Whether an exception stands for a failure, and not for the wish to stop. -/
def Raised.isFailure (e : Raised) : Bool := ExceptionClass.isFailure ⟨e.className⟩

/-- Whether an exception asks the whole run to stop with an exit code. -/
def Raised.isExit (e : Raised) : Bool := e.className = "SystemExit"

/-- The values that an exception was made with. -/
def Raised.values (e : Raised) (h : Heap) : List Value := e.arguments.elim [] h.items

/-- Why a section has no output. -/
inductive EvaluationFault where
  /-- The program is none. -/
  | malformed (reason : Malformed)
  /-- The program fails while it runs. -/
  | faulted (fault : RunFault)
  /-- The program leaves the output unassigned. -/
  | unassigned
  /-- The program assigns a value to the output that is no text. -/
  | notText (type : String)
  /-- An evaluator returns something that is no text. -/
  | returned (type : String)
  /-- An evaluator fails in a way of its own. -/
  | wrapped (exception : Raised)
  /-- An evaluator says what is wrong. -/
  | stated (message : String)
  deriving DecidableEq, Repr

namespace EvaluationFault

/-- The words of a fault. -/
def message : EvaluationFault → String
  | malformed reason => s!"Program does not compile: {reason.message}"
  | faulted fault => s!"Program raised {fault.className}: {fault.message}"
  | unassigned => "Program did not assign 'output'"
  | notText type => s!"Program assigned 'output' a {type}, expected str"
  | returned type => s!"Evaluator returned {type}, expected str"
  | wrapped exception => s!"{exception.className}: {exception.text}"
  | stated message => message

/-- The exception behind a fault. -/
def cause? : EvaluationFault → Option Raised
  | malformed reason => some { className := "SyntaxError", text := reason.message }
  | faulted fault => some { className := fault.className, text := fault.message }
  | wrapped exception => some exception
  | _ => none

end EvaluationFault

/-- A fault, with the name of the section it belongs to if that is known. -/
structure EvaluationError where
  origin : Option Text
  fault : EvaluationFault
  deriving DecidableEq, Repr

namespace EvaluationError

/-- The words of an error: the section comes first. -/
def message (e : EvaluationError) : String :=
  match e.origin with
  | none => e.fault.message
  | some name => s!"Section '{name.str}': {e.fault.message}"

/-- Names the section, unless the error names one already. -/
def within (name : Text) (e : EvaluationError) : EvaluationError :=
  { e with origin := some (e.origin.getD name) }

end EvaluationError

/-- How a resolver, an evaluator or a compilation fails. -/
inductive Failure where
  | evaluation (e : EvaluationError)
  | raised (exception : Raised)
  /-- It has come to something that is not modelled, so it need not fail at all. -/
  | unmodelled (u : Unmodelled)
  deriving DecidableEq, Repr

/-- The failure for an integer with more digits than are written. -/
def Failure.ofTooManyDigits (_ : TooManyDigits) : Failure := .raised .tooManyDigits

/-- What an evaluator returns: a text, or a value of another type. -/
inductive Produced where
  | text (t : Text)
  | other (type : String)
  deriving DecidableEq, Repr

end LiveSections
