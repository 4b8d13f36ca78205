import LiveSections.Evaluation.Error
import LiveSections.Helper.Registry
import LiveSections.Program.Parser
import LiveSections.Program.Run
import LiveSections.Session

/-!
# The evaluator of section programs

Every run gets a scope of its own: the properties whose keys are identifiers, the helpers, bindings
for the section, and the section's previous output as `input`. The program has to bind `output` to
a text. Lists among the properties are shared by all runs.

- `ProgramEvaluator.context`: the bindings for a section, but for `input`.
- `ProgramEvaluator.evaluate`: the output of a program, or why there is none. Where a program goes
  beyond what is modelled, this says no more than that.
-/

namespace LiveSections

/-- What programs are run with. -/
structure ProgramEvaluator where
  properties : Table Text Value
  registry : Registry := .standard
  /-- The bindings for a section, made last. -/
  bindings : Text → Table Text Value := fun _ => []

namespace ProgramEvaluator

/-- The name of the previous output. -/
def inputName : Text := "input".toList

/-- The name of the output. -/
def outputName : Text := "output".toList

/-- The bindings for a section, but for its previous output. -/
def context (e : ProgramEvaluator) (name : Text) : Table Text Value :=
  let properties := e.properties.filter fun p => Text.isIdentifier p.1
  let functions := e.registry.functions.map fun f => (f.1, Value.helper f.2)
  Table.putAll (Table.putAll properties functions) (e.bindings name)

/-- The scope in which a section's program starts. -/
def scope (e : ProgramEvaluator) (name stale : Text) : Scope :=
  Scope.ofBindings (Table.put inputName (.text stale) (e.context name))

/-- How an evaluation ends whose program cannot be read. -/
def unread (name : Text) : NoProgram → Failure
  | .malformed reason => .evaluation ⟨some name, .malformed reason⟩
  | .unmodelled u => .unmodelled u

/-- How a fault ends an evaluation: the wish to stop is not the program's failure, and an exception
whose text cannot be made is not told of. -/
def failureOf (name : Text) (fault : RunFault) : Failure :=
  match fault with
  | .unmodelled u => .unmodelled u
  | .raised c none _ => if c.isFailure then .raised .tooManyDigits else .raised ⟨c.name, "", none⟩
  | .raised c (some text) r =>
    if c.isFailure then .evaluation ⟨some name, .faulted fault⟩
    else .raised ⟨c.name, text.str, some r⟩
  | fault => .evaluation ⟨some name, .faulted fault⟩

/-- What a program that came to its end has produced. -/
def produced (name : Text) (scope : Scope) : Except Failure Text :=
  match scope.bindings.get? outputName with
  | some (.text t) => .ok t
  | some v => .error (.evaluation ⟨some name, .notText v.typeName⟩)
  | none => .error (.evaluation ⟨some name, .unassigned⟩)

/-- Runs a program in a scope. -/
def execute (name : Text) (program : Program) (scope : Scope) :
    Session Heap Failure Text := fun h =>
  match ((program.run scope).run).run h with
  | (.ok scope, h) => ⟨h, [], produced name scope⟩
  | (.error fault, h) => ⟨h, [], .error (failureOf name fault)⟩

/-- The refusal of a name or program that holds the null character. -/
def nullRefusal? (name program : Text) : Option Raised :=
  if '\x00' ∈ name then some { className := "ValueError", text := "embedded null character" }
  else if '\x00' ∈ program then
    some { className := "ValueError", text := "source code string cannot contain null bytes" }
  else none

/-- The output of a section's program. -/
def evaluate (e : ProgramEvaluator) (name program stale : Text) : Session Heap Failure Text :=
  match nullRefusal? name program with
  | some refusal => .fail (.raised refusal)
  | none => match Program.parse program with
    | .error e => .fail (unread name e)
    | .ok p => do
      Session.log 3 s!"Executing program of section '{name.str}'"
      execute name p (e.scope name stale)

end ProgramEvaluator

end LiveSections
