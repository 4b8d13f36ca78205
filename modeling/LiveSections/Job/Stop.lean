import LiveSections.Properties.Compiler
import LiveSections.Properties.File

/-!
# How jobs stop early

- `Refusal`: the job ends with a message.
- `Escape`: the job ends with an exception, which nobody handles.
- `Stop`: one or the other.
-/

namespace LiveSections

/-- Why a job ends with a message. -/
inductive Refusal where
  | noDirectory (path : Path)
  | noInputFile (path : Path)
  | noPropertyFile (path : Path)
  | propertyFile (e : PropertyFileError)
  | assignment (e : BadAssignment)
  | undecodable (e : Utf8.DecodeError)
  /-- The document does not compile; `traced` asks for the way to the error as well. -/
  | compilation (source : Path) (e : CompileError) (traced : Bool)
  /-- Placeholders stand for nothing, which strict runs do not allow. -/
  | unknownKeys (count : Nat)
  | noOutcome
  | outOfDate (source : Path)

/-- The words of an error of compilation. -/
def CompileError.message : CompileError → String
  | malformed source e => (e.report source).str
  | failed (.evaluation e) => e.message
  | failed (.raised e) => e.text
  | failed (.unmodelled u) => u.message

/-- The words of a refusal. -/
def Refusal.message : Refusal → String
  | noDirectory path => s!"Not a directory: {path.str}"
  | noInputFile path => s!"Error: Input file not found: {path.str}"
  | noPropertyFile path => s!"Error: Property file not found: {path.str}"
  | propertyFile e => s!"Error: {e.message}"
  | assignment e => s!"Error: {e.message}"
  | undecodable e => s!"Error reading input file: {e.message}"
  | compilation source e _ => s!"Compilation error in {source.str}: {e.message}"
  | unknownKeys count => s!"Error: {count} unknown key(s) in strict mode"
  | noOutcome => "Error: Compilation failed"
  | outOfDate source => s!"{source.str} is out of date"

/-- An exception that ends a job. -/
inductive Escape where
  | file (e : FileError)
  /-- A property file that cannot be read, for a reason that is not reported as its own. -/
  | propertyFile (e : PropertyFileError)
  /-- A value was to be set for the reserved key. -/
  | reservedKey
  | setup (e : SetupError)
  | raised (e : Raised)
  /-- The job has come to something that is not modelled, so nothing is said of how it ends. -/
  | unmodelled (u : Unmodelled)

/-- The words of an exception. -/
def Escape.message : Escape → String
  | file e => e.message
  | propertyFile e => e.message
  | reservedKey => Properties.reservedKeyMessage
  | setup e => e.message
  | raised e => e.text
  | unmodelled u => u.message

/-- How a job stops early. -/
inductive Stop where
  | refused (r : Refusal)
  | escaped (e : Escape)

namespace Stop

/-- How a job stops at an error of its property file. -/
def ofPropertyFile (e : PropertyFileError) : Stop :=
  if e.isReported then .refused (.propertyFile e) else .escaped (.propertyFile e)

/-- How a job stops at an error of compilation: the wish of a program to stop ends the job too. -/
def ofCompilation (source : Path) (traced : Bool) : CompileError → Stop
  | .failed (.raised e) => .escaped (.raised e)
  | .failed (.unmodelled u) => .escaped (.unmodelled u)
  | e => .refused (.compilation source e traced)

end Stop

end LiveSections
