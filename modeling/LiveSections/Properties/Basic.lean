import LiveSections.Session
import LiveSections.Table
import LiveSections.Value.Display

/-!
# Properties

The table that placeholders and programs take their values from.

- `Properties.lookup`: the text of a key; a key without a value gives a warning and a sentinel. A
  value can hold an integer that is too long to be written.
- `PropertyTable`: properties with the sink for their warnings.
- `Properties.merged`: further values over a table.
- `readAssignments`: the values of `KEY=VALUE` assignments.
-/

namespace LiveSections

/-- Values by key. -/
abbrev Properties : Type := Table Text Value

/-- The words about a key that stands for nothing. -/
def unknownKeyMessage (key : Text) : String := s!"Unknown key '{key.str}'"

/-- The warning about a key that stands for nothing. -/
def unknownKey (key : Text) (sink : Sink := .standard) : Event :=
  .warning sink (unknownKeyMessage key)

/-- What stands in for a key that stands for nothing. -/
def sentinel (suffix key : Text) : Text := key ++ suffix

namespace Properties

/-- The text of a key, if it has a value. -/
def text? (h : Heap) (key : Text) (p : Properties) : Except TooManyDigits (Option Text) :=
  match p.get? key with
  | none | some .none => .ok none
  | some v => some <$> h.display v

/-- The text of a key. A key without a value is reported, and a sentinel stands in for it. -/
def lookup (suffix key : Text) (p : Properties) (sink : Sink := .standard) :
    Session Heap TooManyDigits Text := do
  match ← Session.ofExcept (p.text? (← Session.get) key) with
  | some t => return t
  | none =>
    Session.emit (unknownKey key sink)
    return sentinel suffix key

/-- The key that further values cannot have. -/
def reservedKey : Text := "self".toList

/-- The words for further values with the reserved key. -/
def reservedKeyMessage : String := "Properties.merged() got multiple values for argument 'self'"

/-- Further values over a table. Nothing if one of them has the reserved key. -/
def merged? (p further : Properties) : Option Properties :=
  if further.has reservedKey then none else some (p.putAll further)

end Properties

/-- Properties with the sink that hears of the keys that they do not have. -/
structure PropertyTable where
  values : Properties
  sink : Sink := .standard

/-! ## Assignments -/

/-- An assignment without a key or without an equals sign. -/
structure BadAssignment where
  assignment : Text
  deriving DecidableEq, Repr

/-- The words of the refusal. -/
def BadAssignment.message (e : BadAssignment) : String :=
  s!"Expected KEY=VALUE, got {(Text.quoted e.assignment).str}"

/-- Key and value of an assignment, apart at the first equals sign. -/
def readAssignment (assignment : Text) : Except BadAssignment (Text × Text) :=
  match Text.splitFirst ['='] assignment with
  | some (key, value) => if key = [] then .error ⟨assignment⟩ else .ok (key, value)
  | none => .error ⟨assignment⟩

/-- The values of assignments; of two for one key the later one counts. -/
def readAssignments (assignments : List Text) : Except BadAssignment (Table Text Text) := do
  return Table.putAll [] (← assignments.mapM readAssignment)

end LiveSections
