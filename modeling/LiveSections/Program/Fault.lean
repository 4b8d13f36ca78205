import LiveSections.Unmodelled
import LiveSections.Value.Display

/-!
# Faults of running programs

- `RunFault`: what goes wrong while a program runs, or that it goes beyond what is modelled.
- `RunFault.className`: the class under which a fault is reported.
- `RunFault.message`: the words of a fault.
-/

namespace LiveSections

/-- What goes wrong while a program runs. Types are given by name. -/
inductive RunFault where
  | unboundName (name : Text)
  | divisionByZero
  | floatDivisionByZero
  | quotientTooLarge
  | tooLargeForFloat
  | tooLargeForIndex
  | outOfMemory
  | textTooLong
  | integerTooLarge
  /-- A text, list or tuple is joined to something else by `+`. -/
  | concatenation (left right : String)
  | operands (op left right : String)
  | unaryOperand (op type : String)
  | repetition (type : String)
  | notIterable (type : String)
  | notJoinable
  | joinedItem (index : Nat) (type : String)
  | notCallable (type : String)
  | noLength (type : String)
  | noAttribute (type : String) (name : Text)
  | noClassAttribute (className : String) (name : Text)
  /-- An attribute that a value has is to be given another value. -/
  | fixedAttribute (type : String) (name : Text)
  | unwritableAttribute (type : String) (name : Text)
  | fixedClass (className : String) (name : Text)
  | unhashable (type : String)
  | notException
  | nothingToRaise
  /-- Parameters of a function did not get an argument. -/
  | missingArguments (function : String) (names : List String)
  | tooManyArguments (function : String) (takes given : Nat)
  | unexpectedKeyword (function : String) (keyword : Text)
  | repeatedArgument (function : String) (keyword : Text)
  /-- A built-in or method is called with the wrong number of arguments. -/
  | argumentCount (function : String) (words : String) (given : Nat)
  | noKeywords (function : String)
  /-- A method of texts is called for a value of another type, or for none. -/
  | foreignReceiver (m : Method) (type : String)
  | noReceiver (m : Method)
  | argumentType (words : String)
  | argumentValue (words : String)
  /-- A value is to be shared out to several targets. -/
  | notShareable (type : String)
  | tooFewItems (targets items : Nat)
  | tooManyItems (targets : Nat)
  /-- What takes the place of the built-in names has no names. -/
  | noNames (type : String)
  | numberedItems (type : String)
  /-- An integer does not fit into the fields of dates. -/
  | aboveFields
  | belowFields
  | aboveWords
  | noDate (f : DateFault)
  | calendar (f : CalendarFault)
  | tooManyDigits
  /-- A program raises an exception of its own, which has its text unless that cannot be made. -/
  | raised (c : ExceptionClass) (text : Option Text) (arguments : Ref)
  /-- The program goes on in a way that is not modelled. This is no fault. -/
  | unmodelled (u : Unmodelled)
  deriving DecidableEq, Repr

namespace RunFault

/-- The class under which a fault is reported. What is not modelled has none. -/
def className : RunFault → String
  | unboundName _ => "NameError"
  | divisionByZero | floatDivisionByZero => "ZeroDivisionError"
  | quotientTooLarge | tooLargeForFloat | tooLargeForIndex | textTooLong | integerTooLarge
  | aboveFields | belowFields | aboveWords => "OverflowError"
  | argumentValue _ | noDate _ | tooManyDigits | tooFewItems .. | tooManyItems _ => "ValueError"
  | calendar .divisionByZero | calendar .zeroDuration => "ZeroDivisionError"
  | calendar .notANumber => "ValueError"
  | calendar .mixedClocks => "TypeError"
  | calendar _ => "OverflowError"
  | outOfMemory => "MemoryError"
  | noAttribute .. | noClassAttribute .. | fixedAttribute .. | unwritableAttribute .. =>
    "AttributeError"
  | nothingToRaise => "RuntimeError"
  | raised c _ _ => c.name
  | unmodelled _ => ""
  | _ => "TypeError"

/-- Quoted names with commas between them, and a final `and`. -/
def enumerated : List String → String
  | [] => ""
  | [a] => s!"'{a}'"
  | [a, b] => s!"'{a}' and '{b}'"
  | [a, b, c] => s!"'{a}', '{b}', and '{c}'"
  | a :: rest => s!"'{a}', " ++ enumerated rest

/-- The words of a fault. -/
def message : RunFault → String
  | unboundName name => s!"name '{name.str}' is not defined"
  | divisionByZero => "division by zero"
  | floatDivisionByZero => "float division by zero"
  | quotientTooLarge => "integer division result too large for a float"
  | tooLargeForFloat => "int too large to convert to float"
  | tooLargeForIndex => "cannot fit 'int' into an index-sized integer"
  | outOfMemory => ""
  | textTooLong => "repeated string is too long"
  | integerTooLarge => "Python int too large to convert to C ssize_t"
  | concatenation left right => s!"can only concatenate {left} (not \"{right}\") to {left}"
  | operands op left right =>
    s!"unsupported operand type(s) for {op}: '{left}' and '{right}'"
  | unaryOperand op type => s!"bad operand type for unary {op}: '{type}'"
  | repetition type => s!"can't multiply sequence by non-int of type '{type}'"
  | notIterable type => s!"'{type}' object is not iterable"
  | notJoinable => "can only join an iterable"
  | joinedItem index type => s!"sequence item {index}: expected str instance, {type} found"
  | notCallable type => s!"'{type}' object is not callable"
  | noLength type => s!"object of type '{type}' has no len()"
  | noAttribute type name => s!"'{type}' object has no attribute '{name.str}'"
  | noClassAttribute className name =>
    s!"type object '{className}' has no attribute '{name.str}'"
  | fixedAttribute type name => s!"'{type}' object attribute '{name.str}' is read-only"
  | unwritableAttribute type name =>
    s!"attribute '{name.str}' of '{type}' objects is not writable"
  | fixedClass className name =>
    s!"cannot set '{name.str}' attribute of immutable type '{className}'"
  | unhashable type => s!"unhashable type: '{type}'"
  | notException => "exceptions must derive from BaseException"
  | nothingToRaise => "No active exception to reraise"
  | missingArguments function names =>
    let count := names.length
    let plural := if count = 1 then "" else "s"
    let list := enumerated names
    s!"{function}() missing {count} required positional argument{plural}: {list}"
  | tooManyArguments function takes given =>
    let plural := if takes = 1 then "" else "s"
    let verb := if given = 1 then "was" else "were"
    s!"{function}() takes {takes} positional argument{plural} but {given} {verb} given"
  | unexpectedKeyword function keyword =>
    s!"{function}() got an unexpected keyword argument '{keyword.str}'"
  | repeatedArgument function keyword =>
    s!"{function}() got multiple values for argument '{keyword.str}'"
  | argumentCount function words given => s!"{function} {words} ({given} given)"
  | noKeywords function => s!"{function} takes no keyword arguments"
  | foreignReceiver m type =>
    s!"descriptor '{m.name}' for 'str' objects doesn't apply to a '{type}' object"
  | noReceiver m => s!"unbound method str.{m.name}() needs an argument"
  | argumentType words | argumentValue words => words
  | notShareable type => s!"cannot unpack non-iterable {type} object"
  | tooFewItems targets items =>
    s!"not enough values to unpack (expected {targets}, got {items})"
  | tooManyItems targets => s!"too many values to unpack (expected {targets})"
  | noNames type => s!"'{type}' object is not subscriptable"
  | numberedItems type =>
    if type = "str" then "string indices must be integers, not 'str'"
    else s!"{type} indices must be integers or slices, not str"
  | aboveFields => "signed integer is greater than maximum"
  | belowFields => "signed integer is less than minimum"
  | aboveWords => "Python int too large to convert to C long"
  | noDate f => f.message
  | calendar f => f.message
  | tooManyDigits => TooManyDigits.message
  | raised _ text _ => (text.getD []).str
  | unmodelled u => u.message

end RunFault

end LiveSections
