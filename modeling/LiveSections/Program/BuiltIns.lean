import LiveSections.Value.Basic

/-!
# The names that every program knows

- `BuiltIn.all`: the names that neither the program nor its context has to bind, with their values.
-/

namespace LiveSections

namespace ExceptionClass

/-- The names of the classes of exceptions. -/
def known : List String :=
  ["BaseException", "BaseExceptionGroup", "Exception", "GeneratorExit", "KeyboardInterrupt",
   "SystemExit", "ArithmeticError", "AssertionError", "AttributeError", "BufferError", "EOFError",
   "ImportError", "LookupError", "MemoryError", "NameError", "OSError", "ReferenceError",
   "RuntimeError", "StopAsyncIteration", "StopIteration", "SyntaxError", "SystemError", "TypeError",
   "ValueError", "Warning", "FloatingPointError", "OverflowError", "ZeroDivisionError",
   "BytesWarning", "DeprecationWarning", "EncodingWarning", "FutureWarning", "ImportWarning",
   "PendingDeprecationWarning", "ResourceWarning", "RuntimeWarning", "SyntaxWarning",
   "UnicodeWarning", "UserWarning", "BlockingIOError", "ChildProcessError", "ConnectionError",
   "FileExistsError", "FileNotFoundError", "InterruptedError", "IsADirectoryError",
   "NotADirectoryError", "PermissionError", "ProcessLookupError", "TimeoutError",
   "IndentationError", "IndexError", "KeyError", "ModuleNotFoundError", "NotImplementedError",
   "RecursionError", "UnboundLocalError", "UnicodeError", "BrokenPipeError",
   "ConnectionAbortedError", "ConnectionRefusedError", "ConnectionResetError", "TabError",
   "UnicodeDecodeError", "UnicodeEncodeError", "UnicodeTranslateError", "ExceptionGroup"]

/-- Further names of the class of operating system errors. -/
def aliases : List String := ["EnvironmentError", "IOError"]

end ExceptionClass

namespace BuiltIn

/-- The names of built-in values other than exceptions by their types, in the order in which they
are listed. -/
def groups : List (String × List String) :=
  [("str", ["__name__", "__doc__", "__package__"]), ("type", ["__loader__"]),
   ("ModuleSpec", ["__spec__"]),
   ("builtin_function_or_method",
    ["__build_class__", "__import__", "abs", "all", "any", "ascii", "bin", "breakpoint", "callable",
     "chr", "compile", "delattr", "dir", "divmod", "eval", "exec", "format", "getattr", "globals",
     "hasattr", "hash", "hex", "id", "input", "isinstance", "issubclass", "iter", "aiter", "len",
     "locals", "max", "min", "next", "anext", "oct", "ord", "pow", "print", "repr", "round",
     "setattr", "sorted", "sum", "vars"]),
   ("NoneType", ["None"]), ("ellipsis", ["Ellipsis"]), ("NotImplementedType", ["NotImplemented"]),
   ("bool", ["False", "True"]),
   ("type",
    ["bool", "memoryview", "bytearray", "bytes", "classmethod", "complex", "dict", "enumerate",
     "filter", "float", "frozenset", "property", "int", "list", "map", "object", "range",
     "reversed", "set", "slice", "staticmethod", "str", "super", "tuple", "type", "zip"]),
   ("bool", ["__debug__"])]

/-- The names that come behind the classes of exceptions. -/
def lastGroups : List (String × List String) :=
  [("builtin_function_or_method", ["open"]), ("Quitter", ["quit", "exit"]),
   ("_Printer", ["copyright", "credits", "license"]), ("_Helper", ["help"])]

/-- What is said of all built-in names. -/
def documentation : String :=
  "Built-in functions, types, exceptions, and other objects.\n\n"
    ++ "This module provides direct access to all 'built-in'\n"
    ++ "identifiers of Python; for example, builtins.len is\n"
    ++ "the full name for the built-in function len().\n\n"
    ++ "This module is not normally accessed explicitly by most\n"
    ++ "applications, but can be useful in modules that provide\n"
    ++ "objects with the same name as a built-in value, but in\n"
    ++ "which the built-in of that name is also needed."

/-- The value of a name of a type. -/
def valueOf (type name : String) : Value :=
  match name with
  | "__name__" => .text "builtins".toList
  | "__doc__" => .text documentation.toList
  | "__package__" => .text []
  | "None" => .none
  | "False" => .bool false
  | "True" | "__debug__" => .bool true
  | "str" => .builtIn .str
  | "len" => .builtIn .len
  | _ => .builtIn (.other name type)

/-- The built-in names with their values. -/
def all : Table Text Value :=
  let ofGroup (g : String × List String) : Table Text Value :=
    g.2.map fun name => (name.toList, valueOf g.1 name)
  let exceptions := ExceptionClass.known.map fun name =>
    (name.toList, Value.builtIn (.exceptionClass ⟨name⟩))
  let aliases := ExceptionClass.aliases.map fun name =>
    (name.toList, Value.builtIn (.exceptionClass ⟨"OSError"⟩))
  groups.flatMap ofGroup ++ exceptions ++ aliases ++ lastGroups.flatMap ofGroup

/-- The name under which programs find all built-in names. -/
def tableName : Text := "__builtins__".toList

end BuiltIn

end LiveSections
