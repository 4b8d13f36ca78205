import LiveSections.Value.Display

/-!
# Attributes that values may have

- `Value.mayHave`: whether a value may have an attribute. It need not be one that is modelled. Where
  a value does not have it, the attribute is known to be missing.
-/

namespace LiveSections

/-! ## Names -/

namespace Members

/-- The attributes of integers and truth values. -/
def ofInt : List String :=
  ["as_integer_ratio", "bit_count", "bit_length", "conjugate", "denominator", "from_bytes", "imag",
   "numerator", "real", "to_bytes"]

/-- The attributes of doubles. -/
def ofFloat : List String :=
  ["as_integer_ratio", "conjugate", "fromhex", "hex", "imag", "is_integer", "real"]

/-- The attributes of texts. -/
def ofText : List String :=
  ["capitalize", "casefold", "center", "count", "encode", "endswith", "expandtabs", "find",
   "format", "format_map", "index", "isalnum", "isalpha", "isascii", "isdecimal", "isdigit",
   "isidentifier", "islower", "isnumeric", "isprintable", "isspace", "istitle", "isupper", "join",
   "ljust", "lower", "lstrip", "maketrans", "partition", "removeprefix", "removesuffix", "replace",
   "rfind", "rindex", "rjust", "rpartition", "rsplit", "rstrip", "split", "splitlines",
   "startswith", "strip", "swapcase", "title", "translate", "upper", "zfill"]

/-- The attributes of bytes. -/
def ofBytes : List String :=
  ["capitalize", "center", "count", "decode", "endswith", "expandtabs", "find", "fromhex", "hex",
   "index", "isalnum", "isalpha", "isascii", "isdigit", "islower", "isspace", "istitle", "isupper",
   "join", "ljust", "lower", "lstrip", "maketrans", "partition", "removeprefix", "removesuffix",
   "replace", "rfind", "rindex", "rjust", "rpartition", "rsplit", "rstrip", "split", "splitlines",
   "startswith", "strip", "swapcase", "title", "translate", "upper", "zfill"]

/-- The attributes of dates. -/
def ofDate : List String :=
  ["ctime", "day", "fromisocalendar", "fromisoformat", "fromordinal", "fromtimestamp",
   "isocalendar", "isoformat", "isoweekday", "max", "min", "month", "replace", "resolution",
   "strftime", "timetuple", "today", "toordinal", "weekday", "year"]

/-- The attributes of dates with a time. -/
def ofDateTime : List String :=
  ofDate ++
    ["astimezone", "combine", "date", "dst", "fold", "hour", "microsecond", "minute", "now",
     "second", "strptime", "time", "timestamp", "timetz", "tzinfo", "tzname", "utcfromtimestamp",
     "utcnow", "utcoffset", "utctimetuple"]

/-- The attributes of durations. -/
def ofDuration : List String :=
  ["days", "max", "microseconds", "min", "resolution", "seconds", "total_seconds"]

/-- The attributes of lists. -/
def ofList : List String :=
  ["append", "clear", "copy", "count", "extend", "index", "insert", "pop", "remove", "reverse",
   "sort"]

/-- The attributes of tuples. -/
def ofTuple : List String :=
  ["count", "index"]

/-- The attributes of mappings. -/
def ofDict : List String :=
  ["clear", "copy", "fromkeys", "get", "items", "keys", "pop", "popitem", "setdefault", "update",
   "values"]

/-- The attributes of sets. -/
def ofSet : List String :=
  ["add", "clear", "copy", "difference", "difference_update", "discard", "intersection",
   "intersection_update", "isdisjoint", "issubset", "issuperset", "pop", "remove",
   "symmetric_difference", "symmetric_difference_update", "union", "update"]

/-- The attributes of exceptions, of whatever class. -/
def ofException : List String :=
  ["add_note", "args", "characters_written", "code", "derive", "encoding", "end", "end_lineno",
   "end_offset", "errno", "exceptions", "filename", "filename2", "lineno", "message", "msg", "name",
   "obj", "object", "offset", "path", "print_file_and_line", "reason", "split", "start", "strerror",
   "subgroup", "text", "value", "with_traceback"]

/-- The attributes that a class has besides those of its values. -/
def ofClass : List String := ["mro"]

end Members

/-! ## Values -/

/-- Whether a name stands between double underscores, as those do that all values have. -/
def isInnerName (name : Text) : Bool := ['_', '_'].isPrefixOf name && ['_', '_'].isSuffixOf name

namespace Value

open Members

/-- The attributes that the values of a kind may have, but for those with inner names; nothing if
they are not known. -/
def members? : Value → Option (List String)
  | .none | .helper _ | .method .. | .looseMethod _ => some []
  | .bool _ | .int _ => some ofInt
  | .float _ => some ofFloat
  | .text _ => some ofText
  | .bytes _ => some ofBytes
  | .date _ => some ofDate
  | .datetime _ => some ofDateTime
  | .duration _ => some ofDuration
  | .list _ => some ofList
  | .tuple _ => some ofTuple
  | .dict _ => some ofDict
  | .set _ => some ofSet
  | .exception .. => some ofException
  | .builtIn .str => some (ofClass ++ ofText)
  | .builtIn .len => some []
  | .builtIn (.exceptionClass _) => some (ofClass ++ ofException)
  | .builtIn (.other name type) =>
    if (BuiltIn.other name type).isForeign || type == "type" then .none else some []

/-- Whether a value may have an attribute. -/
def mayHave (v : Value) (name : Text) : Bool :=
  isInnerName name || v.members?.all fun names => names.any fun member => member.toList == name

end Value

end LiveSections
