import LiveSections.Program.Computation

/-!
# Dates in programs

- `Value.onCalendar?`: sums, differences, products and quotients in which dates and durations take
  part.
- `replaceParts`: a date with some of its parts replaced.
-/

namespace LiveSections

open LiveSections.Computation

/-- The value of a computation on dates. -/
def ofCalendar {α : Type} (f : α → Value) : Except CalendarFault α → Except RunFault Value
  | .ok a => .ok (f a)
  | .error e => .error (.calendar e)

/-- A duration times a number. -/
def Duration.times (d : Duration) : Number → Except CalendarFault Duration
  | .int n => d.scaled n 1
  | .float x => do
    let (num, den) ← Duration.ratio x
    d.scaled num den

/-- A duration divided by a number. -/
def Duration.dividedBy (d : Duration) : Number → Except CalendarFault Duration
  | .int n => d.scaled 1 n
  | .float x => do
    let (num, den) ← Duration.ratio x
    d.scaled den num

/-- What an operator between two values gives if dates or durations take part and the operator is
one of theirs. -/
def Value.onCalendar? (op : BinaryOp) (left right : Value) : Option (Except RunFault Value) :=
  match op, left, right with
  | .sub, date a, date b => some (.ok (duration (a.since b)))
  | .sub, datetime a, datetime b => some (ofCalendar duration (a.since b))
  | .add, date a, duration d | .add, duration d, date a =>
    some (ofCalendar date (a.shifted false d))
  | .sub, date a, duration d => some (ofCalendar date (a.shifted true d))
  | .add, datetime a, duration d | .add, duration d, datetime a =>
    some (ofCalendar datetime (a.shifted false d))
  | .sub, datetime a, duration d => some (ofCalendar datetime (a.shifted true d))
  | .add, duration a, duration b =>
    some (ofCalendar duration (Duration.ofMicroseconds (a.total + b.total)))
  | .sub, duration a, duration b =>
    some (ofCalendar duration (Duration.ofMicroseconds (a.total - b.total)))
  | .div, duration a, duration b => some (ofCalendar float (a.quotient b))
  | .mul, duration d, v | .mul, v, duration d =>
    v.number?.map fun n => ofCalendar duration (d.times n)
  | .div, duration d, v => v.number?.map fun n => ofCalendar duration (d.dividedBy n)
  | _, _, _ => .none

/-! ## Replacing parts -/

/-- A field of a date, which has to be an integer that is not too large. -/
def fieldOf (v : Value) : Except RunFault Int :=
  match v.toInt? with
  | none =>
    .error (.argumentType s!"'{v.fullTypeName}' object cannot be interpreted as an integer")
  | some n =>
    if !Word.long.holds n then .error .aboveWords
    else if Word.short.limit ≤ n then .error .aboveFields
    else if n < -Word.short.limit then .error .belowFields
    else .ok n

/-- The words for more arguments than there are parts. -/
def tooManyParts (most : Nat) (byPosition byName : Nat) (positional : Bool) : RunFault :=
  let kind :=
    if positional then "positional " else if byPosition = 0 then "keyword " else ""
  let given := if positional then byPosition else byPosition + byName
  .argumentType s!"replace() takes at most {most} {kind}arguments ({given} given)"

/-- The arguments for parts by name, those by position first. `read` looks at an argument as soon as
its part comes up; then every keyword has to stand for a part that no position stands for. -/
def partArguments {α : Type} (parts : List String) (positional : Nat)
    (arguments : List Value) (keywords : Table Text Value)
    (read : String → Value → Except RunFault α) : Except RunFault (Table String α) := do
  if parts.length < arguments.length + keywords.length then
    throw (tooManyParts parts.length arguments.length keywords.length false)
  if positional < arguments.length then
    throw (tooManyParts positional arguments.length keywords.length true)
  let given ← parts.zipIdx.filterMapM fun (part, i) =>
    match arguments[i]?.orElse fun _ => keywords.get? part.toList with
    | some v => do return some (part, ← read part v)
    | none => return none
  match (parts.take arguments.length).zipIdx.find? fun (part, _) => keywords.has part.toList with
  | some (part, i) => throw (.argumentType
      s!"argument for replace() given by name ('{part}') and position ({i + 1})")
  | none => pure ()
  match keywords.find? fun e => !(parts.any fun part => part.toList == e.1) with
  | some e =>
    throw (.argumentType s!"'{e.1.str}' is an invalid keyword argument for replace()")
  | none => return given

/-- The parts of a date. -/
def Date.partNames : List String := ["year", "month", "day"]

/-- The parts of a date with a time. -/
def DateTime.partNames : List String :=
  Date.partNames ++ ["hour", "minute", "second", "microsecond", "tzinfo", "fold"]

/-- A date with some of its parts replaced. -/
def Date.replaced (d : Date) (arguments : List Value) (keywords : Table Text Value) :
    Except RunFault Date := do
  let given ← partArguments Date.partNames 3 arguments keywords fun _ v => fieldOf v
  let part (name : String) (n : Nat) : Int := (given.get? name).getD n
  (Date.ofParts (part "year" d.year) (part "month" d.month) (part "day" d.day)).mapError .noDate

/-- The integer that is given for a part, or else what the part was. -/
def givenField (given : Table String (Int ⊕ Value)) (name : String) (n : Nat) : Int :=
  match given.get? name with
  | some (.inl m) => m
  | _ => n

/-- The distance from universal time of a date with a time of which some parts are given: the only
one that can be given is none. -/
def givenOffset (given : Table String (Int ⊕ Value)) (d : DateTime) :
    Except RunFault (Option Int) :=
  match given.get? "tzinfo" with
  | some (.inr .none) => .ok none
  | some (.inr v) => .error (.argumentType
      s!"tzinfo argument must be None or of a tzinfo subclass, not type '{v.fullTypeName}'")
  | _ => .ok d.offset

/-- A date with a time with some of its parts replaced. Of two moments with the same parts only the
first one is modelled. -/
def DateTime.replaced (d : DateTime) (arguments : List Value) (keywords : Table Text Value) :
    Except RunFault DateTime := do
  let given ← partArguments DateTime.partNames 8 arguments keywords fun name v =>
    if name = "tzinfo" then .ok (Sum.inr v) else Sum.inl <$> fieldOf v
  let part := givenField given
  if part "fold" 0 ≠ 0 ∧ part "fold" 0 ≠ 1 then throw (.noDate .fold)
  let date ← (Date.ofParts (part "year" d.date.year) (part "month" d.date.month)
    (part "day" d.date.day)).mapError .noDate
  let time ← (Time.ofParts (part "hour" d.time.hour) (part "minute" d.time.minute)
    (part "second" d.time.second) (part "microsecond" d.time.microsecond)).mapError .noDate
  let offset ← givenOffset given d
  if part "fold" 0 = 1 then throw (.unmodelled (.argument "replace()" "fold"))
  return { date, time, offset }

/-- The parts of dates and durations by their names. -/
def Value.calendarPart? (v : Value) (name : Text) : Option Value :=
  let ofDate (d : Date) : Table String Nat :=
    [("year", d.year), ("month", d.month), ("day", d.day)]
  let parts : Table String Int :=
    match v with
    | date d => (ofDate d).map fun e => (e.1, (e.2 : Int))
    | datetime d =>
      (ofDate d.date ++ [("hour", d.time.hour), ("minute", d.time.minute),
        ("second", d.time.second), ("microsecond", d.time.microsecond), ("fold", 0)]).map
          fun e => (e.1, (e.2 : Int))
    | duration d =>
      [("days", d.days), ("seconds", d.seconds), ("microseconds", d.microseconds)]
    | _ => []
  (parts.find? fun e => e.1.toList == name).map fun e => int e.2

end LiveSections
