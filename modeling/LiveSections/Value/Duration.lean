import LiveSections.Decimal.Layout
import LiveSections.Decimal.Reader
import LiveSections.Value.Date

/-!
# Durations

What lies between two dates: days, seconds and microseconds. A duration has less than a thousand
million days.

- `Duration`: whole microseconds; `Duration.days`, `Duration.seconds`, `Duration.microseconds` are
  its parts, of which only the days can be negative.
- `Duration.ofMicroseconds`: checked construction.
- `Duration.times`, `Duration.dividedBy`: by an integer or a double, rounded to the nearest.
- `Date.shifted`, `DateTime.shifted`: a date with a duration added.
- `CalendarFault`: why there is no result.
-/

namespace LiveSections

/-- Why arithmetic of dates and durations has no result. -/
inductive CalendarFault where
  /-- A date before year 1 or after year 9999. -/
  | dateOutOfRange
  | tooManyDays (days : Int)
  /-- So many days that they are not even told. -/
  | numberTooLarge
  | divisionByZero
  | zeroDuration
  | infinite
  | notANumber
  /-- Only one of two dates has a known distance from universal time. -/
  | mixedClocks
  deriving DecidableEq, Repr

/-- The words of a fault. -/
def CalendarFault.message : CalendarFault → String
  | dateOutOfRange => "date value out of range"
  | tooManyDays days => s!"days={days}; must have magnitude <= 999999999"
  | numberTooLarge => "Python int too large to convert to C int"
  | divisionByZero => "integer division or modulo by zero"
  | zeroDuration => "division by zero"
  | infinite => "cannot convert Infinity to integer ratio"
  | notANumber => "cannot convert NaN to integer ratio"
  | mixedClocks => "can't subtract offset-naive and offset-aware datetimes"

/-- A duration in microseconds. -/
structure Duration where
  total : Int
  deriving DecidableEq, Repr

namespace Duration

/-- The whole days. -/
def days (d : Duration) : Int := d.total.fdiv dayLength

/-- The microseconds that are left of the last day. -/
def rest (d : Duration) : Nat := (d.total.fmod dayLength).toNat

/-- The whole seconds of the last day. -/
def seconds (d : Duration) : Nat := d.rest / 1000000

/-- The microseconds of the last second. -/
def microseconds (d : Duration) : Nat := d.rest % 1000000

/-- The duration of so many microseconds, if it is not too long. -/
def ofMicroseconds (n : Int) : Except CalendarFault Duration :=
  let days := n.fdiv dayLength
  if !Word.short.holds days then .error .numberTooLarge
  else if 999999999 < days.natAbs then .error (.tooManyDays days)
  else .ok ⟨n⟩

/-- An integer as decimal digits with a sign. -/
def signedText (n : Int) : Text :=
  if n < 0 then '-' :: Decimal.digitsOf n.natAbs else Decimal.digitsOf n.natAbs

/-- Days, if there are any, hours, minutes and seconds; a fraction only if there is one. -/
def text (d : Duration) : Text :=
  let t := Time.ofElapsed d.rest
  let days :=
    if d.days = 0 then []
    else signedText d.days ++ (if d.days.natAbs = 1 then " day, " else " days, ").toList
  days ++ Decimal.digitsOf t.hour ++ ':' :: Decimal.padded 2 t.minute
    ++ ':' :: Decimal.padded 2 t.second
    ++ (if t.microsecond = 0 then [] else '.' :: Decimal.padded 6 t.microsecond)

/-- A duration as the call that makes it; parts that are zero are left out. -/
def quoted (d : Duration) : Text :=
  let named (name : String) (n : Int) : List Text :=
    if n = 0 then [] else [name.toList ++ '=' :: signedText n]
  let parts := named "days" d.days ++ named "seconds" d.seconds
    ++ named "microseconds" d.microseconds
  "datetime.timedelta(".toList ++ (if parts.isEmpty then ['0'] else Text.join [',', ' '] parts)
    ++ [')']

/-! ## Arithmetic -/

/-- An integer divided by a positive one, rounded to the nearest; a half goes to the even
neighbour. -/
def nearest (num : Int) (den : Nat) : Int :=
  let q := Decimal.roundedDiv num.natAbs den
  if num < 0 then -q else q

/-- The double's value as a quotient of an integer and a positive integer. -/
def ratio (x : Float) : Except CalendarFault (Int × Nat) :=
  if x.isNaN then .error .notANumber
  else if x.isInf then .error .infinite
  else
    let b := Decimal.Binary.ofBits (x.toBits &&& 0x7FFFFFFFFFFFFFFF)
    let m : Int := b.m * Decimal.twoTo b.q
    .ok (if x < 0 then -m else m, Decimal.twoTo (-b.q))

/-- A duration times a quotient, rounded to whole microseconds. -/
def scaled (d : Duration) (num : Int) (den : Int) : Except CalendarFault Duration :=
  if den = 0 then .error .divisionByZero
  else ofMicroseconds (nearest (if den < 0 then -(d.total * num) else d.total * num) den.natAbs)

/-- The quotient of two durations. -/
def quotient (a b : Duration) : Except CalendarFault Float :=
  if b.total = 0 then .error .zeroDuration else .ok (Decimal.signedQuotient a.total b.total)

end Duration

/-- A date with the whole days of a duration added, or taken off if `back`. -/
def Date.shifted (d : Date) (back : Bool) (by' : Duration) : Except CalendarFault Date :=
  match Date.ofNumber? (if back then d.number - by'.days else d.number + by'.days) with
  | some d => .ok d
  | none => .error .dateOutOfRange

/-- A date and time with a duration added, or taken off if `back`. -/
def DateTime.shifted (d : DateTime) (back : Bool) (by' : Duration) :
    Except CalendarFault DateTime :=
  match DateTime.ofClock? (if back then d.onClock - by'.total else d.onClock + by'.total)
    d.offset with
  | some d => .ok d
  | none => .error .dateOutOfRange

/-- The duration from `b` to `a`. -/
def DateTime.since (a b : DateTime) : Except CalendarFault Duration :=
  if a.offset.isSome = b.offset.isSome then .ok ⟨a.instant - b.instant⟩ else .error .mixedClocks

/-- The days from `b` to `a`. -/
def Date.since (a b : Date) : Duration := ⟨((a.number : Int) - b.number) * dayLength⟩

end LiveSections
