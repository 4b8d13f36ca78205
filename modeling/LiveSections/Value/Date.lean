import LiveSections.Decimal.Layout

/-!
# Dates and times

- `Date.ofParts`, `Time.ofParts`: checked construction; `DateFault` says which part is out of range.
- `Date.number`, `Date.ofNumber?`: days counted from the first day of year 1, which is day 1.
- `DateTime.instant`: microseconds since then, on the clock of the date or in universal time.
- `Date.text`, `DateTime.text`: the ISO form, with a blank between date and time.
-/

namespace LiveSections

/-- The part of a date or time that is out of range. -/
inductive DateFault where
  | year (n : Int)
  | month
  | day
  | hour
  | minute
  | second
  | microsecond
  | fold
  deriving DecidableEq, Repr

/-- The words of a fault. -/
def DateFault.message : DateFault → String
  | year n => s!"year {n} is out of range"
  | month => "month must be in 1..12"
  | day => "day is out of range for month"
  | hour => "hour must be in 0..23"
  | minute => "minute must be in 0..59"
  | second => "second must be in 0..59"
  | microsecond => "microsecond must be in 0..999999"
  | fold => "fold must be either 0 or 1"

/-- A day of the Gregorian calendar. -/
structure Date where
  year : Nat
  month : Nat
  day : Nat
  deriving DecidableEq, Repr

namespace Date

/-- Whether a year has a leap day. -/
def isLeapYear (year : Nat) : Bool :=
  year % 4 == 0 && (year % 100 != 0 || year % 400 == 0)

/-- The number of days of a month. -/
def daysIn (year month : Nat) : Nat :=
  if month = 2 then (if isLeapYear year then 29 else 28)
  else if month = 4 ∨ month = 6 ∨ month = 9 ∨ month = 11 then 30
  else 31

/-- The date with these parts, if there is one. -/
def ofParts (year month day : Int) : Except DateFault Date :=
  if year < 1 ∨ 9999 < year then .error (.year year)
  else if month < 1 ∨ 12 < month then .error .month
  else if day < 1 ∨ daysIn year.toNat month.toNat < day then .error .day
  else .ok ⟨year.toNat, month.toNat, day.toNat⟩

/-- The number of days in the years from 1 up to but not including a year. -/
def daysBefore (year : Nat) : Nat :=
  let y := year - 1
  365 * y + y / 4 - y / 100 + y / 400

/-- The number of a day: the first day of year 1 is day 1. The months before its own are added to
the years before its own. -/
def number (d : Date) : Nat :=
  (List.range (d.month - 1)).foldl (fun n m => n + daysIn d.year (m + 1)) (daysBefore d.year)
    + d.day

/-- The month and day of a day of a year, months tried from `month` on. -/
def inYear (year : Nat) : Nat → Nat → Nat → Date
  | 0, month, day => ⟨year, month, day⟩
  | months + 1, month, day =>
    if day ≤ daysIn year month then ⟨year, month, day⟩
    else inYear year months (month + 1) (day - daysIn year month)

/-- The day with a number, if it is in one of the years from 1 to 9999. Years that are taken to be
equally long begin less than two days off, so the year is one of two. -/
def ofNumber? (n : Int) : Option Date :=
  if n < 1 ∨ daysBefore 10000 < n then none
  else
    let n := n.toNat
    let guess := (n - 1) * 400 / 146097
    let year := if daysBefore (guess + 2) < n then guess + 2 else guess + 1
    some (inYear year 11 1 (n - daysBefore year))

/-- Year, month and day with dashes between them. -/
def text (d : Date) : Text :=
  Decimal.padded 4 d.year ++ '-' :: Decimal.padded 2 d.month ++ '-' :: Decimal.padded 2 d.day

end Date

/-- A time of day. -/
structure Time where
  hour : Nat
  minute : Nat
  second : Nat
  microsecond : Nat
  deriving DecidableEq, Repr

/-- The time with these parts, if there is one. -/
def Time.ofParts (hour minute second microsecond : Int) : Except DateFault Time :=
  if hour < 0 ∨ 23 < hour then .error .hour
  else if minute < 0 ∨ 59 < minute then .error .minute
  else if second < 0 ∨ 59 < second then .error .second
  else if microsecond < 0 ∨ 999999 < microsecond then .error .microsecond
  else .ok ⟨hour.toNat, minute.toNat, second.toNat, microsecond.toNat⟩

/-- The microseconds of a day. -/
def dayLength : Nat := 86400000000

/-- The microseconds since the day began. -/
def Time.elapsed (t : Time) : Nat :=
  ((t.hour * 60 + t.minute) * 60 + t.second) * 1000000 + t.microsecond

/-- The time at which so many microseconds of a day are over. -/
def Time.ofElapsed (n : Nat) : Time :=
  let seconds := n / 1000000
  ⟨seconds / 3600 % 24, seconds / 60 % 60, seconds % 60, n % 1000000⟩

/-- A date with a time of day and, for some, the distance from universal time in minutes. -/
structure DateTime where
  date : Date
  time : Time
  offset : Option Int
  deriving DecidableEq, Repr

namespace DateTime

/-- The microseconds between day 0 and a date with a time, on its own clock. -/
def onClock (d : DateTime) : Int := d.date.number * dayLength + d.time.elapsed

/-- The date with a time at which a clock shows so many microseconds since day 0. -/
def ofClock? (n : Int) (offset : Option Int) : Option DateTime :=
  (Date.ofNumber? (n.fdiv dayLength)).map fun date =>
    ⟨date, Time.ofElapsed (n.fmod dayLength).toNat, offset⟩

/-- The microseconds between day 0 and a date with a time; those with a known distance from
universal time are counted there. -/
def instant (d : DateTime) : Int := d.onClock - d.offset.getD 0 * 60000000

/-- Whether two dates with times are the same instant; one with a known distance from universal time
is never the same as one without. -/
def same (a b : DateTime) : Bool :=
  a.offset.isSome == b.offset.isSome && a.instant == b.instant

/-- A distance from universal time. -/
def offsetText (minutes : Int) : Text :=
  (if minutes < 0 then '-' else '+') :: Decimal.padded 2 (minutes.natAbs / 60)
    ++ ':' :: Decimal.padded 2 (minutes.natAbs % 60)

/-- Date and time with a blank between them; a fraction only if there is one. -/
def text (d : DateTime) : Text :=
  d.date.text ++ ' ' :: Decimal.padded 2 d.time.hour ++ ':' :: Decimal.padded 2 d.time.minute
    ++ ':' :: Decimal.padded 2 d.time.second
    ++ (if d.time.microsecond = 0 then [] else '.' :: Decimal.padded 6 d.time.microsecond)
    ++ d.offset.elim [] offsetText

end DateTime

end LiveSections
