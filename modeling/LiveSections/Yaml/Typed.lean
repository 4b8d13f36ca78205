import LiveSections.Decimal.Reader
import LiveSections.Table
import LiveSections.Text.LetterCase
import LiveSections.Text.Quoted
import LiveSections.Value.Duration
import LiveSections.Yaml.Fault

/-!
# What scalars stand for

A plain scalar is a text unless it is written like something else. A tag can ask for any kind, even
for one that the scalar is not written like.

- `Kind.ofText`: what a plain scalar is written like.
- `readBool`, `readInt`, `readFloat`, `readTimestamp`: what a scalar of a kind stands for.
- `ValueFault`: a scalar that stands for nothing of its kind.
-/

namespace LiveSections.Yaml

/-- What a node can stand for. -/
inductive Kind where
  | null
  | bool
  | int
  | float
  | timestamp
  | binary
  | text
  /-- The key of entries that are taken over from another mapping. -/
  | merge
  /-- The key of a default value. -/
  | default
  | sequence
  | mapping
  | set
  /-- Mappings of one entry each, in a sequence. -/
  | pairs
  /-- A kind that nothing is known of but its tag. -/
  | unknown (tag : Text)
  deriving DecidableEq, Repr

/-! ## Shapes -/

/-- Whether a character is a digit or an underscore. -/
def isDigitOrLow (c : Char) : Bool := c.isDigit || c = '_'

/-- A text without a sign at its front. -/
def unsigned : Text → Text
  | '+' :: t | '-' :: t => t
  | t => t

/-- Whether a text is a digit for which `p` holds, and digits or underscores behind it. -/
def isNumeral (p : Char → Bool) : Text → Bool
  | c :: t => p c && c.isDigit && t.all isDigitOrLow
  | [] => false

/-- Whether a text is one or two digits of a number below sixty. -/
def isSixtieth : Text → Bool
  | [c] => c.isDigit
  | [a, b] => '0' ≤ a && a ≤ '5' && b.isDigit
  | _ => false

/-- Whether a text is a numeral with sixtieths behind colons. -/
def isSexagesimal (p : Char → Bool) (t : Text) : Bool :=
  match Text.splitOn ':' t with
  | whole :: part :: parts => isNumeral p whole && (part :: parts).all isSixtieth
  | _ => false

/-- Whether a text is nothing, or an exponent with its sign. -/
def isExponent : Text → Bool
  | [] => true
  | e :: sign :: ds =>
    (e = 'e' || e = 'E') && (sign = '+' || sign = '-') && !ds.isEmpty && ds.all Char.isDigit
  | _ => false

/-- Whether a text is written like an integer. -/
def isInt (t : Text) : Bool :=
  match unsigned t with
  | '0' :: 'b' :: ds => !ds.isEmpty && ds.all fun c => c = '0' || c = '1' || c = '_'
  | '0' :: 'x' :: ds => !ds.isEmpty && ds.all fun c => (c.isAlphanum && c.toLower ≤ 'f') || c = '_'
  | '0' :: ds => ds.all fun c => '0' ≤ c && c ≤ '7' || c = '_'
  | t => isNumeral (· ≠ '0') t || isSexagesimal (· ≠ '0') t

/-- Whether a text is written like a number with a fraction. -/
def isDecimal (t : Text) : Bool :=
  match Text.splitFirst ['.'] t with
  | none => false
  | some (whole, rest) =>
    let fraction := rest.takeWhile isDigitOrLow
    let exponent := rest.dropWhile isDigitOrLow
    isExponent exponent &&
      (isNumeral (fun _ => true) (unsigned whole)
        || whole.isEmpty && isNumeral (fun _ => true) fraction)
    || isSexagesimal (fun _ => true) (unsigned whole) && exponent.isEmpty

/-- The spellings of infinity and of what is not a number. -/
def infinities : List Text := [".inf", ".Inf", ".INF"].map String.toList
def notNumbers : List Text := [".nan", ".NaN", ".NAN"].map String.toList

/-- Whether a text is written like a double. -/
def isFloat (t : Text) : Bool :=
  isDecimal t || infinities.contains (unsigned t) || notNumbers.contains t

/-- The spellings of the truth values. -/
def trues : List Text :=
  ["yes", "Yes", "YES", "true", "True", "TRUE", "on", "On", "ON"].map String.toList
def falses : List Text :=
  ["no", "No", "NO", "false", "False", "FALSE", "off", "Off", "OFF"].map String.toList

/-- The spellings of nothing. -/
def nulls : List Text := ["", "~", "null", "Null", "NULL"].map String.toList

/-! ## Dates and times -/

/-- The parts of a date with a time, as they are written. -/
structure ClockText where
  hour : Text
  minute : Text
  second : Text
  fraction : Text
  /-- Whether a zone is given, and its sign, hours and minutes if it has them. -/
  zone : Option (Option (Char × Text × Text))

/-- The parts of a date, maybe with a time, as they are written. -/
structure TimestampText where
  year : Text
  month : Text
  day : Text
  clock : Option ClockText

/-- From `least` to `most` digits at the front of a text. -/
def digits? (least most : Nat) (t : Text) : Option (Text × Text) :=
  let ds := (t.take most).takeWhile Char.isDigit
  if least ≤ ds.length then some (ds, t.drop ds.length) else none

/-- The text behind a character at the front. -/
def expect? (c : Char) : Text → Option Text
  | x :: t => if x = c then some t else none
  | [] => none

/-- Blanks and tabs taken off the front. -/
def dropSpaces (t : Text) : Text := t.dropWhile fun c => c = ' ' || c = '\t'

/-- A zone, which has to end the text. -/
def zone? (t : Text) : Option (Option (Option (Char × Text × Text))) :=
  match dropSpaces t with
  | [] => if t.isEmpty then some none else none
  | ['Z'] => some (some none)
  | sign :: rest =>
    if sign = '+' ∨ sign = '-' then do
      let (hours, rest) ← digits? 1 2 rest
      match rest with
      | [] => some (some (some (sign, hours, [])))
      | ':' :: rest =>
        let (minutes, rest) ← digits? 2 2 rest
        if rest.isEmpty then some (some (some (sign, hours, minutes))) else none
      | _ => none
    else none

/-- A time of day, which has to end the text. -/
def clock? (t : Text) : Option ClockText := do
  let (hour, t) ← digits? 1 2 t
  let (minute, t) ← digits? 2 2 (← expect? ':' t)
  let (second, t) ← digits? 2 2 (← expect? ':' t)
  let (fraction, t) : Text × Text := match t with
    | '.' :: t => (t.takeWhile Char.isDigit, t.dropWhile Char.isDigit)
    | t => ([], t)
  let zone ← zone? t
  return { hour, minute, second, fraction, zone }

/-- The parts of a timestamp. -/
def timestamp? (t : Text) : Option TimestampText := do
  let (year, t) ← digits? 4 4 t
  let (month, t) ← digits? 1 2 (← expect? '-' t)
  let (day, t) ← digits? 1 2 (← expect? '-' t)
  match t with
  | [] => return ⟨year, month, day, none⟩
  | c :: rest =>
    if c = 'T' ∨ c = 't' then return ⟨year, month, day, some (← clock? rest)⟩
    else if c = ' ' ∨ c = '\t' then return ⟨year, month, day, some (← clock? (dropSpaces rest))⟩
    else none

/-- Whether a plain scalar is a timestamp: a date by itself has two digits for month and day. -/
def isTimestamp (t : Text) : Bool :=
  (timestamp? t).any fun p => p.clock.isSome || p.month.length == 2 && p.day.length == 2

/-! ## Kinds -/

/-- What a plain scalar is written like. -/
def Kind.ofText (t : Text) : Kind :=
  if nulls.contains t then .null
  else if trues.contains t || falses.contains t then .bool
  else if isFloat t then .float
  else if isInt t then .int
  else if t = ['<', '<'] then .merge
  else if t = ['='] then .default
  else if isTimestamp t then .timestamp
  else .text

/-! ## Values -/

/-- Why a scalar stands for nothing of its kind. -/
inductive ValueFault where
  /-- The number behind an escape is no code point; `huge` tells that it fills more than 31 bits. -/
  | codePoint (huge : Bool)
  /-- No truth value is spelled so. -/
  | noBool (t : Text)
  /-- A number of which nothing is left once its sign is taken off. -/
  | noNumber
  | noInt (base : Nat) (t : Text)
  | noFloat (t : Text)
  | noTimestamp
  /-- A collection is no timestamp. -/
  | noScalar
  | date (f : DateFault)
  /-- A number with more digits than are read. -/
  | tooManyDigits (count : Nat)
  /-- An offset of a day or more. -/
  | offset (minutes : Int)
  /-- So many sixtieths that the first of them is worth more than any double. -/
  | tooManyParts
  deriving DecidableEq, Repr

/-- The words of a fault. -/
def ValueFault.message : ValueFault → String
  | codePoint huge =>
    if huge then "Python int too large to convert to C int" else "chr() arg not in range(0x110000)"
  | noBool t => (Text.quoted t).str
  | noNumber => "string index out of range"
  | noInt base t =>
    let shown : Text := (Text.quoted t).take 200
    s!"invalid literal for int() with base {base}: {shown.str}"
  | noFloat t => s!"could not convert string to float: {(Text.quoted t).str}"
  | noTimestamp => "'NoneType' object has no attribute 'groupdict'"
  | noScalar => "expected string or bytes-like object, got 'list'"
  | date f => f.message
  | tooManyDigits count =>
    s!"Exceeds the limit ({Decimal.maxDigits} digits) for integer string conversion: "
      ++ s!"value has {count} digits; use sys.set_int_max_str_digits() to increase the limit"
  | offset minutes =>
    "offset must be a timedelta strictly between -timedelta(hours=24) and timedelta(hours=24), "
      ++ s!"not {(Duration.mk (minutes * 60000000)).quoted.str}."
  | tooManyParts => "int too large to convert to float"

/-- A text without its underscores. -/
def withoutLows (t : Text) : Text := t.filter (· ≠ '_')

/-- The truth value that a scalar stands for. -/
def readBool (t : Text) : Except ValueFault Bool :=
  let word := Text.lower t
  if trues.contains word then .ok true
  else if falses.contains word then .ok false
  else .error (.noBool word)

/-- The number of sixtieths that parts stand for, each part worth sixty times the one behind it. -/
def sixtieths (parts : List Int) : Int := parts.foldl (fun n part => n * 60 + part) 0

/-- The letter that marks a base. -/
def baseMark? (base : Nat) : Option Char := [(2, 'b'), (8, 'o'), (16, 'x')].lookup base

/-- Digits of a base without the mark that may stand before them. -/
def withoutMark (base : Nat) : Text → Text
  | '0' :: c :: ds => if baseMark? base = some c.toLower then ds else '0' :: c :: ds
  | ds => ds

/-- Whether a text consists of digits of a base. -/
def isDigitsOf (base : Nat) (t : Text) : Bool :=
  !t.isEmpty && t.all fun c => c.isAlphanum && Decimal.digitValue c < base

/-- The integer of a base that a text stands for. The digits may be those of any script, and blanks
around the text do not count. -/
def readIntOf (base : Nat) (t : Text) : Except ValueFault Int :=
  let plain := Text.plainDigits (Text.strip t)
  let ds := withoutMark base (unsigned plain)
  if !isDigitsOf base ds then .error (.noInt base t)
  else if base = 10 ∧ Decimal.maxDigits < ds.length then .error (.tooManyDigits ds.length)
  else
    let n : Int := Decimal.digitsValue base ds
    .ok (if plain.head? = some '-' then -n else n)

/-- The integer that a scalar stands for. -/
def readInt (t : Text) : Except ValueFault Int := do
  let t := withoutLows t
  let n ← match unsigned t with
    | [] => throw .noNumber
    | '0' :: 'b' :: ds => readIntOf 2 ds
    | '0' :: 'x' :: ds => readIntOf 16 ds
    | '0' :: ds => readIntOf 8 ('0' :: ds)
    | ds => sixtieths <$> (Text.splitOn ':' ds).mapM (readIntOf 10)
  return if t.head? = some '-' then -n else n

/-- The digits of a double: those before the point, those behind it, and the exponent. -/
def floatParts? (t : Text) : Option (Text × Text × Int) := do
  let whole := t.takeWhile Char.isDigit
  let (fraction, rest) : Text × Text := match t.dropWhile Char.isDigit with
    | '.' :: rest => (rest.takeWhile Char.isDigit, rest.dropWhile Char.isDigit)
    | rest => ([], rest)
  if whole.isEmpty && fraction.isEmpty then none
  match rest with
  | [] => some (whole, fraction, 0)
  | e :: rest =>
    let ds := unsigned rest
    if e.toLower ≠ 'e' ∨ ds.isEmpty ∨ !ds.all Char.isDigit then none
    let n : Int := Decimal.digitsValue 10 ds
    some (whole, fraction, if rest.head? = some '-' then -n else n)

/-- The words for doubles that have no digits. -/
def floatWords : Table Text Float :=
  [("inf".toList, 1.0 / 0.0), ("infinity".toList, 1.0 / 0.0), ("nan".toList, 0.0 / 0.0)]

/-- The double that a text stands for. The digits may be those of any script, and blanks around the
text do not count. -/
def readFloatPart (t : Text) : Except ValueFault Float := do
  let plain := Text.plainDigits (Text.strip t)
  let x ← match floatWords.get? (unsigned plain), floatParts? (unsigned plain) with
    | some x, _ => pure x
    | none, some (whole, fraction, exponent) =>
      pure (Decimal.doubleOf (Decimal.digitsValue 10 (whole ++ fraction))
        (exponent - fraction.length))
    | none, none => throw (.noFloat t)
  return if plain.head? = some '-' then -x else x

/-- The sum of parts, the last one first, each worth sixty times the one before it. -/
def sumSixtieths (sum : Float) (worth : Nat) : List Float → Except ValueFault Float
  | [] => .ok sum
  | part :: parts =>
    let x := Decimal.quotient worth 1
    if x.isInf then .error .tooManyParts
    else sumSixtieths (sum + part * x) (worth * 60) parts

/-- The double that a scalar stands for. -/
def readFloat (t : Text) : Except ValueFault Float := do
  let t := Text.lower (withoutLows t)
  if t.isEmpty then throw .noNumber
  let digits := unsigned t
  let x ←
    if infinities.contains digits then pure (1.0 / 0.0)
    else if notNumbers.contains digits then pure (0.0 / 0.0)
    else if ':' ∈ digits then
      sumSixtieths 0.0 1 ((← (Text.splitOn ':' digits).mapM readFloatPart).reverse)
    else readFloatPart digits
  return if t.head? = some '-' then -x else x

/-- The number of digits of a date. -/
def part (t : Text) : Nat := Decimal.digitsValue 10 t

/-- The millionths of a second that the digits behind a point stand for. -/
def microseconds (fraction : Text) : Nat :=
  let ds := fraction.take 6
  part (ds ++ List.replicate (6 - ds.length) '0')

/-- The distance from universal time that a zone stands for. -/
def readZone : Option (Option (Char × Text × Text)) → Except ValueFault (Option Int)
  | none => .ok none
  | some none => .ok (some 0)
  | some (some (sign, hours, minutes)) =>
    let distance : Int := part hours * 60 + part minutes
    let distance := if sign = '-' then -distance else distance
    if 1440 ≤ distance.natAbs then .error (.offset distance) else .ok (some distance)

/-- The date, or the date with a time, that a timestamp stands for. -/
def readTimestamp (t : TimestampText) : Except ValueFault (Date ⊕ DateTime) := do
  let date : Except ValueFault Date :=
    (Date.ofParts (part t.year) (part t.month) (part t.day)).mapError .date
  match t.clock with
  | none => return .inl (← date)
  | some c =>
    let offset ← readZone c.zone
    let date ← date
    let time ← (Time.ofParts (part c.hour) (part c.minute) (part c.second)
      (microseconds c.fraction)).mapError .date
    return .inr { date, time, offset }

end LiveSections.Yaml
