import LiveSections.Decimal.Reader
import LiveSections.Settings.Basic
import LiveSections.Settings.Environment
import LiveSections.Value.Basic

/-!
# Reading settings

A value that is given counts before a variable of the environment, this one before a variable of a
file, and this one before the default. Everything that is wrong is found at once.

- `SettingSources`: where settings come from.
- `SettingFault`: what is wrong with a value.
- `Settings.read`: the settings, or each fault with the name of its setting.
-/

namespace LiveSections

/-- Where settings come from. The names of given values are in small letters. -/
structure SettingSources where
  given : Table Text Value := []
  environment : Environment := []
  file : Environment := []

/-! ## Values -/

/-- What is wrong with the value of a setting. -/
inductive SettingFault where
  | notText
  | notInt
  /-- A text that is written unlike an integer. -/
  | intSyntax
  | intTooLong
  | fraction
  | notFinite
  | tooSmall
  | notBool
  /-- A text or number that stands for no truth value. -/
  | boolSyntax
  | emptyMarker
  | unknownName
  deriving DecidableEq, Repr

/-- The short name of a fault. -/
def SettingFault.code : SettingFault → String
  | notText => "string_type"
  | notInt => "int_type"
  | intSyntax => "int_parsing"
  | intTooLong => "int_parsing_size"
  | fraction => "int_from_float"
  | notFinite => "finite_number"
  | tooSmall => "greater_than_equal"
  | notBool => "bool_type"
  | boolSyntax => "bool_parsing"
  | emptyMarker => "value_error"
  | unknownName => "extra_forbidden"

namespace Settings

/-- A text. -/
def readText : Value → Except SettingFault Text
  | .text t => .ok t
  | _ => .error .notText

/-- A text that is not empty. -/
def readMarker (v : Value) : Except SettingFault Text := do
  let t ← readText v
  if t.isEmpty then .error .emptyMarker else .ok t

/-- The spellings of the truth values, in small letters. -/
def trueWords : List Text := ["1", "true", "yes", "on", "t", "y"].map String.toList
def falseWords : List Text := ["0", "false", "no", "off", "f", "n"].map String.toList

/-- The integer that a double is, if it is one. -/
def wholeNumber? (x : Float) : Option Int :=
  let b := Decimal.Binary.ofBits (x.toBits &&& 0x7FFFFFFFFFFFFFFF)
  let size : Int := b.m * Decimal.twoTo b.q / Decimal.twoTo (-b.q)
  let n := if x < 0 then -size else size
  if Value.sameNumber n x then some n else none

/-- Whether an integer lies between the bounds of 64 bits, which count as outside. -/
def isInRange (n : Int) : Bool := -Word.long.limit < n && n < Word.long.limit

/-- An integer of a double. -/
def intOfFloat (x : Float) : Except SettingFault Int :=
  match wholeNumber? x with
  | some n => if isInRange n then .ok n else .error .intTooLong
  | none => .error (if x.isFinite then .fraction else .notFinite)

/-- The truth value of an integer. -/
def boolOfInt (n : Int) : Except SettingFault Bool :=
  if n = 0 then .ok false else if n = 1 then .ok true
  else if Word.long.holds n then .error .boolSyntax else .error .notBool

/-- A truth value, by one of its spellings or as zero or one. -/
def readBool : Value → Except SettingFault Bool
  | .bool b => .ok b
  | .int n => boolOfInt n
  | .float x =>
    match intOfFloat x with
    | .ok n => boolOfInt n
    | .error _ => .error .notBool
  | .text t =>
    let w := t.map Char.toLower
    if trueWords.contains w then .ok true
    else if falseWords.contains w then .ok false
    else .error .boolSyntax
  | _ => .error .notBool

/-! ### Integers of texts -/

/-- An integer in its one spelling: a dash or none, and digits that begin with zero only if there is
no other. Numbers that are too long are found before what stands behind them. -/
def readPlainInt (t : Text) : Except SettingFault Int :=
  let (sign, digits) : Int × Text := match t with
    | '-' :: ds => (-1, ds)
    | ds => (1, ds)
  match digits with
  | ['0'] => .ok 0
  | '0' :: _ => .error .intSyntax
  | ds =>
    let number := ds.takeWhile Char.isDigit
    if Decimal.maxDigits < number.length + (t.length - ds.length) then .error .intTooLong
    else if number.isEmpty || number.length ≠ ds.length then .error .intSyntax
    else .ok (sign * Decimal.digitsValue 10 number)

/-- A text that begins with a zero, from the first character on that is neither a zero nor an
underscore. A zero stays if nothing else is left, or a point follows. -/
def withoutZeros (t : Text) : Option Text :=
  let isFiller (c : Char) : Bool := c = '0' || c = '_'
  match t.dropWhile isFiller with
  | [] => some (t.drop (t.length - 1))
  | c :: rest =>
    if c = '-' || c.isDigit then some (c :: rest)
    else if c = '.' then some (t.drop ((t.takeWhile isFiller).length - 1))
    else none

/-- Digits from the first one on that counts. -/
def fromFirstDigit (t : Text) : Option Text :=
  match t with
  | '0' :: _ => withoutZeros t
  | c :: _ => if c = '-' || c.isDigit then some t else none
  | [] => none

/-- A text without a point and zeros behind its digits. -/
def withoutFraction (t : Text) : Text :=
  match t.dropWhile (· ≠ '.') with
  | '.' :: zeros =>
    if !zeros.isEmpty && zeros.all (· = '0') then t.takeWhile (· ≠ '.') else t
  | _ => t

/-- A text without underscores that stand alone between other characters. -/
def withoutUnderscores (t : Text) : Text :=
  if (Text.splitOn '_' t).all fun part => !part.isEmpty then t.filter (· ≠ '_') else t

/-- The one spelling of the integer that a text is, as far as it is one: without spaces around it, a
plus sign, zeros in front, a fraction of zeros, and underscores between digits. -/
def plainIntText (t : Text) : Option Text := do
  let (sign, digits) : Text × Text ← match Text.trim Text.isSpace t with
    | '+' :: '-' :: _ => none
    | '+' :: t => some ([], t)
    | '-' :: t => some (['-'], t)
    | t => some ([], t)
  return sign ++ withoutUnderscores (withoutFraction (← fromFirstDigit digits))

/-- The integer of a text. Only a text in its one spelling is told to be too long. -/
def readIntText (t : Text) : Except SettingFault Int :=
  match readPlainInt t, plainIntText t with
  | .error .intSyntax, some plain => (readPlainInt plain).mapError fun _ => .intSyntax
  | result, _ => result

/-- An integer. -/
def readInt : Value → Except SettingFault Int
  | .int n => .ok n
  | .bool b => .ok (if b then 1 else 0)
  | .float x => intOfFloat x
  | .text t => readIntText t
  | _ => .error .notInt

/-- An integer that is at least one. -/
def readCount (v : Value) : Except SettingFault Int := do
  let n ← readInt v
  if n < 1 then .error .tooSmall else .ok n

end Settings

/-! ## Sources -/

namespace SettingSources

/-- What the names of variables begin with. -/
def lead : Text := "freshmark_".toList

/-- The names of the settings. -/
def names : List Text :=
  ["open_marker", "close_marker", "unknown_suffix", "canonical_tags", "max_workers",
   "strict_mode"].map String.toList

/-- The value of a setting in the first source that has one. -/
def value? (s : SettingSources) (name : Text) : Option Value :=
  let inFull := lead ++ name
  s.given.get? name <|> (s.environment.text? inFull <|> s.file.text? inFull).map .text

/-- A setting, or its default. -/
def get {α : Type} (s : SettingSources) (name : String) (read : Value → Except SettingFault α)
    (default : α) : Except SettingFault α :=
  match s.value? name.toList with
  | some v => read v
  | none => .ok default

/-- The names that no setting has: in the file unless their value is empty, and given ones. In the
file the name of a setting by itself counts neither as the setting nor as a stranger. -/
def strangers (s : SettingSources) : List Text :=
  let known := names ++ names.map (lead ++ ·)
  let inFile := (s.file.filter fun v =>
    !known.contains v.1 && !(v.2.getD []).isEmpty).map Prod.fst
  let given := (s.given.map Prod.fst).filter fun n => !names.contains n && !inFile.contains n
  inFile ++ given

end SettingSources

namespace Settings

/-- The fault of a setting with its name, if there is one. -/
def faultOf {α : Type} (name : String) : Except SettingFault α → List (Text × SettingFault)
  | .ok _ => []
  | .error f => [(name.toList, f)]

/-- The settings, or all faults: those of the settings in their order, then unknown names. -/
def read (s : SettingSources) : Except (List (Text × SettingFault)) Settings :=
  let d : Settings := {}
  let openMarker := s.get "open_marker" readMarker d.openMarker
  let closeMarker := s.get "close_marker" readMarker d.closeMarker
  let unknownSuffix := s.get "unknown_suffix" readText d.unknownSuffix
  let canonicalTags := s.get "canonical_tags" readBool d.canonicalTags
  let maxWorkers := s.get "max_workers" readCount d.maxWorkers
  let strictMode := s.get "strict_mode" readBool d.strictMode
  let unknown := s.strangers.map fun name => (name, SettingFault.unknownName)
  match openMarker, closeMarker, unknownSuffix, canonicalTags, maxWorkers, strictMode, unknown with
  | .ok openMarker, .ok closeMarker, .ok unknownSuffix, .ok canonicalTags, .ok maxWorkers,
    .ok strictMode, [] =>
    .ok { openMarker, closeMarker, unknownSuffix, canonicalTags, maxWorkers, strictMode }
  | _, _, _, _, _, _, _ =>
    .error (faultOf "open_marker" openMarker ++ faultOf "close_marker" closeMarker
      ++ faultOf "unknown_suffix" unknownSuffix ++ faultOf "canonical_tags" canonicalTags
      ++ faultOf "max_workers" maxWorkers ++ faultOf "strict_mode" strictMode ++ unknown)

end Settings

end LiveSections
