import LiveSections.Decimal.Reader
import LiveSections.Job.Basic

/-!
# Arguments of the command line

Two directories and options. A long option may be cut short as long as it stays the only one, and
its value may follow an equals sign. Options of one letter share a dash, and an equals sign behind
the first one is passed over. After two dashes nothing is an option.

- `Argument.ofText`: what an argument is by itself.
- `Request`: what the arguments ask for; `UsageError`: why they ask for nothing.
- `Request.ofArguments`: what arguments ask for.
-/

namespace LiveSections

/-! ## Options -/

/-- The options. -/
inductive OptionName where
  | help
  | inputFile
  | properties
  | set
  /-- Asks for a record of the input directory, which is not kept. -/
  | recordInput
  /-- Asks for a record of the output directory, which is not kept. -/
  | recordOutput
  | openMarker
  | closeMarker
  | workers
  | check
  | verbosity
  | version
  deriving DecidableEq, Repr

namespace OptionName

/-- All options. -/
def all : List OptionName :=
  [help, inputFile, properties, set, recordInput, recordOutput, openMarker, closeMarker, workers,
   check, verbosity, version]

/-- The spelling of an option. -/
def spelling : OptionName → String
  | help => "--help"
  | inputFile => "--inputFile"
  | properties => "--properties"
  | set => "--set"
  | recordInput => "--saveinputmeta"
  | recordOutput => "--saveoutputmeta"
  | openMarker => "--openMarker"
  | closeMarker => "--closeMarker"
  | workers => "--workers"
  | check => "--check"
  | verbosity => "--verbosity"
  | version => "--version"

/-- The spelling of an option as text. -/
def long (o : OptionName) : Text := o.spelling.toList

/-- The options of one letter. -/
def letters : Table Char OptionName := [('h', help), ('v', verbosity), ('V', version)]

/-- Whether an option has a value. -/
def takesValue : OptionName → Bool
  | help | check | verbosity | version | recordInput | recordOutput => false
  | _ => true

/-- The options that a long spelling can be short for. -/
def startingWith (t : Text) : List OptionName := all.filter fun o => t.isPrefixOf o.long

end OptionName

/-- Why arguments ask for nothing. -/
inductive UsageError where
  | ambiguous (option : Text)
  | missingValue (option : OptionName)
  | unexpectedValue (option : OptionName) (value : Text)
  | noNumber (option : OptionName) (value : Text)
  | missing (what : String)
  | unrecognized (arguments : List Text)
  deriving DecidableEq, Repr

/-- The words of a usage error. -/
def UsageError.message : UsageError → String
  | ambiguous option => s!"ambiguous option: {option.str}"
  | missingValue option => s!"argument {option.spelling}: expected one argument"
  | unexpectedValue option value =>
    s!"argument {option.spelling}: ignored explicit argument {(Text.quoted value).str}"
  | noNumber option value =>
    s!"argument {option.spelling}: invalid int value: {(Text.quoted value).str}"
  | missing what => s!"the following arguments are required: {what}"
  | unrecognized arguments =>
    let all := Text.join [' '] arguments
    s!"unrecognized arguments: {Text.str all}"

/-! ## Single arguments -/

/-- What is written together with an option. -/
inductive Attached where
  | nothing
  /-- A text behind an equals sign. -/
  | value (t : Text)
  /-- What stands behind the letter of an option of one letter. -/
  | letters (t : Text)
  deriving DecidableEq, Repr

/-- What an argument is by itself. -/
inductive Argument where
  | value (t : Text)
  /-- Two dashes. -/
  | separator
  | option (name : OptionName) (attached : Attached)
  /-- What looks like an option, but is none. -/
  | unknown (t : Text)
  deriving DecidableEq, Repr

namespace Argument

/-- The option that is written in full. -/
def inFull? : Text → Option OptionName
  | ['-', c] => OptionName.letters.get? c
  | t => OptionName.all.find? fun o => o.long == t

/-- A text apart at its first equals sign. Behind an option of one letter stand more letters. -/
def atEquals (t : Text) : Text × Attached :=
  match Text.splitFirst ['='] t with
  | some (['-', c], behind) => (['-', c], .letters behind)
  | some (front, behind) => (front, .value behind)
  | none => (t, .nothing)

/-- Whether a text is a negative number; a line may end behind it. -/
def isNegativeNumber : Text → Bool
  | '-' :: t =>
    let t := if t.getLast? = some '\n' then t.dropLast else t
    let whole := t.takeWhile Text.isDigit
    match t.dropWhile Text.isDigit with
    | [] => !whole.isEmpty
    | '.' :: ds => !ds.isEmpty && ds.all Text.isDigit
    | _ => false
  | _ => false

/-- An argument that is no option. -/
def ofOther (t : Text) : Argument :=
  if isNegativeNumber t || ' ' ∈ t then value t else unknown t

/-- An argument that begins with a dash and is no option in full. -/
def ofDashed (t : Text) : Except UsageError Argument :=
  match t with
  | '-' :: '-' :: _ =>
    let (front, attached) := atEquals t
    match OptionName.startingWith front with
    | [] => .ok (ofOther t)
    | [o] => .ok (option o attached)
    | _ => .error (.ambiguous t)
  | '-' :: c :: rest =>
    match OptionName.letters.get? c with
    | some o => .ok (option o (.letters rest))
    | none => .ok (ofOther t)
  | t => .ok (value t)

/-- What an argument is by itself. -/
def ofText (t : Text) : Except UsageError Argument :=
  if t.head? ≠ some '-' then .ok (value t)
  else match inFull? t with
    | some o => .ok (option o .nothing)
    | none =>
      let (front, attached) := atEquals t
      match inFull? front with
      | some o => .ok (option o attached)
      | none => ofDashed t

/-- What arguments are by themselves; after two dashes nothing is an option. -/
def ofTexts : List Text → Except UsageError (List Argument)
  | [] => .ok []
  | t :: ts =>
    if t = ['-', '-'] then .ok (separator :: ts.map value)
    else do
      let a ← ofText t
      return a :: (← ofTexts ts)

end Argument

/-! ## Requests -/

/-- What arguments ask for. -/
inductive Request where
  | help
  | version
  | job (options : JobOptions) (input output : Path)

namespace Request

/-- What has been read of the arguments. -/
structure Progress where
  options : JobOptions := {}
  inputFile : Option Text := none
  directories : List Text := []
  /-- The arguments that nothing asks for. -/
  rest : List Text := []

/-- A step of reading: a request that counts at once ends it. -/
abbrev Reading (α : Type) : Type := Except (UsageError ⊕ Request) α

/-- Ends with a usage error. -/
def misuse {α : Type} (e : UsageError) : Reading α := .error (.inl e)

/-- Takes in an option that has no value. -/
def takeFlag (p : Progress) (o : OptionName) : Reading Progress :=
  match o with
  | .help => .error (.inr .help)
  | .version => .error (.inr .version)
  | .check => .ok { p with options.check := true }
  | .verbosity => .ok { p with options.verbosity := p.options.verbosity + 1 }
  | _ => .ok p

/-- Takes in an option with its value. -/
def takeValue (p : Progress) (o : OptionName) (t : Text) : Reading Progress :=
  match o with
  | .inputFile => .ok { p with inputFile := some t }
  | .properties => .ok { p with options.propertyFile := some t }
  | .set => .ok { p with options.assignments := p.options.assignments ++ [t] }
  | .openMarker => .ok { p with options.openMarker := some t }
  | .closeMarker => .ok { p with options.closeMarker := some t }
  | .workers =>
    match Decimal.signed? t with
    | some n => .ok { p with options.workers := some n }
    | none => misuse (.noNumber o t)
  | _ => misuse (.unexpectedValue o t)

/-- The options of the letters behind the one of `o`, all of which have to be options. -/
def lettersBehind (o : OptionName) : Text → Reading (List OptionName)
  | [] => .ok []
  | c :: t =>
    match OptionName.letters.get? c with
    | some next => (lettersBehind next t).map fun more => next :: more
    | none => misuse (.unexpectedValue o (c :: t))

/-- Takes in an option without a value, and with it the letters that share its dash. -/
def takeFlags (p : Progress) (o : OptionName) : Attached → Reading Progress
  | .nothing => takeFlag p o
  | .value t => misuse (.unexpectedValue o t)
  | .letters [] => misuse (.unexpectedValue o [])
  | .letters t => do
    let more ← lettersBehind o t
    (o :: more).foldlM takeFlag p

/-- Takes in an argument that belongs to no option. -/
def takeOther (p : Progress) (t : Text) : Progress :=
  if p.directories.length < 2 then { p with directories := p.directories ++ [t] }
  else { p with rest := p.rest ++ [t] }

/-- Takes in two dashes. They are passed over as long as a directory is missing. -/
def takeSeparator (p : Progress) : Progress :=
  if p.directories.length < 2 then p else { p with rest := p.rest ++ [['-', '-']] }

/-- Reads arguments one after another. -/
def readAll (p : Progress) : List Argument → Reading Progress
  | [] => .ok p
  | .value t :: .separator :: args =>
    readAll (if p.directories.length < 2 then takeOther p t
      else takeSeparator (takeOther p t)) args
  | .value t :: args => readAll (takeOther p t) args
  | .separator :: args => readAll (takeSeparator p) args
  | .unknown t :: args => readAll { p with rest := p.rest ++ [t] } args
  | .option o attached :: args =>
    if o.takesValue then
      match attached, args with
      | .nothing, .value t :: args => do readAll (← takeValue p o t) args
      | .nothing, _ => misuse (.missingValue o)
      | .value t, args | .letters t, args => do readAll (← takeValue p o t) args
    else do readAll (← takeFlags p o attached) args

/-- What was read as a request for a job. -/
def finish (p : Progress) : Reading Request :=
  match p.directories, p.inputFile, p.rest with
  | [input, output], some inputFile, [] =>
    .ok (.job { p.options with inputFile } (Path.ofText input) (Path.ofText output))
  | [_, _], none, _ => misuse (.missing OptionName.inputFile.spelling)
  | [_, _], some _, rest => misuse (.unrecognized rest)
  | _, _, _ => misuse (.missing "inputdir, outputdir")

/-- What arguments ask for. -/
def ofArguments (ts : List Text) : Except UsageError Request :=
  match Argument.ofTexts ts with
  | .error e => .error e
  | .ok args =>
    match readAll {} args >>= finish with
    | .ok r | .error (.inr r) => .ok r
    | .error (.inl e) => .error e

end Request

end LiveSections
