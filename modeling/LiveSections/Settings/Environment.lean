import LiveSections.Table
import LiveSections.Text.Blank
import LiveSections.Text.LetterCase
import LiveSections.Text.Newline

/-!
# Environments

Variables by name. A file describes variables as well, one binding after another:
`NAME=value`, perhaps with the word `export` before it and a comment behind it. Values between
quotes may go on over lines. What is no binding is passed over up to the end of its line. Inside a
value `$` and a name between braces stand for another variable.

- `Environment.ofVariables`: the variables of an environment, the case of whose names does not
  matter.
- `Binding.all`: the bindings of a file.
- `ValuePart.all`: the parts of a value.
- `Environment.ofBindings`: what bindings say in an environment.
-/

namespace LiveSections

/-- Values of variables by their names in small letters. A file can name a variable without giving
it a value. -/
abbrev Environment : Type := Table Text (Option Text)

/-! ## Bindings -/

/-- A name that a file binds to a value, or to none. -/
structure Binding where
  name : Text
  value : Option Text
  deriving DecidableEq, Repr

namespace Binding

/-- Reads from a text: what was read and what is left, or what is left where reading fails. -/
abbrev Reading (α : Type) : Type := Except Text (α × Text)

/-- Whether a character is a blank inside a line. -/
def isGap (c : Char) : Bool := Text.isBlank c && c ≠ '\n'

/-- A text without its first blanks, inside a line. -/
def skipGap (t : Text) : Text := t.dropWhile isGap

/-- What is left of a text from the end of its line on. -/
def lineEnd (t : Text) : Text := t.dropWhile (· ≠ '\n')

/-- A binding without the word that hands its variable on. -/
def skipExport (t : Text) : Text :=
  match Text.dropLead? "export".toList t with
  | some (c :: rest) => if isGap c then skipGap rest else t
  | _ => t

/-- Whether a character can be part of a name without quotes. -/
def isNamePart (c : Char) : Bool := c ≠ '=' && c ≠ '#' && !Text.isBlank c

/-- Reads a name; before a comment there is none. -/
def readName (t : Text) : Reading (Option Text) :=
  match t with
  | '#' :: _ => .ok (none, t)
  | '\'' :: inside =>
    let name := inside.takeWhile (· ≠ '\'')
    match inside.dropWhile (· ≠ '\'') with
    | _ :: rest => if name.isEmpty then .error t else .ok (some name, rest)
    | [] => .error t
  | t =>
    let name := t.takeWhile isNamePart
    if name.isEmpty then .error t else .ok (some name, t.dropWhile isNamePart)

/-- The characters that a backslash stands before between single quotes and between double
quotes, with what they then stand for. -/
def singleEscapes : Table Char Char := [('\\', '\\'), ('\'', '\'')]
def doubleEscapes : Table Char Char :=
  [('\\', '\\'), ('\'', '\''), ('"', '"'), ('a', '\x07'), ('b', '\x08'), ('f', '\x0c'),
   ('n', '\n'), ('r', '\r'), ('t', '\t'), ('v', '\x0b')]

/-- A text with its escapes replaced. -/
def unescaped (escapes : Table Char Char) : Text → Text
  | '\\' :: c :: t =>
    match escapes.get? c with
    | some d => d :: unescaped escapes t
    | none => '\\' :: unescaped escapes (c :: t)
  | c :: t => c :: unescaped escapes t
  | [] => []

/-- The text up to the closing quote, before which no backslash stands that is not behind another
one, and what follows it. -/
def closing? (quote : Char) : Text → Option (Text × Text)
  | [] => none
  | '\\' :: c :: t => (closing? quote t).map fun r => ('\\' :: c :: r.1, r.2)
  | c :: t =>
    if c = quote then some ([], t) else (closing? quote t).map fun r => (c :: r.1, r.2)

/-- A value without quotes, up to a comment that has a blank before it. -/
def bareValue : Text → Text
  | [] => []
  | c :: t =>
    if Text.isBlank c && (t.dropWhile Text.isBlank).head? == some '#' then []
    else c :: bareValue t

/-- Reads a value, between quotes or up to the end of the line. -/
def readValue (t : Text) : Reading Text :=
  let quoted (quote : Char) (escapes : Table Char Char) (inside : Text) : Reading Text :=
    match closing? quote inside with
    | some (value, rest) => .ok (unescaped escapes value, rest)
    | none => .error t
  match skipGap t with
  | '\'' :: inside => quoted '\'' singleEscapes inside
  | '"' :: inside => quoted '"' doubleEscapes inside
  | _ => .ok (Text.strip (bareValue (t.takeWhile (· ≠ '\n'))), lineEnd t)

/-- Reads what may stand behind an equals sign, which may be missing. -/
def readMeaning (t : Text) : Reading (Option Text) :=
  match skipGap t with
  | '=' :: t => (readValue t).map fun (value, rest) => (some value, rest)
  | t => .ok (none, t)

/-- Reads the end of a line, before which a comment may stand. -/
def readLineEnd (t : Text) : Reading Unit :=
  let behind := match skipGap t with
    | '#' :: rest => lineEnd rest
    | rest => rest
  match behind with
  | [] => .ok ((), [])
  | '\n' :: rest => .ok ((), rest)
  | rest => .error rest

/-- Reads a binding up to the end of its line. A line with a comment only holds none. -/
def read (t : Text) : Except Text (Option Binding × Text) := do
  let (name, t) ← readName (skipExport t)
  let (value, t) ← readMeaning t
  let ((), t) ← readLineEnd t
  return (name.map fun name => ⟨name, value⟩, t)

/-- Reads bindings one after another. Each line makes the text shorter, which bounds the number of
steps. -/
def readAll : Nat → Text → List Binding
  | 0, _ => []
  | steps + 1, t =>
    match t.dropWhile Text.isBlank with
    | [] => []
    | t =>
      match read t with
      | .ok (binding, rest) => binding.toList ++ readAll steps rest
      | .error rest => readAll steps ((lineEnd rest).drop 1)

/-- The bindings of a file, before whose text a byte order mark may stand. -/
def all (t : Text) : List Binding :=
  let t := Text.unified (if t.head? = some '\ufeff' then t.drop 1 else t)
  readAll t.length t

end Binding

/-! ## Values -/

/-- A part of a value. -/
inductive ValuePart where
  | character (c : Char)
  /-- Another variable, and what stands for it if there is none. -/
  | reference (name default : Text)
  deriving DecidableEq, Repr

namespace ValuePart

/-- Reads the name of a variable and its default up to the closing brace. -/
def readReference? (t : Text) : Option (ValuePart × Text) :=
  let isName (c : Char) : Bool := c ≠ '\x7d' && c ≠ ':'
  let name := t.takeWhile isName
  match t.dropWhile isName with
  | '\x7d' :: rest => some (reference name [], rest)
  | ':' :: '-' :: t =>
    match t.dropWhile (· ≠ '\x7d') with
    | _ :: rest => some (reference name (t.takeWhile (· ≠ '\x7d')), rest)
    | [] => none
  | _ => none

theorem length_lt_of_readReference? {t rest : Text} {p : ValuePart}
    (h : readReference? t = some (p, rest)) : rest.length < t.length := by
  have dropped (q : Char → Bool) (u : Text) : (u.dropWhile q).length ≤ u.length :=
    (List.dropWhile_sublist q).length_le
  simp only [readReference?] at h
  split at h
  · next r hr =>
    obtain ⟨-, rfl⟩ := Prod.mk.inj (Option.some.inj h)
    have inside : ('\x7d' :: r).length ≤ t.length := by rw [← hr]; exact dropped _ t
    exact Nat.lt_of_succ_le inside
  · next u hu =>
    have inside : (':' :: '-' :: u).length ≤ t.length := by rw [← hu]; exact dropped _ t
    split at h
    · next c r hr =>
      obtain ⟨-, rfl⟩ := Prod.mk.inj (Option.some.inj h)
      have further : (c :: r).length ≤ u.length := by rw [← hr]; exact dropped _ u
      simp only [List.length_cons] at inside further
      omega
    · simp at h
  · simp at h

/-- The parts of a value. -/
def all : Text → List ValuePart
  | [] => []
  | '$' :: '\x7b' :: t =>
    match _h : readReference? t with
    | some (part, rest) => part :: all rest
    | none => character '$' :: all ('\x7b' :: t)
  | c :: t => character c :: all t
termination_by t => t.length
decreasing_by
  · have := length_lt_of_readReference? _h
    simp only [List.length_cons]
    omega
  · exact Nat.lt_succ_self _
  · exact Nat.lt_succ_self _

/-- The variable that a part names. -/
def name? : ValuePart → Option Text
  | character _ => none
  | reference name _ => some name

/-- The text of a part where `lookup` tells the values of variables. -/
def text (lookup : Text → Option Text) : ValuePart → Text
  | character c => [c]
  | reference name default => (lookup name).getD default

end ValuePart

/-! ## Environments -/

namespace Environment

/-- An environment; of two names that differ in case only the later one counts. -/
def ofNamed (vs : List (Text × Option Text)) : Environment :=
  Table.putAll [] (vs.map fun v => (Text.lower v.1, v.2))

/-- The environment of variables. -/
def ofVariables (vs : List (Text × Text)) : Environment :=
  ofNamed (vs.map fun v => (v.1, some v.2))

/-- The bindings with what their values stand for: a variable stands for what the bindings before
say, and otherwise for its value in the environment. -/
def resolve (outside : Text → Option Text) (bindings : List Binding) : Table Text (Option Text) :=
  bindings.foldl
    (fun known b =>
      let lookup (name : Text) : Option Text :=
        match known.get? name with
        | some value => some (value.getD [])
        | none => outside name
      known.put b.name (b.value.map fun v => (ValuePart.all v).flatMap (ValuePart.text lookup)))
    []

/-- The value of a variable that has one. -/
def text? (e : Environment) (name : Text) : Option Text := (Table.get? name e).join

/-- What bindings say in an environment. -/
def ofBindings (outside : Text → Option Text) (bindings : List Binding) : Environment :=
  ofNamed (resolve outside bindings)

/-- The variables that values of bindings name. -/
def namesWithin (bindings : List Binding) : List Text :=
  bindings.flatMap fun b => (ValuePart.all (b.value.getD [])).filterMap ValuePart.name?

end Environment

end LiveSections
