import LiveSections.Files.Tree
import LiveSections.Properties.Basic
import LiveSections.Text.Newline
import LiveSections.Text.Utf8
import LiveSections.Yaml.Content

/-!
# Property files

A property file is a YAML mapping. Its keys become texts once they are typed, so `1` and `'1'` are
one key; a later entry of a key gives its value, the first one its place.

- `PropertyFileError`: why a file gives no properties.
- `Properties.ofFile`: the properties of a file.
-/

namespace LiveSections

/-- Why a file gives no properties. -/
inductive PropertyFileError where
  | unreadable (e : FileError)
  | undecodable (e : Utf8.DecodeError)
  | malformed (path : Path) (f : Yaml.Fault)
  /-- A scalar stands for something that does not exist. -/
  | noValue (f : Yaml.ValueFault)
  /-- A key is an integer with more digits than are written. -/
  | tooManyDigits
  | noMapping (path : Path) (type : String)
  /-- The file asks for something that is not modelled, so nothing is said of it. -/
  | unmodelled (u : Unmodelled)
  deriving DecidableEq, Repr

namespace PropertyFileError

/-- The words of an error. -/
def message : PropertyFileError → String
  | unreadable e =>
    if e.fault.number?.isSome then s!"Cannot read property file {e.path.str}: {e.message}"
    else e.message
  | undecodable e => e.message
  | malformed path f => s!"Invalid YAML in property file {path.str}: {f.message}"
  | noValue f => f.message
  | tooManyDigits => TooManyDigits.message
  | noMapping path type => s!"Property file {path.str} must contain a mapping, got {type}"
  | unmodelled u => u.message

/-- Whether an error is reported as one of the property file. -/
def isReported : PropertyFileError → Bool
  | unreadable e => e.fault.number?.isSome
  | undecodable _ | noValue _ | tooManyDigits | unmodelled _ => false
  | _ => true

end PropertyFileError

theorem mapError_eq_ok_iff {ε ε' α : Type} {x : Except ε α} {f : ε → ε'} {a : α} :
    x.mapError f = .ok a ↔ x = .ok a := by
  cases x with
  | error e => constructor <;> intro h <;> cases h
  | ok b => exact ⟨fun h => congrArg Except.ok (Except.ok.inj h), fun h => congrArg _ h⟩

namespace Properties

/-- Entries with their keys as texts. -/
def ofEntries (h : Heap) (es : List (Value × Value)) : Except TooManyDigits Properties :=
  Table.putAll [] <$> es.mapM fun e => return ((← h.display e.1), e.2)

/-- The properties of a value that was read from a file. -/
def ofValue (path : Path) (h : Heap) : Value → Except PropertyFileError Properties
  | .none => .ok []
  | .dict r => (ofEntries h (h.entries r)).mapError fun _ => .tooManyDigits
  | v => .error (.noMapping path v.typeName)

theorem ofValue_ok_iff {path : Path} {h : Heap} {v : Value} {p : Properties} :
    ofValue path h v = .ok p ↔
      v = .none ∧ p = [] ∨ ∃ r, v = .dict r ∧ ofEntries h (h.entries r) = .ok p := by
  cases v
  case none => simp [ofValue, eq_comm]
  case dict r => simp [ofValue, mapError_eq_ok_iff]
  all_goals simp [ofValue]

/-- The properties of a text. -/
def ofYaml (path : Path) (t : Text) (h : Heap) : Except PropertyFileError (Heap × Properties) :=
  match Yaml.load t h with
  | .error (.malformed f) => .error (.malformed path f)
  | .error (.noValue f) => .error (.noValue f)
  | .error (.unmodelled u) => .error (.unmodelled u)
  | .ok (h, v) => (ofValue path h v).map (h, ·)

theorem ofYaml_ok_iff {path : Path} {t : Text} {h h' : Heap} {p : Properties} :
    ofYaml path t h = .ok (h', p) ↔
      ∃ v, Yaml.load t h = .ok (h', v) ∧ ofValue path h' v = .ok p := by
  unfold ofYaml
  rcases Yaml.load t h with (f | f | u) | ⟨h₁, v⟩
  · simp
  · simp
  · simp
  · dsimp only
    cases hv : ofValue path h₁ v with
    | error e =>
      constructor
      · rintro ⟨⟩
      · rintro ⟨_, ⟨⟩, hp⟩
        cases hv.symm.trans hp
    | ok p₁ =>
      constructor
      · rintro ⟨⟩
        exact ⟨v, rfl, hv⟩
      · rintro ⟨_, ⟨⟩, hp⟩
        obtain rfl := Except.ok.inj (hv.symm.trans hp)
        rfl

/-- The properties of a file. -/
def ofFile (tree : FileTree) (path : Path) (h : Heap) :
    Except PropertyFileError (Heap × Properties) := do
  let bytes ← (tree.read path).mapError .unreadable
  let t ← (Utf8.decode bytes).mapError .undecodable
  ofYaml path (Text.unified t) h

end Properties

end LiveSections
