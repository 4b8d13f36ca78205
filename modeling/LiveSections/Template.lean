import LiveSections.Text.Basic

/-!
# Placeholders

A program may hold placeholders: a key between double braces, the shortest text between an opening
and the next closing pair. An opening pair without a closing pair behind it is ordinary text.

- `Template`: the text before the first placeholder, and for each placeholder its key and the text
  up to the next one.
- `Template.ofText`: the pieces of a text.
- `Template.keys`: its keys, in order.
- `Template.fillM`: the text with each key replaced, asking for the keys in order.
- `ofText_toText`: **the pieces make up the text.**
-/

namespace LiveSections

/-- A text cut at its placeholders. -/
structure Template where
  lead : Text
  holes : List (Text × Text)
  deriving DecidableEq, Repr

namespace Template

/-- Two opening braces. -/
def opening : Text := ['\x7b', '\x7b']

/-- Two closing braces. -/
def closing : Text := ['\x7d', '\x7d']

/-- The first placeholder of a text: what stands before it, its key, and what lies behind. -/
def first? (t : Text) : Option (Text × Text × Text) :=
  match Text.splitFirst opening t with
  | none => none
  | some (before, inside) =>
    match Text.splitFirst closing inside with
    | none => none
    | some (key, behind) => some (before, key, behind)

/-- The first placeholder at or behind an offset: where it begins, where it ends, its key. -/
def firstFrom? (t : Text) (start : Nat) : Option (Nat × Nat × Text) :=
  (first? (t.drop start)).map fun (before, key, _) =>
    let begin := start + before.length
    (begin, begin + opening.length + key.length + closing.length, key)

theorem first?_eq_append {t before key behind : Text} (h : first? t = some (before, key, behind)) :
    t = before ++ opening ++ key ++ closing ++ behind := by
  unfold first? at h
  split at h
  · simp at h
  · next b inside hb =>
    split at h
    · simp at h
    · next k r hk =>
      obtain ⟨rfl, rfl, rfl⟩ : b = before ∧ k = key ∧ r = behind := by simpa using h
      simp [Text.splitFirst_eq_append hb, Text.splitFirst_eq_append hk]

theorem length_lt_of_first? {t before key behind : Text}
    (h : first? t = some (before, key, behind)) : behind.length < t.length := by
  have := congrArg List.length (first?_eq_append h)
  simp [opening] at this
  omega

/-- Cuts a text at its placeholders. -/
def ofText (t : Text) : Template :=
  match _h : first? t with
  | none => ⟨t, []⟩
  | some (before, key, behind) =>
    let rest := ofText behind
    ⟨before, (key, rest.lead) :: rest.holes⟩
termination_by t.length
decreasing_by exact length_lt_of_first? _h

/-- The keys of all placeholders, in order of appearance. -/
def keys (t : Template) : List Text := t.holes.map Prod.fst

section Fill

variable {m : Type → Type} [Monad m]

/-- The text from the first hole on, each key replaced by what `f` gives for it. -/
def fillHolesM (f : Text → m Text) : List (Text × Text) → m Text
  | [] => pure []
  | (key, behind) :: rest => do
    let value ← f key
    let tail ← fillHolesM f rest
    return value ++ behind ++ tail

/-- The text with each key replaced by what `f` gives for it, asked for from left to right. -/
def fillM (f : Text → m Text) (t : Template) : m Text := do
  return t.lead ++ (← fillHolesM f t.holes)

end Fill

/-- The text with each key replaced by a function of it. -/
def fill (f : Text → Text) (t : Template) : Text :=
  t.lead ++ t.holes.flatMap fun (key, behind) => f key ++ behind

/-- A template as the text it was cut from. -/
def toText (t : Template) : Text := t.fill fun key => opening ++ key ++ closing

/-- **The pieces of a text make up the text.** -/
theorem toText_ofText (t : Text) : (ofText t).toText = t := by
  induction hn : t.length using Nat.strongRecOn generalizing t with
  | ind n ih =>
    unfold ofText
    split
    · simp [toText, fill]
    · next before key behind h =>
      have := ih behind.length (hn ▸ length_lt_of_first? h) behind rfl
      simp only [toText, fill] at this
      simpa [toText, fill, first?_eq_append h] using this

end Template

end LiveSections
