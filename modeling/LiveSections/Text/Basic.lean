/-!
# Texts and first occurrences

A text is a list of characters, so every offset, span and length in the library counts
characters. All scanners are built on one operation, the split at a first occurrence.

- `Text.splitFirst pat t`: the text before and the text behind the first occurrence of `pat`.
- `Text.replaceAll pat new t`: every occurrence replaced, found from left to right.
- `Text.trim p t`: both ends cleared of the characters in `p`.
- `splitFirst_eq_append`: **nothing is lost by a split**; `length_lt_of_splitFirst` is the progress
  that lets a scanner go on with what lies behind a match.
-/

namespace LiveSections

/-- A text as the list of its characters. -/
abbrev Text := List Char

namespace Text

/-- The text as a string, for messages. -/
abbrev str (t : Text) : String := String.ofList t

/-! ## Taking off a known beginning -/

/-- What is left of `t` once `lead` is taken off its front, if it starts with `lead`. -/
def dropLead? : (lead t : Text) → Option Text
  | [], t => some t
  | _ :: _, [] => none
  | c :: lead, d :: t => if c = d then dropLead? lead t else none

theorem dropLead?_eq_some {lead t rest : Text} :
    dropLead? lead t = some rest ↔ t = lead ++ rest := by
  induction lead generalizing t with
  | nil => simp [dropLead?, eq_comm]
  | cons c cs ih =>
    cases t with
    | nil => simp [dropLead?]
    | cons x xs =>
      by_cases h : c = x
      · subst h
        simpa [dropLead?] using ih
      · simp [dropLead?, h, Ne.symm h]

@[simp] theorem dropLead?_append (lead rest : Text) :
    dropLead? lead (lead ++ rest) = some rest :=
  dropLead?_eq_some.mpr rfl

/-! ## The first occurrence -/

/-- The text before and the text behind the first occurrence of `pat`. -/
def splitFirst (pat : Text) : Text → Option (Text × Text)
  | [] => if pat.isEmpty then some ([], []) else none
  | c :: cs =>
    match dropLead? pat (c :: cs) with
    | some rest => some ([], rest)
    | none => (splitFirst pat cs).map fun s => (c :: s.1, s.2)

/-- A split keeps every character: before, match and behind make up the text. -/
theorem splitFirst_eq_append {pat t before behind : Text}
    (h : splitFirst pat t = some (before, behind)) : t = before ++ pat ++ behind := by
  induction t generalizing before with
  | nil =>
    unfold splitFirst at h
    split at h
    · next hp =>
      obtain ⟨rfl, rfl⟩ : before = [] ∧ behind = [] := by simpa [eq_comm] using h
      simpa using hp
    · simp at h
  | cons c cs ih =>
    unfold splitFirst at h
    split at h
    · next rest hr =>
      obtain ⟨rfl, rfl⟩ : before = [] ∧ behind = rest := by simpa [eq_comm] using h
      simpa using dropLead?_eq_some.mp hr
    · obtain ⟨⟨b, r⟩, hs, he⟩ := Option.map_eq_some_iff.mp h
      obtain ⟨rfl, rfl⟩ : c :: b = before ∧ r = behind := by simpa using he
      simp [ih hs]

/-- What lies behind a match is shorter than the text, by at least the match. -/
theorem length_lt_of_splitFirst {pat t before behind : Text}
    (h : splitFirst pat t = some (before, behind)) (hp : pat ≠ []) :
    behind.length < t.length := by
  have hpos : 0 < pat.length := List.length_pos_iff.mpr hp
  have := congrArg List.length (splitFirst_eq_append h)
  simp only [List.length_append] at this
  omega

/-- Whether `pat` occurs in the text at all. -/
def contains (pat t : Text) : Bool := (splitFirst pat t).isSome

/-! ## Replacing every occurrence -/

/-- Replaces at most `n` occurrences of `pat`, found from left to right; what is put in is never
searched again. -/
def replaceFirst (n : Nat) (pat new t : Text) : Text :=
  match n with
  | 0 => t
  | n + 1 =>
    match splitFirst pat t with
    | none => t
    | some (before, behind) => before ++ new ++ replaceFirst n pat new behind

/-- Replaces every occurrence of a non-empty `pat`. A text has no more occurrences than
characters, so its length bounds their number. -/
def replaceAll (pat new t : Text) : Text := replaceFirst t.length pat new t

/-! ## Ends, lines and joins -/

/-- Clears both ends of the characters for which `p` holds. -/
def trim (p : Char → Bool) (t : Text) : Text :=
  ((t.dropWhile p).reverse.dropWhile p).reverse

/-- The number of line feeds. -/
def lineFeeds (t : Text) : Nat := t.count '\n'

/-- The texts one after another with `sep` between neighbours. -/
def join (sep : Text) : List Text → Text
  | [] => []
  | [t] => t
  | t :: ts => t ++ sep ++ join sep ts

/-- The pieces between the occurrences of the character `sep`. -/
def splitOn (sep : Char) : Text → List Text
  | [] => [[]]
  | c :: cs =>
    if c = sep then [] :: splitOn sep cs
    else match splitOn sep cs with
      | [] => [[c]]
      | t :: ts => (c :: t) :: ts

end Text

end LiveSections
