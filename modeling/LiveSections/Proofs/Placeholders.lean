import LiveSections.Proofs.Occurrence
import LiveSections.Proofs.Session
import LiveSections.Template

/-!
# The placeholders of a text

Where braces run on, opening and closing pairs can be matched up in several ways. One way always
takes the first opening pair and then the shortest key, and there is just one such way.

- `Template.HoldsPlaceholder t`: an opening pair, and somewhere behind it a closing pair.
- `Template.Shortest`: each key begins at the first opening pair and ends at the first closing pair
  behind it, and no placeholder is left over.
- `Template.Meets text start keys`: going on behind each placeholder that is found, one comes to the
  keys.
- `eq_ofText_iff`: **the pieces of a text are the one leftmost-shortest way to cut it.**
- `fillM_eq_mapM`: filling in asks for the keys once each, in order, whatever the answers are.
- `ofText_leftmostShortest`: **pieces, keys and filled-in text of any text, for any answers.**
-/

namespace LiveSections.Template

open Text (EndsFirst)

/-! ## Leftmost and shortest -/

/-- An opening pair, and somewhere behind it a closing pair. -/
def HoldsPlaceholder (t : Text) : Prop :=
  ∃ before inside, t = before ++ opening ++ inside ∧ closing <:+: inside

/-- What is asked of a piece and of the placeholders behind it. -/
def ShortestFrom : Text → List (Text × Text) → Prop
  | last, [] => ¬HoldsPlaceholder last
  | lead, (key, behind) :: rest =>
    EndsFirst opening lead ∧ EndsFirst closing key ∧ ShortestFrom behind rest

/-- Each piece but the last ends before the first opening pair, each key before the first closing
pair, and the last piece holds no placeholder. -/
def Shortest (t : Template) : Prop := ShortestFrom t.lead t.holes

theorem toText_nil (lead : Text) : toText ⟨lead, []⟩ = lead := List.append_nil lead

theorem toText_cons (lead key behind : Text) (rest : List (Text × Text)) :
    toText ⟨lead, (key, behind) :: rest⟩ =
      lead ++ opening ++ key ++ closing ++ toText ⟨behind, rest⟩ := by
  simp [toText, fill]

/-! ## The first placeholder -/

theorem first?_eq_some_iff {t before key behind : Text} :
    first? t = some (before, key, behind) ↔
      EndsFirst opening before ∧ EndsFirst closing key ∧
        t = before ++ opening ++ key ++ closing ++ behind := by
  constructor
  · intro h
    have ht := first?_eq_append h
    unfold first? at h
    split at h
    · cases h
    · next b inside hb =>
      split at h
      · cases h
      · next k r hk =>
        obtain ⟨rfl, rfl, rfl⟩ : b = before ∧ k = key ∧ r = behind := by simpa using h
        exact ⟨Text.endsFirst_of_splitFirst hb, Text.endsFirst_of_splitFirst hk, ht⟩
  · rintro ⟨hb, hk, rfl⟩
    have hopen : Text.splitFirst opening (before ++ opening ++ key ++ closing ++ behind) =
        some (before, key ++ closing ++ behind) := by
      simpa only [List.append_assoc] using hb.splitFirst (key ++ closing ++ behind)
    simp only [first?, hopen, hk.splitFirst behind]

/-- If any opening pair has a closing pair behind it, the first one has. -/
theorem first?_eq_none_iff {t : Text} : first? t = none ↔ ¬HoldsPlaceholder t := by
  constructor
  · rintro h ⟨before, inside, rfl, hclose⟩
    have hinfix : opening <:+: before ++ opening ++ inside := ⟨before, inside, rfl⟩
    cases hs : Text.splitFirst opening (before ++ opening ++ inside) with
    | none => exact Text.splitFirst_eq_none_iff.mp hs hinfix
    | some cut =>
      have hsuffix : inside <:+ cut.2 := Text.isSuffix_of_splitFirst hs
      cases hk : Text.splitFirst closing cut.2 with
      | none => exact Text.splitFirst_eq_none_iff.mp hk (hclose.trans hsuffix.isInfix)
      | some key =>
        rw [first?, hs] at h
        dsimp only at h
        rw [hk] at h
        cases h
  · intro h
    cases hf : first? t with
    | none => rfl
    | some found =>
      obtain ⟨before, key, behind⟩ := found
      have ht := first?_eq_append hf
      refine absurd ⟨before, key ++ closing ++ behind, ?_, key, behind, rfl⟩ h
      simpa only [List.append_assoc] using ht

/-! ## Cutting a text -/

theorem ofText_of_none {t : Text} (h : first? t = none) : ofText t = ⟨t, []⟩ := by
  rw [ofText]
  split
  · rfl
  · next hf => cases h.symm.trans hf

theorem ofText_of_some {t before key behind : Text} (h : first? t = some (before, key, behind)) :
    ofText t = ⟨before, (key, (ofText behind).lead) :: (ofText behind).holes⟩ := by
  rw [ofText]
  split
  · next hf => cases h.symm.trans hf
  · next hf =>
    obtain ⟨rfl, hrest⟩ := Prod.mk.inj (Option.some.inj (h.symm.trans hf))
    obtain ⟨rfl, rfl⟩ := Prod.mk.inj hrest
    rfl

theorem shortest_ofText (text : Text) : (ofText text).Shortest := by
  -- on the length of the text, as the cut goes on behind each placeholder
  induction hn : text.length using Nat.strongRecOn generalizing text with
  | ind n ih =>
    cases h : first? text with
    | none =>
      rw [ofText_of_none h]
      exact first?_eq_none_iff.mp h
    | some found =>
      obtain ⟨before, key, behind⟩ := found
      obtain ⟨hb, hk, -⟩ := first?_eq_some_iff.mp h
      rw [ofText_of_some h]
      exact ⟨hb, hk, ih behind.length (hn ▸ length_lt_of_first? h) behind rfl⟩

/-- Nothing else than these pieces is found in the text that they make up. -/
theorem ofText_toText {lead : Text} {holes : List (Text × Text)} (h : ShortestFrom lead holes) :
    ofText (toText ⟨lead, holes⟩) = ⟨lead, holes⟩ := by
  induction holes generalizing lead with
  | nil =>
    rw [toText_nil]
    exact ofText_of_none (first?_eq_none_iff.mpr h)
  | cons hole rest ih =>
    obtain ⟨key, behind⟩ := hole
    obtain ⟨hlead, hkey, hrest⟩ := h
    have hfirst : first? (toText ⟨lead, (key, behind) :: rest⟩) =
        some (lead, key, toText ⟨behind, rest⟩) :=
      first?_eq_some_iff.mpr ⟨hlead, hkey, toText_cons lead key behind rest⟩
    rw [ofText_of_some hfirst, ih hrest]

/-- **The pieces of a text are the one leftmost-shortest way to cut it.** -/
theorem eq_ofText_iff {text : Text} {t : Template} :
    t = ofText text ↔ t.toText = text ∧ t.Shortest := by
  constructor
  · rintro rfl
    exact ⟨toText_ofText text, shortest_ofText text⟩
  · rintro ⟨rfl, h⟩
    exact (ofText_toText h).symm

/-! ## From placeholder to placeholder -/

/-- `Meets text start keys`: if one looks for a placeholder at or behind an offset, and goes on
behind each that is found, one comes to the keys. -/
inductive Meets (text : Text) : Nat → List Text → Prop where
  | done {start : Nat} (h : firstFrom? text start = none) : Meets text start []
  | next {start begin stop : Nat} {key : Text} {keys : List Text}
      (h : firstFrom? text start = some (begin, stop, key)) (hr : Meets text stop keys) :
      Meets text start (key :: keys)

theorem Meets.unique {text : Text} {start : Nat} {keys keys' : List Text}
    (h : Meets text start keys) (h' : Meets text start keys') : keys = keys' := by
  induction h generalizing keys' with
  | done hnone =>
    cases h' with
    | done => rfl
    | next hsome => cases hnone.symm.trans hsome
  | next hsome _ ih =>
    cases h' with
    | done hnone => cases hnone.symm.trans hsome
    | next hsome' hr' =>
      obtain ⟨-, hrest⟩ := Prod.mk.inj (Option.some.inj (hsome.symm.trans hsome'))
      obtain ⟨rfl, rfl⟩ := Prod.mk.inj hrest
      rw [ih hr']

/-- Behind any text, one comes to the keys of the text that is cut. -/
theorem meets_keys {lead : Text} {holes : List (Text × Text)} (h : ShortestFrom lead holes)
    (before : Text) :
    Meets (before ++ toText ⟨lead, holes⟩) before.length (keys ⟨lead, holes⟩) := by
  induction holes generalizing lead before with
  | nil =>
    rw [toText_nil]
    refine .done ?_
    rw [firstFrom?, List.drop_left, first?_eq_none_iff.mpr h]
    rfl
  | cons hole rest ih =>
    obtain ⟨key, behind⟩ := hole
    obtain ⟨hlead, hkey, hrest⟩ := h
    have hfirst : first? (toText ⟨lead, (key, behind) :: rest⟩) =
        some (lead, key, toText ⟨behind, rest⟩) :=
      first?_eq_some_iff.mpr ⟨hlead, hkey, toText_cons lead key behind rest⟩
    -- the next search begins where this placeholder ends
    let passed : Text := before ++ lead ++ opening ++ key ++ closing
    have htext : before ++ toText ⟨lead, (key, behind) :: rest⟩ =
        passed ++ toText ⟨behind, rest⟩ := by
      simp only [toText_cons, passed, List.append_assoc]
    have hstop : before.length + lead.length + opening.length + key.length + closing.length =
        passed.length := by
      simp only [passed, List.length_append]
    have hmore : Meets (passed ++ toText ⟨behind, rest⟩) passed.length (keys ⟨behind, rest⟩) :=
      ih hrest passed
    rw [← htext, ← hstop] at hmore
    have hfound : firstFrom? (before ++ toText ⟨lead, (key, behind) :: rest⟩) before.length =
        some (before.length + lead.length,
          before.length + lead.length + opening.length + key.length + closing.length, key) := by
      rw [firstFrom?, List.drop_left, hfirst]
      rfl
    exact .next hfound hmore

/-! ## Filling in -/

/-- The text with given texts in place of its placeholders, in order. -/
def withValues (t : Template) (values : List Text) : Text :=
  t.lead ++ (List.zipWith (fun value hole => value ++ hole.2) values t.holes).flatten

section Fill

variable {m : Type → Type} [Monad m] [LawfulMonad m]

theorem fillHolesM_eq_mapM (f : Text → m Text) (holes : List (Text × Text)) :
    fillHolesM f holes = (do
      let values ← (holes.map Prod.fst).mapM f
      return (List.zipWith (fun value hole => value ++ hole.2) values holes).flatten) := by
  induction holes with
  | nil => simp [fillHolesM]
  | cons hole rest ih =>
    obtain ⟨key, behind⟩ := hole
    rw [fillHolesM, ih, List.map_cons, List.mapM_cons]
    simp only [bind_assoc, pure_bind, List.zipWith_cons_cons, List.flatten_cons]

/-- **Filling in asks for each key once, in order,** and only then puts the text together. -/
theorem fillM_eq_mapM (f : Text → m Text) (t : Template) :
    t.fillM f = (do
      let values ← t.keys.mapM f
      return t.withValues values) := by
  rw [fillM, fillHolesM_eq_mapM]
  simp only [bind_assoc, pure_bind, keys, withValues]

end Fill

/-- The values of a function of the key. -/
theorem withValues_map (f : Text → Text) (t : Template) : t.withValues (t.keys.map f) = t.fill f := by
  have hholes (holes : List (Text × Text)) :
      (List.zipWith (fun value hole => value ++ hole.2) ((holes.map Prod.fst).map f)
        holes).flatten = holes.flatMap fun hole => f hole.1 ++ hole.2 := by
    induction holes with
    | nil => rfl
    | cons hole rest ih =>
      rw [List.map_cons, List.map_cons, List.zipWith_cons_cons, List.flatten_cons, ih,
        List.flatMap_cons]
  exact congrArg (t.lead ++ ·) (hholes t.holes)

/-- The answers of a function of the key, each with a note of the key that was asked for. -/
def noting (f : Text → Text) (key : Text) : Session (List Text) Empty Text :=
  fun asked => ⟨asked ++ [key], [], .ok (f key)⟩

theorem run_mapM_noting (f : Text → Text) (keys asked : List Text) :
    (keys.mapM (noting f)).run asked = ⟨asked ++ keys, [], .ok (keys.map f)⟩ := by
  induction keys generalizing asked with
  | nil =>
    rw [List.append_nil]
    rfl
  | cons key keys ih =>
    have hkey (g : Text → Session (List Text) Empty (List Text)) :
        (noting f key >>= g).run asked = (g (f key)).run (asked ++ [key]) := rfl
    have hkeys : ((keys.mapM (noting f)).run (asked ++ [key])).result = .ok (keys.map f) := by
      rw [ih]
    rw [List.mapM_cons, hkey, Session.run_bind_of_ok hkeys, ih]
    simp

/-- Of answers that hang on nothing but the key, filling in makes the text that they give, and every
placeholder is noted. -/
theorem run_fillM_noting (f : Text → Text) (t : Template) (asked : List Text) :
    (t.fillM (noting f)).run asked = ⟨asked ++ t.keys, [], .ok (t.fill f)⟩ := by
  have hkeys : ((t.keys.mapM (noting f)).run asked).result = .ok (t.keys.map f) := by
    rw [run_mapM_noting]
  rw [fillM_eq_mapM, Session.run_bind_of_ok hkeys, run_mapM_noting, withValues_map]
  simp

/-- **A text has one leftmost-shortest cut.** Its keys are met in a scan that goes on behind each
placeholder. Filled in, the text is the pieces with the answers between them; each key is asked for
once, in order, and no answer is searched for placeholders. With its own placeholders filled in the
text is as before. -/
theorem ofText_leftmostShortest (text : Text) :
    ∃ t : Template,
      (∀ t' : Template, t'.toText = text ∧ t'.Shortest ↔ t' = t) ∧
      (ofText text).keys = t.keys ∧
      (∀ keys, Meets text 0 keys ↔ keys = t.keys) ∧
      (∀ f : Text → Text, (ofText text).fill f =
        t.lead ++ (t.holes.map fun hole => f hole.1 ++ hole.2).flatten) ∧
      (∀ (σ ε : Type) (f : Text → Session σ ε Text), (ofText text).fillM f = (do
        let values ← t.keys.mapM f
        return t.withValues values)) ∧
      (∀ (f : Text → Text) (asked : List Text), ((ofText text).fillM (noting f)).run asked =
        ⟨asked ++ t.keys, [], .ok ((ofText text).fill f)⟩) ∧
      (ofText text).fill (fun key => opening ++ key ++ closing) = text := by
  have hmeets : Meets ([] ++ (ofText text).toText) 0 (ofText text).keys :=
    meets_keys (shortest_ofText text) []
  rw [List.nil_append, toText_ofText] at hmeets
  refine ⟨ofText text, fun t' => eq_ofText_iff.symm, rfl, ?_, ?_, ?_, ?_, toText_ofText text⟩
  · intro keys
    constructor
    · exact fun h => h.unique hmeets
    · rintro rfl
      exact hmeets
  · intro f
    rw [fill, List.flatMap_def]
  · exact fun σ ε f => fillM_eq_mapM f (ofText text)
  · exact fun f asked => run_fillM_noting f (ofText text) asked

/-- Of three braces in a row the first two open, and the first two close. -/
example : ofText "\x7b\x7b\x7ba\x7d\x7d\x7d".toList = ⟨[], [("\x7ba".toList, "\x7d".toList)]⟩ := by
  decide +kernel

end LiveSections.Template
