import LiveSections.Program.Call
import LiveSections.Proofs.BadgeFields

/-!
# Addresses of badges

An address holds three escaped fields with one dash between neighbours. The dashes of a field stand
twice, so a run of dashes has an odd number of them if it holds one separator. But where in the run
the separator is cannot be seen.

- `DashesPaired`: texts whose dashes come in pairs, as in escaped fields.
- `joined_cases`: how two texts that are joined to one by separators can differ.
- `DashesApart`: no dash of a field comes near a separator.
- `badge_move_left`, `badge_move_right`, `badge_move_across`: dashes that can be moved.
- `badge_determines_iff`: **a badge determines its escaped fields exactly if their dashes keep apart
  from the separators.**

## What does not hold

Doubled dashes do not make all separators recoverable. A dash at the end of a field can as well
stand at the beginning of the next one, and if there is nothing between the separators, any two
dashes of the other fields can be taken for them: `badge_ambiguous`.
-/

namespace LiveSections.Markdown

/-! ## Dashes in pairs -/

/-- Texts in which dashes come in pairs. -/
inductive DashesPaired : Text → Prop where
  | nil : DashesPaired []
  | pair {t : Text} (h : DashesPaired t) : DashesPaired ('-' :: '-' :: t)
  | other {c : Char} {t : Text} (hc : c ≠ '-') (h : DashesPaired t) : DashesPaired (c :: t)

namespace DashesPaired

variable {u u' v v' w x y z : Text}

theorem tail_of_ne {c : Char} (hc : c ≠ '-') (h : DashesPaired (c :: u)) : DashesPaired u := by
  cases h with
  | pair => exact absurd rfl hc
  | other _ h => exact h

/-- A dash in front has a second one behind it. -/
theorem exists_of_cons (h : DashesPaired ('-' :: u)) : ∃ t, u = '-' :: t ∧ DashesPaired t := by
  cases h with
  | pair h => exact ⟨_, rfl, h⟩
  | other hc => exact absurd rfl hc

/-- Behind complete pairs the rest is paired as well. -/
theorem of_append (hu : DashesPaired u) (h : DashesPaired (u ++ v)) : DashesPaired v := by
  induction hu with
  | nil => exact h
  | pair _ ih =>
    obtain ⟨t, ht, hpaired⟩ := exists_of_cons h
    obtain rfl := (List.cons.inj ht).2
    exact ih hpaired
  | other hc _ ih => exact ih (tail_of_ne hc h)

/-- Text without dashes in front changes no pair. -/
theorem append_of_notMem (hu : '-' ∉ u) (hv : DashesPaired v) : DashesPaired (u ++ v) := by
  induction u with
  | nil => exact hv
  | cons c u ih =>
    rw [List.mem_cons, not_or] at hu
    exact .other (Ne.symm hu.1) (ih hu.2)

/-- Where two texts go on with a separator in one and the same text, and one is longer, it goes on
with a pair of dashes. -/
theorem exists_of_append (hu : DashesPaired u) (h : DashesPaired (u ++ v)) {t t' : Text}
    (ht : '-' :: t = v ++ '-' :: t') :
    (v = [] ∧ t = t') ∨
      ∃ w, DashesPaired w ∧ v = '-' :: '-' :: w ∧ t = '-' :: (w ++ '-' :: t') := by
  have hv := hu.of_append h
  cases v with
  | nil => exact .inl ⟨rfl, (List.cons.inj ht).2⟩
  | cons c v =>
    obtain ⟨rfl, rfl⟩ := List.cons.inj ht
    obtain ⟨w, rfl, hw⟩ := hv.exists_of_cons
    exact .inr ⟨w, hw, rfl, rfl⟩

/-- **How two texts before a separator can differ:** one of them has a pair of dashes more, which
the other leaves to the text behind the separator. -/
theorem joined_cases (hu : DashesPaired u) (hu' : DashesPaired u')
    (h : u ++ '-' :: v = u' ++ '-' :: v') :
    (u = u' ∧ v = v') ∨
      (∃ w, DashesPaired w ∧ u' = u ++ '-' :: '-' :: w ∧ v = '-' :: (w ++ '-' :: v')) ∨
      ∃ w, DashesPaired w ∧ u = u' ++ '-' :: '-' :: w ∧ v' = '-' :: (w ++ '-' :: v) := by
  rcases List.append_eq_append_iff.mp h with ⟨more, rfl, hmore⟩ | ⟨more, rfl, hmore⟩
  · rcases hu.exists_of_append hu' hmore with ⟨rfl, rfl⟩ | ⟨w, hw, rfl, rfl⟩
    · exact .inl ⟨(List.append_nil u).symm, rfl⟩
    · exact .inr (.inl ⟨w, hw, rfl, rfl⟩)
  · rcases hu'.exists_of_append hu hmore with ⟨rfl, rfl⟩ | ⟨w, hw, rfl, rfl⟩
    · exact .inl ⟨List.append_nil u', rfl⟩
    · exact .inr (.inr ⟨w, hw, rfl, rfl⟩)

/-- Between two dashes that are left over there is nothing but dashes. -/
theorem eq_dash_of_mem (hw : DashesPaired w) (h : DashesPaired ('-' :: (w ++ '-' :: y))) :
    ∀ c ∈ w, c = '-' := by
  induction hw with
  | nil => exact fun c hc => absurd hc List.not_mem_nil
  | pair _ ih =>
    obtain ⟨t, ht, hpaired⟩ := h.exists_of_cons
    obtain rfl := (List.cons.inj ht).2
    intro c hc
    simp only [List.mem_cons] at hc
    rcases hc with rfl | rfl | hc
    · rfl
    · rfl
    · exact ih hpaired c hc
  | other hc _ _ =>
    obtain ⟨t, ht, -⟩ := h.exists_of_cons
    exact absurd (List.cons.inj ht).1 hc

/-- If one text begins a dash before another, and this has more than dashes, then the separator
behind the first text lies within the second one. -/
theorem exists_of_shifted (hx : DashesPaired x) (hw : DashesPaired w) (hne : ∃ c ∈ w, c ≠ '-')
    (h : x ++ '-' :: y = '-' :: (w ++ z)) : ∃ v, DashesPaired v ∧ y = v ++ z := by
  induction hx generalizing w with
  | nil => exact ⟨w, hw, (List.cons.inj h).2⟩
  | pair _ ih =>
    have hrest := (List.cons.inj h).2
    cases hw with
    | nil =>
      obtain ⟨c, hc, -⟩ := hne
      exact absurd hc List.not_mem_nil
    | pair hw =>
      -- both go on by a pair, and are still one dash apart
      refine ih hw ?_ (List.cons.inj hrest).2
      obtain ⟨c, hc, hdash⟩ := hne
      simp only [List.mem_cons] at hc
      rcases hc with rfl | rfl | hc
      · exact absurd rfl hdash
      · exact absurd rfl hdash
      · exact ⟨c, hc, hdash⟩
    | other hc _ => exact absurd (List.cons.inj hrest).1.symm hc
  | other hc _ _ => exact absurd (List.cons.inj h).1 hc

end DashesPaired

/-! ## Dashes and separators -/

/-- Three texts with a separator between neighbours. -/
def joined (u x y : Text) : Text := u ++ '-' :: (x ++ '-' :: y)

/-- The dashes of three texts keep apart from the separators between them. -/
inductive DashesApart (u x y : Text) : Prop where
  /-- There is a text between the separators, and no dash beside either of them. -/
  | parted (hne : x ≠ []) (hleft : u.getLast? ≠ some '-') (hfront : x.head? ≠ some '-')
      (hback : x.getLast? ≠ some '-') (hright : y.head? ≠ some '-')
  /-- There is nothing between the separators, and no other dash. -/
  | dashless (hnil : x = []) (hleft : '-' ∉ u) (hright : '-' ∉ y)

/-- A text that ends with dashes only, behind a pair, ends with a dash. -/
theorem getLast?_of_dashes (t : Text) {w : Text} (h : ∀ c ∈ w, c = '-') :
    (t ++ '-' :: '-' :: w).getLast? = some '-' := by
  have hall : '-' :: '-' :: w = List.replicate (w.length + 2) '-' := by
    rw [List.replicate_succ, List.replicate_succ, ← List.eq_replicate_of_mem h]
  rw [List.getLast?_append_of_ne_nil _ (List.cons_ne_nil _ _), hall, List.getLast?_replicate,
    if_neg (Nat.succ_ne_zero _)]

/-- Texts with paired dashes that keep apart from the separators are told from what they are joined
to. -/
theorem DashesApart.of_joined_eq {u x y u' x' y' : Text} (h : DashesApart u x y)
    (hu : DashesPaired u) (hx : DashesPaired x) (hu' : DashesPaired u') (hx' : DashesPaired x')
    (hy' : DashesPaired y') (heq : joined u x y = joined u' x' y') :
    u = u' ∧ x = x' ∧ y = y' := by
  unfold joined at heq
  cases h with
  | parted hne hleft hfront hback hright =>
    obtain ⟨c, cs, hcons⟩ := List.exists_cons_of_ne_nil hne
    have hdash : c ≠ '-' := fun hc => hfront (by rw [hcons, hc]; rfl)
    rcases hu.joined_cases hu' heq with ⟨rfl, hrest⟩ | ⟨w, hw, -, hrest⟩ | ⟨w, hw, rfl, hrest⟩
    · rcases hx.joined_cases hx' hrest with ⟨rfl, rfl⟩ | ⟨w, hw, -, rfl⟩ | ⟨w, hw, rfl, rfl⟩
      · exact ⟨rfl, rfl, rfl⟩
      · exact absurd rfl hright
      · exact absurd (getLast?_of_dashes x' (hw.eq_dash_of_mem hy')) hback
    · rw [hcons] at hrest
      exact absurd (List.cons.inj hrest).1 hdash
    · -- The other text has its first separator earlier, and its second one before the end of `w`.
      have hend : ∃ c ∈ w, c ≠ '-' := by
        by_contra hall
        push Not at hall
        exact hleft (getLast?_of_dashes u' hall)
      obtain ⟨v, hv, rfl⟩ := hx'.exists_of_shifted hw hend hrest
      exact absurd (hx.eq_dash_of_mem (hv.of_append hy') c (hcons ▸ List.mem_cons_self)) hdash
  | dashless hnil hleft hright =>
    subst hnil
    rcases hu.joined_cases hu' heq with ⟨rfl, hrest⟩ | ⟨w, hw, -, hrest⟩ | ⟨w, hw, rfl, -⟩
    · rcases hx.joined_cases hx' hrest with ⟨rfl, rfl⟩ | ⟨w, hw, -, rfl⟩ | ⟨w, hw, hnil, -⟩
      · exact ⟨rfl, rfl, rfl⟩
      · exact absurd List.mem_cons_self hright
      · exact absurd (List.append_eq_nil_iff.mp hnil.symm).2 (List.cons_ne_nil _ _)
    · have hy := (List.cons.inj hrest).2
      exact absurd (hy ▸ List.mem_append_right w List.mem_cons_self) hright
    · exact absurd (List.mem_append_right u' List.mem_cons_self) hleft

/-! ## Escaped fields -/

theorem escapeChar_ne_nil (c : Char) : escapeChar c ≠ [] := by
  unfold escapeChar
  split_ifs
  iterate 4 exact List.cons_ne_nil _ _
  intro h
  have hnil := List.flatMap_eq_nil_iff.mp h
  obtain ⟨b, hb⟩ := List.exists_mem_of_ne_nil _
    (List.ne_nil_of_length_pos (String.length_utf8EncodeChar c ▸ c.utf8Size_pos))
  exact absurd (hnil b hb) (List.cons_ne_nil _ _)

theorem dash_notMem_percentByte (b : UInt8) : '-' ∉ percentByte b := by
  have hdigit : '-' ∉ "0123456789ABCDEF".toList := by decide +kernel
  have hb := b.toNat_lt
  intro h
  simp only [percentByte, List.mem_cons, List.not_mem_nil, or_false] at h
  rcases h with h | h | h
  · exact absurd h (by decide)
  · exact hdigit (h ▸ hexDigit_mem _ (by omega))
  · exact hdigit (h ▸ hexDigit_mem _ (by omega))

/-- Only a dash has dashes in its code. -/
theorem eq_dash_of_mem_escapeChar {c : Char} (h : '-' ∈ escapeChar c) : c = '-' := by
  by_contra hc
  unfold escapeChar at h
  split_ifs at h
  · exact absurd h (by decide)
  · exact absurd h (by decide)
  · exact hc (List.mem_singleton.mp h).symm
  · obtain ⟨b, -, hb⟩ := List.mem_flatMap.mp h
    exact dash_notMem_percentByte b hb

theorem badgeEscape_cons (c : Char) (t : Text) :
    badgeEscape (c :: t) = escapeChar c ++ badgeEscape t :=
  List.flatMap_cons

theorem badgeEscape_append (s t : Text) : badgeEscape (s ++ t) = badgeEscape s ++ badgeEscape t :=
  List.flatMap_append

/-- The dashes of an escaped field come in pairs. -/
theorem dashesPaired_badgeEscape (t : Text) : DashesPaired (badgeEscape t) := by
  induction t with
  | nil => exact .nil
  | cons c t ih =>
    rw [badgeEscape_cons]
    by_cases hc : c = '-'
    · subst hc
      exact .pair ih
    · exact .append_of_notMem (mt eq_dash_of_mem_escapeChar hc) ih

theorem badgeEscape_eq_nil_iff {t : Text} : badgeEscape t = [] ↔ t = [] := by
  cases t with
  | nil => exact iff_of_true rfl rfl
  | cons c t =>
    rw [badgeEscape_cons]
    exact iff_of_false (List.append_ne_nil_of_left_ne_nil (escapeChar_ne_nil c) _)
      (List.cons_ne_nil c t)

theorem dash_of_mem_badgeEscape {t : Text} (h : '-' ∈ badgeEscape t) : '-' ∈ t := by
  obtain ⟨c, hc, hdash⟩ := List.mem_flatMap.mp h
  exact eq_dash_of_mem_escapeChar hdash ▸ hc

theorem head?_of_badgeEscape {t : Text} (h : (badgeEscape t).head? = some '-') :
    t.head? = some '-' := by
  cases t with
  | nil => exact h
  | cons c t =>
    rw [badgeEscape_cons, List.head?_append_of_ne_nil _ (escapeChar_ne_nil c)] at h
    rw [List.head?_cons, eq_dash_of_mem_escapeChar (List.mem_of_head? h)]

theorem getLast?_of_badgeEscape {t : Text} (h : (badgeEscape t).getLast? = some '-') :
    t.getLast? = some '-' := by
  rcases List.eq_nil_or_concat' t with rfl | ⟨t, c, rfl⟩
  · exact h
  · rw [badgeEscape_append, badgeEscape_cons, show badgeEscape [] = [] from rfl, List.append_nil,
      List.getLast?_append_of_ne_nil _ (escapeChar_ne_nil c)] at h
    rw [List.getLast?_concat, eq_dash_of_mem_escapeChar (List.mem_of_getLast? h)]

/-- Escaping brings no dash near a separator. -/
theorem DashesApart.escaped {s t c : Text} (h : DashesApart s t c) :
    DashesApart (badgeEscape s) (badgeEscape t) (badgeEscape c) := by
  cases h with
  | parted hne hleft hfront hback hright =>
    exact .parted (mt badgeEscape_eq_nil_iff.mp hne) (mt getLast?_of_badgeEscape hleft)
      (mt head?_of_badgeEscape hfront) (mt getLast?_of_badgeEscape hback)
      (mt head?_of_badgeEscape hright)
  | dashless hnil hleft hright =>
    exact .dashless (badgeEscape_eq_nil_iff.mpr hnil) (mt dash_of_mem_badgeEscape hleft)
      (mt dash_of_mem_badgeEscape hright)

/-! ## Badges -/

variable {subject status color : Text}

/-- A badge is its escaped fields, between what all badges with its alternative text have. -/
theorem badge_eq (alt subject status color : Text) :
    badge alt subject status color =
      ('!' :: '[' :: alt ++ ']' :: '(' :: badgeSource) ++
        joined (badgeEscape subject) (badgeEscape status) (badgeEscape color) ++
          (".svg".toList ++ [')']) := by
  unfold badge image link badgeAddress joined
  generalize badgeSource = source
  generalize ".svg".toList = suffix
  simp only [List.cons_append, List.append_assoc]

theorem badge_eq_iff (alt : Text) {subject' status' color' : Text} :
    badge alt subject' status' color' = badge alt subject status color ↔
      joined (badgeEscape subject') (badgeEscape status') (badgeEscape color') =
        joined (badgeEscape subject) (badgeEscape status) (badgeEscape color) := by
  rw [badge_eq, badge_eq, List.append_left_inj, List.append_right_inj]

theorem badgeEscape_append_dash (t : Text) :
    badgeEscape (t ++ ['-']) = badgeEscape t ++ ['-', '-'] :=
  badgeEscape_append t ['-']

theorem badgeEscape_dash_cons (t : Text) : badgeEscape ('-' :: t) = '-' :: '-' :: badgeEscape t :=
  rfl

/-- A dash can be moved from the end of the subject to the beginning of the status. -/
theorem badge_move_left (alt subject status color : Text) :
    badge alt (subject ++ ['-']) status color = badge alt subject ('-' :: status) color := by
  rw [badge_eq_iff, badgeEscape_append_dash, badgeEscape_dash_cons]
  simp [joined]

/-- A dash can be moved from the end of the status to the beginning of the colour. -/
theorem badge_move_right (alt subject status color : Text) :
    badge alt subject (status ++ ['-']) color = badge alt subject status ('-' :: color) := by
  rw [badge_eq_iff, badgeEscape_append_dash, badgeEscape_dash_cons]
  simp [joined]

/-- Without a status, what stands on one side of a dash in the middle can be moved to the other side
of the separators. -/
theorem badge_move_across (alt subject more color : Text) :
    badge alt (subject ++ '-' :: more) [] color = badge alt subject [] (more ++ '-' :: color) := by
  rw [badge_eq_iff, badgeEscape_append, badgeEscape_append, badgeEscape_dash_cons,
    badgeEscape_dash_cons]
  simp [joined, show badgeEscape [] = [] from rfl]

theorem badgeEscape_append_dash_ne (s t : Text) : badgeEscape (s ++ '-' :: t) ≠ badgeEscape s := by
  rw [badgeEscape_append, badgeEscape_dash_cons]
  exact fun h => absurd (List.append_right_eq_self.mp h) (List.cons_ne_nil _ _)

/-- No other escaped fields make the same badge. -/
def Determined (alt subject status color : Text) : Prop :=
  ∀ subject' status' color', badge alt subject' status' color' = badge alt subject status color →
    badgeEscape subject' = badgeEscape subject ∧ badgeEscape status' = badgeEscape status ∧
      badgeEscape color' = badgeEscape color

/-- A badge that determines its escaped fields has no dash that can be moved. -/
theorem DashesApart.of_determined {alt : Text} (h : Determined alt subject status color) :
    DashesApart subject status color := by
  by_cases hnil : status = []
  · subst hnil
    refine .dashless rfl ?_ ?_
    · intro hdash
      obtain ⟨s, t, rfl⟩ := List.append_of_mem hdash
      exact badgeEscape_append_dash_ne s t (h _ _ _ (badge_move_across ..).symm).1.symm
    · intro hdash
      obtain ⟨s, t, rfl⟩ := List.append_of_mem hdash
      exact badgeEscape_append_dash_ne subject s (h _ _ _ (badge_move_across ..)).1
  · refine .parted hnil ?_ ?_ ?_ ?_
    · intro hdash
      obtain ⟨s, rfl⟩ := List.getLast?_eq_some_iff.mp hdash
      exact badgeEscape_append_dash_ne s [] (h _ _ _ (badge_move_left ..).symm).1.symm
    · intro hdash
      obtain ⟨t, rfl⟩ := List.head?_eq_some_iff.mp hdash
      exact badgeEscape_append_dash_ne subject [] (h _ _ _ (badge_move_left ..)).1
    · intro hdash
      obtain ⟨t, rfl⟩ := List.getLast?_eq_some_iff.mp hdash
      exact badgeEscape_append_dash_ne t [] (h _ _ _ (badge_move_right ..).symm).2.1.symm
    · intro hdash
      obtain ⟨c, rfl⟩ := List.head?_eq_some_iff.mp hdash
      exact badgeEscape_append_dash_ne status [] (h _ _ _ (badge_move_right ..)).2.1

/-- Dashes that keep apart from the separators determine where these are. -/
theorem DashesApart.determined (alt : Text) (h : DashesApart subject status color) :
    Determined alt subject status color := by
  intro subject' status' color' hsame
  have hjoined := (badge_eq_iff alt).mp hsame.symm
  obtain ⟨hsubject, hstatus, hcolor⟩ := h.escaped.of_joined_eq
    (dashesPaired_badgeEscape _) (dashesPaired_badgeEscape _) (dashesPaired_badgeEscape _)
    (dashesPaired_badgeEscape _) (dashesPaired_badgeEscape _) hjoined
  exact ⟨hsubject.symm, hstatus.symm, hcolor.symm⟩

/-- The helper function makes badges of texts, and changes no cell. -/
theorem shield_apply (alt subject status color : Text) (h : Heap) :
    ((HelperFunction.shield.apply
      [.text alt, .text subject, .text status, .text color]).run).run h =
        (.ok (badge alt subject status color), h) :=
  rfl

/-- **When a badge determines its escaped fields.** The helper function makes badges, and they are
the same for no other escaped fields exactly if the dashes of the fields keep apart from the
separators. -/
theorem badge_determines_iff (alt subject status color : Text) :
    (∀ h : Heap,
      ((HelperFunction.shield.apply
        [.text alt, .text subject, .text status, .text color]).run).run h =
          (.ok (badge alt subject status color), h)) ∧
    (Determined alt subject status color ↔ DashesApart subject status color) :=
  ⟨shield_apply alt subject status color, DashesApart.of_determined, DashesApart.determined alt⟩

/-- **A badge can have two readings:** a dash at a separator belongs to either side of it, and
without a status every dash of the subject can be taken for the separators. -/
theorem badge_ambiguous :
    (badge "v".toList "a-".toList "b".toList "c".toList =
        badge "v".toList "a".toList "-b".toList "c".toList ∧
      badgeEscape "a-".toList ≠ badgeEscape "a".toList) ∧
    badge "v".toList "a-b".toList [] "c".toList = badge "v".toList "a".toList [] "b-c".toList ∧
      badgeEscape "a-b".toList ≠ badgeEscape "a".toList := by
  decide +kernel

end LiveSections.Markdown
