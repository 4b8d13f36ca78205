import LiveSections.Proofs.Grammar

/-!
# Passing over previous output

The scan for a closing tag goes from open-marker to open-marker. One that has no slash behind it is
passed over, and the scan goes on behind it.

- `ClosingTagAhead d t`: a closing tag begins at the front of `t`.
- `PassedOver d tag t`: the open-markers of `t`, taken one behind the other, are passed over, and
  the next one is that of `tag`.
- `findClosingTag_eq_some_iff`, `findClosingTag_eq_none_iff`: what the scan finds, and when it finds
  nothing.
- `Section.Formed.sealed_iff`: **a formed section is sealed exactly if its output is passed over.**
- `Text.Unbordered.passedOver`: for an open-marker that does not overlap itself, it is enough that no
  closing tag begins in the text.
-/

namespace LiveSections

variable {d : Delimiters}

/-! ## Beginnings of closing tags -/

/-- A slash, or a blank and a slash, comes first. -/
def SlashAhead (t : Text) : Prop := ['/'] <+: t ∨ [' ', '/'] <+: t

/-- An open-marker comes first, and behind it a slash with at most one blank before it. -/
def ClosingTagAhead (d : Delimiters) (t : Text) : Prop :=
  d.opening ++ ['/'] <+: t ∨ d.opening ++ [' ', '/'] <+: t

instance (t : Text) : Decidable (SlashAhead t) :=
  inferInstanceAs (Decidable (['/'] <+: t ∨ [' ', '/'] <+: t))

instance (d : Delimiters) (t : Text) : Decidable (ClosingTagAhead d t) :=
  inferInstanceAs (Decidable (d.opening ++ ['/'] <+: t ∨ d.opening ++ [' ', '/'] <+: t))

theorem closingTagAhead_iff {rest : Text} :
    ClosingTagAhead d (d.opening ++ rest) ↔ SlashAhead rest := by
  simp only [ClosingTagAhead, SlashAhead, List.prefix_append_right_inj]

theorem closingSlash?_eq_none_iff {t : Text} : closingSlash? t = none ↔ ¬SlashAhead t := by
  constructor
  · rintro h (⟨rest, rfl⟩ | ⟨rest, rfl⟩) <;> cases h
  · intro h
    cases hc : closingSlash? t with
    | none => rfl
    | some found =>
      obtain ⟨rfl, hslash⟩ := closingSlash?_eq_some hc
      rcases hslash with hslash | hslash
      · exact absurd (.inl ⟨found.2, by rw [hslash]⟩) h
      · exact absurd (.inr ⟨found.2, by rw [hslash]⟩) h

/-! ## The scan as a relation -/

/-- `PassedOver d tag t`: a scan for a closing tag passes over `t` and comes to `tag`, which stands
right behind. -/
inductive PassedOver (d : Delimiters) (tag : Text) : Text → Prop where
  /-- The next open-marker is the one that the tag begins with. -/
  | clear {t : Text} (h : Text.EndsFirst d.opening t) : PassedOver d tag t
  /-- The next open-marker begins no closing tag, and the rest is passed over. -/
  | skip {before rest : Text} (hb : Text.EndsFirst d.opening before)
      (hs : ¬SlashAhead (rest ++ tag)) (hr : PassedOver d tag rest) :
      PassedOver d tag (before ++ d.opening ++ rest)

/-- The scan stops right behind a text exactly if the text is passed over. -/
theorem findClosingTag_before_iff {tag slash more t : Text}
    (hslash : slash = ['/'] ∨ slash = [' ', '/']) (htag : tag = d.opening ++ slash ++ more) :
    (findClosingTag d (t ++ tag)).map ClosingTagSite.before = some t ↔ PassedOver d tag t := by
  constructor
  · intro h
    -- on the length of the text, as the scan recurses
    induction hn : t.length using Nat.strongRecOn generalizing t with
    | ind n ih =>
      obtain ⟨site, hfind, hsite⟩ := Option.map_eq_some_iff.mp h
      obtain ⟨before, behind, hs, ⟨-, hb⟩ | ⟨site', hc, hf, rfl⟩⟩ := findClosingTag_cases hfind
      · rw [← hsite, hb]
        exact .clear (Text.endsFirst_of_splitFirst hs)
      · have ht : before ++ d.opening ++ site'.before = t := hsite
        have hbehind : behind = site'.before ++ tag := by
          have hwhole := Text.splitFirst_eq_append hs
          rw [← ht, List.append_assoc (before ++ d.opening)] at hwhole
          exact (List.append_cancel_left hwhole).symm
        rw [hbehind] at hc hf
        have hlt : site'.before.length < n := by
          have hpos := List.length_pos_iff.mpr d.opening_ne_nil
          rw [← hn, ← ht]
          simp only [List.length_append]
          omega
        rw [← ht]
        refine .skip (Text.endsFirst_of_splitFirst hs) (closingSlash?_eq_none_iff.mp hc) ?_
        exact ih site'.before.length hlt (by rw [hf]; rfl) rfl
  · intro h
    induction h with
    | @clear t h =>
      have hs : Text.splitFirst d.opening (t ++ tag) = some (t, slash ++ more) := by
        rw [htag, List.append_assoc d.opening, ← List.append_assoc t]
        exact h.splitFirst _
      rw [findClosingTag_of_slash hs (closingSlash?_of_slash hslash more)]
      rfl
    | @skip before rest hb hs _ ih =>
      obtain ⟨site, hfind, hsite⟩ := Option.map_eq_some_iff.mp ih
      have hsplit : Text.splitFirst d.opening (before ++ d.opening ++ rest ++ tag) =
          some (before, rest ++ tag) := by
        rw [List.append_assoc (before ++ d.opening)]
        exact hb.splitFirst _
      rw [findClosingTag_of_skip hsplit (closingSlash?_eq_none_iff.mpr hs), hfind]
      simp only [Option.map_some, hsite]

/-- A slash can stand behind an open-marker in one way only. -/
theorem slash_unique {slash slash' t : Text} (h : slash = ['/'] ∨ slash = [' ', '/'])
    (h' : slash' = ['/'] ∨ slash' = [' ', '/']) (hp : slash <+: t) (hp' : slash' <+: t) :
    slash = slash' := by
  obtain ⟨rest, rfl⟩ := hp
  obtain ⟨rest', ht⟩ := hp'
  rcases h with rfl | rfl <;> rcases h' with rfl | rfl <;> simp_all

/-- **What the scan finds is a closing tag, with a text before it that is passed over.** -/
theorem findClosingTag_eq_some_iff {t : Text} {site : ClosingTagSite} :
    findClosingTag d t = some site ↔
      (site.slash = ['/'] ∨ site.slash = [' ', '/']) ∧
        t = site.before ++ (d.opening ++ site.slash ++ site.behind) ∧
        PassedOver d (d.opening ++ site.slash ++ site.behind) site.before := by
  constructor
  · intro h
    have hslash := findClosingTag_slash h
    have ht : t = site.before ++ (d.opening ++ site.slash ++ site.behind) := by
      simpa only [List.append_assoc] using findClosingTag_eq_append h
    refine ⟨hslash, ht, (findClosingTag_before_iff hslash rfl).mp ?_⟩
    rw [← ht, h]
    rfl
  · rintro ⟨hslash, rfl, hpassed⟩
    have hfound := (findClosingTag_before_iff hslash rfl).mpr hpassed
    obtain ⟨⟨before, slash, behind⟩, hfind, rfl⟩ := Option.map_eq_some_iff.mp hfound
    -- the text is cut at the same place, so the same slash stands behind the open-marker
    have htext := findClosingTag_eq_append hfind
    simp only [List.append_assoc] at htext
    have hrest := List.append_cancel_left (List.append_cancel_left htext)
    obtain rfl : slash = site.slash :=
      slash_unique (findClosingTag_slash hfind) hslash ⟨behind, hrest.symm⟩ ⟨site.behind, rfl⟩
    obtain rfl : site.behind = behind := List.append_cancel_left hrest
    exact hfind

theorem PassedOver.findClosingTag {slash rest t : Text}
    (h : PassedOver d (d.opening ++ slash ++ rest) t)
    (hslash : slash = ['/'] ∨ slash = [' ', '/']) :
    findClosingTag d (t ++ (d.opening ++ slash ++ rest)) = some ⟨t, slash, rest⟩ :=
  findClosingTag_eq_some_iff.mpr ⟨hslash, rfl, h⟩

/-- The scan finds nothing exactly if no closing tag begins behind a text that is passed over. -/
theorem findClosingTag_eq_none_iff {t : Text} :
    findClosingTag d t = none ↔ ∀ lead behind, t = lead ++ behind →
      PassedOver d behind lead → ¬ClosingTagAhead d behind := by
  constructor
  · rintro h lead behind rfl hp (⟨rest, rfl⟩ | ⟨rest, rfl⟩)
    · cases h.symm.trans (hp.findClosingTag (.inl rfl))
    · cases h.symm.trans (hp.findClosingTag (.inr rfl))
  · intro h
    cases hfind : findClosingTag d t with
    | none => rfl
    | some site =>
      obtain ⟨hslash, ht, hp⟩ := findClosingTag_eq_some_iff.mp hfind
      refine absurd ?_ (h site.before _ ht hp)
      rw [List.append_assoc, closingTagAhead_iff]
      exact hslash.imp (fun h => ⟨_, by rw [h]⟩) fun h => ⟨_, by rw [h]⟩

/-- **A formed section is sealed exactly if its previous output is passed over.** -/
theorem Section.Formed.sealed_iff {s : Section} (h : s.Formed d) :
    s.Sealed d ↔ PassedOver d s.closingTag s.stale := by
  obtain ⟨slash, raw, htag⟩ := h.closingTag
  have htext : s.closingTag = d.opening ++ slash ++ (raw ++ d.closing) := by
    rw [htag.tag_eq, List.append_assoc]
  exact findClosingTag_before_iff htag.slash_eq htext

/-- Occurrences of an open-marker that does not overlap itself are all met by the scan. -/
theorem Text.Unbordered.passedOver {tag t : Text} (hu : Text.Unbordered d.opening)
    (h : ∀ behind, behind <:+ t → behind ≠ [] → ¬ClosingTagAhead d (behind ++ tag)) :
    PassedOver d tag t := by
  induction hn : t.length using Nat.strongRecOn generalizing t with
  | ind n ih =>
    cases hs : Text.splitFirst d.opening t with
    | none => exact .clear (hu.endsFirst (Text.splitFirst_eq_none_iff.mp hs))
    | some cut =>
      obtain ⟨before, rest⟩ := cut
      have ht := Text.splitFirst_eq_append hs
      have hlt : rest.length < n := hn ▸ Text.length_lt_of_splitFirst hs d.opening_ne_nil
      rw [ht, List.append_assoc] at h
      have hrest (behind : Text) (hb : behind <:+ d.opening ++ rest) (hne : behind ≠ []) :
          ¬ClosingTagAhead d (behind ++ tag) :=
        h behind (hb.trans (List.suffix_append _ _)) hne
      rw [ht]
      refine .skip (Text.endsFirst_of_splitFirst hs) ?_ ?_
      · have hmarker := hrest (d.opening ++ rest) List.suffix_rfl fun hnil =>
          d.opening_ne_nil (List.append_eq_nil_iff.mp hnil).1
        rwa [List.append_assoc, closingTagAhead_iff] at hmarker
      · exact ih rest.length hlt
          (fun behind hb => hrest behind (hb.trans (List.suffix_append _ _))) rfl

end LiveSections
