import LiveSections.Proofs.Composition
import Mathlib.Order.Nat

/-!
# The first closing tag

The scan for a closing tag passes over a whole open-marker at a time, and no text is looked at twice.
If open-markers can overlap, a closing tag that begins within one that was passed over is not found.

- `ClosingTagAt d source t`: a closing tag begins at an offset.
- `closingTagFrom?`: where the scan from a cursor on finds a closing tag, and where its slash ends.
- `ComesToFirst d source cursor`: the scan misses no closing tag on its way.
- `closingTagFrom?_eq_some_iff`: what the scan returns, whatever the open-marker is.
- `Delimiters.OverlapsOnlyAtSlash`: of two open-markers that overlap the first begins a closing tag.
- `closingTagFrom?_first`: **the scan always comes to the first closing tag exactly for these
  markers,** and then no closing tag begins in the previous output of a section.

## What is *not* claimed

It is not the first closing tag that is found for every pair of markers. With the open-marker `<<`
and the text `<<</b>>` the scan passes over the first two characters, and what is left holds no
open-marker: `closingTagFrom?_misses_angled`. This goes with the rest of the reader, which takes the
first occurrence of a marker and never goes back into text that it has used up.
-/

namespace LiveSections

variable {d : Delimiters}

/-! ## Closing tags by their offsets -/

/-- A closing tag begins at an offset of the source. -/
def ClosingTagAt (d : Delimiters) (source : Text) (t : Nat) : Prop :=
  ClosingTagAhead d (source.drop t)

instance (d : Delimiters) (source : Text) (t : Nat) : Decidable (ClosingTagAt d source t) :=
  inferInstanceAs (Decidable (ClosingTagAhead d (source.drop t)))

/-- A closing tag begins at an offset, and `stop` is the offset just behind its slash. -/
def SlashEndsAt (d : Delimiters) (source : Text) (t stop : Nat) : Prop :=
  ∃ slash, (slash = ['/'] ∨ slash = [' ', '/']) ∧ d.opening ++ slash <+: source.drop t ∧
    stop = t + d.opening.length + slash.length

theorem SlashEndsAt.closingTagAt {source : Text} {t stop : Nat}
    (h : SlashEndsAt d source t stop) : ClosingTagAt d source t := by
  obtain ⟨slash, rfl | rfl, hp, -⟩ := h
  · exact .inl hp
  · exact .inr hp

/-- The closing tag that the scan from a cursor on comes to: where it begins, and where its slash
ends. -/
def closingTagFrom? (d : Delimiters) (source : Text) (cursor : Nat) : Option (Nat × Nat) :=
  (findClosingTag d (source.drop cursor)).map fun site =>
    let t := cursor + site.before.length
    (t, t + d.opening.length + site.slash.length)

/-- The scan from a cursor on comes to the first closing tag that begins there, and finds nothing
only if none does. -/
structure ComesToFirst (d : Delimiters) (source : Text) (cursor : Nat) : Prop where
  first : ∀ t, IsLeast {t | cursor ≤ t ∧ ClosingTagAt d source t} t →
    ∃ stop, SlashEndsAt d source t stop ∧ closingTagFrom? d source cursor = some (t, stop)
  none : (∀ t, cursor ≤ t → ¬ClosingTagAt d source t) → closingTagFrom? d source cursor = none

/-- Two open-markers that overlap: the scan passes over the first, which has no slash behind it, and
misses the closing tag that the second begins. Where a closing tag follows that does not overlap one,
the previous output takes the first one in. -/
theorem closingTagFrom?_misses_angled :
    let s : Section := {
      name := ['a'], header := ['a'], program := [], stale := "<<</a>>".toList,
      closingTag := "<</a>>".toList, span := ⟨0, 19⟩ }
    ClosingTagAt .angled "<<</b>>".toList 1 ∧
      closingTagFrom? .angled "<<</b>>".toList 0 = none ∧
      ¬ComesToFirst .angled "<<</b>>".toList 0 ∧
      parse .angled "<<a\n>><<</a>><</a>>".toList = .ok [.live s] ∧ ¬s.OutputShortest .angled := by
  intro s
  have htag : ClosingTagAt .angled "<<</b>>".toList 1 := by decide
  have hnone : closingTagFrom? .angled "<<</b>>".toList 0 = none := by decide +kernel
  refine ⟨htag, hnone, fun h => ?_, by decide +kernel, by decide +kernel⟩
  have hleast : IsLeast {t | 0 ≤ t ∧ ClosingTagAt .angled "<<</b>>".toList t} 1 := by
    refine ⟨⟨Nat.zero_le 1, htag⟩, ?_⟩
    rintro t ⟨-, ht⟩
    by_contra hlt
    obtain rfl : t = 0 := by omega
    exact absurd ht (by decide)
  obtain ⟨stop, -, hsome⟩ := h.first 1 hleast
  cases hnone.symm.trans hsome

/-! ## What the scan returns -/

theorem slashAhead_of_isPrefix {w t : Text} (h : SlashAhead w) (hp : w <+: t) : SlashAhead t :=
  h.imp (·.trans hp) (·.trans hp)

theorem ClosingTagAhead.opening_isPrefix {t : Text} (h : ClosingTagAhead d t) :
    d.opening <+: t := by
  rcases h with h | h
  · exact (List.prefix_append _ _).trans h
  · exact (List.prefix_append _ _).trans h

/-- **The scan returns the closing tag up to which the text is passed over,** open-marker by
open-marker. -/
theorem closingTagFrom?_eq_some_iff {source : Text} {cursor t stop : Nat} :
    closingTagFrom? d source cursor = some (t, stop) ↔
      cursor ≤ t ∧ SlashEndsAt d source t stop ∧
        PassedOver d (source.drop t) (Span.slice source ⟨cursor, t⟩) := by
  constructor
  · intro h
    obtain ⟨site, hfind, hsite⟩ := Option.map_eq_some_iff.mp h
    obtain ⟨rfl, rfl⟩ := Prod.mk.inj hsite
    obtain ⟨hslash, htext, hpassed⟩ := findClosingTag_eq_some_iff.mp hfind
    have htag : source.drop (cursor + site.before.length) =
        d.opening ++ site.slash ++ site.behind := by
      rw [← List.drop_drop, htext, List.drop_left]
    have hslice : Span.slice source ⟨cursor, cursor + site.before.length⟩ = site.before := by
      simp only [Span.slice, Nat.add_sub_cancel_left]
      rw [htext, List.take_left]
    refine ⟨Nat.le_add_right _ _, ⟨site.slash, hslash, ?_, rfl⟩, ?_⟩
    · rw [htag]
      exact List.prefix_append _ _
    · rwa [hslice, htag]
  · rintro ⟨hle, ⟨slash, hslash, ⟨more, htag⟩, rfl⟩, hpassed⟩
    have htext : source.drop cursor =
        Span.slice source ⟨cursor, t⟩ ++ (d.opening ++ slash ++ more) := by
      rw [htag]
      exact (slice_append_drop source hle).symm
    rw [← htag] at hpassed
    have hfind : findClosingTag d (source.drop cursor) =
        some ⟨Span.slice source ⟨cursor, t⟩, slash, more⟩ :=
      findClosingTag_eq_some_iff.mpr ⟨hslash, htext, hpassed⟩
    have hlength : (Span.slice source ⟨cursor, t⟩).length = t - cursor := by
      have hpos : 0 < (source.drop t).length := by
        rw [← htag]
        have := List.length_pos_iff.mpr d.opening_ne_nil
        simp only [List.length_append]
        omega
      rw [List.length_drop] at hpos
      simp only [Span.slice, List.length_take, List.length_drop]
      omega
    have ht : cursor + (Span.slice source ⟨cursor, t⟩).length = t := by
      rw [hlength]
      omega
    rw [closingTagFrom?, hfind, Option.map_some, ht]

/-- Where the scan finds nothing, a section whose program ends there is never closed. -/
theorem closingTagFrom?_eq_none_iff {source name program : Text} {cursor : Nat}
    (hp : Text.EndsFirst d.closing program) :
    closingTagFrom? d source cursor = none ↔
      readProgram d name (program ++ d.closing ++ source.drop cursor) =
        .error (.neverClosed name) := by
  rw [closingTagFrom?, Option.map_eq_none_iff, readProgram, hp.splitFirst]
  dsimp only
  cases findClosingTag d (source.drop cursor) with
  | none => exact iff_of_true rfl rfl
  | some site => simp

/-! ## Open-markers that overlap -/

/-- Where the open-marker overlaps itself, what the second one has behind the first begins with a
slash, or with a blank and a slash. So the first of the two begins a closing tag. -/
def Delimiters.OverlapsOnlyAtSlash (d : Delimiters) : Prop :=
  ∀ u w, d.opening = u ++ w → u ≠ [] → w ≠ [] → u <:+ d.opening → SlashAhead w

instance (d : Delimiters) : Decidable d.OverlapsOnlyAtSlash :=
  decidable_of_iff
    (∀ n < d.opening.length, 0 < n → d.opening.take n <:+ d.opening →
      SlashAhead (d.opening.drop n)) (by
    constructor
    · intro h u w huw hu hw hsuffix
      have hpos : 0 < u.length := List.length_pos_iff.mpr hu
      have hlt : u.length < d.opening.length := by
        have := List.length_pos_iff.mpr hw
        rw [huw, List.length_append]
        omega
      have hslash := h u.length hlt hpos (by rwa [huw, List.take_left, ← huw])
      rwa [huw, List.drop_left] at hslash
    · intro h n hlt hpos hsuffix
      refine h _ _ (List.take_append_drop n d.opening).symm ?_ ?_ hsuffix
      · rw [Ne, List.take_eq_nil_iff, not_or]
        exact ⟨Nat.ne_of_gt hpos, d.opening_ne_nil⟩
      · rw [Ne, List.drop_eq_nil_iff]
        exact Nat.not_le.mpr hlt)

namespace Delimiters.OverlapsOnlyAtSlash

/-- No closing tag begins within an open-marker that has no slash behind it. -/
theorem not_closingTagAhead (hd : d.OverlapsOnlyAtSlash) {behind : Text} (hs : ¬SlashAhead behind)
    {k : Nat} (hpos : 0 < k) (hk : k < d.opening.length) :
    ¬ClosingTagAhead d ((d.opening ++ behind).drop k) := by
  intro h
  have hsecond := h.opening_isPrefix
  rw [List.drop_append_of_le_length (Nat.le_of_lt hk)] at hsecond
  have hlength : (d.opening.drop k).length = d.opening.length - k := List.length_drop
  -- the second open-marker begins with the rest of the first one, and goes on behind it
  rcases Text.isPrefix_append_cases hsecond with hshort | ⟨w, hw, hbehind⟩
  · have := hshort.length_le
    omega
  · have hslash : SlashAhead w := by
      refine hd _ w hw ?_ ?_ (List.drop_suffix k d.opening)
      · rw [Ne, List.drop_eq_nil_iff]
        omega
      · rintro rfl
        have := congrArg List.length hw
        rw [List.append_nil] at this
        omega
    exact hs (slashAhead_of_isPrefix hslash hbehind)

/-- **Before the place where the scan ends no closing tag begins,** and none at all if it finds
nothing. -/
theorem not_closingTagAhead_before (hd : d.OverlapsOnlyAtSlash) {t : Text} {i : Nat}
    (hi : ∀ site, findClosingTag d t = some site → i < site.before.length) :
    ¬ClosingTagAhead d (t.drop i) := by
  -- on the length of the text, as the scan recurses
  induction hn : t.length using Nat.strongRecOn generalizing t i with
  | ind n ih =>
    cases hs : Text.splitFirst d.opening t with
    | none =>
      intro h
      refine Text.splitFirst_eq_none_iff.mp hs ?_
      exact h.opening_isPrefix.isInfix.trans (List.drop_suffix i t).isInfix
    | some cut =>
      obtain ⟨before, behind⟩ := cut
      obtain ⟨hends, ht⟩ := Text.splitFirst_eq_some_iff.mp hs
      by_cases hbefore : i < before.length
      · intro h
        refine hends.not_isPrefix_drop hbefore behind ?_
        rw [← ht]
        exact h.opening_isPrefix
      · obtain ⟨j, rfl⟩ := Nat.exists_eq_add_of_le (Nat.not_lt.mp hbefore)
        have hdrop : t.drop (before.length + j) = (d.opening ++ behind).drop j := by
          rw [ht, ← List.drop_drop, List.append_assoc, List.drop_left]
        rw [hdrop]
        cases hc : closingSlash? behind with
        | some found =>
          -- the scan ends at this open-marker
          have := hi _ (findClosingTag_of_slash hs hc)
          exact absurd this hbefore
        | none =>
          have hslash : ¬SlashAhead behind := closingSlash?_eq_none_iff.mp hc
          by_cases hzero : j = 0
          · rw [hzero, List.drop_zero, closingTagAhead_iff]
            exact hslash
          by_cases hwithin : j < d.opening.length
          · exact hd.not_closingTagAhead hslash (Nat.pos_of_ne_zero hzero) hwithin
          · obtain ⟨k, rfl⟩ := Nat.exists_eq_add_of_le (Nat.not_lt.mp hwithin)
            rw [← List.drop_drop, List.drop_left]
            have hlt := Text.length_lt_of_splitFirst hs d.opening_ne_nil
            refine ih behind.length (hn ▸ hlt) (fun site hsite => ?_) rfl
            have hskip := findClosingTag_of_skip hs hc
            rw [hsite] at hskip
            have := hi _ hskip
            simp only [List.length_append] at this
            omega

theorem comesToFirst (hd : d.OverlapsOnlyAtSlash) (source : Text) (cursor : Nat) :
    ComesToFirst d source cursor := by
  have hbefore {t : Nat} (hle : cursor ≤ t)
      (ht : ∀ site, findClosingTag d (source.drop cursor) = some site →
        t < cursor + site.before.length) : ¬ClosingTagAt d source t := by
    obtain ⟨i, rfl⟩ := Nat.exists_eq_add_of_le hle
    rw [ClosingTagAt, ← List.drop_drop]
    exact hd.not_closingTagAhead_before fun site hsite => Nat.lt_of_add_lt_add_left (ht site hsite)
  constructor
  · rintro t ⟨⟨hle, htag⟩, hleast⟩
    cases hfound : closingTagFrom? d source cursor with
    | none =>
      have hnone : findClosingTag d (source.drop cursor) = none := Option.map_eq_none_iff.mp hfound
      exact absurd htag (hbefore hle fun site hsite => nomatch hnone.symm.trans hsite)
    | some found =>
      obtain ⟨t', stop⟩ := found
      obtain ⟨hle', hslash, -⟩ := closingTagFrom?_eq_some_iff.mp hfound
      obtain ⟨site, hsite, hends⟩ := Option.map_eq_some_iff.mp hfound
      obtain ⟨ht', -⟩ := Prod.mk.inj hends
      -- neither begins before the other
      have hge : t ≤ t' := hleast ⟨hle', hslash.closingTagAt⟩
      have hnot : ¬t < t' := by
        intro hlt
        refine hbefore hle (fun site' hsite' => ?_) htag
        obtain rfl : site = site' := Option.some.inj (hsite.symm.trans hsite')
        exact ht' ▸ hlt
      obtain rfl : t = t' := by omega
      exact ⟨stop, hslash, rfl⟩
  · intro h
    cases hfound : closingTagFrom? d source cursor with
    | none => rfl
    | some found =>
      obtain ⟨hle, hslash, -⟩ := closingTagFrom?_eq_some_iff.mp hfound
      exact absurd hslash.closingTagAt (h found.1 hle)

/-- The previous output of a section that is read is the shortest text up to a closing tag. -/
theorem outputShortest (hd : d.OverlapsOnlyAtSlash) {source : Text} {parts : List Part}
    (hp : parse d source = .ok parts) {s : Section} (hs : s ∈ sectionsOf parts) :
    s.OutputShortest d := by
  obtain ⟨-, hsealed⟩ := (parse_eq_ok_iff.mp hp).formed hs
  obtain ⟨site, hfind, hsite⟩ := Option.map_eq_some_iff.mp hsealed
  rintro behind ⟨lead, hlead⟩ hne
  have hdrop : (s.stale ++ s.closingTag).drop lead.length = behind ++ s.closingTag := by
    rw [← hlead, List.append_assoc, List.drop_left]
  rw [← hdrop]
  refine hd.not_closingTagAhead_before fun site' hsite' => ?_
  obtain rfl : site = site' := Option.some.inj (hfind.symm.trans hsite')
  have := List.length_pos_iff.mpr hne
  rw [hsite, ← hlead, List.length_append]
  omega

/-- A slash with a blank before it adds no slash ahead to a text that has a character. -/
theorem slashAhead_of_append {w : Text} (hw : w ≠ []) (h : SlashAhead (w ++ [' ', '/'])) :
    SlashAhead w := by
  match w with
  | [] => exact absurd rfl hw
  | [c] => simpa [SlashAhead] using h
  | c :: x :: w => simpa [SlashAhead] using h

/-- A marker that overlaps itself in any other way makes the scan miss a closing tag. -/
theorem of_comesToFirst (h : ∀ source cursor, ComesToFirst d source cursor) :
    d.OverlapsOnlyAtSlash := by
  intro u w huw hu hw hsuffix
  by_contra hslash
  obtain ⟨v, hv⟩ := hsuffix
  -- two open-markers that have `u` in common, the second with a slash behind it
  let source : Text := d.opening ++ (w ++ [' ', '/'])
  have hlength : v.length = w.length := by
    have := congrArg List.length (hv.trans huw)
    simp only [List.length_append] at this
    omega
  have hsecond : source.drop v.length = d.opening ++ [' ', '/'] := by
    have hsource : source = v ++ (d.opening ++ [' ', '/']) := by
      show d.opening ++ (w ++ [' ', '/']) = _
      rw [← List.append_assoc v, ← List.append_assoc d.opening]
      congr 1
      nth_rewrite 1 [← hv]
      rw [huw, List.append_assoc]
    rw [hsource, List.drop_left]
  have htag : ClosingTagAt d source v.length := by
    rw [ClosingTagAt, hsecond]
    exact .inr (List.prefix_rfl)
  have hslashless : closingSlash? (w ++ [' ', '/']) = none :=
    closingSlash?_eq_none_iff.mpr fun hahead => hslash (slashAhead_of_append hw hahead)
  have hscan := findClosingTag_of_skip (Text.splitFirst_append_self d.opening _) hslashless
  obtain ⟨first, hfirst⟩ : ∃ t, IsLeast {t | 0 ≤ t ∧ ClosingTagAt d source t} t :=
    ⟨_, Nat.isLeast_find ⟨v.length, Nat.zero_le _, htag⟩⟩
  have hle : first ≤ v.length := hfirst.2 ⟨Nat.zero_le _, htag⟩
  obtain ⟨stop, -, hfound⟩ := (h source 0).first first hfirst
  obtain ⟨site, hsite, hends⟩ := Option.map_eq_some_iff.mp hfound
  rw [List.drop_zero, hscan] at hsite
  obtain ⟨site', -, rfl⟩ := Option.map_eq_some_iff.mp hsite
  -- the scan was behind the whole of the first open-marker by then
  obtain ⟨hstart, -⟩ := Prod.mk.inj hends
  have hpos := List.length_pos_iff.mpr hu
  have hopening := congrArg List.length huw
  simp only [List.length_append, List.length_nil] at hstart hopening
  omega

end Delimiters.OverlapsOnlyAtSlash

/-! ## The first closing tag -/

/-- **The scan always comes to the first closing tag exactly for open-markers that overlap themselves
at a slash, or not at all.** For these no closing tag begins in the previous output of a section that
is read. Whatever the marker is, the scan returns the closing tag up to which the text is passed over
open-marker by open-marker, and if there is none the section is never closed. -/
theorem closingTagFrom?_first (d : Delimiters) :
    (∀ source cursor,
      (∀ t stop, closingTagFrom? d source cursor = some (t, stop) ↔
        cursor ≤ t ∧ SlashEndsAt d source t stop ∧
          PassedOver d (source.drop t) (Span.slice source ⟨cursor, t⟩)) ∧
      ∀ name program, Text.EndsFirst d.closing program →
        (closingTagFrom? d source cursor = none ↔
          readProgram d name (program ++ d.closing ++ source.drop cursor) =
            .error (.neverClosed name))) ∧
    ((∀ source cursor, ComesToFirst d source cursor) ↔ d.OverlapsOnlyAtSlash) ∧
    (d.OverlapsOnlyAtSlash → ∀ source parts, parse d source = .ok parts →
      ∀ s ∈ sectionsOf parts, s.OutputShortest d) := by
  refine ⟨fun source cursor => ⟨?_, ?_⟩, ⟨?_, ?_⟩, ?_⟩
  · exact fun t stop => closingTagFrom?_eq_some_iff
  · exact fun name program hp => closingTagFrom?_eq_none_iff hp
  · exact Delimiters.OverlapsOnlyAtSlash.of_comesToFirst
  · exact fun hd => hd.comesToFirst
  · exact fun hd source parts hp s hs => hd.outputShortest hp hs

/-- A marker of two slashes overlaps itself, but behind the first of two that overlap stands a
slash. The scan takes the first closing tag, and so does the section. -/
theorem closingTagFrom?_first_slashes :
    let d : Delimiters := ⟨"//".toList, ";".toList, by decide, by decide⟩
    let source := "//a\n;x///a;".toList
    let s : Section := {
      name := ['a'], header := ['a'], program := [], stale := ['x'],
      closingTag := "///a;".toList, span := ⟨0, 11⟩ }
    d.OverlapsOnlyAtSlash ∧ ¬Text.Unbordered d.opening ∧ ComesToFirst d source 5 ∧
      closingTagFrom? d source 5 = some (6, 9) ∧ SlashEndsAt d source 6 9 ∧
      parse d source = .ok [.live s] ∧ s.OutputShortest d := by
  intro d source s
  obtain ⟨hscan, hfirst, hshortest⟩ := closingTagFrom?_first d
  have hd : d.OverlapsOnlyAtSlash := by decide
  have hfound : closingTagFrom? d source 5 = some (6, 9) := by decide +kernel
  have hp : parse d source = .ok [.live s] := by decide +kernel
  obtain ⟨-, hslash, -⟩ := ((hscan source 5).1 6 9).mp hfound
  exact ⟨hd, by decide, hfirst.mpr hd source 5, hfound, hslash, hp,
    hshortest hd source [.live s] hp s (List.mem_singleton_self s)⟩

end LiveSections
