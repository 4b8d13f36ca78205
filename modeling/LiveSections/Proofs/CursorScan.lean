import LiveSections.Proofs.Between
import LiveSections.Proofs.Splice

/-!
# Replacing by a cursor

Where a lead or a closer takes a character, a match is told by two searches: the first lead at or
behind a cursor, and the first closer behind this lead. No later lead matches if the first one does
not, since what lies behind a later one lies behind the first one too.

- `Text.findFrom? pat t cursor`: the least offset from the cursor on at which `pat` occurs.
- `scanBetween`: a text with all its gaps replaced, by a cursor that goes from closer to closer.
- `GapPattern.search_eq_splits`: the leftmost match is a split at the lead and one at the closer.
- `replaceBetween_eq_scan`: **to replace gaps is to scan for them with a cursor;** without lead and
  closer the new text takes the place of every character and stands around each.
- `replaceBetween_idempotent`: **to replace gaps twice is to replace them once,** if the closer is
  found behind the new text and not in it.
-/

namespace LiveSections

/-! ## Finding from a cursor on -/

namespace Text

variable {pat t : Text} {cursor i : Nat}

/-- The least offset from the cursor on at which the pattern occurs. -/
def findFrom? (pat t : Text) (cursor : Nat) : Option Nat :=
  (List.range' cursor (t.length + 1 - cursor)).find? fun i => pat.isPrefixOf (t.drop i)

theorem findFrom?_eq_some_iff :
    findFrom? pat t cursor = some i ↔
      (cursor ≤ i ∧ i ≤ t.length) ∧ pat <+: t.drop i ∧
        ∀ j, cursor ≤ j → j < i → ¬pat <+: t.drop j := by
  rw [findFrom?, List.find?_range'_eq_some, List.mem_range'_1]
  simp only [List.isPrefixOf_iff_prefix, Bool.not_eq_true', ← Bool.not_eq_true]
  constructor
  · rintro ⟨hp, ⟨hle, hlt⟩, hleast⟩
    exact ⟨⟨hle, by omega⟩, hp, hleast⟩
  · rintro ⟨⟨hle, hlt⟩, hp, hleast⟩
    exact ⟨hp, ⟨hle, by omega⟩, hleast⟩

theorem findFrom?_eq_none_iff :
    findFrom? pat t cursor = none ↔ ∀ i, cursor ≤ i → i ≤ t.length → ¬pat <+: t.drop i := by
  rw [findFrom?, List.find?_range'_eq_none]
  simp only [Bool.not_eq_true', ← Bool.not_eq_true, List.isPrefixOf_iff_prefix]
  constructor
  · intro h i hle hlt
    exact h i hle (by omega)
  · intro h i hle hlt
    exact h i hle (by omega)

/-- A pattern that is found ends within the text. -/
theorem le_of_findFrom? (h : findFrom? pat t cursor = some i) :
    cursor ≤ i ∧ i + pat.length ≤ t.length := by
  obtain ⟨⟨hle, hlt⟩, hp, -⟩ := findFrom?_eq_some_iff.mp h
  have hlen := hp.length_le
  rw [List.length_drop] at hlen
  omega

/-- **To split what lies behind a cursor is to find the pattern from there on.** -/
theorem splitFirst_drop (hc : cursor ≤ t.length) :
    splitFirst pat (t.drop cursor) =
      (findFrom? pat t cursor).map fun i =>
        (Span.slice t ⟨cursor, i⟩, t.drop (i + pat.length)) := by
  cases hf : findFrom? pat t cursor with
  | none =>
    refine splitFirst_eq_none_iff.mpr fun ⟨before, behind, htext⟩ => ?_
    have hlen := congrArg List.length htext
    simp only [List.length_append, List.length_drop] at hlen
    -- an occurrence would be found at its offset
    refine findFrom?_eq_none_iff.mp hf (cursor + before.length) (by omega) (by omega) ?_
    rw [← List.drop_drop, ← htext, List.append_assoc, List.drop_left]
    exact List.prefix_append _ _
  | some i =>
    obtain ⟨⟨hle, -⟩, hp, hleast⟩ := findFrom?_eq_some_iff.mp hf
    have hbehind : pat ++ t.drop (i + pat.length) = t.drop i := by
      rw [← List.drop_drop]
      exact List.prefix_iff_eq_append.mp hp
    have htext : t.drop cursor =
        Span.slice t ⟨cursor, i⟩ ++ pat ++ t.drop (i + pat.length) := by
      rw [List.append_assoc, hbehind, slice_append_drop t hle]
    have hnone : ∀ j < (Span.slice t ⟨cursor, i⟩).length,
        ¬pat <+: (Span.slice t ⟨cursor, i⟩ ++ pat ++ t.drop (i + pat.length)).drop j := by
      intro j hj
      have hlen : (Span.slice t ⟨cursor, i⟩).length ≤ i - cursor := List.length_take_le _ _
      rw [← htext, List.drop_drop]
      exact hleast _ (Nat.le_add_right _ _) (by omega)
    exact splitFirst_eq_some_iff.mpr ⟨endsFirst_of_not_isPrefix_drop hnone, htext⟩

end Text

/-! ## The scan -/

/-- Replaces what stands between each lead and the next closer, from a cursor on: finds the first
lead, and the first closer behind it, copies what lies before and the lead, writes the new text and
the closer, and goes on behind the closer. Where one of them is not found, the rest is copied. -/
def scanBetween (lead closer : Text) (h : lead ≠ [] ∨ closer ≠ []) (new t : Text)
    (cursor : Nat) : Text :=
  match _hlead : Text.findFrom? lead t cursor with
  | none => t.drop cursor
  | some start =>
    match _hcloser : Text.findFrom? closer t (start + lead.length) with
    | none => t.drop cursor
    | some stop =>
      Span.slice t ⟨cursor, start⟩ ++ lead ++ new ++ closer ++
        scanBetween lead closer h new t (stop + closer.length)
termination_by t.length - cursor
decreasing_by
  obtain ⟨hstart, -⟩ := Text.le_of_findFrom? _hlead
  obtain ⟨hstop, hend⟩ := Text.le_of_findFrom? _hcloser
  have hpos : 0 < lead.length ∨ 0 < closer.length :=
    h.imp List.length_pos_iff.mpr List.length_pos_iff.mpr
  omega

namespace GapPattern

variable {p : GapPattern}

/-- **The leftmost match is a split at the first lead, and one at the first closer behind it.** -/
theorem search_eq_splits (hv : p.isVoid = false) (nonEmpty : Bool) (t : Text) :
    p.search nonEmpty t = (Text.splitFirst p.lead t).bind fun s =>
      (Text.splitFirst p.closer s.2).map fun s' => (s.1, s'.1, s'.2) := by
  refine Option.ext fun ⟨before, gap, behind⟩ => ?_
  rw [search_eq_some_iff hv]
  simp only [Option.bind_eq_some_iff, Option.map_eq_some_iff, Prod.exists, Prod.mk.injEq]
  constructor
  · rintro ⟨hb, hg, rfl⟩
    refine ⟨before, gap ++ p.closer ++ behind, ?_, gap, behind, hg.splitFirst behind, rfl, rfl, rfl⟩
    have hlead := hb.splitFirst (gap ++ p.closer ++ behind)
    simpa only [List.append_assoc] using hlead
  · rintro ⟨before, rest, hlead, gap, behind, hcloser, rfl, rfl, rfl⟩
    obtain ⟨hb, rfl⟩ := Text.splitFirst_eq_some_iff.mp hlead
    obtain ⟨hg, rfl⟩ := Text.splitFirst_eq_some_iff.mp hcloser
    exact ⟨hb, hg, by simp only [List.append_assoc]⟩

/-- The leftmost match behind a cursor, found by its offsets. -/
theorem search_drop (hv : p.isVoid = false) (nonEmpty : Bool) {t : Text} {cursor : Nat}
    (hc : cursor ≤ t.length) :
    p.search nonEmpty (t.drop cursor) = (Text.findFrom? p.lead t cursor).bind fun start =>
      (Text.findFrom? p.closer t (start + p.lead.length)).map fun stop =>
        (Span.slice t ⟨cursor, start⟩, Span.slice t ⟨start + p.lead.length, stop⟩,
          t.drop (stop + p.closer.length)) := by
  rw [search_eq_splits hv, Text.splitFirst_drop hc]
  cases hlead : Text.findFrom? p.lead t cursor with
  | none => rfl
  | some start =>
    obtain ⟨-, hstart⟩ := Text.le_of_findFrom? hlead
    rw [Option.map_some, Option.bind_some, Option.bind_some, Text.splitFirst_drop hstart,
      Option.map_map]
    rfl

/-- What lies behind a cursor is replaced as the scan from there on does it. -/
theorem replace_drop (h : p.lead ≠ [] ∨ p.closer ≠ []) (new t : Text) {cursor : Nat}
    (hc : cursor ≤ t.length) (nonEmpty : Bool) :
    p.replace new nonEmpty (t.drop cursor) = scanBetween p.lead p.closer h new t cursor := by
  have hv : p.isVoid = false := by
    rw [isVoid, Bool.and_eq_false_iff]
    exact h.imp List.isEmpty_eq_false_iff.mpr List.isEmpty_eq_false_iff.mpr
  fun_induction scanBetween p.lead p.closer h new t cursor generalizing nonEmpty with
  | case1 cursor hlead =>
    have hsearch := search_drop hv nonEmpty hc
    rw [hlead, Option.bind_none] at hsearch
    rw [replace, hsearch]
  | case2 cursor start hlead hcloser =>
    have hsearch := search_drop hv nonEmpty hc
    rw [hlead, Option.bind_some, hcloser, Option.map_none] at hsearch
    rw [replace, hsearch]
  | case3 cursor start hlead stop hcloser ih =>
    obtain ⟨-, hstop⟩ := Text.le_of_findFrom? hcloser
    have hsearch := search_drop hv nonEmpty hc
    rw [hlead, Option.bind_some, hcloser, Option.map_some] at hsearch
    rw [replace, hsearch]
    dsimp only
    rw [ih hstop]

/-- Without lead and closer there is an empty match in front. -/
theorem replace_void (new t : Text) :
    replace ⟨[], []⟩ new false t = new ++ replace ⟨[], []⟩ new true t := by
  have hsearch : search ⟨[], []⟩ false t = some ([], [], t) :=
    search_of_matchAt (Text.splitFirst_append_self [] t)
  rw [replace, hsearch]
  simp [isVoid]

/-- Behind an empty match the next one takes a character. -/
theorem replace_void_cons (new : Text) (c : Char) (t : Text) :
    replace ⟨[], []⟩ new true (c :: t) = new ++ replace ⟨[], []⟩ new false t := by
  have hsearch : search ⟨[], []⟩ true (c :: t) = some ([], [c], t) := rfl
  rw [replace, hsearch]
  simp [isVoid]

/-- Without lead and closer the new text takes the place of every character, and stands in front of
each and at the end. -/
theorem replace_void_eq (new t : Text) :
    replace ⟨[], []⟩ new false t = (List.replicate (2 * t.length + 1) new).flatten := by
  induction t with
  | nil =>
    have hsearch : search ⟨[], []⟩ true [] = none := rfl
    rw [replace_void, replace, hsearch]
    simp
  | cons c t ih =>
    rw [replace_void, replace_void_cons, ih]
    simp [Nat.mul_succ, List.replicate_succ]

end GapPattern

/-- **To replace gaps is to scan for them with a cursor,** if lead or closer has a character.
Without both the new text comes once for every character and once around each. -/
theorem replaceBetween_eq_scan (lead closer new t : Text) :
    (∀ h : lead ≠ [] ∨ closer ≠ [],
      replaceBetween lead closer new t = scanBetween lead closer h new t 0) ∧
    replaceBetween [] [] new t = (List.replicate (2 * t.length + 1) new).flatten := by
  constructor
  · intro h
    exact GapPattern.replace_drop (p := ⟨lead, closer⟩) h new t (Nat.zero_le _) false
  · exact GapPattern.replace_void_eq new t

/-- The second lead overlaps the closer of the first gap and the new text holds a lead, and neither
is looked at; the last lead has no closer behind it. -/
theorem replaceBetween_eq_scan_overlapping :
    (['a', 'b'] ≠ ([] : Text) ∨ ['b', 'a'] ≠ ([] : Text)) ∧
      replaceBetween ['a', 'b'] ['b', 'a'] "ab!".toList "-ab.babb;ab.".toList =
        scanBetween ['a', 'b'] ['b', 'a'] (.inl (by decide)) "ab!".toList "-ab.babb;ab.".toList 0 ∧
      scanBetween ['a', 'b'] ['b', 'a'] (.inl (by decide)) "ab!".toList "-ab.babb;ab.".toList 0 =
        "-abab!babb;ab.".toList := by
  have h : ['a', 'b'] ≠ ([] : Text) ∨ ['b', 'a'] ≠ ([] : Text) := .inl (by decide)
  have hscan := (replaceBetween_eq_scan ['a', 'b'] ['b', 'a'] "ab!".toList
    "-ab.babb;ab.".toList).1 h
  exact ⟨h, hscan, hscan ▸ by decide +kernel⟩

/-- **To replace gaps twice is to replace them once,** if the closer is found right behind the new
text. The lead may be empty or within the new text. -/
theorem replaceBetween_idempotent {closer new : Text} (hc : closer ≠ [])
    (hn : Text.EndsFirst closer new) (lead t : Text) :
    replaceBetween lead closer new (replaceBetween lead closer new t) =
      replaceBetween lead closer new t := by
  have huniform := GapPattern.replace_uniform (p := ⟨lead, closer⟩) hc hn false t
  exact huniform.replace_eq hc false

/-- The new text holds a lead, and its end and the closer begin alike. -/
theorem replaceBetween_idempotent_overlapping :
    ['b', 'a'] ≠ ([] : Text) ∧ Text.EndsFirst ['b', 'a'] "ab!b".toList ∧
      let once := replaceBetween ['a', 'b'] ['b', 'a'] "ab!b".toList "-ab.babb;ab.".toList
      once = "-abab!bbabb;ab.".toList ∧
        replaceBetween ['a', 'b'] ['b', 'a'] "ab!b".toList once = once := by
  have hc : ['b', 'a'] ≠ ([] : Text) := by decide
  have hn : Text.EndsFirst ['b', 'a'] "ab!b".toList := by decide
  exact ⟨hc, hn, by decide +kernel, replaceBetween_idempotent hc hn _ _⟩

end LiveSections
