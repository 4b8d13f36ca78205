import LiveSections.Helper.Badge
import LiveSections.Proofs.Occurrence
import LiveSections.Proofs.Utf8

/-!
# Fields of badges

A field is spelled first: its underscores and dashes are doubled, and each blank becomes an
underscore. The spelling is then percent-encoded, byte by byte.

- `badgeEscape_eq`: the one pass over a field does both steps.
- `percentEncode_inj`: percent-encoding tells all texts apart.
- `spelled_eq_iff`: two fields have one spelling exactly if they are equal with two blanks for each
  underscore.
- `FieldCode`: the texts of unreserved characters, stars and percent escapes.
- `badgeEscape_code_and_collisions`: **an escaped field is such a text, and it tells all fields
  apart but for underscores and pairs of blanks.**
-/

namespace LiveSections

/-- Texts put together from codes are equal only if the codes are the same, if no code can be
taken for the beginning of another. -/
theorem flatMap_inj_of_codes {α : Type} {code : α → Text} {s t : List α} (hne : ∀ a, code a ≠ [])
    (hcode : ∀ a ∈ s, ∀ b ∈ t, ∀ u v, code a ++ u = code b ++ v → a = b ∧ u = v)
    (h : s.flatMap code = t.flatMap code) : s = t := by
  induction s generalizing t with
  | nil =>
    cases t with
    | nil => rfl
    | cons b t =>
      rw [List.flatMap_cons, List.flatMap_nil] at h
      exact absurd (List.append_eq_nil_iff.mp h.symm).1 (hne b)
  | cons a s ih =>
    cases t with
    | nil =>
      rw [List.flatMap_cons, List.flatMap_nil] at h
      exact absurd (List.append_eq_nil_iff.mp h).1 (hne a)
    | cons b t =>
      rw [List.flatMap_cons, List.flatMap_cons] at h
      obtain ⟨rfl, hrest⟩ := hcode a List.mem_cons_self b List.mem_cons_self _ _ h
      rw [ih (fun x hx y hy => hcode x (List.mem_cons_of_mem _ hx) y (List.mem_cons_of_mem _ hy))
        hrest]

namespace Markdown

/-! ## Percent-encoding -/

/-- Whether a character stands as itself in an address. -/
def isPlain (c : Char) : Bool := isUnreserved c || c = '_' || c = '-'

/-- A text with every other character as percent escapes of its bytes. -/
def percentEncode (t : Text) : Text :=
  t.flatMap fun c => if isPlain c then [c] else (String.utf8EncodeChar c).flatMap percentByte

/-- What a byte is written as. -/
def byteCode (b : UInt8) : Text :=
  if isPlain (Char.ofNat b.toNat) then [Char.ofNat b.toNat] else percentByte b

theorem isPlain_iff {c : Char} :
    isPlain c = true ↔ c.isAlphanum = true ∨ c ∈ ['_', '.', '-', '~', '*'] := by
  simp only [isPlain, isUnreserved, Bool.or_eq_true, decide_eq_true_eq, List.mem_cons,
    List.not_mem_nil, or_false]
  grind

theorem isPlain_lt {c : Char} (h : isPlain c = true) : c.toNat < 0x80 := by
  rcases isPlain_iff.mp h with h | h
  · have hval : c.val.toNat = c.toNat := rfl
    have hlast : 'Z'.val.toNat = 90 ∧ 'z'.val.toNat = 122 ∧ '9'.val.toNat = 57 := ⟨rfl, rfl, rfl⟩
    unfold Char.isAlphanum Char.isAlpha Char.isUpper Char.isLower Char.isDigit at h
    simp only [Bool.or_eq_true, Bool.and_eq_true, decide_eq_true_eq,
      UInt32.le_iff_toNat_le] at h
    omega
  · have hall : (['_', '.', '-', '~', '*'].all fun x => x.toNat < 0x80) = true := by decide
    exact of_decide_eq_true (List.all_eq_true.mp hall c h)

theorem hexDigit_mem : ∀ n < 16, hexDigit n ∈ "0123456789ABCDEF".toList := by decide +kernel

theorem hexDigit_inj : ∀ m < 16, ∀ n < 16, hexDigit m = hexDigit n → m = n := by decide +kernel

theorem percentByte_append_inj {b b' : UInt8} {u v : Text}
    (h : percentByte b ++ u = percentByte b' ++ v) : b = b' ∧ u = v := by
  have hb := b.toNat_lt
  have hb' := b'.toNat_lt
  obtain ⟨-, h⟩ := List.cons.inj h
  obtain ⟨hhigh, h⟩ := List.cons.inj h
  obtain ⟨hlow, h⟩ := List.cons.inj h
  have hquotient := hexDigit_inj _ (by omega) _ (by omega) hhigh
  have hrest := hexDigit_inj _ (by omega) _ (by omega) hlow
  exact ⟨UInt8.toNat_inj.mp (by omega), h⟩

/-- The character with the number of a byte. -/
theorem toNat_ofNat_byte (b : UInt8) : (Char.ofNat b.toNat).toNat = b.toNat := by
  have hb := b.toNat_lt
  rw [Char.ofNat, dif_pos (.inl (by omega))]
  rfl

/-- A percent sign does not stand as itself, so a code can be told from what begins like it. -/
theorem byteCode_append_inj {b b' : UInt8} {u v : Text}
    (h : byteCode b ++ u = byteCode b' ++ v) : b = b' ∧ u = v := by
  have hpercent (c : Char) (hc : isPlain c = true) : c ≠ '%' := by
    rintro rfl
    exact absurd hc (by decide)
  unfold byteCode at h
  by_cases hb : isPlain (Char.ofNat b.toNat) = true
  · by_cases hb' : isPlain (Char.ofNat b'.toNat) = true
    · rw [if_pos hb, if_pos hb'] at h
      obtain ⟨hsame, hrest⟩ := List.cons.inj h
      refine ⟨?_, hrest⟩
      rw [← UInt8.toNat_inj, ← toNat_ofNat_byte b, hsame, toNat_ofNat_byte]
    · rw [if_pos hb, if_neg hb'] at h
      exact absurd (List.cons.inj h).1 (hpercent _ hb)
  · by_cases hb' : isPlain (Char.ofNat b'.toNat) = true
    · rw [if_neg hb, if_pos hb'] at h
      exact absurd (List.cons.inj h).1.symm (hpercent _ hb')
    · rw [if_neg hb, if_neg hb'] at h
      exact percentByte_append_inj h

theorem byteCode_ne_nil (b : UInt8) : byteCode b ≠ [] := by
  unfold byteCode
  split <;> exact List.cons_ne_nil _ _

/-- A byte of a character that does not stand as itself does not do so either. -/
theorem byteCode_of_not_isPlain {c : Char} (hc : ¬isPlain c = true) {b : UInt8}
    (hb : b ∈ String.utf8EncodeChar c) : byteCode b = percentByte b := by
  refine if_neg fun hplain => ?_
  have hlow := isPlain_lt hplain
  rw [toNat_ofNat_byte] at hlow
  by_cases hascii : c.toNat < 0x80
  · rw [Utf8.utf8EncodeChar_of_lt hascii, List.mem_singleton] at hb
    have hsame : b.toNat = c.toNat := by
      rw [hb]
      exact UInt8.toNat_ofNat_of_lt (show _ < 256 by omega)
    rw [hsame, Char.ofNat_toNat] at hplain
    exact hc hplain
  · have := (Utf8.spells_utf8EncodeChar c).le_of_mem (Nat.not_lt.mp hascii) hb
    omega

/-- Percent-encoding goes byte by byte. -/
theorem percentEncode_eq_byteCodes (t : Text) :
    percentEncode t = (Utf8.encode t).flatMap byteCode := by
  rw [percentEncode, Utf8.encode, List.flatMap_assoc]
  refine List.flatMap_congr fun c _ => ?_
  by_cases hc : isPlain c = true
  · have hlow := isPlain_lt hc
    have hsame : (UInt8.ofNat c.toNat).toNat = c.toNat :=
      UInt8.toNat_ofNat_of_lt (show _ < 256 by omega)
    rw [if_pos hc, Utf8.utf8EncodeChar_of_lt hlow, List.flatMap_singleton, byteCode, hsame,
      Char.ofNat_toNat, if_pos hc]
  · rw [if_neg hc]
    exact List.flatMap_congr fun b hb => (byteCode_of_not_isPlain hc hb).symm

/-- **Percent-encoding tells all texts apart.** -/
theorem percentEncode_inj {s t : Text} : percentEncode s = percentEncode t ↔ s = t := by
  refine ⟨fun h => ?_, congrArg _⟩
  rw [percentEncode_eq_byteCodes, percentEncode_eq_byteCodes] at h
  exact Utf8.encode_inj.mp
    (flatMap_inj_of_codes byteCode_ne_nil (fun _ _ _ _ _ _ => byteCode_append_inj) h)

/-! ## Spellings -/

/-- A field as it is spelled in an address: dashes and underscores stand twice, and an underscore
stands for each blank. -/
def spelled (t : Text) : Text :=
  Text.replaceAll [' '] ['_']
    (Text.replaceAll ['-'] ['-', '-'] (Text.replaceAll ['_'] ['_', '_'] t))

/-- The spelling of a character. -/
def charSpelling (c : Char) : Text :=
  if c = '_' then ['_', '_'] else if c = '-' then ['-', '-'] else if c = ' ' then ['_'] else [c]

/-- A field with two blanks in place of each underscore. -/
def blanked (t : Text) : Text := Text.replaceAll ['_'] [' ', ' '] t

/-- The replacements do not get into each other's way. -/
theorem spelled_eq_flatMap (t : Text) : spelled t = t.flatMap charSpelling := by
  rw [spelled, Text.replaceAll_singleton, Text.replaceAll_singleton, Text.replaceAll_singleton,
    List.flatMap_assoc, List.flatMap_assoc]
  refine List.flatMap_congr fun c _ => ?_
  unfold charSpelling
  by_cases hunderscore : c = '_'
  · subst hunderscore
    decide
  by_cases hdash : c = '-'
  · subst hdash
    decide
  · simp [hunderscore, hdash]

/-- **One pass over a field spells and encodes it.** -/
theorem badgeEscape_eq (t : Text) : badgeEscape t = percentEncode (spelled t) := by
  rw [badgeEscape, percentEncode, spelled_eq_flatMap, List.flatMap_assoc]
  refine List.flatMap_congr fun c _ => ?_
  unfold escapeChar charSpelling
  by_cases hunderscore : c = '_'
  · subst hunderscore
    decide
  by_cases hdash : c = '-'
  · subst hdash
    decide
  by_cases hblank : c = ' '
  · subst hblank
    decide
  · simp [hunderscore, hdash, hblank, isPlain]

/-- Two blanks are spelled like an underscore. -/
theorem spelled_blanked (t : Text) : spelled (blanked t) = spelled t := by
  rw [spelled_eq_flatMap, spelled_eq_flatMap, blanked, Text.replaceAll_singleton,
    List.flatMap_assoc]
  refine List.flatMap_congr fun c _ => ?_
  by_cases hunderscore : c = '_'
  · subst hunderscore
    decide
  · rw [if_neg hunderscore, List.flatMap_singleton]

theorem notMem_blanked (t : Text) : '_' ∉ blanked t := by
  rw [blanked, Text.replaceAll_singleton]
  intro h
  obtain ⟨c, -, hc⟩ := List.mem_flatMap.mp h
  by_cases hunderscore : c = '_'
  · rw [if_pos hunderscore] at hc
    exact absurd hc (by decide)
  · rw [if_neg hunderscore] at hc
    exact hunderscore (List.mem_singleton.mp hc).symm

theorem head?_charSpelling {c : Char} (hc : c ≠ '_') (u : Text) :
    (charSpelling c ++ u).head? = some (if c = ' ' then '_' else c) := by
  unfold charSpelling
  rw [if_neg hc]
  by_cases hdash : c = '-'
  · subst hdash
    rfl
  · by_cases hblank : c = ' '
    · rw [if_neg hdash, if_pos hblank, if_pos hblank]
      rfl
    · rw [if_neg hdash, if_neg hblank, if_neg hblank]
      rfl

/-- Without underscores, the first letter of a spelling tells which character is spelled. -/
theorem charSpelling_append_inj {c c' : Char} (hc : c ≠ '_') (hc' : c' ≠ '_') {u v : Text}
    (h : charSpelling c ++ u = charSpelling c' ++ v) : c = c' ∧ u = v := by
  have hfirst : (if c = ' ' then '_' else c) = if c' = ' ' then '_' else c' := by
    rw [← Option.some_inj, ← head?_charSpelling hc u, h, head?_charSpelling hc']
  obtain rfl : c = c' := by
    by_cases hblank : c = ' '
    · by_cases hblank' : c' = ' '
      · rw [hblank, hblank']
      · rw [if_pos hblank, if_neg hblank'] at hfirst
        exact absurd hfirst.symm hc'
    · by_cases hblank' : c' = ' '
      · rw [if_neg hblank, if_pos hblank'] at hfirst
        exact absurd hfirst hc
      · rwa [if_neg hblank, if_neg hblank'] at hfirst
  exact ⟨rfl, List.append_cancel_left h⟩

theorem charSpelling_ne_nil (c : Char) : charSpelling c ≠ [] := by
  unfold charSpelling
  split_ifs <;> exact List.cons_ne_nil _ _

theorem spelled_eq_iff {s t : Text} : spelled s = spelled t ↔ blanked s = blanked t := by
  constructor
  · intro h
    rw [← spelled_blanked s, ← spelled_blanked t, spelled_eq_flatMap, spelled_eq_flatMap] at h
    refine flatMap_inj_of_codes charSpelling_ne_nil (fun c hc c' hc' _ _ => ?_) h
    exact charSpelling_append_inj (ne_of_mem_of_not_mem hc (notMem_blanked s))
      (ne_of_mem_of_not_mem hc' (notMem_blanked t))
  · intro h
    rw [← spelled_blanked s, h, spelled_blanked]

/-! ## Escaped fields -/

/-- Texts of letters, digits and five signs, and of percent escapes with upper-case digits. -/
inductive FieldCode : Text → Prop where
  | nil : FieldCode []
  | plain {c : Char} {t : Text} (hc : c.isAlphanum = true ∨ c ∈ ['_', '.', '-', '~', '*'])
      (h : FieldCode t) : FieldCode (c :: t)
  | percent {x y : Char} {t : Text} (hx : x ∈ "0123456789ABCDEF".toList)
      (hy : y ∈ "0123456789ABCDEF".toList) (h : FieldCode t) : FieldCode ('%' :: x :: y :: t)

/-- Bytes in front of such a text make another one. -/
theorem FieldCode.percentBytes {t : Text} (h : FieldCode t) (bytes : List UInt8) :
    FieldCode (bytes.flatMap percentByte ++ t) := by
  induction bytes with
  | nil => exact h
  | cons b bytes ih =>
    have hb := b.toNat_lt
    rw [List.flatMap_cons, List.append_assoc]
    exact .percent (hexDigit_mem _ (by omega)) (hexDigit_mem _ (by omega)) ih

theorem fieldCode_percentEncode (t : Text) : FieldCode (percentEncode t) := by
  induction t with
  | nil => exact .nil
  | cons c t ih =>
    show FieldCode ((if isPlain c then [c] else _) ++ percentEncode t)
    by_cases hc : isPlain c = true
    · rw [if_pos hc]
      exact .plain (isPlain_iff.mp hc) ih
    · rw [if_neg hc]
      exact ih.percentBytes _

/-- The characters that such a text can have. -/
theorem FieldCode.mem {t : Text} (h : FieldCode t) {c : Char} (hc : c ∈ t) :
    c.isAlphanum = true ∨ c ∈ ['_', '.', '-', '~', '*', '%'] := by
  have hdigit : ∀ x ∈ "0123456789ABCDEF".toList, x.isAlphanum = true :=
    List.all_eq_true.mp (by decide +kernel)
  induction h with
  | nil => exact absurd hc List.not_mem_nil
  | plain hplain _ ih =>
    rcases List.mem_cons.mp hc with rfl | hc
    · exact hplain.imp_right fun h => List.mem_append_left ['%'] h
    · exact ih hc
  | percent hx hy _ ih =>
    simp only [List.mem_cons] at hc
    rcases hc with rfl | rfl | rfl | hc
    · exact .inr (by decide)
    · exact .inl (hdigit _ hx)
    · exact .inl (hdigit _ hy)
    · exact ih hc

/-- **What an escaped field is made of, and which fields it confuses.** It is the percent-encoding
of the spelling, and so a text of unreserved characters, stars and percent escapes; no character
that means something else in an address or in markdown gets there. Two fields are escaped alike
exactly if they are equal with two blanks in place of each underscore. -/
theorem badgeEscape_code_and_collisions (a b : Text) :
    badgeEscape a = percentEncode (spelled a) ∧ FieldCode (badgeEscape a) ∧
      (∀ c ∈ " /()?#".toList, c ∉ badgeEscape a) ∧
      (badgeEscape a = badgeEscape b ↔ blanked a = blanked b) := by
  have hcode : FieldCode (badgeEscape a) := by
    rw [badgeEscape_eq]
    exact fieldCode_percentEncode _
  refine ⟨badgeEscape_eq a, hcode, fun c hc hmem => ?_, ?_⟩
  · have hother : (" /()?#".toList.all fun x =>
        ¬(x.isAlphanum = true ∨ x ∈ ['_', '.', '-', '~', '*', '%'])) = true := by decide +kernel
    exact of_decide_eq_true (List.all_eq_true.mp hother c hc) (hcode.mem hmem)
  · rw [badgeEscape_eq, badgeEscape_eq, percentEncode_inj, spelled_eq_iff]

end Markdown

end LiveSections
