import LiveSections.Text.Utf8
import Mathlib.Tactic.Common

/-!
# Bytes and texts

- `Spells bytes code`: the bytes that a code point is written with, none of which can be left out.
- `Spells.read`, `Spells.of_read`: the decoder reads spellings and nothing else.
- `spells_utf8EncodeChar`, `Spells.eq_utf8EncodeChar`: the encoder writes spellings.
- `decode_eq_ok_iff`: **bytes are decoded to a text exactly if they are what it is encoded to.**
-/

namespace LiveSections.Utf8

/-! ## Spellings -/

/-- `Spells bytes code`: a lead byte and six bits in each byte behind it make up a code point that
needs as many bytes and stands for a character. -/
inductive Spells : List UInt8 → Nat → Prop where
  | one {n : Nat} (h : n < 0x80) : Spells [.ofNat n] n
  | two {a b : Nat} (ha : a < 0x20) (hb : b < 0x40) (hlow : 0x80 ≤ a * 64 + b) :
      Spells [.ofNat (0xC0 + a), .ofNat (0x80 + b)] (a * 64 + b)
  | three {a b c : Nat} (ha : a < 0x10) (hb : b < 0x40) (hc : c < 0x40)
      (hlow : 0x800 ≤ (a * 64 + b) * 64 + c) (hvalid : ((a * 64 + b) * 64 + c).isValidChar) :
      Spells [.ofNat (0xE0 + a), .ofNat (0x80 + b), .ofNat (0x80 + c)] ((a * 64 + b) * 64 + c)
  | four {a b c e : Nat} (ha : a < 0x08) (hb : b < 0x40) (hc : c < 0x40) (he : e < 0x40)
      (hlow : 0x10000 ≤ ((a * 64 + b) * 64 + c) * 64 + e)
      (hvalid : (((a * 64 + b) * 64 + c) * 64 + e).isValidChar) :
      Spells [.ofNat (0xF0 + a), .ofNat (0x80 + b), .ofNat (0x80 + c), .ofNat (0x80 + e)]
        (((a * 64 + b) * 64 + c) * 64 + e)

theorem Spells.isValidChar {bytes : List UInt8} {code : Nat} (h : Spells bytes code) :
    code.isValidChar := by
  cases h with
  | one h => exact .inl (by omega)
  | two ha hb hlow => exact .inl (by omega)
  | three ha hb hc hlow hvalid => exact hvalid
  | four ha hb hc he hlow hvalid => exact hvalid

/-! ## The encoder -/

/-- The encoder writes a code point as it is spelled. -/
theorem Spells.eq_utf8EncodeChar {bytes : List UInt8} {code : Nat} (h : Spells bytes code) :
    String.utf8EncodeChar (Char.ofNat code) = bytes := by
  have hval : (Char.ofNat code).val.toNat = code := by
    rw [Char.ofNat, dif_pos h.isValidChar]
    rfl
  simp only [String.utf8EncodeChar, hval]
  cases h with
  | one h => rw [if_pos (by omega)]
  | @two a b ha hb hlow =>
    rw [if_neg (by omega), if_pos (by omega)]
    have h₁ : (a * 64 + b) / 64 % 32 + 192 = 0xC0 + a := by omega
    have h₂ : (a * 64 + b) % 64 + 128 = 0x80 + b := by omega
    rw [h₁, h₂]
  | @three a b c ha hb hc hlow hvalid =>
    rw [if_neg (by omega), if_neg (by omega), if_pos (by omega)]
    have h₁ : ((a * 64 + b) * 64 + c) / 4096 % 16 + 224 = 0xE0 + a := by omega
    have h₂ : ((a * 64 + b) * 64 + c) / 64 % 64 + 128 = 0x80 + b := by omega
    have h₃ : ((a * 64 + b) * 64 + c) % 64 + 128 = 0x80 + c := by omega
    rw [h₁, h₂, h₃]
  | @four a b c e ha hb hc he hlow hvalid =>
    rw [if_neg (by omega), if_neg (by omega), if_neg (by omega)]
    have h₁ : (((a * 64 + b) * 64 + c) * 64 + e) / 262144 % 8 + 240 = 0xF0 + a := by omega
    have h₂ : (((a * 64 + b) * 64 + c) * 64 + e) / 4096 % 64 + 128 = 0x80 + b := by omega
    have h₃ : (((a * 64 + b) * 64 + c) * 64 + e) / 64 % 64 + 128 = 0x80 + c := by omega
    have h₄ : (((a * 64 + b) * 64 + c) * 64 + e) % 64 + 128 = 0x80 + e := by omega
    rw [h₁, h₂, h₃, h₄]

/-- Every character has a spelling. -/
theorem exists_spells {code : Nat} (h : code.isValidChar) : ∃ bytes, Spells bytes code := by
  have hbound : code < 0x110000 := by
    rcases h with h | h <;> omega
  by_cases h₁ : code < 0x80
  · exact ⟨_, .one h₁⟩
  · -- the lowest six bits, and those above them
    have hc : (code / 64) * 64 + code % 64 = code := by omega
    by_cases h₂ : code < 0x800
    · have hs := Spells.two (a := code / 64) (b := code % 64) (by omega) (by omega) (by omega)
      rw [hc] at hs
      exact ⟨_, hs⟩
    · have hb : (code / 4096) * 64 + code / 64 % 64 = code / 64 := by omega
      by_cases h₃ : code < 0x10000
      · have hs := Spells.three (a := code / 4096) (b := code / 64 % 64) (c := code % 64)
          (by omega) (by omega) (by omega) (by omega) (by rwa [hb, hc])
        rw [hb, hc] at hs
        exact ⟨_, hs⟩
      · have ha : (code / 262144) * 64 + code / 4096 % 64 = code / 4096 := by omega
        have hs := Spells.four (a := code / 262144) (b := code / 4096 % 64)
          (c := code / 64 % 64) (e := code % 64) (by omega) (by omega) (by omega) (by omega)
          (by omega) (by rwa [ha, hb, hc])
        rw [ha, hb, hc] at hs
        exact ⟨_, hs⟩

/-- A character is written with the spelling of its code point. -/
theorem spells_utf8EncodeChar (c : Char) : Spells (String.utf8EncodeChar c) c.toNat := by
  obtain ⟨bytes, h⟩ := exists_spells c.valid
  have hbytes := h.eq_utf8EncodeChar
  rw [Char.toNat_val, Char.ofNat_toNat] at hbytes
  rwa [hbytes]

theorem utf8EncodeChar_of_lt {c : Char} (h : c.toNat < 0x80) :
    String.utf8EncodeChar c = [.ofNat c.toNat] := by
  have hbytes := (Spells.one h).eq_utf8EncodeChar
  rwa [Char.ofNat_toNat] at hbytes

/-- Only code points below 128 are written with bytes below 128. -/
theorem Spells.le_of_mem {bytes : List UInt8} {code : Nat} (h : Spells bytes code)
    (hcode : 0x80 ≤ code) {b : UInt8} (hb : b ∈ bytes) : 0x80 ≤ b.toNat := by
  have hbyte {lead n : Nat} (hlow : 0x80 ≤ lead) (hhigh : lead + n < 256) :
      0x80 ≤ (UInt8.ofNat (lead + n)).toNat := by
    have hn : (UInt8.ofNat (lead + n)).toNat = lead + n := UInt8.toNat_ofNat_of_lt hhigh
    omega
  cases h with
  | one h => omega
  | two ha hx hlow =>
    simp only [List.mem_cons, List.not_mem_nil, or_false] at hb
    rcases hb with rfl | rfl <;> exact hbyte (by omega) (by omega)
  | three ha hx hy hlow hvalid =>
    simp only [List.mem_cons, List.not_mem_nil, or_false] at hb
    rcases hb with rfl | rfl | rfl <;> exact hbyte (by omega) (by omega)
  | four ha hx hy hz hlow hvalid =>
    simp only [List.mem_cons, List.not_mem_nil, or_false] at hb
    rcases hb with rfl | rfl | rfl | rfl <;> exact hbyte (by omega) (by omega)

/-! ## The decoder -/

theorem Lead.ofByte?_ofNat {n : Nat} (h : n < 256) :
    Lead.ofByte? (.ofNat n) =
      if n < 0x80 then some { bits := n, following := 0 }
      else if n < 0xC2 then none
      else if n < 0xE0 then some { bits := n - 0xC0, following := 1 }
      else if n < 0xF0 then
        some { bits := n - 0xE0, following := 2,
               low := if n = 0xE0 then 0xA0 else 0x80, high := if n = 0xED then 0x9F else 0xBF }
      else if n < 0xF5 then
        some { bits := n - 0xF0, following := 3,
               low := if n = 0xF0 then 0x90 else 0x80, high := if n = 0xF4 then 0x8F else 0xBF }
      else none := by
  have hn : (UInt8.ofNat n).toNat = n := UInt8.toNat_ofNat_of_lt h
  have heq (m : UInt8) : UInt8.ofNat n = m ↔ n = m.toNat := by
    rw [← UInt8.toNat_inj, hn]
  simp only [Lead.ofByte?, UInt8.lt_iff_toNat_lt, heq, hn]
  rfl

/-- A byte that is in range adds its six bits. -/
theorem readFollowing_of_bits {value n b : Nat} {low high : UInt8} {rest : List UInt8}
    {r : Nat × List UInt8} (hb : b < 0x40) (hlow : low.toNat ≤ 0x80 + b)
    (hhigh : 0x80 + b ≤ high.toNat)
    (h : readFollowing (value * 64 + b) 0x80 0xBF n rest = .ok r) :
    readFollowing value low high (n + 1) (.ofNat (0x80 + b) :: rest) = .ok r := by
  have hn : (UInt8.ofNat (0x80 + b)).toNat = 0x80 + b :=
    UInt8.toNat_ofNat_of_lt (show _ < 256 by omega)
  have hrange : low ≤ .ofNat (0x80 + b) ∧ .ofNat (0x80 + b) ≤ high := by
    rw [UInt8.le_iff_toNat_le, UInt8.le_iff_toNat_le, hn]
    exact ⟨hlow, hhigh⟩
  rw [readFollowing, if_pos hrange, hn, Nat.add_sub_cancel_left, h]

/-- A byte that is read is in range, and holds six bits. -/
theorem bits_of_readFollowing {value n : Nat} {low high : UInt8} {bs : List UInt8}
    {r : Nat × List UInt8} (hlow : 0x80 ≤ low.toNat) (hhigh : high.toNat ≤ 0xBF)
    (h : readFollowing value low high (n + 1) bs = .ok r) :
    ∃ b behind, bs = .ofNat (0x80 + b) :: behind ∧ b < 0x40 ∧
      (low.toNat ≤ 0x80 + b ∧ 0x80 + b ≤ high.toNat) ∧
      readFollowing (value * 64 + b) 0x80 0xBF n behind = .ok r := by
  cases bs with
  | nil => cases h
  | cons x behind =>
    rw [readFollowing] at h
    split at h
    · next hrange =>
      rw [UInt8.le_iff_toNat_le, UInt8.le_iff_toNat_le] at hrange
      have hx : 0x80 + (x.toNat - 0x80) = x.toNat := by omega
      refine ⟨x.toNat - 0x80, behind, by rw [hx, UInt8.ofNat_toNat], by omega, by rwa [hx], ?_⟩
      split at h
      · next hread => exact hread.trans h
      · cases h
    · cases h

/-- Behind a lead byte of three, the range of the second byte says that the code point needs three
bytes and stands for a character. -/
theorem second_of_three_iff {a b c : Nat} (ha : a < 0x10) (hb : b < 0x40) (hc : c < 0x40) :
    ((if 0xE0 + a = 0xE0 then 0xA0 else 0x80 : UInt8).toNat ≤ 0x80 + b ∧
        0x80 + b ≤ (if 0xE0 + a = 0xED then 0x9F else 0xBF : UInt8).toNat) ↔
      0x800 ≤ (a * 64 + b) * 64 + c ∧ ((a * 64 + b) * 64 + c).isValidChar := by
  have hlow : (0xA0 : UInt8).toNat = 0xA0 ∧ (0x80 : UInt8).toNat = 0x80 := ⟨rfl, rfl⟩
  have hhigh : (0x9F : UInt8).toNat = 0x9F ∧ (0xBF : UInt8).toNat = 0xBF := ⟨rfl, rfl⟩
  rw [apply_ite UInt8.toNat, apply_ite UInt8.toNat, hlow.1, hlow.2, hhigh.1, hhigh.2]
  unfold Nat.isValidChar
  split_ifs <;> omega

/-- Behind a lead byte of four, the range of the second byte says that the code point needs four
bytes and is not too large. -/
theorem second_of_four_iff {a b c e : Nat} (hb : b < 0x40) (hc : c < 0x40) (he : e < 0x40) :
    (a < 0x05 ∧ (if 0xF0 + a = 0xF0 then 0x90 else 0x80 : UInt8).toNat ≤ 0x80 + b ∧
        0x80 + b ≤ (if 0xF0 + a = 0xF4 then 0x8F else 0xBF : UInt8).toNat) ↔
      0x10000 ≤ ((a * 64 + b) * 64 + c) * 64 + e ∧
        (((a * 64 + b) * 64 + c) * 64 + e).isValidChar := by
  have hlow : (0x90 : UInt8).toNat = 0x90 ∧ (0x80 : UInt8).toNat = 0x80 := ⟨rfl, rfl⟩
  have hhigh : (0x8F : UInt8).toNat = 0x8F ∧ (0xBF : UInt8).toNat = 0xBF := ⟨rfl, rfl⟩
  rw [apply_ite UInt8.toNat, apply_ite UInt8.toNat, hlow.1, hlow.2, hhigh.1, hhigh.2]
  unfold Nat.isValidChar
  split_ifs <;> omega

/-- **The decoder reads a spelling.** -/
theorem Spells.read {x : UInt8} {tail : List UInt8} {code : Nat} (h : Spells (x :: tail) code) :
    ∃ lead, Lead.ofByte? x = some lead ∧ ∀ rest,
      readFollowing lead.bits lead.low lead.high lead.following (tail ++ rest) =
        .ok (code, rest) := by
  have last (value b : Nat) (hb : b < 0x40) (rest : List UInt8) :
      readFollowing value 0x80 0xBF 1 (.ofNat (0x80 + b) :: rest) = .ok (value * 64 + b, rest) :=
    readFollowing_of_bits hb (Nat.le_add_right _ b) (show _ ≤ 0xBF by omega) rfl
  have lastTwo (value b c : Nat) (hb : b < 0x40) (hc : c < 0x40) (rest : List UInt8) :
      readFollowing value 0x80 0xBF 2 (.ofNat (0x80 + b) :: .ofNat (0x80 + c) :: rest) =
        .ok ((value * 64 + b) * 64 + c, rest) :=
    readFollowing_of_bits hb (Nat.le_add_right _ b) (show _ ≤ 0xBF by omega) (last _ c hc rest)
  cases h with
  | one h =>
    rw [Lead.ofByte?_ofNat (by omega), if_pos h]
    exact ⟨_, rfl, fun _ => rfl⟩
  | @two a b ha hb hlow =>
    rw [Lead.ofByte?_ofNat (by omega), if_neg (by omega), if_neg (by omega), if_pos (by omega),
      Nat.add_sub_cancel_left]
    exact ⟨_, rfl, last a b hb⟩
  | @three a b c ha hb hc hlow hvalid =>
    rw [Lead.ofByte?_ofNat (by omega), if_neg (by omega), if_neg (by omega), if_neg (by omega),
      if_pos (by omega), Nat.add_sub_cancel_left]
    obtain ⟨hmin, hmax⟩ := (second_of_three_iff ha hb hc).mpr ⟨hlow, hvalid⟩
    exact ⟨_, rfl, fun rest => readFollowing_of_bits hb hmin hmax (last _ c hc rest)⟩
  | @four a b c e ha hb hc he hlow hvalid =>
    obtain ⟨ha', hmin, hmax⟩ := (second_of_four_iff hb hc he).mpr ⟨hlow, hvalid⟩
    rw [Lead.ofByte?_ofNat (by omega), if_neg (by omega), if_neg (by omega), if_neg (by omega),
      if_neg (by omega), if_pos (by omega), Nat.add_sub_cancel_left]
    exact ⟨_, rfl, fun rest => readFollowing_of_bits hb hmin hmax (lastTwo _ c e hc he rest)⟩

/-- **The decoder reads nothing but spellings.** -/
theorem Spells.of_read {x : UInt8} {lead : Lead} {bs rest : List UInt8} {code : Nat}
    (hl : Lead.ofByte? x = some lead)
    (h : readFollowing lead.bits lead.low lead.high lead.following bs = .ok (code, rest)) :
    ∃ tail, bs = tail ++ rest ∧ Spells (x :: tail) code := by
  obtain ⟨n, hn, rfl⟩ : ∃ n, n < 256 ∧ x = .ofNat n := ⟨x.toNat, x.toNat_lt, by simp⟩
  rw [Lead.ofByte?_ofNat hn] at hl
  split at hl
  · next h₁ =>
    obtain rfl := Option.some.inj hl
    obtain ⟨rfl, rfl⟩ := Prod.mk.inj (Except.ok.inj h)
    exact ⟨[], rfl, .one h₁⟩
  split at hl
  · cases hl
  split at hl
  · obtain ⟨a, rfl⟩ := Nat.exists_eq_add_of_le (show 0xC0 ≤ n by omega)
    rw [Nat.add_sub_cancel_left] at hl
    obtain rfl := Option.some.inj hl
    obtain ⟨b, behind, rfl, hb, -, h₂⟩ :=
      bits_of_readFollowing (Nat.le_refl _) (Nat.le_refl _) h
    obtain ⟨rfl, rfl⟩ := Prod.mk.inj (Except.ok.inj h₂)
    exact ⟨[_], rfl, .two (by omega) hb (by omega)⟩
  split at hl
  · obtain ⟨a, rfl⟩ := Nat.exists_eq_add_of_le (show 0xE0 ≤ n by omega)
    rw [Nat.add_sub_cancel_left] at hl
    obtain rfl := Option.some.inj hl
    obtain ⟨b, behind, rfl, hb, hrange, h₂⟩ := bits_of_readFollowing
      (by dsimp only; split <;> decide) (by dsimp only; split <;> decide) h
    obtain ⟨c, behind, rfl, hc, -, h₃⟩ :=
      bits_of_readFollowing (Nat.le_refl _) (Nat.le_refl _) h₂
    obtain ⟨rfl, rfl⟩ := Prod.mk.inj (Except.ok.inj h₃)
    have ha : a < 0x10 := by omega
    obtain ⟨hlow, hvalid⟩ := (second_of_three_iff ha hb hc).mp hrange
    exact ⟨[_, _], rfl, .three ha hb hc hlow hvalid⟩
  split at hl
  · obtain ⟨a, rfl⟩ := Nat.exists_eq_add_of_le (show 0xF0 ≤ n by omega)
    rw [Nat.add_sub_cancel_left] at hl
    obtain rfl := Option.some.inj hl
    obtain ⟨b, behind, rfl, hb, hrange, h₂⟩ := bits_of_readFollowing
      (by dsimp only; split <;> decide) (by dsimp only; split <;> decide) h
    obtain ⟨c, behind, rfl, hc, -, h₃⟩ :=
      bits_of_readFollowing (Nat.le_refl _) (Nat.le_refl _) h₂
    obtain ⟨e, behind, rfl, he, -, h₄⟩ :=
      bits_of_readFollowing (Nat.le_refl _) (Nat.le_refl _) h₃
    obtain ⟨rfl, rfl⟩ := Prod.mk.inj (Except.ok.inj h₄)
    obtain ⟨hlow, hvalid⟩ := (second_of_four_iff hb hc he).mp ⟨by omega, hrange⟩
    exact ⟨[_, _, _], rfl, .four (by omega) hb hc he hlow hvalid⟩
  · cases hl

/-! ## Texts -/

/-- A spelling in front is read as its character. -/
theorem decodeFrom_spelled {bytes : List UInt8} {code : Nat} (h : Spells bytes code)
    (position : Nat) (rest : List UInt8) :
    ∃ position', decodeFrom position (bytes ++ rest) =
      (decodeFrom position' rest).map (Char.ofNat code :: ·) := by
  obtain ⟨x, tail, rfl⟩ : ∃ x tail, bytes = x :: tail := by
    cases h <;> exact ⟨_, _, rfl⟩
  obtain ⟨lead, hl, hread⟩ := h.read
  refine ⟨position + lead.following + 1, ?_⟩
  rw [List.cons_append, decodeFrom, hl]
  dsimp only
  split
  · next herror => cases (hread rest).symm.trans herror
  · next hok =>
    obtain ⟨rfl, rfl⟩ := Prod.mk.inj (Except.ok.inj ((hread rest).symm.trans hok))
    rfl

/-- What is read has a spelling in front. -/
theorem exists_spelled_of_decodeFrom {position : Nat} {x : UInt8} {bs : List UInt8} {t : Text}
    (h : decodeFrom position (x :: bs) = .ok t) :
    ∃ tail rest code position' t', bs = tail ++ rest ∧ Spells (x :: tail) code ∧
      decodeFrom position' rest = .ok t' ∧ t = Char.ofNat code :: t' := by
  rw [decodeFrom] at h
  split at h
  · cases h
  · next lead hl =>
    split at h
    · cases h
    · next code rest hread =>
      obtain ⟨tail, rfl, hspells⟩ := Spells.of_read hl hread
      cases ht : decodeFrom (position + lead.following + 1) rest with
      | error e =>
        rw [ht] at h
        cases h
      | ok t' =>
        rw [ht] at h
        cases h
        exact ⟨tail, rest, code, _, t', rfl, hspells, ht, rfl⟩

theorem decodeFrom_encode (t : Text) (position : Nat) : decodeFrom position (encode t) = .ok t := by
  induction t generalizing position with
  | nil => exact decodeFrom.eq_def position []
  | cons c t ih =>
    obtain ⟨position', hstep⟩ :=
      decodeFrom_spelled (spells_utf8EncodeChar c) position (encode t)
    rw [encode, List.flatMap_cons]
    show decodeFrom position (_ ++ encode t) = _
    rw [hstep, ih, Char.ofNat_toNat]
    rfl

theorem encode_decodeFrom {position : Nat} {bytes : List UInt8} {t : Text}
    (h : decodeFrom position bytes = .ok t) : encode t = bytes := by
  induction hn : bytes.length using Nat.strongRecOn generalizing position bytes t with
  | ind n ih =>
    cases bytes with
    | nil =>
      rw [decodeFrom] at h
      cases h
      rfl
    | cons x bs =>
      obtain ⟨tail, rest, code, position', t', rfl, hspells, hrest, rfl⟩ :=
        exists_spelled_of_decodeFrom h
      have hlt : rest.length < n := by
        rw [← hn, List.length_cons, List.length_append]
        omega
      have hencode : encode t' = rest := ih rest.length hlt hrest rfl
      show String.utf8EncodeChar (Char.ofNat code) ++ encode t' = _
      rw [hspells.eq_utf8EncodeChar, hencode, List.cons_append]

/-- **Bytes are decoded to a text exactly if they are what it is encoded to.** -/
theorem decode_eq_ok_iff {bytes : List UInt8} {t : Text} :
    decode bytes = .ok t ↔ bytes = encode t := by
  constructor
  · exact fun h => (encode_decodeFrom h).symm
  · rintro rfl
    exact decodeFrom_encode t 0

theorem encode_inj {t t' : Text} : encode t = encode t' ↔ t = t' := by
  refine ⟨fun h => ?_, congrArg _⟩
  exact Except.ok.inj ((decode_eq_ok_iff.mpr rfl).symm.trans (decode_eq_ok_iff.mpr h))

end LiveSections.Utf8
