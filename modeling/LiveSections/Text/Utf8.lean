import LiveSections.Text.Quoted

/-!
# Decoding bytes

Files hold texts in UTF-8. The lead byte of a character decides how many bytes follow and in which
range the first of them lies.

- `Utf8.decode`: the text of bytes, or the first bytes that are no character.
- `Utf8.DecodeError.message`: the words of the refusal.
- `Utf8.encode`: the bytes of a text.
-/

namespace LiveSections.Utf8

/-- Why bytes are no character. -/
inductive Fault where
  | invalidStart
  | invalidContinuation
  | unexpectedEnd
  deriving DecidableEq, Repr

/-- The words of a fault. -/
def Fault.message : Fault → String
  | invalidStart => "invalid start byte"
  | invalidContinuation => "invalid continuation byte"
  | unexpectedEnd => "unexpected end of data"

/-- The bytes that are no character: the first of them, how many there are, and where. -/
structure DecodeError where
  fault : Fault
  first : UInt8
  count : Nat
  position : Nat
  deriving DecidableEq, Repr

/-- The words of the refusal. -/
def DecodeError.message (e : DecodeError) : String :=
  let place :=
    if e.count ≤ 1 then
      s!"byte 0x{(Text.hexDigits 2 e.first.toNat).str} in position {e.position}"
    else s!"bytes in position {e.position}-{e.position + e.count - 1}"
  s!"'utf-8' codec can't decode {place}: {e.fault.message}"

/-- What a lead byte announces: its own bits, how many bytes follow, and the range of the first. -/
structure Lead where
  bits : Nat
  following : Nat
  low : UInt8 := 0x80
  high : UInt8 := 0xBF

/-- The announcement of a byte, if it can come first. -/
def Lead.ofByte? (b : UInt8) : Option Lead :=
  let n := b.toNat
  if b < 0x80 then some { bits := n, following := 0 }
  else if b < 0xC2 then none
  else if b < 0xE0 then some { bits := n - 0xC0, following := 1 }
  else if b < 0xF0 then
    some { bits := n - 0xE0, following := 2,
           low := if b = 0xE0 then 0xA0 else 0x80, high := if b = 0xED then 0x9F else 0xBF }
  else if b < 0xF5 then
    some { bits := n - 0xF0, following := 3,
           low := if b = 0xF0 then 0x90 else 0x80, high := if b = 0xF4 then 0x8F else 0xBF }
  else none

/-- Reads the bytes that follow a lead: the code point and the bytes behind it, or the fault and
how many bytes were read before it. -/
def readFollowing (value : Nat) (low high : UInt8) :
    Nat → List UInt8 → Except (Fault × Nat) (Nat × List UInt8)
  | 0, bs => .ok (value, bs)
  | _ + 1, [] => .error (.unexpectedEnd, 0)
  | n + 1, b :: bs =>
    if low ≤ b ∧ b ≤ high then
      match readFollowing (value * 64 + (b.toNat - 0x80)) 0x80 0xBF n bs with
      | .ok r => .ok r
      | .error (fault, count) => .error (fault, count + 1)
    else .error (.invalidContinuation, 0)

theorem readFollowing_length_le {value : Nat} {low high : UInt8} {n : Nat} {bs rest : List UInt8}
    {code : Nat} (h : readFollowing value low high n bs = .ok (code, rest)) :
    rest.length ≤ bs.length := by
  induction n generalizing value low high bs with
  | zero =>
    obtain ⟨-, rfl⟩ := Prod.mk.inj (Except.ok.inj h)
    exact Nat.le_refl _
  | succ n ih =>
    cases bs with
    | nil => simp [readFollowing] at h
    | cons b bs =>
      unfold readFollowing at h
      split at h
      · split at h
        · next hr =>
          obtain rfl := Except.ok.inj h
          exact Nat.le_succ_of_le (ih hr)
        · simp at h
      · simp at h

/-- The characters of bytes that begin at a position. -/
def decodeFrom (position : Nat) (bytes : List UInt8) : Except DecodeError Text :=
  match bytes with
  | [] => .ok []
  | b :: bs =>
    match Lead.ofByte? b with
    | none => .error ⟨.invalidStart, b, 1, position⟩
    | some lead =>
      match _h : readFollowing lead.bits lead.low lead.high lead.following bs with
      | .error (fault, count) => .error ⟨fault, b, count + 1, position⟩
      | .ok (code, rest) =>
        (decodeFrom (position + lead.following + 1) rest).map (Char.ofNat code :: ·)
termination_by bytes.length
decreasing_by exact Nat.lt_succ_of_le (readFollowing_length_le _h)

/-- The text of bytes. -/
def decode (bytes : List UInt8) : Except DecodeError Text := decodeFrom 0 bytes

/-- The bytes of a text. -/
def encode (t : Text) : List UInt8 := t.flatMap String.utf8EncodeChar

end LiveSections.Utf8
