import LiveSections.Proofs.Grammar
import Mathlib.Control.Monad.Basic
import Mathlib.Data.List.Chain

/-!
# Reading keeps every character

- `Span.slice`: the text that a span covers.
- `Span.Tiles`: spans that follow each other without gap, overlap or empty span.
- `Lossless`: the parts of a document tile it, and each part is its stretch of the document.
- `parse_lossless`: **what the reader accepts it takes apart without loss.**
-/

namespace LiveSections

/-- The stretch of a source that a span covers. -/
def Span.slice (source : Text) (span : Span) : Text :=
  (source.drop span.start).take (span.stop - span.start)

/-- `Tiles start stop spans`: the spans lead from one offset to another. None of them is empty, and
each begins where the one before it ends. -/
def Span.Tiles : Nat → Nat → List Span → Prop
  | start, stop, [] => start = stop
  | start, stop, span :: spans =>
    span.start = start ∧ start < span.stop ∧ Tiles span.stop stop spans

/-- How the parts of a document stand to its text. -/
structure Lossless (d : Delimiters) (source : Text) (parts : List Part) : Prop where
  /-- The spans lead through the whole source. -/
  tiles : Span.Tiles 0 source.length (parts.map Part.span)
  eq_nil_iff : parts = [] ↔ source = []
  literal_slice : ∀ text span, .literal text span ∈ parts → span.slice source = text
  section_slice : ∀ s, .live s ∈ parts →
    s.span.slice source = d.opening ++ s.header ++ '\n' :: s.program ++ d.closing ++ s.stale
      ++ s.closingTag
  /-- Of two neighbours at most one is a literal. -/
  separated : parts.IsChain fun p q => p.section? = none → q.section? ≠ none
  /-- Writing all parts back gives the source. -/
  source_eq : parts.flatMap (Part.source d) = source

variable {d : Delimiters}

/-! ## Spans -/

namespace Span

theorem slice_append (lead t behind : Text) :
    Span.slice (lead ++ t ++ behind) ⟨lead.length, lead.length + t.length⟩ = t := by
  simp [slice]

theorem Tiles.append {a b c : Nat} {spans more : List Span} (h : Tiles a b spans)
    (h' : Tiles b c more) : Tiles a c (spans ++ more) := by
  induction spans generalizing a with
  | nil =>
    obtain rfl : a = b := h
    exact h'
  | cons span spans ih =>
    obtain ⟨hstart, hlt, hrest⟩ := h
    exact ⟨hstart, hlt, ih hrest⟩

/-- All spans of a tiling begin behind its start. -/
theorem Tiles.le_start {a b : Nat} {spans : List Span} (h : Tiles a b spans) {span : Span}
    (hs : span ∈ spans) : a ≤ span.start := by
  induction spans generalizing a with
  | nil => cases hs
  | cons first spans ih =>
    obtain ⟨hstart, hlt, hrest⟩ := h
    rcases List.mem_cons.mp hs with rfl | hs
    · exact Nat.le_of_eq hstart.symm
    · exact Nat.le_trans (Nat.le_of_lt hlt) (ih hrest hs)

theorem Tiles.le {a b : Nat} {spans : List Span} (h : Tiles a b spans) : a ≤ b := by
  induction spans generalizing a with
  | nil => exact Nat.le_of_eq h
  | cons span spans ih =>
    obtain ⟨-, hlt, hrest⟩ := h
    exact Nat.le_of_lt (Nat.lt_of_lt_of_le hlt (ih hrest))

end Span

/-! ## Literals -/

theorem literalAt_tiles (position : Nat) (t : Text) :
    Span.Tiles position (position + t.length) ((literalAt position t).map Part.span) := by
  cases t with
  | nil => rfl
  | cons c cs => exact ⟨rfl, Nat.lt_add_of_pos_right (Nat.succ_pos _), rfl⟩

theorem literalAt_source (position : Nat) (t : Text) :
    (literalAt position t).flatMap (Part.source d) = t := by
  cases t <;> simp [literalAt, Part.source]

theorem mem_literalAt {position : Nat} {t : Text} {p : Part} (h : p ∈ literalAt position t) :
    p = .literal t ⟨position, position + t.length⟩ := by
  cases t with
  | nil => cases h
  | cons c cs => exact List.mem_singleton.mp h

/-! ## Written documents -/

namespace Written

variable {position : Nat} {t : Text} {parts : List Part}

theorem tiles (h : Written d position t parts) :
    Span.Tiles position (position + t.length) (parts.map Part.span) := by
  induction h with
  | rest => exact literalAt_tiles _ _
  | @step position before rest s parts _ _ _ hspan _ ih =>
    -- if nothing else, a section holds the line feed of its header
    have hpos : 0 < (s.source d).length := by
      simp only [Section.source, List.length_append, List.length_cons]
      omega
    rw [List.map_append, List.map_cons]
    refine (literalAt_tiles position before).append ⟨?_, ?_, ?_⟩
    · exact congrArg Span.start hspan
    · show position + before.length < s.span.stop
      rw [hspan]
      exact Nat.lt_add_of_pos_right hpos
    · have hend : s.span.stop + rest.length =
          position + (before ++ s.source d ++ rest).length := by
        rw [hspan]
        simp only [List.length_append]
        omega
      rw [← hend]
      exact ih

theorem source_eq (h : Written d position t parts) : parts.flatMap (Part.source d) = t := by
  induction h with
  | rest => exact literalAt_source _ _
  | step _ _ _ _ _ ih =>
    rw [List.flatMap_append, literalAt_source, List.flatMap_cons, ih, List.append_assoc]
    rfl

/-- Every part stands in the text, at its span. -/
theorem around (h : Written d position t parts) {p : Part} (hp : p ∈ parts) :
    ∃ lead behind, t = lead ++ p.source d ++ behind ∧
      p.span = ⟨position + lead.length, position + lead.length + (p.source d).length⟩ := by
  induction h with
  | @rest position t =>
    rw [mem_literalAt hp]
    exact ⟨[], [], (List.append_nil t).symm, rfl⟩
  | @step position before rest s parts _ _ _ hspan _ ih =>
    rcases List.mem_append.mp hp with hp | hp
    · rw [mem_literalAt hp]
      exact ⟨[], s.source d ++ rest, List.append_assoc _ _ _, rfl⟩
    · rcases List.mem_cons.mp hp with rfl | hp
      · exact ⟨before, rest, rfl, hspan⟩
      · obtain ⟨lead, behind, rfl, hp⟩ := ih hp
        refine ⟨before ++ s.source d ++ lead, behind, ?_, ?_⟩
        · simp only [List.append_assoc]
        · rw [hp, hspan]
          simp only [List.length_append, Span.mk.injEq]
          omega

theorem separated (h : Written d position t parts) :
    parts.IsChain fun p q => p.section? = none → q.section? ≠ none := by
  induction h with
  | @rest position t => cases t <;> simp [literalAt]
  | @step position before rest s parts _ _ _ _ _ ih =>
    have hs : (Part.live s :: parts).IsChain fun p q => p.section? = none → q.section? ≠ none :=
      List.isChain_cons.mpr ⟨fun _ _ hnone => (nomatch hnone), ih⟩
    cases before with
    | nil => exact hs
    | cons c cs => exact List.isChain_cons_cons.mpr ⟨fun _ hnone => (nomatch hnone), hs⟩

theorem eq_nil_iff (h : Written d position t parts) : parts = [] ↔ t = [] := by
  constructor
  · rintro rfl
    exact h.source_eq.symm
  · rintro rfl
    have htiles := h.tiles
    cases parts with
    | nil => rfl
    | cons p parts =>
      obtain ⟨-, hlt, hrest⟩ := htiles
      exact absurd hrest.le (Nat.not_le.mpr hlt)

end Written

/-- **What the reader accepts it takes apart without loss.** -/
theorem parse_lossless {source : Text} {parts : List Part} (h : parse d source = .ok parts) :
    Lossless d source parts := by
  have hw : Written d 0 source parts := parse_eq_ok_iff.mp h
  have hslice {p : Part} (hp : p ∈ parts) : p.span.slice source = p.source d := by
    obtain ⟨lead, behind, rfl, hspan⟩ := hw.around hp
    rw [hspan, Nat.zero_add]
    exact Span.slice_append lead (p.source d) behind
  refine { tiles := ?_, eq_nil_iff := hw.eq_nil_iff, literal_slice := ?_, section_slice := ?_,
           separated := hw.separated, source_eq := hw.source_eq }
  · simpa using hw.tiles
  · intro text span hp
    exact hslice hp
  · intro s hp
    exact hslice hp

/-- An open-marker in the previous output, next to the one of the closing tag. -/
theorem parse_lossless_angled :
    let source := "a<<b\np>>x<<<</b>>c".toList
    let parts := [
      .literal ['a'] ⟨0, 1⟩,
      .live { name := ['b'], header := ['b'], program := ['p'], stale := "x<<".toList,
              closingTag := "<</b>>".toList, span := ⟨1, 17⟩ },
      .literal ['c'] ⟨17, 18⟩]
    parse .angled source = .ok parts ∧ Lossless .angled source parts := by
  intro source parts
  have hparse : parse .angled source = .ok parts := by decide +kernel
  exact ⟨hparse, parse_lossless hparse⟩

end LiveSections
