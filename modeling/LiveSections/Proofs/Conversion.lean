import LiveSections.Proofs.Newline
import LiveSections.Proofs.Setup
import LiveSections.Proofs.Splice
import LiveSections.Proofs.Untouched
import LiveSections.Proofs.Utf8

/-!
# Compiling between two conversions

Ends of line are converted before a document is compiled, and restored in what comes of it. Nothing
is lost on the way if the document has one kind of ends of line. What was restored stands at other
offsets than in the compiled document, but stretch by stretch it is the raw document.

- `restoring_toLf_eq_iff`: **which texts are restored to themselves.**
- `Text.Spreads`: conversions that take the stretches of a text one after another.
- `Spreads.splice`: such a conversion of a splice is a splice of what is converted.
- `Job.compileDocument_splices`: **with tags as they were read, nothing but outputs is written
  anew,** at the offsets that they have in the raw document.
-/

namespace LiveSections

namespace Text

/-! ## Texts that are restored to themselves -/

variable {t : Text}

theorem toCrlf_append (t u : Text) : toCrlf (t ++ u) = toCrlf t ++ toCrlf u := List.flatMap_append

theorem restoring_append (raw t u : Text) :
    restoring raw (t ++ u) = restoring raw t ++ restoring raw u := by
  unfold restoring
  split
  · exact toCrlf_append t u
  · rfl

/-- A line feed stays bare behind other text, unless a carriage return comes to stand before it. -/
theorem BareLf.append_left {lead : Text} (hl : lead.getLast? ≠ some '\r' ∨ t.head? ≠ some '\n')
    (h : BareLf t) : BareLf (lead ++ t) := by
  obtain ⟨before, behind, rfl, hlast⟩ := h
  refine ⟨lead ++ before, behind, (List.append_assoc _ _ _).symm, ?_⟩
  cases before with
  | nil =>
    rw [List.append_nil]
    exact hl.resolve_right fun hhead => hhead rfl
  | cons x before => rwa [List.getLast?_append_of_ne_nil _ (List.cons_ne_nil x before)]

/-- Ends of line of two characters are restored, if there are no others. -/
theorem toCrlf_toLf (h : ¬BareLf t) : toCrlf (toLf t) = t := by
  induction hn : t.length using Nat.strongRecOn generalizing t with
  | ind n ih =>
    subst hn
    cases t with
    | nil => rfl
    | cons c t =>
      rcases crlf_or_cons c t with ⟨behind, heq⟩ | hc
      · -- an end of line, and no line feed behind it is made bare or covered by it
        rw [heq] at h ih ⊢
        have hbehind : ¬BareLf behind := fun hb =>
          h (hb.append_left (.inl (by decide)) : BareLf (['\r', '\n'] ++ behind))
        have hrest := ih behind.length (by simp only [List.length_cons]; omega) hbehind rfl
        show toCrlf ('\n' :: toLf behind) = _
        rw [toCrlf_cons, if_pos rfl, hrest]
        rfl
      · -- a line feed would be bare here, so the character stays as it is
        have hlf : c ≠ '\n' := fun hlf => h ⟨[], t, by rw [hlf]; rfl, nofun⟩
        have hlead : [c].getLast? ≠ some '\r' ∨ t.head? ≠ some '\n' :=
          hc.imp_left fun hne heq => hne (Option.some.inj heq)
        have hrest := ih t.length (Nat.lt_succ_self _) (fun hb => h (hb.append_left hlead)) rfl
        rw [toLf_cons hc, toCrlf_cons, if_neg hlf, hrest]
        rfl

/-- **A text is restored to itself** exactly if it has no end of line of two characters, or no
other. -/
theorem restoring_toLf_eq_iff : restoring t (toLf t) = t ↔ hasCrlf t = false ∨ ¬BareLf t := by
  cases h : hasCrlf t with
  | false =>
    rw [restoring, h, toLf_eq_self h]
    simp
  | true =>
    rw [or_iff_right (by simp)]
    constructor
    · exact fun heq hb => restoring_ne_of_bareLf h hb _ heq
    · intro hb
      rw [restoring, if_pos h, toCrlf_toLf hb]

/-! ## Stretch by stretch -/

/-- A conversion that takes the stretches of a text one after another. -/
def Spreads (f : Text → Text) : Prop := ∀ t u, f (t ++ u) = f t ++ f u

/-- Where an offset of a text is once the text is converted. -/
def offsetIn (f : Text → Text) (source : Text) (i : Nat) : Nat := (f (source.take i)).length

/-- Where a span of a text is once the text is converted. -/
def spanIn (f : Text → Text) (source : Text) (span : Span) : Span :=
  ⟨offsetIn f source span.start, offsetIn f source span.stop⟩

namespace Spreads

variable {f : Text → Text} (hf : Spreads f) (source : Text)

include hf

theorem nil : f [] = [] := by
  have h := congrArg List.length (hf [] [])
  rw [List.append_nil, List.length_append] at h
  exact List.length_eq_zero_iff.mp (by omega)

theorem drop (i : Nat) : (f source).drop (offsetIn f source i) = f (source.drop i) := by
  have h := hf (source.take i) (source.drop i)
  rw [List.take_append_drop] at h
  rw [h, offsetIn, List.drop_left]

/-- A stretch of the text lies between the offsets of its ends. -/
theorem offsetIn_add {a b : Nat} (hab : a ≤ b) :
    offsetIn f source b = offsetIn f source a + (f (Span.slice source ⟨a, b⟩)).length := by
  have htake : source.take b = source.take a ++ Span.slice source ⟨a, b⟩ := by
    rw [Span.slice, ← List.take_add, Nat.add_sub_cancel' hab]
  rw [offsetIn, htake, hf, List.length_append]
  rfl

/-- A stretch of what is converted is the stretch, converted. -/
theorem slice (span : Span) :
    (spanIn f source span).slice (f source) = f (span.slice source) := by
  obtain ⟨a, b⟩ := span
  rcases Nat.le_total a b with hab | hba
  · have hsource := hf (Span.slice source ⟨a, b⟩) (source.drop b)
    rw [slice_append_drop source hab] at hsource
    show ((f source).drop (offsetIn f source a)).take
      (offsetIn f source b - offsetIn f source a) = _
    rw [hf.drop, hf.offsetIn_add source hab, Nat.add_sub_cancel_left, hsource, List.take_left]
  · -- a span that ends before it starts covers nothing, and conversion keeps the order of offsets
    have hempty : Span.slice source ⟨a, b⟩ = [] := by
      rw [Span.slice, Nat.sub_eq_zero_of_le hba, List.take_zero]
    have hoffsets : offsetIn f source b ≤ offsetIn f source a := by
      rw [hf.offsetIn_add source hba]
      exact Nat.le_add_right _ _
    rw [hempty, hf.nil]
    show ((f source).drop _).take (offsetIn f source b - offsetIn f source a) = []
    rw [Nat.sub_eq_zero_of_le hoffsets, List.take_zero]

/-- **The conversion of a splice is a splice of what is converted,** at the offsets that the spans
have there. -/
theorem splice (position : Nat) (more : List (Span × Text)) :
    f (LiveSections.splice source position more) =
      LiveSections.splice (f source) (offsetIn f source position)
        (more.map fun e => (spanIn f source e.1, f e.2)) := by
  induction more generalizing position with
  | nil => exact (hf.drop source position).symm
  | cons e more ih =>
    rw [LiveSections.splice, hf, hf, ih, ← hf.slice source ⟨position, e.1.start⟩]
    rfl

end Spreads

end Text

/-! ## Sections in a raw document -/

/-- Where a span of the converted document is in the raw one. -/
def Text.rawSpan (raw : Text) (span : Span) : Span :=
  Text.spanIn (Text.restoring raw) (Text.toLf raw) span

/-- The output of a section in the raw document, between what stands before and behind it there: all
of it is what was read, with the ends of line of the raw document. -/
structure RawPlaced (d : Delimiters) (raw : Text) (s : Section) : Prop where
  front : Span.slice raw (Text.rawSpan raw ⟨s.span.start, (s.outputSpan d).start⟩) =
    Text.restoring raw (d.opening ++ s.header ++ '\n' :: s.program ++ d.closing)
  output : (Text.rawSpan raw (s.outputSpan d)).slice raw = Text.restoring raw s.stale
  closingTag : Span.slice raw (Text.rawSpan raw ⟨(s.outputSpan d).stop, s.span.stop⟩) =
    Text.restoring raw s.closingTag

theorem rawPlaced_of_parse {d : Delimiters} {raw : Text}
    (hraw : Text.restoring raw (Text.toLf raw) = raw) {parts : List Part}
    (hp : parse d (Text.toLf raw) = .ok parts) {s : Section} (hs : s ∈ sectionsOf parts) :
    RawPlaced d raw s := by
  have hslice (span : Span) : (Text.rawSpan raw span).slice raw =
      Text.restoring raw (span.slice (Text.toLf raw)) := by
    have h := Text.Spreads.slice (Text.restoring_append raw) (Text.toLf raw) span
    rwa [hraw] at h
  obtain ⟨hfront, houtput, htag⟩ := outputPlaced_of_parse hp hs
  exact ⟨by rw [hslice, hfront], by rw [hslice, houtput], by rw [hslice, htag]⟩

namespace Compiler

variable {σ : Type} {c : Compiler σ}

/-- What a raw document compiles to, once it is restored, is the raw document with nothing but the
outputs written anew. -/
theorem restoring_compile_eq_splice (hv : c.style = .verbatim) {raw text : Text}
    (hraw : Text.restoring raw (Text.toLf raw) = raw) {st : σ}
    (ht : ((c.compile (Text.toLf raw)).run st).result = .ok text) :
    ∃ parts rs, parse c.delimiters (Text.toLf raw) = .ok parts ∧
      ((c.evaluateSections (sectionsOf parts)).run st).result = .ok rs ∧
      (∀ s ∈ sectionsOf parts, RawPlaced c.delimiters raw s) ∧
      Text.restoring raw text = splice raw 0
        (((sectionsOf parts).map fun s => Text.rawSpan raw (s.outputSpan c.delimiters)).zip
          (rs.map fun r => Text.restoring raw r.output)) := by
  obtain ⟨parts, hp⟩ := exists_parts_of_compile_ok ht
  obtain ⟨rs, hr, rfl⟩ := evaluate_of_compile_ok hp ht
  have horigins := origins_of_ends (ends_of_evaluateSections_ok hr)
  refine ⟨parts, rs, hp, hr, fun s hs => rawPlaced_of_parse hraw hp hs, ?_⟩
  have hwritten : Written c.delimiters 0 (Text.toLf raw) parts := parse_eq_ok_iff.mp hp
  have hspreads : Text.Spreads (Text.restoring raw) := Text.restoring_append raw
  have hstart : Text.offsetIn (Text.restoring raw) (Text.toLf raw) 0 = 0 :=
    congrArg List.length hspreads.nil
  rw [hv, hwritten.weave_eq_splice (List.length_nil (α := Char)) horigins, List.nil_append,
    hspreads.splice, hraw, hstart, ← horigins, List.map_map, List.map_map, List.zip_map']
  rfl

end Compiler

/-! ## Jobs -/

namespace Job

open JobStep Session

variable {settings : Settings} {j j' : Job} {w w' : Workplace}

theorem leads_writeText_ok (hc : j.check = false) {t : Text}
    (h : (j.writeText t).Leads w w' (.ok ())) :
    ∃ tree, w.tree.write j.target (Utf8.encode t) = .ok tree ∧ w' = { w with tree } := by
  rw [writeText, hc, Bool.not_false, if_pos rfl] at h
  obtain ⟨_, _, hchange, hlog⟩ := leads_bind_ok_iff.mp h
  obtain ⟨rfl, -⟩ := (leads_log _ _ _).unique hlog
  cases hw : w.tree.write j.target (Utf8.encode t) with
  | error e =>
    obtain ⟨-, hend⟩ := (leads_changeTree_error hw).unique hchange
    cases hend
  | ok tree =>
    obtain ⟨rfl, -⟩ := (leads_changeTree hw).unique hchange
    exact ⟨tree, rfl, rfl⟩

/-- A job without canonical tags writes tags as they were read. -/
theorem style_of_compiler (hv : settings.canonicalTags = false) {c : Compiler Heap}
    (h : j.compiler settings = .ok c) : c.style = .verbatim := by
  obtain ⟨d, -, hc⟩ := exists_of_bind_ok h
  obtain ⟨_, _, -, -, rfl⟩ := Compiler.exists_of_ofSource hc
  exact if_neg (by simp [hv])

/-- **A raw text is restored to itself exactly if it has one kind of ends of line, and of such a
document nothing but the outputs is written anew:** its tags, programs and literals are in the file
as they were, at the offsets and with the ends of line of the raw document. -/
theorem compileDocument_splices :
    (∀ raw, Text.restoring raw (Text.toLf raw) = raw ↔
      Text.hasCrlf raw = false ∨ ¬Text.BareLf raw) ∧
    ∀ (settings : Settings) (j j' : Job) (w : Workplace) (bytes : List UInt8) (raw : Text),
      settings.canonicalTags = false → j.check = false →
      w.tree.read j.source = .ok bytes → Utf8.decode bytes = .ok raw →
      (Text.hasCrlf raw = false ∨ ¬Text.BareLf raw) →
      ((j.compileDocument settings).run w).result = .ok j' →
      ∃ c parts rs, j.compiler settings = .ok c ∧
        parse c.delimiters (Text.toLf raw) = .ok parts ∧
        ((c.evaluateSections (sectionsOf parts)).run w.heap).result = .ok rs ∧
        (∀ s ∈ sectionsOf parts, RawPlaced c.delimiters raw s) ∧
        ((j.compileDocument settings).run w).state.tree.read j.target =
          .ok (Utf8.encode (splice raw 0
            (((sectionsOf parts).map fun s => Text.rawSpan raw (s.outputSpan c.delimiters)).zip
              (rs.map fun r => Text.restoring raw r.output)))) := by
  refine ⟨fun raw => Text.restoring_toLf_eq_iff, ?_⟩
  intro settings j j' w bytes raw hv hc hread hdecode hkind hresult
  -- a stage that succeeds has compiled a text, and written it
  have hleads : (j.compileDocument settings).Leads w _ (.ok j') := ⟨rfl, hresult⟩
  obtain ⟨draft, w₁, hcompile, hrest⟩ := leads_bind_ok_iff.mp hleads
  obtain ⟨_, w₂, hwrite, hend⟩ := leads_bind_ok_iff.mp hrest
  obtain ⟨bytes', raw', c, text, hread', hdecode', hcompiler, ht, -, rfl, rfl⟩ :=
    leads_compileText_ok_iff.mp hcompile
  obtain rfl := Except.ok.inj (hread.symm.trans hread')
  obtain rfl := Except.ok.inj (hdecode.symm.trans hdecode')
  obtain ⟨tree, hw, rfl⟩ := leads_writeText_ok hc hwrite
  obtain ⟨hstate, -⟩ := hend
  obtain ⟨parts, rs, hp, hr, hplaced, hsplice⟩ := Compiler.restoring_compile_eq_splice
    (style_of_compiler hv hcompiler) (Text.restoring_toLf_eq_iff.mpr hkind) ht
  refine ⟨c, parts, rs, hcompiler, hp, hr, hplaced, ?_⟩
  rw [← hsplice, ← hstate]
  exact FileTree.read_of_write hw

/-- A document whose lines end in two characters, with a carriage return in a line and another one
before an end of line. Nothing but the output changes, and that gets the same ends of line. -/
theorem compileDocument_splices_sample :
    let program := "output='\x7b\x7bv\x7d\x7d'"
    let raw := ("x\ry\r\r\n<<a\r\n" ++ program ++ ">>old\r\n<</a>>z\r\n").toList
    let out := ("x\ry\r\r\n<<a\r\n" ++ program ++ ">>\r\n1\r\n<</a>>z\r\n").toList
    let w : Workplace := { tree := sampleTree raw }
    let j := Job.loaded { sample with outputDirectory := sample.inputDirectory }
      [(['v'], .text ['1'])]
    let run := (j.compileDocument {}).run w
    Text.hasCrlf raw = true ∧ ¬Text.BareLf raw ∧ j.check = false ∧
      w.tree.read j.source = .ok (Utf8.encode raw) ∧ (∃ j', run.result = .ok j') ∧
      run.state.tree.read j.target = .ok (Utf8.encode out) ∧
      ∃ c parts rs, j.compiler {} = .ok c ∧ parse c.delimiters (Text.toLf raw) = .ok parts ∧
        ((c.evaluateSections (sectionsOf parts)).run w.heap).result = .ok rs ∧
        (∀ s ∈ sectionsOf parts, RawPlaced c.delimiters raw s) ∧
        Utf8.encode out = Utf8.encode (splice raw 0
          (((sectionsOf parts).map fun s => Text.rawSpan raw (s.outputSpan c.delimiters)).zip
            (rs.map fun r => Text.restoring raw r.output))) := by
  intro program raw out w j run
  have hcrlf : Text.hasCrlf raw = true := by decide +kernel
  have hkind := (compileDocument_splices.1 raw).mp (by decide +kernel)
  have hread : w.tree.read j.source = .ok (Utf8.encode raw) := by decide +kernel
  have hok : run.result.isOk = true := by decide +kernel
  have hout : run.state.tree.read j.target = .ok (Utf8.encode out) := by decide +kernel
  obtain ⟨j', hj'⟩ := exists_of_isOk hok
  obtain ⟨c, parts, rs, hc, hp, hr, hplaced, hwritten⟩ := compileDocument_splices.2 {} j j' w _ raw
    rfl rfl hread (Utf8.decode_eq_ok_iff.mpr rfl) hkind hj'
  have hbare : ¬Text.BareLf raw := hkind.resolve_left (by simp [hcrlf])
  exact ⟨hcrlf, hbare, rfl, hread, ⟨j', hj'⟩, hout, c, parts, rs, hc, hp, hr, hplaced,
    Except.ok.inj (hout.symm.trans hwritten)⟩

end Job

end LiveSections
