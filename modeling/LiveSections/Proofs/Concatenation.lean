import LiveSections.Proofs.CanonicalTags

/-!
# Documents one behind the other

Nothing that is put behind a closing tag changes how the text up to it is read, and the text behind
it is read as if it stood alone.

- `Span.shift`, `Section.shift`, `Part.shift`, `ParseError.shift`: further behind in a document.
- `readParts_shift`: **a reader does not look at the offset it begins at.**
- `Written.readParts_append`: behind a text that ends with a section the reader begins anew.
- `compile_append`: **reading and compiling go along with putting documents one behind the other,**
  if the first of them ends with a section.
-/

namespace LiveSections

variable {d : Delimiters}

/-! ## Further behind -/

/-- A stretch that lies further behind. -/
def Span.shift (n : Nat) (span : Span) : Span := ⟨span.start + n, span.stop + n⟩

/-- A section that stands further behind. -/
def Section.shift (n : Nat) (s : Section) : Section := { s with span := s.span.shift n }

/-- A part that stands further behind. -/
def Part.shift (n : Nat) : Part → Part
  | .literal text span => .literal text (span.shift n)
  | .live s => .live (s.shift n)

/-- An error that is met further behind. -/
def ParseError.shift (n : Nat) (e : ParseError) : ParseError :=
  { e with position := e.position + n }

theorem literalAt_shift (position n : Nat) (t : Text) :
    literalAt (position + n) t = (literalAt position t).map (Part.shift n) := by
  cases t with
  | nil => rfl
  | cons c cs =>
    show [Part.literal _ _] = [Part.literal _ ⟨_, _⟩]
    rw [Nat.add_right_comm]

theorem sectionsOf_map_shift (n : Nat) (parts : List Part) :
    sectionsOf (parts.map (Part.shift n)) = (sectionsOf parts).map (Section.shift n) := by
  induction parts with
  | nil => rfl
  | cons p parts ih =>
    cases p with
    | literal text span => exact ih
    | live s => exact congrArg (s.shift n :: ·) ih

/-- A section is read in the same way wherever it stands; where its fields are does not count. -/
theorem readSection_shift (start n : Nat) (t : Text) :
    readSection d (start + n) t =
      ((readSection d start t).mapError (ParseError.shift n)).map
        fun read => (read.1.shift n, read.2) := by
  unfold readSection
  cases readHeader d t with
  | error fault => rfl
  | ok header =>
    dsimp only
    cases readProgram d (Section.nameOfHeader header.1) header.2 with
    | error fault => rfl
    | ok program =>
      dsimp only
      cases readClosingTag d (Section.nameOfHeader header.1) program.2.behind with
      | error fault =>
        simp only [Except.mapError, Except.map, ParseError.shift, Except.error.injEq,
          ParseError.mk.injEq, true_and]
        omega
      | ok tag =>
        simp only [Except.mapError, Except.map, Section.shift, Span.shift, Except.ok.injEq,
          Prod.mk.injEq, and_true, Section.mk.injEq, true_and, Span.mk.injEq]
        omega

/-- **A reader does not look at the offset it begins at.** -/
theorem readParts_shift (position n : Nat) (t : Text) :
    readParts d (position + n) t =
      ((readParts d position t).1.map (Part.shift n),
        (readParts d position t).2.map (ParseError.shift n)) := by
  -- on the length of the text, as the reader recurses
  induction hn : t.length using Nat.strongRecOn generalizing position t with
  | ind k ih =>
    cases hs : Text.splitFirst d.opening t with
    | none =>
      rw [readParts_of_none hs, readParts_of_none hs, literalAt_shift]
      rfl
    | some cut =>
      obtain ⟨before, behind⟩ := cut
      have hmoved := readSection_shift (d := d) (position + before.length) n behind
      rw [Nat.add_right_comm] at hmoved
      cases hr : readSection d (position + before.length) behind with
      | error e =>
        rw [hr] at hmoved
        rw [readParts_of_error hs hr, readParts_of_error hs hmoved, literalAt_shift]
        rfl
      | ok read =>
        obtain ⟨s, rest⟩ := read
        rw [hr] at hmoved
        have hlt : rest.length < k := hn ▸ Nat.lt_trans (readSection_length_lt hr)
          (Text.length_lt_of_splitFirst hs d.opening_ne_nil)
        have hrest := ih rest.length hlt s.span.stop rest rfl
        rw [readParts_of_ok hs hr, readParts_of_ok hs hmoved, literalAt_shift]
        show (_ ++ _ :: (readParts d (s.span.stop + n) rest).1,
          (readParts d (s.span.stop + n) rest).2) = _
        rw [hrest, List.map_append]
        rfl

/-! ## Behind a section -/

/-- There are no parts, or the last one is a section. -/
def EndsWithSection (parts : List Part) : Prop := ∀ p ∈ parts.getLast?, p.section? ≠ none

theorem EndsWithSection.of_append (before : List Part) {parts : List Part}
    (h : EndsWithSection (before ++ parts)) : EndsWithSection parts := by
  intro p hp
  refine h p ?_
  rw [List.getLast?_append, Option.mem_def.mp hp]
  rfl

/-- **Behind a text that ends with a section the reader begins anew,** whatever comes there. -/
theorem Written.readParts_append {position : Nat} {a : Text} {parts : List Part}
    (h : Written d position a parts) (hends : EndsWithSection parts) (b : Text) :
    readParts d position (a ++ b) = (parts ++ (readParts d (position + a.length) b).1,
      (readParts d (position + a.length) b).2) := by
  induction h with
  | @rest position t ht =>
    cases t with
    | nil => rfl
    | cons c cs => exact absurd rfl (hends _ rfl)
  | @step position before rest s parts hb hf hs hspan _ ih =>
    have hrest : EndsWithSection parts :=
      .of_append (literalAt position before ++ [.live s]) (by rwa [List.append_assoc])
    have hstop : s.span.stop + rest.length =
        position + (before ++ s.source d ++ rest).length := by
      rw [hspan]
      simp only [List.length_append]
      omega
    rw [List.append_assoc (before ++ s.source d), readParts_step hb hf hs hspan, ih hrest, hstop,
      List.append_assoc (literalAt position before)]
    rfl

theorem lineFeeds_append (a b : Text) :
    Text.lineFeeds (a ++ b) = Text.lineFeeds a + Text.lineFeeds b := List.count_append

/-- The lines before a text come before all of its lines. -/
theorem lineAt_append (a b : Text) (position : Nat) :
    ParseError.lineAt (a ++ b) (position + a.length) =
      ParseError.lineAt b position + Text.lineFeeds a := by
  have htake : (a ++ b).take (position + a.length) = a ++ b.take position := by
    rw [Nat.add_comm, List.take_length_add_append]
  rw [ParseError.lineAt, htake, lineFeeds_append, ParseError.lineAt]
  omega

/-- **A document behind one that ends with a section is read as if it stood alone,** and what is
found in it lies further behind: its parts, or the place of its first fault. -/
theorem parse_append {a : Text} {parts : List Part} (h : parse d a = .ok parts)
    (hends : EndsWithSection parts) (b : Text) :
    parse d (a ++ b) = ((parse d b).mapError (ParseError.shift a.length)).map
      fun more => parts ++ more.map (Part.shift a.length) := by
  have hbehind := (parse_eq_ok_iff.mp h).readParts_append hends b
  rw [readParts_shift] at hbehind
  rw [parse, parse, hbehind]
  rcases readParts d 0 b with ⟨more, fault | e⟩ <;> rfl

/-! ## Compiling -/

/-- Fresh output for a section that stands further behind. -/
def Rendered.shift (n : Nat) (r : Rendered) : Rendered := ⟨r.origin.shift n, r.output⟩

theorem Rendered.text_shift (style : TagStyle) (n : Nat) (r : Rendered) :
    (r.shift n).text d style = r.text d style := by
  cases style <;> rfl

namespace Compiler

variable {σ : Type} {c : Compiler σ}

theorem assemble_weave_literal (style : TagStyle) (text : Text) (span : Span)
    (parts : List Part) (rs : List Rendered) :
    assemble d style (weave (.literal text span :: parts) rs) =
      text ++ assemble d style (weave parts rs) := rfl

/-- Offsets are not written. -/
theorem assemble_weave_shift (style : TagStyle) (n : Nat) (parts : List Part)
    (rs : List Rendered) :
    assemble d style (weave (parts.map (Part.shift n)) (rs.map (Rendered.shift n))) =
      assemble d style (weave parts rs) := by
  induction parts generalizing rs with
  | nil => rfl
  | cons p parts ih =>
    cases p with
    | literal text span => exact congrArg (text ++ ·) (ih rs)
    | live s =>
      cases rs with
      | nil => rfl
      | cons r rs =>
        rw [assemble_weave_live, ← ih rs, ← r.text_shift style n]
        rfl

/-- The outputs of the first parts are used up before those behind them. -/
theorem assemble_weave_append (style : TagStyle) {parts : List Part} {rs : List Rendered}
    (h : rs.map Rendered.origin = sectionsOf parts) (parts' : List Part)
    (rs' : List Rendered) :
    assemble d style (weave (parts ++ parts') (rs ++ rs')) =
      assemble d style (weave parts rs) ++ assemble d style (weave parts' rs') := by
  induction parts generalizing rs with
  | nil =>
    obtain rfl : rs = [] := List.map_eq_nil_iff.mp h
    rfl
  | cons p parts ih =>
    cases p with
    | literal text span =>
      rw [List.cons_append, assemble_weave_literal, assemble_weave_literal, ih h,
        List.append_assoc]
    | live s =>
      obtain ⟨r, rs, rfl, -, hrest⟩ := List.map_eq_cons_iff.mp h
      rw [List.cons_append, List.cons_append, assemble_weave_live, assemble_weave_live, ih hrest,
        List.append_assoc]

/-- What a section renders does not hang on where it stands. -/
theorem evaluateSection_shift (n : Nat) (s : Section) :
    c.evaluateSection (s.shift n) = Rendered.shift n <$> c.evaluateSection s := by
  simp only [evaluateSection, map_eq_pure_bind, bind_assoc, pure_bind]
  rfl

theorem mapM_evaluateSection_shift (n : Nat) (sections : List Section) :
    (sections.map (Section.shift n)).mapM c.evaluateSection =
      List.map (Rendered.shift n) <$> sections.mapM c.evaluateSection := by
  induction sections with
  | nil => rfl
  | cons s sections ih =>
    rw [List.map_cons, List.mapM_cons, List.mapM_cons, ih, evaluateSection_shift]
    simp only [map_eq_pure_bind, bind_assoc, pure_bind, List.map_cons]

theorem assemble_weave_append_shift (style : TagStyle) {parts : List Part} {rs : List Rendered}
    (h : rs.map Rendered.origin = sectionsOf parts) (n : Nat) (parts' : List Part)
    (rs' : List Rendered) :
    assemble d style
        (weave (parts ++ parts'.map (Part.shift n)) (rs ++ rs'.map (Rendered.shift n))) =
      assemble d style (weave parts rs) ++ assemble d style (weave parts' rs') := by
  rw [assemble_weave_append style h, assemble_weave_shift]

/-- The sections of two documents in a row: those of the first, and those of the second further
behind. -/
theorem sectionsOf_append_shift (n : Nat) (parts parts' : List Part) :
    sectionsOf (parts ++ parts'.map (Part.shift n)) =
      sectionsOf parts ++ (sectionsOf parts').map (Section.shift n) := by
  rw [← sectionsOf_map_shift]
  exact List.filterMap_append

section InRow

variable {a b outA outB : Text} {parts parts' : List Part}

/-- Where resolver and evaluator answer by their arguments alone, two documents in a row compile to
what they compile to alone, from whatever states and on however many workers. -/
theorem Steady.result_compile_append (hc : c.Steady) (ha : parse c.delimiters a = .ok parts)
    (hb : parse c.delimiters b = .ok parts')
    (hab : parse c.delimiters (a ++ b) = .ok (parts ++ parts'.map (Part.shift a.length)))
    {st st' : σ} (hoA : ((c.compile a).run st).result = .ok outA)
    (hoB : ((c.compile b).run st').result = .ok outB) (st'' : σ) :
    ((c.compile (a ++ b)).run st'').result = .ok (outA ++ outB) := by
  obtain ⟨rs, hr, hrenders, rfl⟩ := exists_rendered_of_compile ha hoA
  obtain ⟨rs', hr', hrenders', rfl⟩ := exists_rendered_of_compile hb hoB
  rw [← assemble_weave_append_shift c.style hr a.length]
  refine hc.result_compile hab ?_ ?_ st''
  · rw [sectionsOf_append_shift, ← hr, ← hr', List.map_append, List.map_map, List.map_map]
    rfl
  · intro r hmem
    rcases List.mem_append.mp hmem with hmem | hmem
    · exact hrenders r hmem
    · obtain ⟨r', hmem', rfl⟩ := List.mem_map.mp hmem
      exact Renders.congr (s := r'.origin) rfl rfl (hrenders' r' hmem')

/-- One worker goes through two documents in a row as through one and then, from the state that
left, through the other. -/
theorem result_compile_append_of_one (hw : c.workers.val = 1)
    (ha : parse c.delimiters a = .ok parts) (hb : parse c.delimiters b = .ok parts')
    (hab : parse c.delimiters (a ++ b) = .ok (parts ++ parts'.map (Part.shift a.length)))
    {st : σ} (hoA : ((c.compile a).run st).result = .ok outA)
    (hoB : ((c.compile b).run ((c.compile a).run st).state).result = .ok outB) :
    ((c.compile (a ++ b)).run st).result = .ok (outA ++ outB) := by
  obtain ⟨rs, hr, rfl⟩ := evaluate_of_compile_ok ha hoA
  obtain ⟨rs', hr', rfl⟩ := evaluate_of_compile_ok hb hoB
  have horigins : rs.map Rendered.origin = sectionsOf parts :=
    origins_of_ends (ends_of_evaluateSections_ok hr)
  have hstate : ((c.compile a).run st).state =
      ((c.evaluateSections (sectionsOf parts)).run st).state := by rw [run_compile_of_ok ha]
  rw [hstate] at hr'
  have hboth : ((c.evaluateSections
        (sectionsOf (parts ++ parts'.map (Part.shift a.length)))).run st).result =
      .ok (rs ++ rs'.map (Rendered.shift a.length)) := by
    -- one worker evaluates section by section, here and in the two hypotheses
    simp only [evaluateSections_of_few (.inl hw)] at hr hr' ⊢
    rw [sectionsOf_append_shift, List.mapM_append, mapM_evaluateSection_shift, map_eq_pure_bind]
    refine Session.result_bind_eq_ok_iff.mpr ⟨rs, hr, ?_⟩
    refine Session.result_bind_eq_ok_iff.mpr ⟨rs'.map (Rendered.shift a.length), ?_, rfl⟩
    exact Session.result_bind_eq_ok_iff.mpr ⟨rs', hr', rfl⟩
  rw [run_compile_of_ok hab, ← assemble_weave_append_shift c.style horigins a.length]
  dsimp only
  rw [hboth]
  rfl

end InRow

/-- **Reading and compiling go along with putting documents one behind the other,** if the first of
them is empty or ends with a section. The second one is accepted behind the first exactly if it is
accepted alone. Its parts follow those of the first, and a fault in it is the same fault, so many
characters and lines further down. What the two compile to comes in a row as well. -/
theorem compile_append (c : Compiler σ) {a : Text}
    (ha : a = [] ∨ ∃ before s, parse c.delimiters a = .ok (before ++ [.live s])) (b : Text) :
    ∃ parts, parse c.delimiters a = .ok parts ∧
      ((∃ all, parse c.delimiters (a ++ b) = .ok all) ↔
        ∃ more, parse c.delimiters b = .ok more) ∧
      (∀ more, parse c.delimiters b = .ok more →
        parse c.delimiters (a ++ b) = .ok (parts ++ more.map (Part.shift a.length))) ∧
      (∀ e, parse c.delimiters b = .error e →
        parse c.delimiters (a ++ b) = .error ⟨e.fault, e.position + a.length⟩ ∧
          ParseError.lineAt (a ++ b) (e.position + a.length) =
            ParseError.lineAt b e.position + Text.lineFeeds a) ∧
      (c.Steady → ∀ st st' st'' outA outB, ((c.compile a).run st).result = .ok outA →
        ((c.compile b).run st').result = .ok outB →
          ((c.compile (a ++ b)).run st'').result = .ok (outA ++ outB)) ∧
      (c.workers.val = 1 → ∀ st outA outB, ((c.compile a).run st).result = .ok outA →
        ((c.compile b).run ((c.compile a).run st).state).result = .ok outB →
          ((c.compile (a ++ b)).run st).result = .ok (outA ++ outB)) := by
  obtain ⟨parts, hp, hends⟩ : ∃ parts, parse c.delimiters a = .ok parts ∧
      EndsWithSection parts := by
    rcases ha with rfl | ⟨before, s, hp⟩
    · have hnone : Text.splitFirst c.delimiters.opening [] = none := by
        simp [Text.splitFirst, c.delimiters.opening_ne_nil]
      refine ⟨[], parse_eq_ok_iff.mpr (.rest hnone), fun _ hlast => ?_⟩
      cases hlast
    · refine ⟨before ++ [.live s], hp, fun p hlast hnone => ?_⟩
      rw [List.getLast?_concat] at hlast
      obtain rfl : Part.live s = p := Option.some.inj hlast
      cases hnone
  have hparse := parse_append hp hends b
  have hok (more : List Part) (hb : parse c.delimiters b = .ok more) :
      parse c.delimiters (a ++ b) = .ok (parts ++ more.map (Part.shift a.length)) := by
    rw [hparse, hb]
    rfl
  have herror (e : ParseError) (hb : parse c.delimiters b = .error e) :
      parse c.delimiters (a ++ b) = .error ⟨e.fault, e.position + a.length⟩ := by
    rw [hparse, hb]
    rfl
  refine ⟨parts, hp, ⟨?_, ?_⟩, hok, fun e hb => ⟨herror e hb, lineAt_append a b e.position⟩,
    ?_, ?_⟩
  · rintro ⟨all, hall⟩
    cases hb : parse c.delimiters b with
    | ok more => exact ⟨more, rfl⟩
    | error e => cases hall.symm.trans (herror e hb)
  · rintro ⟨more, hb⟩
    exact ⟨_, hok more hb⟩
  · intro hc st st' st'' outA outB hoA hoB
    obtain ⟨more, hb⟩ := exists_parts_of_compile_ok hoB
    exact hc.result_compile_append hp hb (hok more hb) hoA hoB st''
  · intro hw st outA outB hoA hoB
    obtain ⟨more, hb⟩ := exists_parts_of_compile_ok hoB
    exact result_compile_append_of_one hw hp hb (hok more hb) hoA hoB

/-- The first document holds an open-marker in its previous output and ends with a close-marker. One
character behind it would make another close-marker; the second document begins with it. A third one
has a fault in its second line. -/
theorem compile_append_counting :
    let a := "<<a\nv>>x<<<</a>>".toList
    let b := ">y\n<<c\nz>><</c>>".toList
    let b' := "y\n<</c>>".toList
    let s : Section := {
      name := ['a'], header := ['a'], program := ['v'], stale := "x<<".toList,
      closingTag := "<</a>>".toList, span := ⟨0, 16⟩ }
    let s' : Section := {
      name := ['c'], header := ['c'], program := ['z'], stale := [],
      closingTag := "<</c>>".toList, span := ⟨3, 16⟩ }
    let more := [.literal ">y\n".toList ⟨0, 3⟩, .live s']
    let outA := "<<a\nv>>\nv\n<</a>>".toList
    let outB := ">y\n<<c\nz>>\nz\n<</c>>".toList
    parse .angled a = .ok ([] ++ [.live s]) ∧ parse .angled b = .ok more ∧
      parse .angled (a ++ b) = .ok ([.live s] ++ more.map (Part.shift 16)) ∧
      parse .angled b' = .error ⟨.strayClosingTag, 2⟩ ∧
      parse .angled (a ++ b') = .error ⟨.strayClosingTag, 18⟩ ∧
      ParseError.lineAt (a ++ b') 18 = 3 ∧ counting.Steady ∧
      ((counting.compile a).run 0).result = .ok outA ∧
      ((counting.compile b).run 5).result = .ok outB ∧
      ((counting.compile (a ++ b)).run 7).result = .ok (outA ++ outB) ∧
      ((counting.inTurn.compile a).run 0).result = .ok outA ∧
      ((counting.inTurn.compile b).run ((counting.inTurn.compile a).run 0).state).result =
        .ok outB ∧
      ((counting.inTurn.compile (a ++ b)).run 0).result = .ok (outA ++ outB) := by
  intro a b b' s s' more outA outB
  have ha : parse .angled a = .ok ([] ++ [.live s]) := by decide +kernel
  have hb : parse .angled b = .ok more := by decide +kernel
  have hb' : parse .angled b' = .error ⟨.strayClosingTag, 2⟩ := by decide +kernel
  have hoA : ((counting.compile a).run 0).result = .ok outA := by decide +kernel
  have hoB : ((counting.compile b).run 5).result = .ok outB := by decide +kernel
  have hoA' : ((counting.inTurn.compile a).run 0).result = .ok outA := by decide +kernel
  have hoB' : ((counting.inTurn.compile b).run
      ((counting.inTurn.compile a).run 0).state).result = .ok outB := by decide +kernel
  obtain ⟨parts, hparts, -, hok, -, hsteady, -⟩ := compile_append counting (.inr ⟨[], s, ha⟩) b
  obtain ⟨-, -, -, -, -, -, hone⟩ := compile_append counting.inTurn (.inr ⟨[], s, ha⟩) b
  obtain ⟨-, -, -, -, herror, -⟩ := compile_append counting (.inr ⟨[], s, ha⟩) b'
  obtain ⟨hfault, hline⟩ := herror _ hb'
  obtain rfl : [] ++ [.live s] = parts := Except.ok.inj (ha.symm.trans hparts)
  exact ⟨ha, hb, hok more hb, hb', hfault, hline.trans (by decide +kernel), counting_steady,
    hoA, hoB,
    hsteady counting_steady 0 5 7 outA outB hoA hoB, hoA', hoB',
    hone rfl 0 outA outB hoA' hoB'⟩

end Compiler

end LiveSections
