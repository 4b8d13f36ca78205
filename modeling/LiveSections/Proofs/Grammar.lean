import LiveSections.Document.Parser
import LiveSections.Proofs.Occurrence

/-!
# The grammar of documents

What a document has to look like for the reader to accept it, said without the reader's cursor.

- `HeaderFormed`, `ClosingTagFormed`, `Section.Formed`: the lines and texts of one section.
- `Section.Sealed`: the scan for a closing tag passes over the whole previous output.
- `readSection_eq_ok_iff`: **reading a section accepts exactly the formed and sealed sections,**
  whatever follows them.
- `Written`: literals without an open-marker, and sections, laid out from an offset on.
- `parse_eq_ok_iff`: **the reader accepts exactly the written documents.**
-/

namespace LiveSections

/-- Markers that overlap themselves. -/
def Delimiters.angled : Delimiters := ⟨['<', '<'], ['>', '>'], by decide, by decide⟩

variable {d : Delimiters}

/-! ## Lines of a section -/

/-- The text between an open-marker and its line feed, as the grammar asks for it. -/
structure HeaderFormed (d : Delimiters) (header : Text) : Prop where
  not_closing : closingSlash? header = none
  one_line : '\n' ∉ header
  not_closed : Text.contains d.closing header = false
  named : Section.nameOfHeader header ≠ []

/-- A closing tag for a name: open-marker, slash with an optional blank, the name as it is
written, close-marker. -/
structure ClosingTagFormed (d : Delimiters) (name tag slash raw : Text) : Prop where
  slash_eq : slash = ['/'] ∨ slash = [' ', '/']
  tag_eq : tag = d.opening ++ slash ++ raw ++ d.closing
  raw_endsFirst : Text.EndsFirst d.closing raw
  name_eq : nameOfClosingTag raw = name

/-- A section whose fields are as the grammar asks for them. Its previous output is left open. -/
structure Section.Formed (d : Delimiters) (s : Section) : Prop where
  header : HeaderFormed d s.header
  name_eq : s.name = Section.nameOfHeader s.header
  program_endsFirst : Text.EndsFirst d.closing s.program
  closingTag : ∃ slash raw, ClosingTagFormed d s.name s.closingTag slash raw

/-- The scan for a closing tag ends where the previous output ends. -/
def Section.Sealed (d : Delimiters) (s : Section) : Prop :=
  (findClosingTag d (s.stale ++ s.closingTag)).map ClosingTagSite.before = some s.stale

/-! ## The slash of a closing tag -/

/-- Whether a slash stands behind an open-marker is decided by the first two characters. -/
theorem closingSlash?_append {t : Text} (h : Section.nameOfHeader t ≠ []) (rest : Text) :
    closingSlash? (t ++ rest) = (closingSlash? t).map fun s => (s.1, s.2 ++ rest) := by
  cases t with
  | nil => exact absurd rfl h
  | cons c cs =>
    by_cases hb : c = ' '
    · subst hb
      cases cs with
      | nil => exact absurd rfl h
      | cons x xs => by_cases hx : x = '/' <;> simp [closingSlash?, hx]
    · by_cases hc : c = '/' <;> simp [closingSlash?, hb, hc]

theorem closingSlash?_of_slash {slash : Text} (h : slash = ['/'] ∨ slash = [' ', '/'])
    (rest : Text) : closingSlash? (slash ++ rest) = some (slash, rest) := by
  rcases h with rfl | rfl <;> rfl

theorem nameOfHeader_ne_nil_of_two_le {t : Text} (h : 2 ≤ t.length) :
    Section.nameOfHeader t ≠ [] := by
  match t with
  | [] => simp at h
  | [_] => simp at h
  | c :: x :: xs => by_cases hc : c = ' ' <;> simp [Section.nameOfHeader, hc]

/-! ## The first closing tag -/

theorem findClosingTag_of_slash {t before behind slash rest : Text}
    (hs : Text.splitFirst d.opening t = some (before, behind))
    (hc : closingSlash? behind = some (slash, rest)) :
    findClosingTag d t = some ⟨before, slash, rest⟩ := by
  rw [findClosingTag]
  split
  · next h => cases hs.symm.trans h
  · next h =>
    obtain ⟨rfl, rfl⟩ := Prod.mk.inj (Option.some.inj (hs.symm.trans h))
    rw [hc]

theorem findClosingTag_of_skip {t before behind : Text}
    (hs : Text.splitFirst d.opening t = some (before, behind))
    (hc : closingSlash? behind = none) :
    findClosingTag d t = (findClosingTag d behind).map fun site =>
      { site with before := before ++ d.opening ++ site.before } := by
  rw [findClosingTag]
  split
  · next h => cases hs.symm.trans h
  · next h =>
    obtain ⟨rfl, rfl⟩ := Prod.mk.inj (Option.some.inj (hs.symm.trans h))
    rw [hc]

/-- A closing tag is found behind the first open-marker, or behind one that is passed over. -/
theorem findClosingTag_cases {t : Text} {site : ClosingTagSite}
    (h : findClosingTag d t = some site) :
    ∃ before behind, Text.splitFirst d.opening t = some (before, behind) ∧
      ((closingSlash? behind = some (site.slash, site.behind) ∧ site.before = before) ∨
        ∃ site', closingSlash? behind = none ∧ findClosingTag d behind = some site' ∧
          site = { site' with before := before ++ d.opening ++ site'.before }) := by
  cases hs : Text.splitFirst d.opening t with
  | none =>
    rw [findClosingTag] at h
    split at h
    · cases h
    · next h' => cases hs.symm.trans h'
  | some cut =>
    obtain ⟨before, behind⟩ := cut
    refine ⟨before, behind, rfl, ?_⟩
    cases hc : closingSlash? behind with
    | none =>
      right
      rw [findClosingTag_of_skip hs hc] at h
      obtain ⟨site', hf, rfl⟩ := Option.map_eq_some_iff.mp h
      exact ⟨site', rfl, hf, rfl⟩
    | some found =>
      left
      obtain ⟨slash, rest⟩ := found
      rw [findClosingTag_of_slash hs hc] at h
      obtain rfl := Option.some.inj h
      exact ⟨rfl, rfl⟩

theorem findClosingTag_slash {t : Text} {site : ClosingTagSite}
    (h : findClosingTag d t = some site) : site.slash = ['/'] ∨ site.slash = [' ', '/'] := by
  induction hn : t.length using Nat.strongRecOn generalizing t site with
  | ind n ih =>
    obtain ⟨before, behind, hs, ⟨hc, -⟩ | ⟨site', -, hf, rfl⟩⟩ := findClosingTag_cases h
    · exact (closingSlash?_eq_some hc).2
    · have hlt := Text.length_lt_of_splitFirst hs d.opening_ne_nil
      have hslash : site'.slash = ['/'] ∨ site'.slash = [' ', '/'] :=
        ih behind.length (hn ▸ hlt) hf rfl
      exact hslash

/-- What lies behind the slash has no part in finding a closing tag. -/
theorem findClosingTag_behind {t : Text} {site : ClosingTagSite}
    (h : findClosingTag d t = some site) (rest : Text) :
    findClosingTag d (site.before ++ d.opening ++ site.slash ++ rest) =
      some { site with behind := rest } := by
  induction hn : t.length using Nat.strongRecOn generalizing t site with
  | ind n ih =>
    have hslash := findClosingTag_slash h
    obtain ⟨before, behind, hs, ⟨-, hb⟩ | ⟨site', hc, hf, rfl⟩⟩ := findClosingTag_cases h
    · have hs' : Text.splitFirst d.opening (site.before ++ d.opening ++ (site.slash ++ rest)) =
          some (site.before, site.slash ++ rest) := by
        rw [hb]
        exact (Text.endsFirst_of_splitFirst hs).splitFirst _
      rw [List.append_assoc, findClosingTag_of_slash hs' (closingSlash?_of_slash hslash rest)]
    · have hlt := Text.length_lt_of_splitFirst hs d.opening_ne_nil
      have hfind := ih behind.length (hn ▸ hlt) hf rfl
      -- the passed open-marker is followed by the same two characters as before
      have hname : Section.nameOfHeader (site'.before ++ d.opening ++ site'.slash) ≠ [] := by
        refine nameOfHeader_ne_nil_of_two_le ?_
        have hpos := List.length_pos_iff.mpr d.opening_ne_nil
        have hpos' : 1 ≤ site'.slash.length := by rcases hslash with h | h <;> simp_all
        simp only [List.length_append]
        omega
      have hc' : closingSlash? (site'.before ++ d.opening ++ site'.slash ++ rest) = none := by
        rw [findClosingTag_eq_append hf, closingSlash?_append hname] at hc
        rw [closingSlash?_append hname, Option.map_eq_none_iff.mp hc]
        rfl
      have hs' : Text.splitFirst d.opening
          (before ++ d.opening ++ (site'.before ++ d.opening ++ site'.slash ++ rest)) =
            some (before, site'.before ++ d.opening ++ site'.slash ++ rest) :=
        (Text.endsFirst_of_splitFirst hs).splitFirst _
      have htext : before ++ d.opening ++ site'.before ++ d.opening ++ site'.slash ++ rest =
          before ++ d.opening ++ (site'.before ++ d.opening ++ site'.slash ++ rest) := by
        simp only [List.append_assoc]
      rw [htext, findClosingTag_of_skip hs' hc', hfind]
      rfl

/-! ## One section -/

theorem readHeader_eq_ok_iff {t header body : Text} :
    readHeader d t = .ok (header, body) ↔ HeaderFormed d header ∧ t = header ++ '\n' :: body := by
  constructor
  · intro h
    have ht := readHeader_eq_append h
    rw [readHeader] at h
    split at h
    · cases h
    · next hc =>
      split at h
      · cases h
      · next hd bd hs =>
        split at h
        · cases h
        · next hclosed =>
          split at h
          · cases h
          · next hname =>
            obtain ⟨rfl, rfl⟩ := Prod.mk.inj (Except.ok.inj h)
            refine ⟨{ not_closing := ?_, one_line := ?_, not_closed := ?_, named := hname }, ht⟩
            -- the test looked past the line feed; with a name it had no need to
            · rw [ht, closingSlash?_append hname] at hc
              simpa using hc
            · exact Text.endsFirst_singleton_iff.mp (Text.endsFirst_of_splitFirst hs)
            · simpa using hclosed
  · rintro ⟨hf, rfl⟩
    have hc : (closingSlash? (header ++ '\n' :: body)).isSome = false := by
      rw [closingSlash?_append hf.named, hf.not_closing]
      rfl
    have hs : Text.splitFirst ['\n'] (header ++ '\n' :: body) = some (header, body) := by
      have := (Text.endsFirst_singleton_iff.mpr hf.one_line).splitFirst body
      rwa [List.append_assoc] at this
    simp [readHeader, hc, hs, hf.not_closed, hf.named]

theorem readProgram_eq_ok_iff {name body program : Text} {site : ClosingTagSite} :
    readProgram d name body = .ok (program, site) ↔
      Text.EndsFirst d.closing program ∧
        ∃ behind, body = program ++ d.closing ++ behind ∧
          findClosingTag d behind = some site := by
  constructor
  · intro h
    rw [readProgram] at h
    split at h
    · cases h
    · next p behind hs =>
      split at h
      · cases h
      · next site' hf =>
        obtain ⟨rfl, rfl⟩ := Prod.mk.inj (Except.ok.inj h)
        exact ⟨Text.endsFirst_of_splitFirst hs, behind, Text.splitFirst_eq_append hs, hf⟩
  · rintro ⟨hp, behind, rfl, hf⟩
    rw [readProgram, hp.splitFirst behind]
    dsimp only
    rw [hf]

theorem readClosingTag_eq_ok_iff {name t raw rest : Text} :
    readClosingTag d name t = .ok (raw, rest) ↔
      Text.EndsFirst d.closing raw ∧ nameOfClosingTag raw = name ∧
        t = raw ++ d.closing ++ rest := by
  constructor
  · intro h
    rw [readClosingTag] at h
    split at h
    · cases h
    · next r rest' hs =>
      split at h
      · next hname =>
        obtain ⟨rfl, rfl⟩ := Prod.mk.inj (Except.ok.inj h)
        exact ⟨Text.endsFirst_of_splitFirst hs, hname, Text.splitFirst_eq_append hs⟩
      · cases h
  · rintro ⟨hr, hname, rfl⟩
    rw [readClosingTag, hr.splitFirst rest]
    dsimp only
    rw [if_pos hname]

/-- A section is sealed if a scan over its output, its closing tag and anything behind stops at
its closing tag. -/
theorem sealed_iff {s : Section} {slash raw : Text}
    (ht : ClosingTagFormed d s.name s.closingTag slash raw) (rest : Text) :
    s.Sealed d ↔ findClosingTag d (s.stale ++ s.closingTag ++ rest) =
      some ⟨s.stale, slash, raw ++ d.closing ++ rest⟩ := by
  have htext (u : Text) : s.stale ++ s.closingTag ++ u =
      s.stale ++ d.opening ++ slash ++ (raw ++ d.closing ++ u) := by
    simp only [ht.tag_eq, List.append_assoc]
  constructor
  · intro h
    obtain ⟨site, hf, hb⟩ := Option.map_eq_some_iff.mp h
    have hsite := findClosingTag_eq_append hf
    -- the slash that is found is the slash of the tag, for the rest begins with it
    have hslash : site.slash = slash := by
      rw [← List.append_nil (s.stale ++ s.closingTag), htext, hb] at hsite
      simp only [List.append_assoc] at hsite
      have hsite := List.append_cancel_left (List.append_cancel_left hsite)
      rcases ht.slash_eq with rfl | rfl <;> rcases findClosingTag_slash hf with h' | h' <;>
        simp_all
    have hfind := findClosingTag_behind hf (raw ++ d.closing ++ rest)
    rw [hb, hslash] at hfind
    rw [htext, hfind]
  · intro h
    have hfind := findClosingTag_behind h (raw ++ d.closing ++ [])
    rw [← htext, List.append_nil] at hfind
    rw [Section.Sealed, hfind]
    rfl

/-- **Reading accepts exactly the formed and sealed sections**, and hands on what follows. -/
theorem readSection_eq_ok_iff {start : Nat} {t rest : Text} {s : Section} :
    readSection d start t = .ok (s, rest) ↔
      s.Formed d ∧ s.Sealed d ∧ s.span = ⟨start, start + (s.source d).length⟩ ∧
        d.opening ++ t = s.source d ++ rest := by
  constructor
  · intro h
    have ht := readSection_eq_append h
    rw [readSection] at h
    split at h
    · cases h
    · next header body hh =>
      dsimp only at h
      split at h
      · cases h
      · next program site hp =>
        split at h
        · cases h
        · next raw rest' hc =>
          obtain ⟨rfl, rfl⟩ := Prod.mk.inj (Except.ok.inj h)
          obtain ⟨hheader, -⟩ := readHeader_eq_ok_iff.mp hh
          obtain ⟨hprogram, behind, -, hfind⟩ := readProgram_eq_ok_iff.mp hp
          obtain ⟨hraw, hname, hbehind⟩ := readClosingTag_eq_ok_iff.mp hc
          have htag : ClosingTagFormed d (Section.nameOfHeader header)
              (d.opening ++ site.slash ++ raw ++ d.closing) site.slash raw :=
            ⟨findClosingTag_slash hfind, rfl, hraw, hname⟩
          refine ⟨⟨hheader, rfl, hprogram, _, _, htag⟩, ?_, ?_, ht⟩
          · refine (sealed_iff htag rest').mpr ?_
            have hb := findClosingTag_eq_append hfind
            simp only [hbehind, List.append_assoc] at hb ⊢
            rw [← hb, hfind, ← List.append_assoc raw, ← hbehind]
          · simp only [Section.source, Span.mk.injEq, List.length_append, List.length_cons,
              true_and]
            omega
  · rintro ⟨hf, hs, hspan, ht⟩
    obtain ⟨slash, raw, htag⟩ := hf.closingTag
    have hbody : t = s.header ++ '\n' :: (s.program ++ d.closing ++
        (s.stale ++ s.closingTag ++ rest)) := by
      simp only [Section.source, List.append_assoc, List.cons_append] at ht
      simpa only [List.append_assoc] using List.append_cancel_left ht
    have hh := readHeader_eq_ok_iff.mpr ⟨hf.header, hbody⟩
    have hp : readProgram d (Section.nameOfHeader s.header)
        (s.program ++ d.closing ++ (s.stale ++ s.closingTag ++ rest)) =
          .ok (s.program, ⟨s.stale, slash, raw ++ d.closing ++ rest⟩) :=
      readProgram_eq_ok_iff.mpr ⟨hf.program_endsFirst, _, rfl, (sealed_iff htag rest).mp hs⟩
    have hc : readClosingTag d (Section.nameOfHeader s.header) (raw ++ d.closing ++ rest) =
        .ok (raw, rest) :=
      readClosingTag_eq_ok_iff.mpr ⟨htag.raw_endsFirst, by rw [htag.name_eq, hf.name_eq], rfl⟩
    have hstop : s.span = ⟨start, start + d.opening.length + s.header.length + 1 +
        s.program.length + d.closing.length + s.stale.length +
          (d.opening ++ slash ++ raw ++ d.closing).length⟩ := by
      rw [hspan, ← htag.tag_eq]
      simp only [Section.source, List.length_append, List.length_cons, Span.mk.injEq, true_and]
      omega
    rw [readSection, hh]
    dsimp only
    rw [hp]
    dsimp only
    rw [hc]
    dsimp only
    rw [← hstop, ← hf.name_eq, ← htag.tag_eq]

/-! ## Documents -/

/-- `Written d position t parts`: the text `t`, which stands at an offset of a document, is laid
out as the parts. -/
inductive Written (d : Delimiters) : Nat → Text → List Part → Prop where
  /-- The rest of a document, without any open-marker. -/
  | rest {position : Nat} {t : Text} (h : Text.splitFirst d.opening t = none) :
      Written d position t (literalAt position t)
  /-- Text up to the next open-marker, the section that begins there, and what follows it. -/
  | step {position : Nat} {before rest : Text} {s : Section} {parts : List Part}
      (hb : Text.EndsFirst d.opening before) (hf : s.Formed d) (hs : s.Sealed d)
      (hspan : s.span = ⟨position + before.length,
        position + before.length + (s.source d).length⟩)
      (hr : Written d s.span.stop rest parts) :
      Written d position (before ++ s.source d ++ rest)
        (literalAt position before ++ .live s :: parts)

theorem readParts_of_none {position : Nat} {t : Text} (h : Text.splitFirst d.opening t = none) :
    readParts d position t = (literalAt position t, none) := by
  rw [readParts]
  split
  · rfl
  · next hs => cases h.symm.trans hs

theorem readParts_of_error {position : Nat} {t before behind : Text} {e : ParseError}
    (hs : Text.splitFirst d.opening t = some (before, behind))
    (hr : readSection d (position + before.length) behind = .error e) :
    readParts d position t = (literalAt position before, some e) := by
  rw [readParts]
  split
  · next h => cases hs.symm.trans h
  · next h =>
    obtain ⟨rfl, rfl⟩ := Prod.mk.inj (Option.some.inj (hs.symm.trans h))
    split
    · next h =>
      cases hr.symm.trans h
      rfl
    · next h => cases hr.symm.trans h

theorem readParts_of_ok {position : Nat} {t before behind rest : Text} {s : Section}
    (hs : Text.splitFirst d.opening t = some (before, behind))
    (hr : readSection d (position + before.length) behind = .ok (s, rest)) :
    readParts d position t = (literalAt position before ++
      .live s :: (readParts d s.span.stop rest).1, (readParts d s.span.stop rest).2) := by
  rw [readParts]
  split
  · next h => cases hs.symm.trans h
  · next h =>
    obtain ⟨rfl, rfl⟩ := Prod.mk.inj (Option.some.inj (hs.symm.trans h))
    split
    · next h => cases hr.symm.trans h
    · next h =>
      obtain ⟨rfl, rfl⟩ := Prod.mk.inj (Except.ok.inj (hr.symm.trans h))
      rfl

/-- A formed and sealed section is read behind any text that ends first in its open-marker, and
reading goes on behind it. -/
theorem readParts_step {position : Nat} {before : Text} {s : Section}
    (hb : Text.EndsFirst d.opening before) (hf : s.Formed d) (hs : s.Sealed d)
    (hspan : s.span = ⟨position + before.length,
      position + before.length + (s.source d).length⟩) (rest : Text) :
    readParts d position (before ++ s.source d ++ rest) = (literalAt position before ++
      .live s :: (readParts d s.span.stop rest).1, (readParts d s.span.stop rest).2) := by
  obtain ⟨behind, hbehind⟩ : ∃ behind, s.source d ++ rest = d.opening ++ behind := by
    simp only [Section.source, List.append_assoc]
    exact ⟨_, rfl⟩
  have hsplit : Text.splitFirst d.opening (before ++ s.source d ++ rest) =
      some (before, behind) := by
    rw [List.append_assoc, hbehind, ← List.append_assoc]
    exact hb.splitFirst behind
  exact readParts_of_ok hsplit (readSection_eq_ok_iff.mpr ⟨hf, hs, hspan, hbehind.symm⟩)

theorem readParts_eq_iff {position : Nat} {t : Text} {parts : List Part} :
    readParts d position t = (parts, none) ↔ Written d position t parts := by
  constructor
  · intro h
    -- on the length of the text, as the reader recurses
    induction hn : t.length using Nat.strongRecOn generalizing position t parts with
    | ind n ih =>
      rw [readParts] at h
      split at h
      · next hs =>
        obtain ⟨rfl, -⟩ := Prod.mk.inj h
        exact .rest hs
      · next before behind hs =>
        split at h
        · cases (Prod.mk.inj h).2
        · next s rest hr =>
          obtain ⟨rfl, hmore⟩ := Prod.mk.inj h
          obtain ⟨hf, hsealed, hspan, ht⟩ := readSection_eq_ok_iff.mp hr
          have hlt : rest.length < t.length :=
            Nat.lt_trans (readSection_length_lt hr)
              (Text.length_lt_of_splitFirst hs d.opening_ne_nil)
          have htext : t = before ++ s.source d ++ rest := by
            rw [Text.splitFirst_eq_append hs, List.append_assoc, ht, List.append_assoc]
          rw [htext]
          refine .step (Text.endsFirst_of_splitFirst hs) hf hsealed hspan ?_
          exact ih rest.length (hn ▸ hlt) (Prod.ext rfl hmore) rfl
  · intro h
    induction h with
    | rest h => exact readParts_of_none h
    | step hb hf hs hspan _ ih => rw [readParts_step hb hf hs hspan, ih]

/-- **The reader accepts exactly the written documents.** -/
theorem parse_eq_ok_iff {document : Text} {parts : List Part} :
    parse d document = .ok parts ↔ Written d 0 document parts := by
  rw [← readParts_eq_iff, parse]
  rcases readParts d 0 document with ⟨found, fault | e⟩ <;> simp

end LiveSections
