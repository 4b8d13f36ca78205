import LiveSections.Document.ParseError

/-!
# Reading a document

Each step looks for the nearest next marker and never goes back, so every match is the shortest
and no character is read twice.

- `findClosingTag`: the shortest text up to a closing tag, passing over open-markers that do not
  begin one.
- `readSection`: one section, from the text behind its open-marker.
- `readParts`: the parts before the first fault, and the fault.
- `parse`: all parts, or the first fault.
-/

namespace LiveSections

/-! ## Closing tags -/

/-- The slash of a closing tag with its optional blank, and the text behind it. The argument is
the text behind an open-marker. -/
def closingSlash? : Text → Option (Text × Text)
  | ' ' :: '/' :: rest => some ([' ', '/'], rest)
  | '/' :: rest => some (['/'], rest)
  | _ => none

/-- Where a closing tag was found: the text before it, its slash, and what lies behind. -/
structure ClosingTagSite where
  before : Text
  slash : Text
  behind : Text
  deriving DecidableEq, Repr

/-- The first closing tag, in a scan that goes on behind each open-marker it passes over. -/
def findClosingTag (d : Delimiters) (t : Text) : Option ClosingTagSite :=
  match _h : Text.splitFirst d.opening t with
  | none => none
  | some (before, behind) =>
    match closingSlash? behind with
    | some (slash, rest) => some ⟨before, slash, rest⟩
    | none =>
      (findClosingTag d behind).map fun site =>
        { site with before := before ++ d.opening ++ site.before }
termination_by t.length
decreasing_by exact Text.length_lt_of_splitFirst _h d.opening_ne_nil

/-- The closing tag's name: one blank before the close-marker does not count. -/
def nameOfClosingTag (raw : Text) : Text :=
  if raw.getLast? = some ' ' then raw.dropLast else raw

/-! ## Sections -/

/-- Reads the first line, from the text behind an open-marker: the header and the text behind its
line feed. -/
def readHeader (d : Delimiters) (t : Text) : Except Fault (Text × Text) :=
  if (closingSlash? t).isSome then .error .strayClosingTag
  else match Text.splitFirst ['\n'] t with
    | none => .error .headerUnfinished
    | some (header, body) =>
      if Text.contains d.closing header then .error (.headerClosed header d.closing)
      else if Section.nameOfHeader header = [] then .error .nameless
      else .ok (header, body)

/-- Reads the program up to the first close-marker and finds the closing tag. -/
def readProgram (d : Delimiters) (name body : Text) : Except Fault (Text × ClosingTagSite) :=
  match Text.splitFirst d.closing body with
  | none => .error (.programUnfinished name d.closing)
  | some (program, behind) =>
    match findClosingTag d behind with
    | none => .error (.neverClosed name)
    | some site => .ok (program, site)

/-- Reads the rest of a closing tag, from behind its slash: the raw name and the text behind the
tag. -/
def readClosingTag (d : Delimiters) (name t : Text) : Except Fault (Text × Text) :=
  match Text.splitFirst d.closing t with
  | none => .error (.closingTagUnfinished name d.closing)
  | some (raw, rest) =>
    if nameOfClosingTag raw = name then .ok (raw, rest)
    else .error (.wrongName name (nameOfClosingTag raw))

/-- Reads a section whose open-marker begins at `start`, from the text behind the marker.
Returns the section and the text behind its closing tag. -/
def readSection (d : Delimiters) (start : Nat) (t : Text) :
    Except ParseError (Section × Text) :=
  match readHeader d t with
  | .error fault => .error ⟨fault, start⟩
  | .ok (header, body) =>
    let name := Section.nameOfHeader header
    match readProgram d name body with
    | .error fault => .error ⟨fault, start⟩
    | .ok (program, site) =>
      let tagStart := start + d.opening.length + header.length + 1 + program.length
        + d.closing.length + site.before.length
      match readClosingTag d name site.behind with
      | .error fault => .error ⟨fault, tagStart⟩
      | .ok (raw, rest) =>
        let closingTag := d.opening ++ site.slash ++ raw ++ d.closing
        .ok ({ name, header, program, stale := site.before, closingTag,
               span := ⟨start, tagStart + closingTag.length⟩ }, rest)

theorem closingSlash?_eq_some {t slash rest : Text} (h : closingSlash? t = some (slash, rest)) :
    t = slash ++ rest ∧ (slash = ['/'] ∨ slash = [' ', '/']) := by
  unfold closingSlash? at h
  split at h <;> simp_all <;> (obtain ⟨rfl, rfl⟩ := h; simp)

/-- What is found makes up the text: the text before, the marker, the slash, what lies behind. -/
theorem findClosingTag_eq_append {d : Delimiters} {t : Text} {site : ClosingTagSite}
    (h : findClosingTag d t = some site) :
    t = site.before ++ d.opening ++ site.slash ++ site.behind := by
  induction hn : t.length using Nat.strongRecOn generalizing t site with
  | ind n ih =>
    unfold findClosingTag at h
    split at h
    · simp at h
    · next before behind hs =>
      have ht := Text.splitFirst_eq_append hs
      split at h
      · next slash rest hc =>
        obtain rfl : _ = site := by simpa using h
        simp [ht, (closingSlash?_eq_some hc).1]
      · obtain ⟨site', hs', rfl⟩ := Option.map_eq_some_iff.mp h
        have hlt := Text.length_lt_of_splitFirst hs d.opening_ne_nil
        have := ih behind.length (hn ▸ hlt) hs' rfl
        simp [ht, this]

/-! ## What each step leaves -/

theorem readHeader_eq_append {d : Delimiters} {t header body : Text}
    (h : readHeader d t = .ok (header, body)) : t = header ++ '\n' :: body := by
  unfold readHeader at h
  split at h
  · simp at h
  · split at h
    · simp at h
    · next hd bd hs =>
      split at h
      · simp at h
      · split at h
        · simp at h
        · obtain ⟨rfl, rfl⟩ : hd = header ∧ bd = body := by simpa using h
          simpa using Text.splitFirst_eq_append hs

theorem readProgram_eq_append {d : Delimiters} {name body program : Text}
    {site : ClosingTagSite} (h : readProgram d name body = .ok (program, site)) :
    body = program ++ d.closing ++ site.before ++ d.opening ++ site.slash ++ site.behind := by
  unfold readProgram at h
  split at h
  · simp at h
  · next p behind hs =>
    split at h
    · simp at h
    · next site' hf =>
      obtain ⟨rfl, rfl⟩ : p = program ∧ site' = site := by simpa using h
      have := findClosingTag_eq_append hf
      simp [Text.splitFirst_eq_append hs, this]

theorem readClosingTag_eq_append {d : Delimiters} {name t raw rest : Text}
    (h : readClosingTag d name t = .ok (raw, rest)) : t = raw ++ d.closing ++ rest := by
  unfold readClosingTag at h
  split at h
  · simp at h
  · next r s hs =>
    split at h
    · obtain ⟨rfl, rfl⟩ : r = raw ∧ s = rest := by simpa using h
      exact Text.splitFirst_eq_append hs
    · simp at h

/-- **A section keeps every character**: behind the open-marker stand the rest of the section's
source and the text that is handed on. -/
theorem readSection_eq_append {d : Delimiters} {start : Nat} {t rest : Text} {s : Section}
    (h : readSection d start t = .ok (s, rest)) : d.opening ++ t = s.source d ++ rest := by
  unfold readSection at h
  split at h
  · simp at h
  · next header body hh =>
    dsimp only at h
    split at h
    · simp at h
    · next program site hp =>
      split at h
      · simp at h
      · next raw rest' hc =>
        obtain ⟨rfl, rfl⟩ := Prod.mk.inj (Except.ok.inj h)
        simp [Section.source, readHeader_eq_append hh, readProgram_eq_append hp,
          readClosingTag_eq_append hc]

/-- The text handed on is shorter, by at least the header's line feed. -/
theorem readSection_length_lt {d : Delimiters} {start : Nat} {t rest : Text} {s : Section}
    (h : readSection d start t = .ok (s, rest)) : rest.length < t.length := by
  have := congrArg List.length (readSection_eq_append h)
  simp only [Section.source, List.length_append, List.length_cons] at this
  omega

/-! ## Documents -/

/-- A literal at an offset, or nothing if it would be empty. -/
def literalAt (position : Nat) (t : Text) : List Part :=
  if t.isEmpty then [] else [.literal t ⟨position, position + t.length⟩]

/-- The parts of a text that begins at an offset, up to the first fault, and that fault. -/
def readParts (d : Delimiters) (position : Nat) (t : Text) : List Part × Option ParseError :=
  match _h : Text.splitFirst d.opening t with
  | none => (literalAt position t, none)
  | some (before, behind) =>
    match _hs : readSection d (position + before.length) behind with
    | .error e => (literalAt position before, some e)
    | .ok (s, rest) =>
      let more := readParts d s.span.stop rest
      (literalAt position before ++ .live s :: more.1, more.2)
termination_by t.length
decreasing_by
  exact Nat.lt_trans (readSection_length_lt _hs) (Text.length_lt_of_splitFirst _h d.opening_ne_nil)

/-- The parts of a document, or its first fault. -/
def parse (d : Delimiters) (document : Text) : Except ParseError (List Part) :=
  match readParts d 0 document with
  | (parts, none) => .ok parts
  | (_, some e) => .error e

end LiveSections
