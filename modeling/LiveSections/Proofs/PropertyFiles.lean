import LiveSections.Proofs.Overrides
import LiveSections.Proofs.Utf8
import LiveSections.Proofs.Valueless

/-!
# Which property files fail, and how

A file that gives no properties is to be reported as such. Some are not, and the job ends with an
exception that nobody handles.

- `Properties.Unreported`: the errors that are not reported, by what is the matter with the file.
- `Properties.ofFile_unreported_iff`: **there are no others.**
- `Job.loadProperties_file`: **a job goes on, ends with exit code 1, or ends with such an exception.**

## What is not so

Not every bad file is reported: only errors of the file system and of the syntax are. A file that is
no text and a day that no month has are examples of others (`Job.loadProperties_escapes`).

What is left open: files that ask for something that is not modelled (`Unreported.unmodelled`), as
half of a surrogate pair or a set of several items. These may well give properties.
-/

namespace LiveSections

/-! ## Errors that are not reported -/

namespace Properties

variable {tree : FileTree} {path : Path} {h h' : Heap} {e : PropertyFileError} {p : Properties}

/-- A file gives no properties, and this is not reported. -/
inductive Unreported (tree : FileTree) (path : Path) (h : Heap) : PropertyFileError → Prop where
  | nullInside (hnull : '\x00' ∈ path.text) :
      Unreported tree path h (.unreadable ⟨.nullInside, path⟩)
  | undecodable {bytes : List UInt8} {e : Utf8.DecodeError} (hread : tree.read path = .ok bytes)
      (hbytes : ∀ t, bytes ≠ Utf8.encode t) (he : Utf8.decode bytes = .error e) :
      Unreported tree path h (.undecodable e)
  /-- An escape stands for no character. -/
  | noCodePoint {t : Text} {code : Nat} (hread : tree.read path = .ok (Utf8.encode t))
      (hn : Yaml.nodes (Text.unified t) = .error (.noCodePoint code)) :
      Unreported tree path h (.noValue (.codePoint (Word.short.limit ≤ code)))
  /-- A node stands for nothing of its kind, and is the first thing that is found to be wrong. -/
  | valueless {t : Text} {n : Yaml.NodeId} {g : Yaml.Graph} {f : Yaml.ValueFault}
      (hread : tree.read path = .ok (Utf8.encode t))
      (hn : Yaml.nodes (Text.unified t) = .ok (some (n, g))) (hf : g.Valueless f)
      (hload : Yaml.load (Text.unified t) h = .error (.noValue f)) :
      Unreported tree path h (.noValue f)
  /-- A key is too long to be written. -/
  | tooManyDigits {t : Text} {h' : Heap} {r : Ref} {k v : Value} {d : TooManyDigits}
      (hread : tree.read path = .ok (Utf8.encode t))
      (hload : Yaml.load (Text.unified t) h = .ok (h', .dict r)) (hk : (k, v) ∈ h'.entries r)
      (hd : h'.display k = .error d) : Unreported tree path h .tooManyDigits
  /-- The file asks for something that is not modelled, so nothing is said of it. -/
  | unmodelled {t : Text} {u : Unmodelled} (hread : tree.read path = .ok (Utf8.encode t))
      (hload : Yaml.load (Text.unified t) h = .error (.unmodelled u)) :
      Unreported tree path h (.unmodelled u)

/-! ## Files -/

theorem number?_eq_none_iff {f : FileFault} : f.number? = none ↔ f = .nullInside := by
  cases f <;> simp [FileFault.number?]

theorem walk_ne_nullInside (place : Place) (names : List Text) :
    tree.walk place names ≠ .error .nullInside := by
  induction names generalizing place with
  | nil =>
    intro h
    cases h
  | cons name names ih =>
    rw [FileTree.walk]
    split
    · split
      · exact ih _
      all_goals
        intro h
        cases h
    all_goals
      intro h
      cases h

/-- Of all errors of the file system, the one about a null character has no number. -/
theorem read_unnumbered_iff {e : FileError} :
    tree.read path = .error e ∧ e.fault.number? = none ↔
      '\x00' ∈ path.text ∧ e = ⟨.nullInside, path⟩ := by
  rw [number?_eq_none_iff, FileTree.read, FileTree.locate]
  by_cases hnull : '\x00' ∈ path.text
  · rw [if_pos hnull]
    constructor
    · rintro ⟨⟨⟩, -⟩
      exact ⟨hnull, rfl⟩
    · rintro ⟨-, rfl⟩
      exact ⟨rfl, rfl⟩
  · -- all other faults have numbers
    rw [if_neg hnull]
    refine iff_of_false ?_ fun h => hnull h.1
    rintro ⟨h, hfault⟩
    split at h
    · next fault hl =>
      cases h
      obtain rfl : fault = .nullInside := hfault
      split at hl
      · cases hl
      · exact walk_ne_nullInside _ _ hl
    · split at h <;> cases h <;> cases hfault

/-! ## Values -/

/-- Steps fail as a whole exactly if one of them fails. -/
theorem mapM_error_iff {ε α β : Type} {f : α → Except ε β} {l : List α} :
    (∃ e, l.mapM f = .error e) ↔ ∃ a ∈ l, ∃ e, f a = .error e := by
  induction l with
  | nil => simp [pure, Except.pure]
  | cons a l ih =>
    rw [List.mapM_cons]
    cases ha : f a with
    | error e => exact iff_of_true ⟨e, rfl⟩ ⟨a, List.mem_cons_self, e, ha⟩
    | ok b =>
      have hhead : ¬∃ e, f a = .error e := by simp [ha]
      rw [show (∃ a' ∈ a :: l, ∃ e, f a' = .error e) ↔ ∃ e, l.mapM f = .error e by
        rw [ih, List.exists_mem_cons_iff, or_iff_right hhead]]
      cases l.mapM f with
      | error e => exact iff_of_true ⟨e, rfl⟩ ⟨e, rfl⟩
      | ok bs => exact iff_of_false (fun ⟨_, h⟩ => nomatch h) (fun ⟨_, h⟩ => nomatch h)

theorem exists_error_map_iff {ε α β : Type} {x : Except ε α} {f : α → β} :
    (∃ e, f <$> x = .error e) ↔ ∃ e, x = .error e := by
  cases x with
  | error e => exact iff_of_true ⟨e, rfl⟩ ⟨e, rfl⟩
  | ok a => exact iff_of_false (fun ⟨_, h⟩ => nomatch h) (fun ⟨_, h⟩ => nomatch h)

/-- Entries give no properties exactly if a key is too long to be written. -/
theorem ofEntries_error_iff {es : List (Value × Value)} :
    (∃ d, ofEntries h es = .error d) ↔ ∃ e ∈ es, ∃ d, h.display e.1 = .error d := by
  rw [ofEntries, exists_error_map_iff, mapM_error_iff]
  exact exists_congr fun e => and_congr_right fun _ => exists_error_map_iff

/-! ## Errors of a file -/

theorem ofFile_of_read_error {e : FileError} (hread : tree.read path = .error e) :
    ofFile tree path h = .error (.unreadable e) := by
  rw [ofFile, hread]
  rfl

theorem ofFile_of_decode_error {bytes : List UInt8} {e : Utf8.DecodeError}
    (hread : tree.read path = .ok bytes) (hdecode : Utf8.decode bytes = .error e) :
    ofFile tree path h = .error (.undecodable e) := by
  rw [ofFile, hread]
  show (Utf8.decode bytes).mapError PropertyFileError.undecodable >>= _ = _
  rw [hdecode]
  rfl

theorem ofFile_of_encode {t : Text} (hread : tree.read path = .ok (Utf8.encode t)) :
    ofFile tree path h = ofYaml path (Text.unified t) h := by
  rw [ofFile, hread]
  show (Utf8.decode (Utf8.encode t)).mapError PropertyFileError.undecodable >>= _ = _
  rw [Utf8.decode_eq_ok_iff.mpr rfl]
  rfl

/-- A text gives no properties, and this is not reported. -/
inductive Withheld (t : Text) (h : Heap) : PropertyFileError → Prop where
  | noValue {f : Yaml.ValueFault} (hload : Yaml.load t h = .error (.noValue f)) :
      Withheld t h (.noValue f)
  | tooManyDigits {h' : Heap} {r : Ref} {d : TooManyDigits}
      (hload : Yaml.load t h = .ok (h', .dict r)) (hes : ofEntries h' (h'.entries r) = .error d) :
      Withheld t h .tooManyDigits
  | unmodelled {u : Unmodelled} (hload : Yaml.load t h = .error (.unmodelled u)) :
      Withheld t h (.unmodelled u)

theorem ofYaml_unreported_iff {t : Text} :
    ofYaml path t h = .error e ∧ e.isReported = false ↔ Withheld t h e := by
  rw [ofYaml]
  constructor
  · rintro ⟨hyaml, hreported⟩
    cases hload : Yaml.load t h with
    | error f =>
      rw [hload] at hyaml
      cases f with
      | malformed f =>
        cases hyaml
        cases hreported
      | noValue f =>
        cases hyaml
        exact .noValue hload
      | unmodelled u =>
        cases hyaml
        exact .unmodelled hload
    | ok loaded =>
      obtain ⟨h', v⟩ := loaded
      rw [hload] at hyaml
      -- only a mapping has keys
      cases v
      case dict r =>
        have hyaml : ((ofEntries h' (h'.entries r)).mapError
          fun _ => PropertyFileError.tooManyDigits).map (h', ·) = .error e := hyaml
        cases hes : ofEntries h' (h'.entries r) with
        | error d =>
          rw [hes] at hyaml
          cases hyaml
          exact .tooManyDigits hload hes
        | ok p =>
          rw [hes] at hyaml
          cases hyaml
      all_goals cases hyaml
      all_goals cases hreported
  · intro hw
    cases hw with
    | noValue hload =>
      rw [hload]
      exact ⟨rfl, rfl⟩
    | @tooManyDigits h' r d hload hes =>
      rw [hload]
      show ((ofEntries h' (h'.entries r)).mapError fun _ => PropertyFileError.tooManyDigits).map
        (h', ·) = _ ∧ _
      rw [hes]
      exact ⟨rfl, rfl⟩
    | unmodelled hload =>
      rw [hload]
      exact ⟨rfl, rfl⟩

/-- **The errors that are not reported are told by what is the matter with the file.** -/
theorem ofFile_unreported_iff :
    ofFile tree path h = .error e ∧ e.isReported = false ↔ Unreported tree path h e := by
  constructor
  · rintro ⟨hfile, hreported⟩
    cases hread : tree.read path with
    | error e' =>
      cases (ofFile_of_read_error hread).symm.trans hfile
      have hnumber : e'.fault.number? = none := by
        simpa [PropertyFileError.isReported] using hreported
      obtain ⟨hnull, rfl⟩ := read_unnumbered_iff.mp ⟨hread, hnumber⟩
      exact .nullInside hnull
    | ok bytes =>
      cases hdecode : Utf8.decode bytes with
      | error e' =>
        cases (ofFile_of_decode_error hread hdecode).symm.trans hfile
        refine .undecodable hread (fun t hbytes => ?_) hdecode
        cases hdecode.symm.trans (Utf8.decode_eq_ok_iff.mpr hbytes)
      | ok t =>
        obtain rfl := Utf8.decode_eq_ok_iff.mp hdecode
        rw [ofFile_of_encode hread] at hfile
        cases ofYaml_unreported_iff.mp ⟨hfile, hreported⟩ with
        | noValue hload =>
          rcases Yaml.load_noValue hload with ⟨code, hn, rfl⟩ | ⟨n, g, hn, hf⟩
          · exact .noCodePoint hread hn
          · exact .valueless hread hn hf hload
        | tooManyDigits hload hes =>
          obtain ⟨⟨k, v⟩, hk, d, hd⟩ := ofEntries_error_iff.mp ⟨_, hes⟩
          exact .tooManyDigits hread hload hk hd
        | unmodelled hload => exact .unmodelled hread hload
  · intro hu
    cases hu with
    | nullInside hnull =>
      obtain ⟨hread, -⟩ := read_unnumbered_iff.mpr ⟨hnull, rfl⟩
      exact ⟨ofFile_of_read_error hread, rfl⟩
    | undecodable hread hbytes he => exact ⟨ofFile_of_decode_error hread he, rfl⟩
    | noCodePoint hread hn =>
      rw [ofFile_of_encode hread]
      exact ofYaml_unreported_iff.mpr (.noValue (Yaml.load_of_nodes_error hn h))
    | valueless hread hn hf hload =>
      rw [ofFile_of_encode hread]
      exact ofYaml_unreported_iff.mpr (.noValue hload)
    | tooManyDigits hread hload hk hd =>
      rw [ofFile_of_encode hread]
      obtain ⟨_, hes⟩ := ofEntries_error_iff.mpr ⟨_, hk, _, hd⟩
      exact ofYaml_unreported_iff.mpr (.tooManyDigits hload hes)
    | unmodelled hread hload =>
      rw [ofFile_of_encode hread]
      exact ofYaml_unreported_iff.mpr (.unmodelled hload)

end Properties

/-! ## Jobs -/

namespace Job

open JobStep Session CommandLine

variable {j : Job} {w : Workplace} {path : Path}

/-- A directory with a document and a property file of any bytes. -/
def treeWith (properties : List UInt8) : FileTree where
  entries := [([['i']], .directory), ([['i'], ['d']], .file []), ([['i'], ['p']], .file properties)]

theorem leads_fileProperties (hpath : j.propertyPath? = some path) {w' : Workplace}
    {r : Except Stop Properties} (h : (loadFile path).Leads w w' r) :
    j.fileProperties.Leads w w' r := by
  rw [fileProperties, hpath]
  exact (leads_log _ _ w).bind h

/-- Whether a file gives no properties, and this is not reported. -/
def Fails (r : Except PropertyFileError (Heap × Properties)) : Bool :=
  match r with
  | .error e => !e.isReported
  | .ok _ => false

/-- The job to read properties from a file of these bytes ends with an exception. -/
def Escapes (bytes : List UInt8) : Prop :=
  let w : Workplace := { tree := treeWith bytes }
  ∃ path e, sample.propertyPath? = some path ∧
    Properties.ofFile w.tree path w.heap = .error e ∧ e.isReported = false ∧
    sample.loadProperties.Leads w w (.error (.escaped (.propertyFile e)))

theorem escapes_of_fails {bytes : List UInt8}
    (hfails : ∃ path, sample.propertyPath? = some path ∧
      Fails (Properties.ofFile (treeWith bytes) path .empty) = true) : Escapes bytes := by
  obtain ⟨path, hpath, hfail⟩ := hfails
  cases hfile : Properties.ofFile (treeWith bytes) path .empty with
  | ok loaded =>
    rw [hfile] at hfail
    cases hfail
  | error e =>
    rw [hfile] at hfail
    have he : e.isReported = false := by simpa [Fails] using hfail
    have hleads := leads_fileProperties hpath
      (leads_loadFile_error (w := { tree := treeWith bytes }) hfile)
    rw [Stop.ofPropertyFile, if_neg (by simp [he])] at hleads
    exact ⟨path, e, hpath, hfile, he, hleads.bind_error.bind_error⟩

/-- A byte that is no text, and a day that no month has. -/
theorem loadProperties_escapes :
    Escapes [0xFF] ∧ Escapes (Utf8.encode "d: 2024-13-01".toList) :=
  ⟨escapes_of_fails ⟨_, rfl, by decide +kernel⟩, escapes_of_fails ⟨_, rfl, by decide +kernel⟩⟩

/-- **What becomes of a property file.** The job goes on with a table in which no key stands twice,
or it ends with exit code 1, or it ends with an exception, the latter exactly if the error is one of
those that are not reported. A file that is not modelled counts with these. -/
theorem loadProperties_file (hpath : j.propertyPath? = some path) :
    (∀ e, Properties.ofFile w.tree path w.heap = .error e ∧ e.isReported = false ↔
        Properties.Unreported w.tree path w.heap e) ∧
      ∃ w' r, j.fileProperties.Leads w w' r ∧
        ((∃ p, r = .ok p ∧ p.keys.Nodup) ∨
          ∃ s, r = .error s ∧ j.loadProperties.Leads w w' (.error s) ∧
            ((Verdict.ofResult (.error s)).exitCode? w'.heap = some 1 ∨
              ∃ e, s = .escaped (.propertyFile e))) ∧
        ∀ e, r = .error (.escaped (.propertyFile e)) ↔
          Properties.Unreported w.tree path w.heap e := by
  refine ⟨fun e => Properties.ofFile_unreported_iff, ?_⟩
  simp only [← Properties.ofFile_unreported_iff]
  cases hfile : Properties.ofFile w.tree path w.heap with
  | ok loaded =>
    obtain ⟨heap, p⟩ := loaded
    exact ⟨_, _, leads_fileProperties hpath (leads_loadFile_ok hfile),
      .inl ⟨p, rfl, nodup_of_ofFile hfile⟩, by simp⟩
  | error e =>
    have hleads := leads_fileProperties hpath (leads_loadFile_error hfile)
    refine ⟨_, _, hleads, .inr ⟨_, rfl, hleads.bind_error.bind_error, ?_⟩, fun e' => ?_⟩
    · cases he : e.isReported with
      | true => exact .inl (by rw [Stop.ofPropertyFile, if_pos he]; rfl)
      | false => exact .inr ⟨e, by rw [Stop.ofPropertyFile, if_neg (by simp [he])]⟩
    · rw [Stop.ofPropertyFile]
      cases he : e.isReported with
      | true => exact iff_of_false nofun (by rintro ⟨⟨⟩, h⟩; cases he.symm.trans h)
      | false =>
        constructor
        · rintro ⟨⟩
          exact ⟨rfl, he⟩
        · rintro ⟨⟨⟩, -⟩
          rfl

/-- A day that there is makes a table, and no error that is not reported. -/
theorem loadProperties_file_sample :
    let w : Workplace := { tree := treeWith (Utf8.encode "d: 2024-12-31".toList) }
    ∃ path p, sample.propertyPath? = some path ∧ (sample.fileProperties.run w).result = .ok p ∧
      p.keys.Nodup ∧ ∀ e, ¬Properties.Unreported w.tree path w.heap e := by
  intro w
  obtain ⟨path, hpath⟩ : ∃ path, sample.propertyPath? = some path := ⟨_, rfl⟩
  have hrun : (sample.fileProperties.run w).result.isOk = true := by decide +kernel
  obtain ⟨p₀, hp₀⟩ := exists_of_isOk hrun
  obtain ⟨-, w', r, hleads, hends, hunreported⟩ := loadProperties_file (w := w) hpath
  obtain rfl : r = .ok p₀ := hleads.2.symm.trans hp₀
  rcases hends with ⟨p, hp, hkeys⟩ | ⟨s, hs, -⟩
  · refine ⟨path, p, hpath, hp₀.trans hp, hkeys, fun e he => ?_⟩
    cases (hunreported e).mpr he
  · cases hs

end Job

end LiveSections
