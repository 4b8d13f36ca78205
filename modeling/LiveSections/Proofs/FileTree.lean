import LiveSections.Files.Tree
import Mathlib.Tactic.Common

/-!
# What becomes of files

- `FileTree.file?`: the bytes at a place, if a file is there.
- `FileTree.Grows`: a tree has become another one by nothing but new directories.
- `makeDirectories_grows`: **to make directories, also in vain, does not touch any file.**
- `Grows.read`: what could be read can still be read.
- `write_spec`: **a file that is written is found where its path leads, and no other file has
  changed.**
-/

namespace LiveSections

/-- The bytes of a file. -/
def FileEntry.bytes? : FileEntry → Option (List UInt8)
  | .file bytes => some bytes
  | .directory => none

namespace FileTree

variable {t t' t'' : FileTree} {p : Path} {place : Place} {bytes : List UInt8}

/-- The bytes at a place, if a file is there. -/
def file? (t : FileTree) (place : Place) : Option (List UInt8) :=
  (t.entry? place).bind FileEntry.bytes?

theorem file?_eq_some_iff : t.file? place = some bytes ↔ t.entry? place = some (.file bytes) := by
  rw [file?, Option.bind_eq_some_iff]
  refine ⟨?_, fun h => ⟨_, h, rfl⟩⟩
  rintro ⟨e, he, hbytes⟩
  cases e with
  | file bytes' =>
    obtain rfl : bytes' = bytes := Option.some.inj hbytes
    exact he
  | directory => cases hbytes

/-- What was put at a place is there, unless the place is the top. -/
theorem entry_put (h : place ≠ []) (e : FileEntry) (place' : Place) :
    FileTree.entry? (t.put place e) place' =
      if place' = place then some e else t.entry? place' := by
  unfold entry? put
  by_cases hp : place' = []
  · rw [if_pos hp, if_pos hp, if_neg]
    rintro rfl
    exact h hp
  · rw [if_neg hp, if_neg hp]
    exact Table.get?_put place place' e t.entries

theorem file_put (h : place ≠ []) (e : FileEntry) (place' : Place) :
    (t.put place e).file? place' = if place' = place then e.bytes? else t.file? place' := by
  rw [file?, entry_put h]
  split <;> rfl

/-! ## Paths -/

/-- A way that leads through directories goes on to lead where it led while these are there. -/
theorem walk_of_directories
    (h : ∀ place, t.entry? place = some .directory → t'.entry? place = some .directory)
    {names : List Text} {start : Place} (hw : t.walk start names = .ok place) :
    t'.walk start names = .ok place := by
  induction names generalizing start with
  | nil => exact hw
  | cons name names ih =>
    rw [walk] at hw
    split at hw
    · next hd =>
      rw [walk, h start hd]
      dsimp only
      split at hw
      · next hlimit => rw [if_pos hlimit, ih hw]
      · cases hw
    · cases hw
    · cases hw

theorem locate_of_directories (hworking : t'.working = t.working)
    (h : ∀ place, t.entry? place = some .directory → t'.entry? place = some .directory)
    (hl : t.locate p = .ok place) : t'.locate p = .ok place := by
  unfold locate at hl ⊢
  split at hl
  · cases hl
  · next hnull =>
    split at hl
    · cases hl
    · next hlimit =>
      rw [if_neg hnull, if_neg hlimit, hworking]
      exact walk_of_directories h hl

theorem read_eq_ok_iff :
    t.read p = .ok bytes ↔ ∃ place, t.locate p = .ok place ∧ t.file? place = some bytes := by
  simp only [file?_eq_some_iff]
  unfold read
  cases t.locate p with
  | error fault => simp
  | ok place =>
    cases he : t.entry? place with
    | none => simp [he]
    | some e => cases e <;> simp [he]

/-- A path leads to a file exactly if that can be read. -/
theorem isFile_eq_true_iff : t.isFile p = .ok true ↔ ∃ bytes, t.read p = .ok bytes := by
  simp only [read_eq_ok_iff, file?_eq_some_iff]
  unfold isFile lookup
  cases t.locate p with
  | error fault =>
    dsimp only
    split <;> simp [Functor.map, Except.map]
  | ok place =>
    cases he : t.entry? place with
    | none => simp [he, Functor.map, Except.map]
    | some e => cases e <;> simp [he, Functor.map, Except.map]

/-! ## New directories -/

/-- `t.Grows t'`: all that is in `t` is in `t'`, which has no other files. -/
structure Grows (t t' : FileTree) : Prop where
  working : t'.working = t.working
  entry : ∀ place e, t.entry? place = some e → t'.entry? place = some e
  file : ∀ place, t'.file? place = t.file? place

theorem Grows.refl (t : FileTree) : t.Grows t := ⟨rfl, fun _ _ h => h, fun _ => rfl⟩

theorem Grows.trans (h : t.Grows t') (h' : t'.Grows t'') : t.Grows t'' where
  working := h'.working.trans h.working
  entry place e he := h'.entry place e (h.entry place e he)
  file place := (h'.file place).trans (h.file place)

/-- What could be read can still be read. -/
theorem Grows.read (h : t.Grows t') (hr : t.read p = .ok bytes) : t'.read p = .ok bytes := by
  obtain ⟨place, hl, hf⟩ := read_eq_ok_iff.mp hr
  refine read_eq_ok_iff.mpr ⟨place, ?_, (h.file place).trans hf⟩
  exact locate_of_directories h.working (fun place => h.entry place .directory) hl

/-- A directory is made where nothing was. -/
theorem exists_of_makeDirectory (h : t.makeDirectory p = .ok t') :
    ∃ place, place ≠ [] ∧ t.entry? place = none ∧ t' = t.put place .directory := by
  unfold makeDirectory at h
  split at h
  · cases h
  · next place hl =>
    split at h
    · cases h
    · next hnone =>
      refine ⟨place, ?_, hnone, (Except.ok.inj h).symm⟩
      rintro rfl
      cases hnone

theorem makeDirectory_grows (h : t.makeDirectory p = .ok t') : t.Grows t' := by
  obtain ⟨place, hne, hnone, rfl⟩ := exists_of_makeDirectory h
  refine ⟨rfl, fun place' e he => ?_, fun place' => ?_⟩
  · have hother : place' ≠ place := by
      rintro rfl
      cases hnone.symm.trans he
    rw [entry_put hne, if_neg hother, he]
  · rw [file_put hne]
    split
    · next heq => rw [heq, file?, hnone]; rfl
    · rfl

/-- **To make directories, also in vain, does not touch any file.** -/
theorem makeDirectories_grows (t : FileTree) (p : Path) : t.Grows (t.makeDirectories p).1 := by
  fun_induction makeDirectories t p with
  | case1 p t' h => exact makeDirectory_grows h
  | case2 p e h hmissing t' e' hparent ih =>
    rw [hparent] at ih
    exact ih
  | case3 p e h hmissing t' hparent t'' hagain ih =>
    rw [hparent] at ih
    exact ih.trans (makeDirectory_grows hagain)
  | case4 p e h hmissing t' hparent e' hagain ih =>
    rw [hparent] at ih
    exact ih
  | case5 p e h hpresent => exact .refl t

theorem grows_of_makeDirectories {made : Except FileError Unit}
    (h : t.makeDirectories p = (t', made)) : t.Grows t' := by
  have hgrows := makeDirectories_grows t p
  rwa [h] at hgrows

/-! ## Written files -/

/-- A file is written where its path leads, if that is no directory. -/
theorem exists_of_write (h : t.write p bytes = .ok t') :
    ∃ place, place ≠ [] ∧ t.locate p = .ok place ∧ t.entry? place ≠ some .directory ∧
      t' = t.put place (.file bytes) := by
  unfold write at h
  split at h
  · cases h
  · next place hl =>
    split at h
    · cases h
    · next hnot =>
      refine ⟨place, ?_, hl, hnot, (Except.ok.inj h).symm⟩
      rintro rfl
      exact hnot rfl

/-- What can be written does not depend on the bytes. -/
theorem exists_write (hl : t.locate p = .ok place) (hd : t.entry? place ≠ some .directory)
    (bytes : List UInt8) : ∃ t', t.write p bytes = .ok t' := by
  unfold write
  rw [hl]
  dsimp only
  split
  · next h => exact absurd h hd
  · exact ⟨_, rfl⟩

/-- **A file that is written is found where its path leads, and no other file has changed.** -/
theorem write_spec (h : t.write p bytes = .ok t') :
    ∃ place, t'.locate p = .ok place ∧ t'.file? place = some bytes ∧
      ∀ other, other ≠ place → t'.file? other = t.file? other := by
  obtain ⟨place, hne, hl, hnot, rfl⟩ := exists_of_write h
  refine ⟨place, ?_, ?_, fun other hother => by rw [file_put hne, if_neg hother]⟩
  · have hdirectories (place' : Place) (hd : t.entry? place' = some .directory) :
        FileTree.entry? (t.put place (.file bytes)) place' = some .directory := by
      have hother : place' ≠ place := by
        rintro rfl
        exact hnot hd
      rw [entry_put hne, if_neg hother, hd]
    exact locate_of_directories (t := t) rfl hdirectories hl
  · rw [file_put hne, if_pos rfl]
    rfl

/-- What was written is read. -/
theorem read_of_write (h : t.write p bytes = .ok t') : t'.read p = .ok bytes := by
  obtain ⟨place, hl, hf, -⟩ := write_spec h
  exact read_eq_ok_iff.mpr ⟨place, hl, hf⟩

end FileTree

end LiveSections
