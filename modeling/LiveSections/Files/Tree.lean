import LiveSections.Files.Path
import LiveSections.Table
import LiveSections.Text.Quoted
import LiveSections.Text.Utf8

/-!
# Trees of files

- `FileTree`: the files and directories that a run can see.
- `FileTree.locate`: the place that a path leads to; every directory on the way has to be there.
- `FileTree.lookup`: what a path leads to, if anything.
- `FileTree.since`: what has become different.
- `FileTree.read`, `FileTree.write`, `FileTree.makeDirectories`: what a run does with files.
- `FileError`: why it cannot.
-/

namespace LiveSections

/-! ## Errors -/

/-- Why a file cannot be used. -/
inductive FileFault where
  | notFound
  | exists
  | notADirectory
  | isADirectory
  | nameTooLong
  /-- Paths end at a null character, so none can be inside. -/
  | nullInside
  deriving DecidableEq, Repr

namespace FileFault

/-- The number of a fault, if the file system has met it. -/
def number? : FileFault → Option Nat
  | notFound => some 2
  | .exists => some 17
  | notADirectory => some 20
  | isADirectory => some 21
  | nameTooLong => some 36
  | nullInside => none

/-- The words of a fault. -/
def words : FileFault → String
  | notFound => "No such file or directory"
  | .exists => "File exists"
  | notADirectory => "Not a directory"
  | isADirectory => "Is a directory"
  | nameTooLong => "File name too long"
  | nullInside => "embedded null byte"

/-- Whether a fault on the way means no more than that nothing is there. -/
def isAbsence (f : FileFault) : Bool := f ≠ nameTooLong

end FileFault

/-- A fault with the path it was met at. -/
structure FileError where
  fault : FileFault
  path : Path
  deriving DecidableEq, Repr

/-- The words of an error. -/
def FileError.message (e : FileError) : String :=
  match e.fault.number? with
  | some n => s!"[Errno {n}] {e.fault.words}: {(Text.quoted e.path.text).str}"
  | none => e.fault.words

/-! ## Trees -/

/-- A place in a tree: the names on the way to it from the top. -/
abbrev Place : Type := List Text

/-- What a place holds. -/
inductive FileEntry where
  | file (bytes : List UInt8)
  | directory
  deriving DecidableEq, Repr

/-- Files and directories by place, and the place where relative paths begin. The top is always a
directory. -/
structure FileTree where
  entries : Table Place FileEntry := []
  working : Place := []
  deriving DecidableEq, Repr, Inhabited

namespace FileTree

/-- What is at a place. -/
def entry? (t : FileTree) (place : Place) : Option FileEntry :=
  if place = [] then some .directory else t.entries.get? place

/-- The place one name further. -/
def step (place : Place) (name : Text) : Place :=
  if name = ['.', '.'] then place.dropLast else place ++ [name]

/-- The bytes that a name may have, and those that a path may have. -/
def nameLimit : Nat := 255
def pathLimit : Nat := 4095

/-- Goes along names from a place, through directories only. -/
def walk (t : FileTree) : Place → List Text → Except FileFault Place
  | place, [] => .ok place
  | place, name :: names =>
    match t.entry? place with
    | some .directory =>
      if (Utf8.encode name).length ≤ nameLimit then t.walk (step place name) names
      else .error .nameTooLong
    | some (.file _) => .error .notADirectory
    | none => .error .notFound

/-- The place that a path leads to, whether or not something is there. -/
def locate (t : FileTree) (p : Path) : Except FileFault Place :=
  if '\x00' ∈ p.text then .error .nullInside
  else if pathLimit < (Utf8.encode p.text).length then .error .nameTooLong
  else t.walk (if p.root = [] then t.working else []) p.names

/-- The places on the way along names, each with the names that come after it left out. -/
def placesAlong (place : Place) : List Text → List Place
  | [] => [place]
  | name :: names => place :: placesAlong (step place name) names

/-- The places that a path can lead through. -/
def placesOf (working : Place) (p : Path) : List Place :=
  placesAlong (if p.root = [] then working else []) p.names

/-- What a path leads to, if anything; about a name that is too long nothing can be said. -/
def lookup (t : FileTree) (p : Path) : Except FileError (Option FileEntry) :=
  match t.locate p with
  | .ok place => .ok (t.entry? place)
  | .error fault => if fault.isAbsence then .ok none else .error ⟨fault, p⟩

/-- Whether a path leads to a file. -/
def isFile (t : FileTree) (p : Path) : Except FileError Bool :=
  (· matches some (.file _)) <$> t.lookup p

/-- Whether a path leads to a directory. -/
def isDirectory (t : FileTree) (p : Path) : Except FileError Bool :=
  (· matches some .directory) <$> t.lookup p

/-- The tree with something else at a place. -/
def put (t : FileTree) (place : Place) (e : FileEntry) : FileTree :=
  { t with entries := t.entries.put place e }

/-- The bytes of a file. -/
def read (t : FileTree) (p : Path) : Except FileError (List UInt8) :=
  match t.locate p with
  | .error fault => .error ⟨fault, p⟩
  | .ok place =>
    match t.entry? place with
    | some (.file bytes) => .ok bytes
    | some .directory => .error ⟨.isADirectory, p⟩
    | none => .error ⟨.notFound, p⟩

/-- The tree with other bytes in a file, which may be new. -/
def write (t : FileTree) (p : Path) (bytes : List UInt8) : Except FileError FileTree :=
  match t.locate p with
  | .error fault => .error ⟨fault, p⟩
  | .ok place =>
    match t.entry? place with
    | some .directory => .error ⟨.isADirectory, p⟩
    | _ => .ok (t.put place (.file bytes))

/-- The tree with one new directory. -/
def makeDirectory (t : FileTree) (p : Path) : Except FileError FileTree :=
  match t.locate p with
  | .error fault => .error ⟨fault, p⟩
  | .ok place =>
    match t.entry? place with
    | some _ => .error ⟨.exists, p⟩
    | none => .ok (t.put place .directory)

/-- Passes over the error of a directory that is there already. -/
def tolerate (t : FileTree) (p : Path) (e : FileError) : Except FileError Unit :=
  t.isDirectory p >>= fun found => if found then .ok () else .error e

/-- The tree with a directory and those on the way to it, as far as they are missing, and the error
if one of them cannot be made. Those that were made before it stay. -/
def makeDirectories (t : FileTree) (p : Path) : FileTree × Except FileError Unit :=
  match t.makeDirectory p with
  | .ok t => (t, .ok ())
  | .error e =>
    if _h : e.fault = .notFound ∧ p.names ≠ [] then
      match t.makeDirectories p.parent with
      | (t, .error e) => (t, .error e)
      | (t, .ok ()) =>
        match t.makeDirectory p with
        | .ok t => (t, .ok ())
        | .error e => (t, t.tolerate p e)
    else (t, t.tolerate p e)
termination_by p.names.length
decreasing_by exact Path.parent_length_lt _h.2

/-- What a tree holds that another one does not. -/
def since (t before : FileTree) : Table Place FileEntry :=
  t.entries.filter fun e => before.entries.get? e.1 ≠ some e.2

/-- The files of a tree below the working directory, with their places seen from there. -/
def files (t : FileTree) : List (Place × List UInt8) :=
  t.entries.filterMap fun
    | (place, .file bytes) => (t.working.isPrefixOf? place).map (·, bytes)
    | (_, .directory) => none

end FileTree

end LiveSections
