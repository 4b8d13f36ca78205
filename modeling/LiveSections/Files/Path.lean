import LiveSections.Text.Basic

/-!
# Paths

- `Path.ofText`: a path in normal form, without empty names and without single dots. Double dots
  stay, because what they lead to depends on the tree.
- `Path.text`: the path as text.
- `Path.join`, `Path.parent`, `Path.name`: paths from paths.
-/

namespace LiveSections

/-- The way to a file. `root` is empty for a path that begins at the working directory. -/
structure Path where
  root : Text := []
  names : List Text := []
  deriving DecidableEq, Repr, Inhabited

namespace Path

/-- The top of all files. -/
def top : Path := { root := ['/'] }

/-- The slashes that a path begins with: just two of them are kept, more count as one. -/
def rootOf (t : Text) : Text :=
  match (t.takeWhile (· = '/')).length with
  | 0 => []
  | 2 => ['/', '/']
  | _ => ['/']

/-- Whether a name leads anywhere else. -/
def isTelling (name : Text) : Bool := name ≠ [] ∧ name ≠ ['.']

/-- A path in normal form. -/
def ofText (t : Text) : Path where
  root := rootOf t
  names := (Text.splitOn '/' t).filter isTelling

/-- A path as text; the empty path is a dot. -/
def text (p : Path) : Text :=
  if p.root = [] ∧ p.names = [] then ['.'] else p.root ++ Text.join ['/'] p.names

/-- A path as a string, for messages. -/
def str (p : Path) : String := p.text.str

/-- Goes on from a path with another one, which counts alone if it begins at the top. -/
def join (p further : Path) : Path :=
  if further.root = [] then { p with names := p.names ++ further.names } else further

/-- The path without its last name. -/
def parent (p : Path) : Path := { p with names := p.names.dropLast }

/-- The last name. -/
def name (p : Path) : Text := p.names.getLast?.getD []

theorem parent_length_lt {p : Path} (h : p.names ≠ []) :
    p.parent.names.length < p.names.length := by
  have := List.length_pos_iff.mpr h
  simp only [parent, List.length_dropLast]
  omega

end Path

end LiveSections
