import LiveSections.Files.Path
import LiveSections.Compiler
import LiveSections.Properties.Basic

/-!
# Jobs

A job compiles one document of an input directory into an output directory. It carries what was
asked for, and what its stages have found so far.

- `JobOptions`: what is asked for.
- `Draft`: a document with its compiled text.
- `Outcome`: what came of the compilation.
- `Job`: both, with the paths and the properties that were found.
-/

namespace LiveSections

/-- What is asked of a job. -/
structure JobOptions where
  /-- The document, seen from the input directory. -/
  inputFile : Text := []
  /-- The property file, seen from the input directory. -/
  propertyFile : Option Text := none
  assignments : List Text := []
  openMarker : Option Text := none
  closeMarker : Option Text := none
  workers : Option Int := none
  /-- Whether to tell that the document is out of date, and to write nothing. -/
  check : Bool := false
  verbosity : Int := 1
  deriving DecidableEq, Repr

/-- A document with its compiled text, which has the ends of line of the document. -/
structure Draft where
  raw : Text
  text : Text
  warnings : List String
  deriving DecidableEq, Repr

/-- What came of a compilation. -/
structure Outcome where
  succeeded : Bool := true
  /-- Whether the compiled document differs from the document. -/
  changed : Bool
  /-- Where the compiled document is, or would be. -/
  outputFile : Text
  warnings : List String
  deriving DecidableEq, Repr

/-- A job with what its stages have found. -/
structure Job extends JobOptions where
  inputDirectory : Option Path := none
  outputDirectory : Option Path := none
  /-- Whether the paths have been checked. -/
  checked : Bool := false
  source : Path := Path.top
  target : Path := Path.top
  table : Option Properties := none
  outcome : Option Outcome := none
  /-- The order in which workers get to sections. -/
  schedule : Schedule := Schedule.ofDocument

namespace Job

/-- A job before its first stage. -/
def start (options : JobOptions) (input output : Path) : Job :=
  { options with inputDirectory := some input, outputDirectory := some output }

/-- A path seen from the input directory. -/
def inInput (j : Job) (t : Text) : Path := (j.inputDirectory.getD {}).join (Path.ofText t)

/-- A path seen from the output directory. -/
def inOutput (j : Job) (t : Text) : Path := (j.outputDirectory.getD {}).join (Path.ofText t)

/-- Where the document is. -/
def inputPath (j : Job) : Path := j.inInput j.inputFile

/-- Where the compiled document is, or would be. -/
def outputPath (j : Job) : Path := j.inOutput j.inputFile

/-- The path of the property file; an empty name stands for no file. -/
def propertyPath? (j : Job) : Option Path := (j.propertyFile.filter (· ≠ [])).map j.inInput

/-- The paths that a job can look at. -/
def paths (j : Job) : List Path :=
  j.inputDirectory.toList ++ j.outputDirectory.toList ++ j.propertyPath?.toList
    ++ [j.inputPath, j.outputPath]

/-- A marker that is asked for; an empty one stands for that of the settings. -/
def markerOr (asked : Option Text) (default : Text) : Text := (asked.filter (· ≠ [])).getD default

end Job

end LiveSections
