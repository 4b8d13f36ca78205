import LiveSections.Job.Basic
import LiveSections.Job.Stop
import LiveSections.Log

/-!
# The stages of a job

- `Job.checkPaths`: the files have to be there.
- `Job.loadProperties`: the properties of the file, and over them the values that were set.
- `Job.compileDocument`: the compiled document, which is written unless the job only checks.
- `Job.report`: what came of it.
- `Job.run`: all stages in turn.
-/

namespace LiveSections

/-- What a job changes: the files, and the heap with the collections of its values. -/
structure Workplace where
  tree : FileTree
  heap : Heap := .empty

/-- A step of a job. -/
abbrev JobStep (α : Type) : Type := Session Workplace Stop α

namespace JobStep

/-- The files. -/
def tree : JobStep FileTree := Workplace.tree <$> Session.get

/-- Asks something about the files, unless that fails. -/
def askTree {α : Type} (f : FileTree → Except FileError α) : JobStep α := do
  match f (← tree) with
  | .ok a => return a
  | .error e => Session.fail (.escaped (.file e))

/-- Changes the files, unless that fails. -/
def changeTree (f : FileTree → Except FileError FileTree) : JobStep Unit := do
  let tree ← askTree f
  let w ← Session.get
  Session.set { w with tree }

/-- Makes a directory and those on the way to it, as far as they are missing. -/
def makeDirectories (p : Path) : JobStep Unit := do
  let w ← Session.get
  let (tree, result) := w.tree.makeDirectories p
  Session.set { w with tree }
  match result with
  | .ok () => return
  | .error e => Session.fail (.escaped (.file e))

/-- Stops with a message. -/
def refuse {α : Type} (r : Refusal) : JobStep α := Session.fail (.refused r)

/-- Runs a computation over the heap. -/
def onHeap {ε α : Type} (x : Session Heap ε α) : Session Workplace ε α :=
  x.zoom Workplace.heap fun heap w => { w with heap }

end JobStep

namespace Job

/-- The banner. -/
def title : String :=
  String.intercalate "\n"
    ["",
     "   __               _                          _",
     "  / _|_ __ ___  ___| |__  _ __ ___   __ _ _ __| | __",
     " | |_| '__/ _ \\/ __| '_ \\| '_ ` _ \\ / _` | '__| |/ /",
     " |  _| | |  __/\\__ \\ | | | | | | | | (_| | |  |   <",
     " |_| |_|  \\___||___/_| |_|_| |_| |_|\\__,_|_|  |_|\\_\\",
     "",
     "  Regenerate generated regions inside comment blocks",
     ""]

/-! ## Paths -/

/-- Stops unless a path leads to a file. -/
def requireFile (path : Path) (r : Refusal) : JobStep Unit := do
  if !(← JobStep.askTree (·.isFile path)) then JobStep.refuse r

/-- Checks that the document and the property file are there. -/
def findFiles (j : Job) : JobStep Unit := do
  Session.log 2 title
  Session.log 2 "Checking environment..."
  requireFile j.inputPath (.noInputFile j.inputPath)
  Session.log 2 s!"Input file: {j.inputPath.str}"
  match j.propertyPath? with
  | some path => requireFile path (.noPropertyFile path)
  | none => return

/-- Makes the directory of the compiled document, unless the job only checks. -/
def openTarget (j : Job) : JobStep Unit := do
  if !j.check then JobStep.makeDirectories j.outputPath.parent

/-- A job whose paths have been checked. -/
def placed (j : Job) : Job :=
  { j with source := j.inputPath, target := j.outputPath, checked := true }

/-- Checks that the files are there, and makes the directory of the compiled document. -/
def checkPaths (j : Job) : JobStep Job := do
  j.findFiles
  j.openTarget
  Session.log 2 s!"Output file: {j.outputPath.str}"
  return j.placed

/-! ## Properties -/

/-- Loads the properties of a file. -/
def loadFile (path : Path) : JobStep Properties := do
  let w ← Session.get
  match Properties.ofFile w.tree path w.heap with
  | .error e => Session.fail (.ofPropertyFile e)
  | .ok (heap, p) => do
    Session.set { w with heap }
    return p

/-- The properties of the property file, if there is one. -/
def fileProperties (j : Job) : JobStep Properties :=
  match j.propertyPath? with
  | none => return []
  | some path => do
    Session.log 1 s!"Loading properties from {path.str}"
    loadFile path

/-- The log messages about keys of a file that are set otherwise. -/
def overrideEvents (p : Properties) (keys : List Text) : List Event :=
  (keys.filter fun k => p.has k).map fun k =>
    .log 2 s!"--set {k.str} overrides the property file value"

/-- The properties of the file, and over them the values that were set. -/
def loadTable (j : Job) : JobStep Properties := do
  let p ← j.fileProperties
  match readAssignments j.assignments with
  | .error e => JobStep.refuse (.assignment e)
  | .ok values =>
    Session.emitAll (overrideEvents p values.keys)
    match p.merged? (values.map fun v => (v.1, Value.text v.2)) with
    | none => Session.fail (.escaped .reservedKey)
    | some table => do
      Session.log 2 s!"Loaded {table.length} properties"
      return table

/-- Loads the properties. -/
def loadProperties (j : Job) : JobStep Job := do
  let table ← j.loadTable
  return { j with table := some table }

/-! ## Compilation -/

/-- The markers of a job. -/
def delimiters (settings : Settings) (j : Job) : Except SetupError Delimiters :=
  (Delimiters.ofMarkers (markerOr j.openMarker settings.openMarker)
    (markerOr j.closeMarker settings.closeMarker)).mapError .emptyMarker

/-- The compiler of a job. -/
def compiler (settings : Settings) (j : Job) : Except SetupError (Compiler Heap) := do
  let delimiters ← j.delimiters settings
  Compiler.ofProperties settings
    { delimiters := some delimiters, workers := j.workers, schedule := j.schedule }
    (j.table.getD [])

/-- The document as text. -/
def readDocument (j : Job) : JobStep Text := do
  let bytes ← JobStep.askTree (·.read j.source)
  match Utf8.decode bytes with
  | .error e => JobStep.refuse (.undecodable e)
  | .ok t => return t

/-- The log messages about the helpers that programs can call. -/
def helperEvents : List Event :=
  .log 3 "Helpers available to section programs:"
    :: Registry.standard.describe.map fun line => .log 3 line.str

/-- The compiled document with its warnings; its lines end in line feeds. -/
def compiled (j : Job) (c : Compiler Heap) (document : Text) : JobStep (Text × List String) := do
  let traced : Bool := 3 ≤ j.verbosity
  let (t, events) ← ((JobStep.onHeap (c.compile document)).mapError
    (Stop.ofCompilation j.source traced)).listen
  return (t, warningsOf events)

/-- Stops a strict run in which placeholders stand for nothing. -/
def requireKeys (settings : Settings) (warnings : List String) : JobStep Unit := do
  if settings.strictMode && !warnings.isEmpty then JobStep.refuse (.unknownKeys warnings.length)

/-- The document with its compiled text. -/
def compileText (settings : Settings) (j : Job) : JobStep Draft := do
  Session.log 1 "Compiling document..."
  let raw ← j.readDocument
  let document := Text.toLf raw
  Session.log 2 s!"Read {document.length} characters from {j.source.name.str}"
  match j.compiler settings with
  | .error e => Session.fail (.escaped (.setup e))
  | .ok c => do
    Session.emitAll helperEvents
    let (t, warnings) ← j.compiled c document
    requireKeys settings warnings
    return { raw, text := Text.restoring raw t, warnings }

/-- Writes the compiled document, unless the job only checks. -/
def writeText (j : Job) (t : Text) : JobStep Unit := do
  if !j.check then
    JobStep.changeTree (·.write j.target (Utf8.encode t))
    Session.log 2 s!"Wrote {j.target.str}"

/-- What came of a job with a compiled text. -/
def outcomeOf (j : Job) (draft : Draft) : Outcome where
  changed := draft.text ≠ draft.raw
  outputFile := j.target.text
  warnings := draft.warnings

/-- Compiles the document and writes the compiled text. -/
def compileDocument (settings : Settings) (j : Job) : JobStep Job := do
  let draft ← j.compileText settings
  j.writeText draft.text
  return { j with outcome := some (j.outcomeOf draft) }

/-! ## Report -/

/-- The log messages about an outcome. -/
def outcomeEvents (o : Outcome) : List Event :=
  let changed := if o.changed then "yes" else "no"
  [.log 1 "✓ Compilation successful!",
   .log 1 s!"  Output: {o.outputFile.str}",
   .log 1 s!"  Changed: {changed}"]
    ++ if o.warnings.isEmpty then [] else [.log 1 s!"  Warnings: {o.warnings.length}"]

/-- Tells what came of the job. A job that only checks fails if the document is out of date. -/
def report (j : Job) : JobStep Job :=
  match j.outcome with
  | none => JobStep.refuse .noOutcome
  | some o =>
    if j.check then
      if o.changed then JobStep.refuse (.outOfDate j.source)
      else do
        Session.log 1 s!"✓ {j.source.str} is up to date"
        return j
    else do
      Session.emitAll (outcomeEvents o)
      return j

/-- All stages in turn. -/
def run (settings : Settings) (j : Job) : JobStep Job := do
  let j ← j.checkPaths
  let j ← j.loadProperties
  let j ← j.compileDocument settings
  j.report

end Job

end LiveSections
