import LiveSections.CommandLine.Run
import LiveSections.Settings.Reader

/-!
# The command

Takes in the settings and the files that the arguments name, runs the command line on them, and
writes what has become different.
-/

namespace LiveSections.CommandLine

/-- The result of an action, if it does not fail. -/
def attempt {α : Type} (x : IO α) : IO (Option α) := do
  try return some (← x) catch _ => return none

/-- The name of a place for the system. -/
def systemName (place : Place) : String := (Path.str { root := ['/'], names := place })

/-- What the system has at a place. -/
def entryOf (place : Place) : IO (Option FileEntry) := do
  match ← attempt (IO.FS.Handle.mk (systemName place ++ "/.") .read) with
  | some _ => return some .directory
  | none =>
    let bytes ← attempt (IO.FS.readBinFile (systemName place))
    return bytes.map fun b => .file b.toList

/-- The files and directories on the way to paths. -/
def takeIn (paths : List Path) : IO FileTree := do
  let working := (Path.ofText (toString (← IO.currentDir)).toList).names
  let places := paths.flatMap (FileTree.placesOf working)
  let around := FileTree.placesAlong [] working
  let mut tree : FileTree := { working }
  for place in around ++ places do
    if let some e ← entryOf place then tree := tree.put place e
  return tree

/-- Writes what has become different. -/
def writeOut (before after : FileTree) : IO Unit := do
  for (place, entry) in after.since before do
    match entry with
    | .directory => IO.FS.createDirAll (systemName place)
    | .file bytes => IO.FS.writeBinFile (systemName place) ⟨bytes.toArray⟩

/-- The settings that the environment and the file of the working directory ask for. -/
def takeSettings : IO (Except (List (Text × SettingFault)) Settings) := do
  let mut inForce : List (Text × Text) := []
  for setting in SettingSources.names do
    let inFull := SettingSources.lead ++ setting
    if let some value ← IO.getEnv (Text.upper inFull).str then
      inForce := inForce ++ [(inFull, value.toList)]
  let file ← attempt (IO.FS.readFile ".env")
  let bindings := file.elim [] fun t => Binding.all t.toList
  let mut outside : Table Text Text := []
  for name in Environment.namesWithin bindings do
    if let some value ← IO.getEnv name.str then outside := outside.put name value.toList
  return Settings.read {
    environment := Environment.ofVariables inForce
    file := Environment.ofBindings (fun name => outside.get? name) bindings }

/-- The files that arguments name. -/
def pathsOf (arguments : List Text) : List Path :=
  match Request.ofArguments arguments with
  | .ok (.job options input output) => (Job.start options input output).paths
  | _ => []

/-- Runs the command line on files, and tells the exit code. -/
def call (settings : Settings) (arguments : List Text) : IO UInt32 := do
  let tree ← takeIn (pathsOf arguments)
  let leaving := run settings arguments tree
  writeOut tree leaving.workplace.tree
  for record in leaving.log do
    IO.eprintln s!"{record.level.name} {record.message}"
  IO.print leaving.verdict.output
  IO.eprint (leaving.verdict.errorOutput leaving.workplace.heap)
  return UInt32.ofNat ((leaving.verdict.exitCode? leaving.workplace.heap).getD 1)

end LiveSections.CommandLine

open LiveSections in
/-- Runs the command with its arguments. -/
def main (arguments : List String) : IO UInt32 := do
  match ← CommandLine.takeSettings with
  | .ok settings => CommandLine.call settings (arguments.map String.toList)
  | .error faults =>
    for (setting, fault) in faults do
      IO.eprintln s!"{setting.str}: {fault.code}"
    return 1
