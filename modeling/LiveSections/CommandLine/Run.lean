import LiveSections.CommandLine.Arguments
import LiveSections.Job.Stages

/-!
# The command line

- `CommandLine.run`: what a call of the command does.
- `Verdict`: how a call ends, with its exit code and what it prints.
-/

namespace LiveSections.CommandLine

/-- The name of the command, and its version. -/
def name : String := "freshmark"
def version : String := "1.0.0"

/-- How the command is called. -/
def usage : String :=
  s!"usage: {name} [-h] --inputFile INPUTFILE [--properties PROPERTIES] [--set KEY=VALUE]\n"
    ++ "                 [--openMarker OPENMARKER] [--closeMarker CLOSEMARKER]\n"
    ++ "                 [--workers WORKERS] [--check] [-v] [-V]\n"
    ++ "                 [--saveinputmeta] [--saveoutputmeta]\n"
    ++ "                 inputdir outputdir\n"

/-- How a call ends. -/
inductive Verdict where
  /-- A text was asked for. -/
  | told (text : String)
  | misused (e : UsageError)
  | stopped (s : Stop)
  | finished (j : Job)

namespace Verdict

/-- How a call ends whose job ends in a way. -/
def ofResult : Except Stop Job → Verdict
  | .ok j => finished j
  | .error s => stopped s

/-- The values of a program's wish to stop, if that is how the call ends. -/
def exitValues? (h : Heap) : Verdict → Option (List Value)
  | stopped (.escaped (.raised e)) => if e.isExit then some (e.values h) else none
  | _ => none

/-- The exit code that a program asks for: none stands for success, and what is no number for
failure. -/
def codeOf : List Value → Nat
  | [] | [.none] => 0
  | [v] => v.toInt?.elim 1 fun n => (n % 256).toNat
  | _ => 1

/-- The exit code, unless an exception ends the call. -/
def exitCode? (h : Heap) (v : Verdict) : Option Nat :=
  match v with
  | told _ | finished _ => some 0
  | misused _ => some 2
  | stopped (.refused _) => some 1
  | stopped (.escaped _) => (v.exitValues? h).map codeOf

/-- What is printed as output. -/
def output : Verdict → String
  | told text => text
  | _ => ""

/-- Whether the exit code says all of a program's wish to stop. -/
def isSilent : List Value → Bool
  | [] | [.none] => true
  | [v] => v.toInt?.isSome
  | _ => false

/-- What is printed as an error. -/
def errorOutput (h : Heap) (v : Verdict) : String :=
  match v with
  | misused e => usage ++ s!"{name}: error: {e.message}\n"
  | stopped (.refused r) => r.message ++ "\n"
  | stopped (.escaped e) => if (v.exitValues? h).any isSilent then "" else e.message ++ "\n"
  | _ => ""

end Verdict

/-- What a call leaves: how it ends, its log, and the files. -/
structure Leaving where
  verdict : Verdict
  log : List LogRecord := []
  workplace : Workplace

/-- Makes sure that both directories are there; a missing output directory is made first. -/
def openDirectories (input output : Path) : JobStep Unit := do
  if (← JobStep.askTree (·.lookup output)).isNone then
    JobStep.makeDirectories output
  if !(← JobStep.askTree (·.isDirectory input)) then JobStep.refuse (.noDirectory input)
  if !(← JobStep.askTree (·.isDirectory output)) then JobStep.refuse (.noDirectory output)

/-- A job with its directories. -/
def runJob (settings : Settings) (options : JobOptions) (input output : Path) : JobStep Job := do
  openDirectories input output
  (Job.start options input output).run settings

/-- What a call of the command does. -/
def run (settings : Settings) (arguments : List Text) (tree : FileTree) : Leaving :=
  match Request.ofArguments arguments with
  | .error e => { verdict := .misused e, workplace := { tree } }
  | .ok .help => { verdict := .told usage, workplace := { tree } }
  | .ok .version => { verdict := .told s!"{name} {version}\n", workplace := { tree } }
  | .ok (.job options input output) =>
    let e := runJob settings options input output { tree }
    { verdict := .ofResult e.result
      log := Logger.records ⟨some options.verbosity⟩ true e.events
      workplace := e.state }

end LiveSections.CommandLine
