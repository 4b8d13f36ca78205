import LiveSections.Document.Parser
import LiveSections.Evaluation.Error
import LiveSections.Properties.Basic
import LiveSections.Template

/-!
# Compiling documents

Every section's program is filled in and evaluated, and its output is put in place of the previous
one. What is outside of sections does not change.

- `Compiler.evaluateSection`: the fresh output of one section.
- `Compiler.evaluateSections`: the fresh output of all sections. With one worker the first failure
  ends the evaluation; with more all sections are evaluated, in any order, and the first failure in
  the order of the document counts.
- `Compiler.compile`: a document with fresh output.
-/

namespace LiveSections

/-- What a placeholder's key stands for in a section, if it stands for anything. -/
abbrev Resolver (σ : Type) : Type := Text → Text → Session σ Failure (Option Text)

/-- Makes output of a section's name, its program filled in, and its previous output. -/
abbrev Evaluator (σ : Type) : Type := Text → Text → Text → Session σ Failure Produced

/-- How many sections can be evaluated at once. -/
abbrev WorkerCount : Type := { n : Nat // 1 ≤ n }

/-- The orders in which workers may get to sections: for each number of sections, every place
once. -/
abbrev Schedule : Type := { order : Nat → List Nat // ∀ n, (order n).Perm (List.range n) }

/-- The order of the document. -/
def Schedule.ofDocument : Schedule := ⟨List.range, fun _ => .refl _⟩

/-- How documents are compiled. `schedule` tells in which order workers get to the sections. -/
structure Compiler (σ : Type) where
  delimiters : Delimiters
  resolver : Resolver σ
  evaluator : Evaluator σ
  /-- The text behind a key that stands for nothing. -/
  unknownSuffix : Text
  workers : WorkerCount := ⟨1, Nat.le_refl 1⟩
  style : TagStyle := .verbatim
  /-- Whether each section that is read is logged. -/
  traced : Bool := false
  schedule : Schedule := Schedule.ofDocument
  /-- What hears of keys for which the resolver has nothing. -/
  sink : Sink := .standard

/-- Why a document is not compiled. -/
inductive CompileError where
  | malformed (source : Text) (e : ParseError)
  | failed (e : Failure)
  deriving DecidableEq, Repr

namespace Compiler

variable {σ : Type}

/-- The text for a placeholder. -/
def resolve (c : Compiler σ) (name key : Text) : Session σ Failure Text := do
  match ← c.resolver name key with
  | some value => return value
  | none =>
    Session.emit (unknownKey key c.sink)
    return sentinel c.unknownSuffix key

/-- A program with its placeholders filled in. -/
def fillProgram (c : Compiler σ) (name program : Text) : Session σ Failure Text :=
  (Template.ofText program).fillM (c.resolve name)

/-- A failure of an evaluator as the failure of a section. -/
def failureIn (name : Text) : Failure → Failure
  | .evaluation e => .evaluation (e.within name)
  | .raised exception =>
    if exception.isFailure then .evaluation ⟨some name, .wrapped exception⟩
    else .raised exception
  | .unmodelled u => .unmodelled u

/-- The output of an evaluator, if it is a text. -/
def outputOf (name : Text) : Produced → Except Failure Text
  | .text t => .ok t
  | .other type => .error (.evaluation ⟨some name, .returned type⟩)

/-- A section with fresh output. -/
def evaluateSection (c : Compiler σ) (s : Section) : Session σ Failure Rendered := do
  Session.log 2 s!"Compiling section '{s.name.str}'"
  let program ← c.fillProgram s.name s.program
  Session.emit (.evaluation s.name program s.stale)
  let produced ← (c.evaluator s.name program s.stale).mapError (failureIn s.name)
  let output ← Session.ofExcept (outputOf s.name produced)
  return ⟨s, normalizeOutput output⟩

/-- Evaluates sections one after another, up to the first failure. -/
def evaluateInTurn (c : Compiler σ) (sections : List Section) :
    Session σ Failure (List Rendered) :=
  sections.mapM c.evaluateSection

/-- Evaluates every section, in the order of the schedule, and keeps each result by its place. -/
def evaluateAll (c : Compiler σ) (sections : List Section) :
    List Nat → Session σ Failure (Table Nat (Except Failure Rendered))
  | [] => return []
  | i :: order => do
    match sections[i]? with
    | none => c.evaluateAll sections order
    | some s =>
      let result ← (c.evaluateSection s).attempt
      return (i, result) :: (← c.evaluateAll sections order)

/-- The results in the order of the document, up to the first failure. -/
def collect (results : Table Nat (Except Failure Rendered)) (count : Nat) :
    Except Failure (List Rendered) :=
  ((List.range count).filterMap fun i => results.get? i).mapM id

/-- The sections with fresh output. -/
def evaluateSections (c : Compiler σ) (sections : List Section) :
    Session σ Failure (List Rendered) :=
  if c.workers.val = 1 ∨ sections.length < 2 then c.evaluateInTurn sections
  else do
    Session.log 2 s!"Evaluating {sections.length} sections on {c.workers.val} workers"
    let results ← c.evaluateAll sections (c.schedule.val sections.length)
    Session.ofExcept (collect results sections.length)

/-- The parts of a document with fresh output for its sections, in order. -/
def weave : List Part → List Rendered → List Piece
  | [], _ => []
  | .literal text _ :: parts, rs => .literal text :: weave parts rs
  | .live _ :: parts, r :: rs => .rendered r :: weave parts rs
  | .live _ :: _, [] => []

/-- The log messages about sections that were read. -/
def trace (parts : List Part) : List Event :=
  (sectionsOf parts).map fun s =>
    .log 3 s!"Section '{s.name.str}' spans {s.span.start}..{s.span.stop}"

/-- Reads a document; with `traced` each section is logged as it is read. -/
def read (d : Delimiters) (traced : Bool) (document : Text) : Session σ CompileError (List Part) :=
  let (parts, fault) := readParts d 0 document
  let events := if traced then trace parts else []
  match fault with
  | none => do
    Session.emitAll events
    return parts
  | some e => do
    Session.emitAll events
    Session.fail (.malformed document e)

/-- A document with fresh output. -/
def compile (c : Compiler σ) (document : Text) : Session σ CompileError Text := do
  let parts ← read c.delimiters c.traced document
  let sections := sectionsOf parts
  Session.log 2 s!"Found {sections.length} section(s)"
  let rendered ← (c.evaluateSections sections).mapError .failed
  return assemble c.delimiters c.style (weave parts rendered)

end Compiler

end LiveSections
