import LiveSections.Compiler
import LiveSections.Evaluation.Evaluator
import LiveSections.Properties.Basic
import LiveSections.Settings.Basic

/-!
# Compilers from properties

The usual compiler fills in placeholders from a table of properties and runs programs with these
properties and the helpers.

- `SetupError`: why a compiler cannot be made.
- `PropertySource`: properties as they are handed over, by themselves or with a sink.
- `Compiler.ofSource`, `Compiler.ofProperties`: the usual compiler.
- `Compiler.tableResolver`: a resolver that leaves keys without a value to the compiler.
-/

namespace LiveSections

/-- Why a compiler cannot be made. -/
inductive SetupError where
  | emptyMarker (e : EmptyMarker)
  | tooFewWorkers (workers : Int)

/-- The words of a refusal. -/
def SetupError.message : SetupError → String
  | emptyMarker e => e.message
  | tooFewWorkers workers => s!"max_workers must be at least 1, got {workers}"

/-- A number of workers that is not too small. -/
def WorkerCount.ofInt (workers : Int) : Except SetupError WorkerCount :=
  if h : 1 ≤ workers then .ok ⟨workers.toNat, by omega⟩ else .error (.tooFewWorkers workers)

/-- What a run asks for; the settings fill in what it leaves open. -/
structure CompileOptions where
  delimiters : Option Delimiters := none
  workers : Option Int := none
  canonicalTags : Option Bool := none
  registry : Registry := .standard
  schedule : Schedule := Schedule.ofDocument
  sink : Sink := .standard

/-- The markers of a run: those that are asked for, or those of the settings. -/
def CompileOptions.delimitersOr (options : CompileOptions) (settings : Settings) :
    Except SetupError Delimiters :=
  match options.delimiters with
  | some d => .ok d
  | none => settings.delimiters.mapError .emptyMarker

/-- Properties as they are handed over. -/
inductive PropertySource where
  /-- Values by themselves. -/
  | values (p : Properties)
  /-- A table that has a sink of its own. -/
  | table (t : PropertyTable)

namespace PropertySource

/-- The values, however they are handed over. -/
def properties : PropertySource → Properties
  | values p => p
  | table t => t.values

/-- The same values in a table with the sink of a compiler, whatever their own sink is. -/
def reportingTo (sink : Sink) (source : PropertySource) : PropertyTable :=
  ⟨source.properties, sink⟩

end PropertySource

namespace Compiler

/-- Placeholders are keys of the properties. A sentinel stands in for those without a value. -/
def propertyResolver (suffix : Text) (p : Properties) (sink : Sink := .standard) :
    Resolver Heap := fun _ key =>
  some <$> (p.lookup suffix key sink).mapError Failure.ofTooManyDigits

/-- Placeholders are keys of a table. What is done about those without a value is left open. -/
def tableResolver (p : Properties) : Resolver Heap := fun _ key => do
  (Session.ofExcept (p.text? (← Session.get) key)).mapError Failure.ofTooManyDigits

/-- Programs run with the properties and helpers. -/
def programEvaluator (e : ProgramEvaluator) : Evaluator Heap := fun name program stale =>
  Produced.text <$> e.evaluate name program stale

/-- The usual compiler. -/
def ofSource (settings : Settings) (options : CompileOptions) (source : PropertySource) :
    Except SetupError (Compiler Heap) := do
  let delimiters ← options.delimitersOr settings
  let workers ← WorkerCount.ofInt (options.workers.getD settings.maxWorkers)
  let table := source.reportingTo options.sink
  return {
    delimiters, workers, schedule := options.schedule, sink := options.sink
    resolver := propertyResolver settings.unknownSuffix table.values table.sink
    evaluator := programEvaluator { properties := table.values, registry := options.registry }
    unknownSuffix := settings.unknownSuffix
    style := if options.canonicalTags.getD settings.canonicalTags then .canonical else .verbatim }

/-- The usual compiler for values by themselves. -/
def ofProperties (settings : Settings) (options : CompileOptions) (p : Properties) :
    Except SetupError (Compiler Heap) :=
  ofSource settings options (.values p)

end Compiler

end LiveSections
