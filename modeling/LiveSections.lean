import LiveSections.Unmodelled
import LiveSections.Document.Parser
import LiveSections.Template
import LiveSections.Session
import LiveSections.Helper.Badge
import LiveSections.Helper.Registry
import LiveSections.Text.Between
import LiveSections.Value.Display
import LiveSections.Value.Member
import LiveSections.Program.Fault
import LiveSections.Program.Token
import LiveSections.Program.Grammar
import LiveSections.Program.Parser
import LiveSections.Program.BuiltIns
import LiveSections.Program.Call
import LiveSections.Program.Run
import LiveSections.Compiler
import LiveSections.Evaluation.Evaluator
import LiveSections.Properties.Compiler
import LiveSections.Text.Utf8
import LiveSections.Yaml.Cursor
import LiveSections.Yaml.Fault
import LiveSections.Yaml.Scalar
import LiveSections.Yaml.Node
import LiveSections.Files.Path
import LiveSections.Files.Tree
import LiveSections.Properties.File
import LiveSections.Settings.Environment
import LiveSections.Settings.Reader
import LiveSections.Job.Basic
import LiveSections.Job.Stages
import LiveSections.CommandLine.Arguments
import LiveSections.CommandLine.Run
import LiveSections.Main
import LiveSections.Proofs.Occurrence
import LiveSections.Proofs.Grammar
import LiveSections.Proofs.Lossless
import LiveSections.Proofs.Scan
import LiveSections.Proofs.Session
import LiveSections.Proofs.Workers
import LiveSections.Proofs.Splice
import LiveSections.Proofs.Conformance
import LiveSections.Proofs.Composition
import LiveSections.Proofs.Reassembly
import LiveSections.Proofs.FixedPoint
import LiveSections.Proofs.Intact
import LiveSections.Proofs.CanonicalTags
import LiveSections.Proofs.Concatenation
import LiveSections.Proofs.Utf8
import LiveSections.Proofs.Newline
import LiveSections.Proofs.FileTree
import LiveSections.Proofs.Warnings
import LiveSections.Proofs.Job
import LiveSections.Proofs.Setup
import LiveSections.Proofs.Untouched
import LiveSections.Proofs.CheckMode
import LiveSections.Proofs.Recompile
import LiveSections.Proofs.Names
import LiveSections.Proofs.BlindSections
import LiveSections.Proofs.Rerun
import LiveSections.Proofs.Simulation
import LiveSections.Proofs.UnknownKeys
import LiveSections.Proofs.CallRecord
import LiveSections.Proofs.Between
import LiveSections.Proofs.Normalization
import LiveSections.Proofs.Rewriting
import LiveSections.Proofs.Conversion
import LiveSections.Proofs.Placeholders
import LiveSections.Proofs.FirstTag
import LiveSections.Proofs.CanonicalReading
import LiveSections.Proofs.Diagnosis
import LiveSections.Proofs.CursorScan
import LiveSections.Proofs.Faults
import LiveSections.Proofs.Raising
import LiveSections.Proofs.Bindings
import LiveSections.Proofs.Evaluation
import LiveSections.Proofs.Tables
import LiveSections.Proofs.Registrations
import LiveSections.Proofs.Overrides
import LiveSections.Proofs.Valueless
import LiveSections.Proofs.PropertyFiles
import LiveSections.Proofs.Relocation
import LiveSections.Proofs.Moves
import LiveSections.Proofs.MovedCalls
import LiveSections.Proofs.MovedPrograms
import LiveSections.Proofs.Grounding
import LiveSections.Proofs.Isolation
import LiveSections.Proofs.Notice
import LiveSections.Proofs.BadgeFields
import LiveSections.Proofs.Badges
