import LiveSections.Session

/-!
# The log

- `Logger`: shows log messages up to its verbosity, and warnings always.
- `Logger.records`: the log of a trace of events.
- `Collector`: keeps warnings, and may hand them on to the log.
-/

namespace LiveSections

/-- How serious a line of the log is. -/
inductive LogLevel where
  | debug
  | warning
  deriving DecidableEq, Repr

/-- The name of a level. -/
def LogLevel.name : LogLevel → String
  | debug => "DEBUG"
  | warning => "WARNING"

/-- A line of the log. -/
structure LogRecord where
  level : LogLevel
  message : String
  deriving DecidableEq, Repr

/-- What shows log messages; without a verbosity it shows none. -/
structure Logger where
  verbosity : Option Int := none
  deriving DecidableEq, Repr

namespace Logger

/-- Shows a message that asks for a verbosity. -/
def log (l : Logger) (level : Int) (message : String) : List LogRecord :=
  match l.verbosity with
  | some verbosity => if level ≤ verbosity then [⟨.debug, message⟩] else []
  | none => []

/-- Shows a warning. -/
def warn (message : String) : List LogRecord := [⟨.warning, message⟩]

/-- The log of events. `forwarded` tells that warnings go on to the log. -/
def records (l : Logger) (forwarded : Bool) (events : List Event) : List LogRecord :=
  events.flatMap fun
    | .log level message => l.log level message
    | .warning _ message => if forwarded then warn message else []
    | .evaluation .. => []

end Logger

/-- What keeps warnings. -/
structure Collector where
  forwards : Bool
  messages : List String := []
  deriving DecidableEq, Repr

/-- Takes in a warning, and shows it if it is to be handed on. -/
def Collector.receive (c : Collector) (message : String) : Collector × List LogRecord :=
  ({ c with messages := c.messages ++ [message] },
    if c.forwards then Logger.warn message else [])

end LiveSections
