set_option autoImplicit false

/-!
# Log records

The library reports what it does as a list of records, each a severity, the
part of the program that wrote it and a line of text. Computations that report run in `Logged`, a state monad over
the records written so far, so a caller reads them back in the order they
were written and decides what to show: the command line prints the ones at
or above its threshold, a test harness shows them all.
-/

namespace Flowline

/-- The severity of a log record, most severe first. -/
inductive Level where
  | error
  | warn
  | info
  | debug
  | trace
  deriving DecidableEq, Repr, Inhabited

namespace Level

/-- The rank of a level: 1 for errors up to 5 for traces. -/
def rank : Level → Nat
  | .error => 1
  | .warn => 2
  | .info => 3
  | .debug => 4
  | .trace => 5

/-- The name of a level in capitals. -/
def name : Level → String
  | .error => "ERROR"
  | .warn => "WARN"
  | .info => "INFO"
  | .debug => "DEBUG"
  | .trace => "TRACE"

end Level

/-- The part of the program a record comes from. -/
inductive Component where
  /-- The command line. -/
  | program
  /-- Engine configuration. -/
  | config
  /-- The engine walking a flow. -/
  | engine
  /-- A running step's own log lines. -/
  | stepContext
  /-- Calling a step, with its timeout. -/
  | stepCall
  /-- Saving and claiming pause tickets. -/
  | pauses
  /-- Saving run summaries. -/
  | summaries
  /-- Events written to the log. -/
  | events
  /-- Reading and saving flow files. -/
  | loader
  /-- Checking flows before they run. -/
  | validator
  /-- The step registry. -/
  | registry
  deriving DecidableEq, Repr, Inhabited

/-- The target name of a part, by which log filters select its records: a
filter rule for a name applies to every target that starts with it. -/
def Component.target : Component → String
  | .program => "flowrunner"
  | .config => "flowrunner::config"
  | .engine => "flowrunner::execution::engine"
  | .stepContext => "flowrunner::execution::context"
  | .stepCall => "flowrunner::execution::step"
  | .pauses => "flowrunner::execution::pause"
  | .summaries => "flowrunner::execution::report"
  | .events => "flowrunner::monitoring::events"
  | .loader => "flowrunner::workflow::parser"
  | .validator => "flowrunner::workflow::validator"
  | .registry => "flowrunner::steps::registry"

/-- One log record. -/
structure LogRecord where
  level : Level
  component : Component
  message : String
  deriving Repr, Inhabited

/-- `LEVEL message`. -/
def LogRecord.line (r : LogRecord) : String := r.level.name ++ " " ++ r.message

/-- A computation that writes log records. -/
abbrev Logged := StateM (Array LogRecord)

namespace Logged

/-- Writes one record. -/
def write (level : Level) (component : Component) (message : String) : Logged Unit :=
  modify fun rs => rs.push ⟨level, component, message⟩

/-- Writes an error record. -/
def error (component : Component) (message : String) : Logged Unit := write .error component message

/-- Writes a warning. -/
def warn (component : Component) (message : String) : Logged Unit := write .warn component message

/-- Writes an informational record. -/
def info (component : Component) (message : String) : Logged Unit := write .info component message

/-- Writes a debugging record. -/
def debug (component : Component) (message : String) : Logged Unit := write .debug component message

/-- Runs a computation, giving its result and the records it wrote. -/
def collect {α : Type} (m : Logged α) : α × List LogRecord :=
  let (a, rs) := m.run #[]
  (a, rs.toList)

end Logged

end Flowline
