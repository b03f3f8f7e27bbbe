import Flowline.Cli.Options
import Flowline.Cli.LogFilter
import Flowline.Cli.Screen
import Flowline.Run.Engine
import Flowline.Run.Tree
import Flowline.Flow.Storage
set_option autoImplicit false

/-!
# The command-line program

`Cli.execute` is the whole program as a function: from the arguments, the
environment and the world (files, clock, identifiers) to what it writes
and its exit code. One run:

1. reads the arguments; a mistake prints the usage text and the error;
2. sets up logging from `RUST_LOG` or `--verbose` and prints the banner;
3. lists the built-in steps for `--list-steps` and stops;
4. works out the engine configuration: the `--config` file or defaults,
   the `FLOWRUNNER_*` variables, then `--data-dir`;
5. lists the waiting tickets for `--pending` and stops;
6. resumes a ticket, or loads, validates and runs the flow file, with
   pause tickets under `<data>/pauses` and run summaries under
   `<data>/runs`;
7. prints the summary and the execution tree, and fails when the execution
   failed or was cancelled.

An error ends the run with `Error: <message>` on standard error and exit
code 1. Log records and events go to standard error through the log
filter, in the order they were written.

The default data directory is worked out once per run, when first needed:
by the configuration, or else when the engine is made.
-/

namespace Flowline.Cli

/-- What one run of the program wrote and how it ended. -/
structure Transcript where
  exitCode : Nat
  stdout : String
  stderr : String
  deriving Inhabited

/-- A run of the program: it writes to standard output, works in a world
and may stop with an error message. -/
abbrev Console := ExceptT String (StateT String (StateM World))

namespace Console

/-- Writes text to standard output. -/
def print (text : String) : Console Unit := modifyThe String (· ++ text)

/-- Runs a computation of the world; its error stops the program with the
error's message. -/
def world {α : Type} (m : Run α) : Console α :=
  ExceptT.mk (StateT.lift (do
    match ← m.run with
    | .ok a => pure (.ok a)
    | .error e => pure (.error e.message)))

/-- The files the program sees. -/
def disk : Console Disk := world do pure (← get).disk

end Console

open Console

/-- The value handed to a resumed step: the JSON the text reads as, or the
text itself, or null without one. -/
def resumeValue : Option String → Value
  | none => .null
  | some text =>
    match Json.read (some 128) text with
    | .ok v => v
    | .error _ => .str text

/-- The engine configuration and whether the default data directory was
worked out on the way. -/
def engineConfig (o : Options) (env : Environment) : Console (EngineConfig × Bool) := do
  let (config, homeUsed) ← match o.configPath with
    | some path => do
      let d ← disk
      world (Run.attempt (EngineConfig.load d path env (EngineConfig.homeDir env)))
    | none => do
      let c ← world (Run.logged (EngineConfig.fromEnv env))
      pure (c, true)
  let config := match o.dataDir with
    | some dir => { config with dataDir := dir }
    | none => config
  world (Run.info .program s!"Data directory: {config.dataDir}")
  pure (config, homeUsed)

/-- Loads the flow file; a failure is logged and explained. -/
def loadFlow (path : String) : Console FlowDefinition := do
  let d ← disk
  match ← world (Run.logged (FlowFile.loadFlow d path).run) with
  | .ok definition => pure definition
  | .error e =>
    world (Run.error .program s!"Failed to load flow: {e.message}")
    throw s!"Could not load flow from '{path}': {e.message}"

/-- Loads the seed state, an empty object without a state file. -/
def seedState : Option String → Console Value
  | none => pure Value.empty
  | some path => do
    let d ← disk
    world (Run.attempt (FlowFile.loadState d path))

/-- Validates, then runs the flow file; nothing runs with `--validate`. -/
def runFlow (o : Options) (eng : Engine) (path : String) : Console (Option ExecutionReport) := do
  let definition ← loadFlow path
  let validation ← world (Run.logged (validateFlow definition eng.registry eng.config))
  if !validation.valid then
    for issue in validation.errors do
      world (Run.error .program issue.message)
    throw s!"Flow has {validation.errors.length} validation errors"
  if o.validateOnly then
    print s!"OK '{definition.name}' is valid ({validation.warnings.length} warnings)\n"
    pure none
  else
    let state ← seedState o.statePath
    some <$> world (eng.run definition state)

/-- Prints how an execution stopped and the tree of its events; fails when
it failed or was cancelled. -/
def conclude (report : ExecutionReport) (events : List FlowEvent) : Console Unit := do
  print (Screen.summary report)
  print (ExecutionTree.ofEvents events).render
  match report.status with
  | .failed | .cancelled =>
    let reason := (report.error.map Failure.display).getD report.status.name
    throw s!"Flow did not complete: {reason}"
  | .paused => world (Run.warn .program "Flow is paused; resume it with --resume")
  | _ => pure ()

/-- Resumes a ticket or runs a flow file with a durable engine. -/
def runEngine (o : Options) (env : Environment) (config : EngineConfig) (homeUsed : Bool) :
    Console Unit := do
  let registry ← world (Run.attempt builtinRegistry)
  if !homeUsed then
    let _ ← world (Run.logged (EngineConfig.homeDir env))
  world (modify fun w => { w with store := .directory config.pauseDir })
  let eng : Engine := { registry, config, logEvents := true, summaries := some config.runsDir }
  let firstEvent := (← world get).events.size
  let report ← match o.resume, o.flowPath with
    | some pauseId, _ => do
      world (Run.info .program s!"Resuming ticket {pauseId}")
      some <$> world (eng.resume pauseId (resumeValue o.value))
    | none, some path => runFlow o eng path
    | none, none => throw "No flow file given"
  match report with
  | some r => conclude r ((← world get).events.toList.drop firstEvent)
  | none => pure ()

/-- The work the options ask for, after the banner. -/
def perform (o : Options) (env : Environment) : Console Unit := do
  if o.listSteps then
    print (Screen.stepList (← world (Run.attempt builtinRegistry)))
  else
    let (config, homeUsed) ← engineConfig o env
    if o.pending then
      world (modify fun w => { w with store := .directory config.pauseDir })
      print (Screen.pendingList (← world Run.pendingTickets))
    else
      runEngine o env config homeUsed

/-- The options and engine configuration a run works with, when it gets as
far as working them out. A caller uses them to know which files the run may
touch. -/
def plan (args : List String) (env : Environment) (w : World) : Option (Options × EngineConfig) :=
  match Options.parse args with
  | .ok (.perform o) =>
    match (((engineConfig o env).run.run "").run w).1.1 with
    | .ok (c, _) => some (o, c)
    | .error _ => none
  | _ => none

/-- The level shown when `RUST_LOG` is not set. -/
def defaultLevel (o : Options) : String := if o.verbose then "debug" else "info"

/-- Runs the program with its arguments (the program's name left out) and
environment, in a world. -/
def execute (args : List String) (env : Environment) (w : World) : Transcript × World :=
  match Options.parse args with
  | .error e => (⟨1, Screen.usage, s!"Error: {e}\n\n\nError: {e}\n"⟩, w)
  | .ok .help => (⟨0, Screen.usage, ""⟩, w)
  | .ok .version => (⟨0, Screen.versionLine, ""⟩, w)
  | .ok (.perform o) =>
    let (filter, warnings) := LogFilter.ofSetting (env.get? "RUST_LOG") (defaultLevel o)
    let firstLog := w.logs.size
    let ((result, out), w') := (((perform o env).run.run Screen.banner).run
      { w with cancelled := false })
    let logs := filter.render (w'.logs.toList.drop firstLog)
    let preamble := String.join (warnings.map (· ++ "\n"))
    match result with
    | .ok () => (⟨0, out, preamble ++ logs⟩, w')
    | .error e => (⟨1, out, preamble ++ logs ++ s!"\nError: {e}\n"⟩, w')

end Flowline.Cli
