import Flowline.Run.Report
import Flowline.Step.Registry
import Flowline.Json.Writer
set_option autoImplicit false

/-!
# What the command line prints

The texts the command line writes to standard output: the usage text, the
version line, the banner before any work, the list of built-in steps, the
list of waiting tickets and the summary of a run. Each is a whole text
ending in a line break, so the program's output is their concatenation.
-/

namespace Flowline.Cli

namespace Screen

/-- The program's display name. -/
def appName : String := "FlowRunner"

/-- The program's version. -/
def version : String := "0.1.0"

/-- The usage text. -/
def usage : String :=
  "\n".intercalate [
    "Usage: flowrunner [OPTIONS] <FLOW_FILE>",
    "       flowrunner [OPTIONS] --resume <PAUSE_ID> [--value JSON]",
    "",
    "Arguments:",
    "  <FLOW_FILE>         Flow definition (YAML, or JSON by .json extension)",
    "",
    "Options:",
    "  --state FILE        Initial state merged into the flow's own",
    "  --config FILE       Engine configuration (YAML)",
    "  --data-dir DIR      Where pause tickets and run summaries are kept",
    "  --validate          Validate the flow and exit",
    "  --list-steps        List the built-in steps and exit",
    "  --resume PAUSE_ID   Resume a paused execution",
    "  --value JSON        Value handed to the resumed step (default: null)",
    "  --pending           List pause tickets waiting to be resumed",
    "  --verbose           Enable debug logging",
    "  --help              Show this help message",
    "  --version           Show version information",
    "",
    "Examples:",
    "  flowrunner approve.yaml --state order.json",
    "  flowrunner --pending",
    "  flowrunner --resume <PAUSE_ID> --value '\x7b\"approved\": true\x7d'"] ++ "\n"

/-- The version line. -/
def versionLine : String := s!"{appName} {version}\n"

/-- The banner written before any work. -/
def banner : String := s!"\n{appName} v{version}\nFlow Execution Engine\n\n"

/-- One step of the step list: identifier and name, description, inputs
(required ones starred) and edges. -/
def stepEntry (d : StepDefinition) : String :=
  let inputs := d.inputs.map fun i => if i.required then i.name ++ "*" else i.name
  let inputText := ", ".intercalate inputs
  let edgeText := ", ".intercalate d.declaredEdges
  s!"  {d.id} ({d.name})\n" ++
    (if d.description.isEmpty then "" else s!"      {d.description}\n") ++
    (if inputs.isEmpty then "" else s!"      inputs: {inputText}\n") ++
    s!"      edges:  {edgeText}\n"

/-- The registered steps, by identifier. -/
def stepList (r : Registry) : String :=
  "Built-in steps:\n\n" ++ String.join (r.ids.filterMap fun id => (r.find? id).map stepEntry)

/-- The tickets waiting to be resumed. -/
def pendingList (tickets : List PauseTicket) : String :=
  if tickets.isEmpty then "No paused executions.\n"
  else
    "Paused executions:\n\n" ++ String.join (tickets.map fun t =>
      s!"  {t.pauseId}  execution {t.executionId} since {t.createdAt.clockText}\n" ++
      s!"      {t.details.compact}\n")

/-- A rule of sixty `=`. -/
def rule : String := String.ofList (List.replicate 60 '=')

/-- The summary of a run: what ran, how it stopped, and how to resume it
when it waits. -/
def summary (r : ExecutionReport) : String :=
  let failed := (r.steps.filter (·.status == .failed)).length
  s!"\n{rule}\n" ++
    s!"Flow:       {r.flowName}\n" ++
    s!"Execution:  {r.executionId}\n" ++
    s!"Status:     {r.status.name}\n" ++
    s!"Instances:  {r.instances.length}\n" ++
    s!"Steps:      {r.completedSteps} completed, {failed} failed\n" ++
    (match r.result with
      | some v => s!"Result:     {v.compact}\n"
      | none => "") ++
    (match r.error with
      | some f => s!"Error:      {f.display}\n"
      | none => "") ++
    (match r.pause with
      | some t =>
        s!"Waiting on: {t.details.compact}\n\n" ++
          s!"Resume with: flowrunner --resume {t.pauseId} --value <JSON>\n"
      | none => "") ++
    s!"{rule}\n"

end Screen

end Flowline.Cli
