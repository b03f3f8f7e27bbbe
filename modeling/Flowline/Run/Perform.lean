import Flowline.Run.World
import Flowline.Step.Builtin
set_option autoImplicit false

/-!
# What steps do when they run

`perform` runs a step's behaviour with its resolved parameters. A running
step sees a `StepContext` (where it runs and the output it was handed) and
works on a `StepScope`: the execution, whose state it may read and write
through its instance, and the log lines and values it publishes.

A step may sleep. With a time limit, a sleep longer than the limit ends the
step as timed out; whatever the step did before the sleep stays done.

The built-in behaviours:

* `echo` exits with `input`;
* `condition` compares `value` with `compareValue` and exits through `true`
  or `false` with `{result, value}`;
* `loopController` works out the next index from its previous output
  (`continue` with `{index}` gives `index + 1`, anything else `0`). Below
  `maxIterations` it continues when the mode has an item: `count` always,
  `forEach` while `items` has one at the index, `while` while the state at
  `condition` is truthy. Continuing writes `loop.index` and `loop.item` and
  exits with `{index, item}`; otherwise it exits with `{iterations}`;
* `stateSet` and `stateGet` write and read a state path (`missing` exits
  with null);
* `humanInput` suspends with its parameters as the request;
* `delay` sleeps `ms` milliseconds;
* `fail` fails with `message`.
-/

namespace Flowline

/-- Where a step runs. -/
structure StepContext where
  executionId : String
  instanceId : String
  nodePath : String
  stepId : String
  /-- The output the step was handed. -/
  previous : Option StepOutput

/-- What a running step works on. -/
structure StepScope where
  execution : Execution
  logs : List String := []
  emitted : List Value := []

/-- How a step that did not fail ended. -/
inductive StepOutcome where
  /-- Exits through an edge with a value. -/
  | exit (edge : String) (value : Value)
  /-- Asks for the execution to pause; once resumed the step exits through
  `resumeEdge` with the value given. -/
  | suspend (details : Value) (resumeEdge : String)
  deriving Inhabited

/-- How a step run ended. -/
inductive StepResult where
  | finished (r : Except StepError StepOutcome)
  | timedOut
  deriving Inhabited

/-- A step at work. -/
abbrev StepRun := StateT StepScope Run

namespace StepRun

/-- Writes a line to the step's log. -/
def log (ctx : StepContext) (message : String) : StepRun Unit := do
  Run.debug .stepContext s!"[{ctx.stepId}] {message}"
  modify fun s => { s with logs := s.logs ++ [message] }

/-- Publishes a value. -/
def emit (v : Value) : StepRun Unit := modify fun s => { s with emitted := s.emitted ++ [v] }

/-- The state value at a path, as the step's instance sees it. -/
def get? (ctx : StepContext) (path : String) : StepRun (Option Value) := do
  pure ((← getThe StepScope).execution.lookup ctx.instanceId path)

/-- Writes a state path in the step's instance. -/
def set (ctx : StepContext) (path : String) (v : Value) : StepRun Unit :=
  modify fun s => { s with execution := s.execution.setState ctx.instanceId path v }

/-- Writes a state path in the root instance. -/
def setShared (path : String) (v : Value) : StepRun Unit :=
  modify fun s => { s with execution := s.execution.setShared path v }

/-- Removes a state path from the step's instance. -/
def remove (ctx : StepContext) (path : String) : StepRun (Option Value) := do
  let (e, removed) := (← getThe StepScope).execution.removeState ctx.instanceId path
  modifyThe StepScope fun s => { s with execution := e }
  pure removed

/-- Everything the step's instance sees. -/
def snapshot (ctx : StepContext) : StepRun Value := do
  pure ((← getThe StepScope).execution.snapshot ctx.instanceId)

/-- Sleeps, unless the sleep outlasts the limit; says whether it did. -/
def sleepWithin (limit : Option Nat) (ms : Nat) : StepRun Bool :=
  match limit with
  | some l => if ms > l then pure false else do Run.sleep ms; pure true
  | none => do Run.sleep ms; pure true

end StepRun

/-- A parameter. -/
def param? (params : Fields) (name : String) : Option Value := Fields.find? params name

/-- A parameter that must be there. -/
def requireParam (params : Fields) (name : String) : Except StepError Value :=
  match param? params name with
  | some v => .ok v
  | none => .error (.invalidInput name "missing")

/-- Whether a state value counts as true for `while` loops. -/
def truthy : Value → Bool
  | .null => false
  | .bool b => b
  | .num n => n.toFloat != 0
  | .str s => !s.isEmpty
  | .arr items => !items.isEmpty
  | .obj _ => true

/-- The index a loop controller runs next, from its previous output only.
Indices are 64-bit, so the one after the largest is `0`. -/
def nextIndex (previous : Option StepOutput) : Nat :=
  match previous with
  | some o =>
    if o.edge == "continue" then
      match (o.value.field? "index").bind Value.nat? with
      | some i => (i + 1) % Nat.pow 2 64
      | none => 0
    else 0
  | none => 0

/-- One pass of a loop controller. -/
def controlLoop (ctx : StepContext) (params : Fields) : StepRun (Except StepError StepOutcome) := do
  let index := nextIndex ctx.previous
  let max := ((param? params "maxIterations").bind Value.nat?).getD defaultMaxIterations
  let item : Except StepError (Option Value) ← if index ≥ max then pure (.ok none) else
    match ((param? params "mode").bind Value.str?).getD "count" with
    | "count" => pure (.ok (some (.ofNat index)))
    | "forEach" =>
      match (param? params "items").bind Value.arr? with
      | some items => pure (.ok items[index]?)
      | none => pure (.error (.invalidInput "items" "forEach mode needs an array"))
    | "while" =>
      match (param? params "condition").bind Value.str? with
      | some path => do
        let keepGoing := ((← StepRun.get? ctx path).map truthy).getD false
        pure (.ok (if keepGoing then some (.ofNat index) else none))
      | none => pure (.error (.invalidInput "condition" "while mode needs a state path"))
    | mode => pure (.error (.invalidInput "mode" s!"unknown mode '{mode}'"))
  match item with
  | .error e => pure (.error e)
  | .ok (some it) =>
    StepRun.set ctx "loop.index" (.ofNat index)
    StepRun.set ctx "loop.item" it
    pure (.ok (.exit "continue" (Value.object [("index", .ofNat index), ("item", it)])))
  | .ok none =>
    StepRun.log ctx s!"loop finished after {index} iterations"
    pure (.ok (.exit "exit" (Value.object [("iterations", .ofNat index)])))

/-- The value a script exits with. -/
def scriptResult (ctx : StepContext) (params : Fields) : ScriptResult → StepRun Value
  | .params => pure (.obj params)
  | .numberOf name => pure <| Value.object [
      ("f64", match (param? params name).bind Value.float? with
        | some f => .ofFloat f
        | none => .null),
      ("keys", Value.strs (Fields.keys params))]
  | .read path => do pure ((← StepRun.get? ctx path).getD .null)
  | .removed path => do pure ((← StepRun.remove ctx path).getD .null)
  | .previous => pure ((ctx.previous.map StepOutput.toValue).getD .null)
  | .snapshot => StepRun.snapshot ctx
  | .context contains => do
    let seen ← match contains with
      | some path => do pure (Value.bool (← StepRun.get? ctx path).isSome)
      | none => pure .null
    pure <| Value.object [("executionId", .str ctx.executionId), ("instanceId", .str ctx.instanceId),
      ("nodePath", .str ctx.nodePath), ("stepId", .str ctx.stepId), ("contains", seen)]
  | .value v => pure v

/-- Runs a script. -/
def runScript (ctx : StepContext) (limit : Option Nat) (params : Fields) (s : Script) :
    StepRun StepResult := do
  for line in s.logs do StepRun.log ctx line
  for v in s.emits do StepRun.emit v
  for w in s.writes do
    if w.shared then StepRun.setShared w.path w.value else StepRun.set ctx w.path w.value
  if s.cancel then Run.cancel
  if !(← StepRun.sleepWithin limit s.sleepMs) then return .timedOut
  match s.ending with
  | .fail m => pure (.finished (.error (.failed m)))
  | .invalid name m => pure (.finished (.error (.invalidInput name m)))
  | .suspend details edge => pure (.finished (.ok (.suspend details (edge.getD defaultEdge))))
  | .exit edge result => do
    let v ← scriptResult ctx params result
    pure (.finished (.ok (.exit edge v)))

/-- Runs a behaviour with resolved parameters, within an optional time
limit in milliseconds. -/
def perform (ctx : StepContext) (limit : Option Nat) (params : Fields) :
    Behaviour → StepRun StepResult
  | .echo => pure (.finished ((requireParam params "input").map (.exit defaultEdge)))
  | .condition =>
    let value := (param? params "value").getD .null
    let other := (param? params "compareValue").getD .null
    let operator := ((param? params "operator").bind Value.str?).getD "=="
    pure <| .finished <| (compareValues value operator other).map fun result =>
      .exit (if result then "true" else "false")
        (Value.object [("result", .bool result), ("value", value)])
  | .loopController => do pure (.finished (← controlLoop ctx params))
  | .stateSet =>
    match requireParam params "path", requireParam params "value" with
    | .error e, _ => pure (.finished (.error e))
    | .ok _, .error e => pure (.finished (.error e))
    | .ok path, .ok value => do
      let path := (path.str?).getD ""
      if ((param? params "shared").bind Value.bool?).getD false then StepRun.setShared path value
      else StepRun.set ctx path value
      pure (.finished (.ok (.exit defaultEdge value)))
  | .stateGet =>
    match requireParam params "path" with
    | .error e => pure (.finished (.error e))
    | .ok path => do
      match ← StepRun.get? ctx ((path.str?).getD "") with
      | some v => pure (.finished (.ok (.exit defaultEdge v)))
      | none => pure (.finished (.ok (.exit "missing" .null)))
  | .humanInput => do
    StepRun.log ctx "waiting for human input"
    pure (.finished (.ok (.suspend (.obj params) defaultEdge)))
  | .delay => do
    let ms := ((param? params "ms").bind Value.nat?).getD 0
    if !(← StepRun.sleepWithin limit ms) then return .timedOut
    StepRun.log ctx s!"slept {ms} ms"
    pure (.finished (.ok (.exit defaultEdge (Value.object [("sleptMs", .ofNat ms)]))))
  | .fail =>
    pure (.finished (.error (.failed (((param? params "message").bind Value.str?).getD "step failed"))))
  | .script s => runScript ctx limit params s

end Flowline
