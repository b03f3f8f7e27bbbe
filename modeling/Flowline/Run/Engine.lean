import Flowline.Run.Perform
import Flowline.Flow.Validation
set_option autoImplicit false

/-!
# The engine

The engine walks a flow definition and runs it:

* a block runs its nodes in order in one instance, handing each node the
  output of the last node that produced one;
* a step node resolves its step, resolves its parameters, runs the step and
  records the run;
* a sub-flow runs in a child instance `<parent>-<index>-sequence`;
* a branch picks the arm named by the edge the previous node exited through
  and runs it in a child instance `<parent>-<index>-branch-<edge>`;
* a loop runs in an instance `<parent>-<index>-loop`: its controller runs
  there, and each `continue` runs the actions in an instance
  `<loop>-iter-<n>` until the controller exits through `exit`;
* a failure ends the block unless the next node is a branch with an `error`
  arm, which then receives the failure as its input.

When a step suspends, every block and loop on the way up adds a frame, the
execution is saved in the pause store under a new ticket, and the report
says where to resume. `resume` claims the ticket, follows the cursor back
down to the suspended step, completes it with the value given and carries
on from there.

The walk is the same whatever runs its step nodes: it takes a `StepRunner`,
and the engine hands it `Engine.runStep`, which runs steps through the
registry. Every call of the walk runs smaller nodes, or the same nodes
further along, so a walk always ends (`WalkOrder`); a loop's rounds are
bounded by the iteration limit.
-/

namespace Flowline

/-- A step suspension on its way up to the top of the walk. -/
structure PendingPause where
  pauseId : String
  instanceId : String
  details : Value
  resumeEdge : String
  deriving Inhabited

/-- How a block, child instance or loop stopped. -/
inductive Outcome where
  /-- It ran out of nodes; the last output, if any node produced one. -/
  | done (output : Option StepOutput)
  /-- A step suspended; the frames are collected innermost first. -/
  | suspended (frames : List Frame) (pause : PendingPause)
  | failed (failure : Failure)
  | cancelled
  deriving Inhabited

/-- The status, result and failure an outcome leaves its instance `id`
with; a suspension leaves it open. -/
def Outcome.final (id : String) : Outcome → Option (InstanceStatus × Option Value × Option Failure)
  | .done output => some (.completed, output.map (·.value), none)
  | .failed f => some (.failed, none, some f)
  | .cancelled => some (.cancelled, none, some (FlowError.cancelled.toFailure none (some id)))
  | .suspended .. => none

/-- The part of a cursor still to follow, and the value for the suspended
step. -/
structure Resume where
  frames : List Frame
  value : StepOutput
  deriving Inhabited

/-- The steps to run, the limits, and where events and summaries go. -/
structure Engine where
  registry : Registry
  config : EngineConfig := .standard
  /-- Whether events are also written to the log. -/
  logEvents : Bool := false
  /-- The directory run summaries are written to, if any. -/
  summaries : Option String := none

/-- A walk over an execution. -/
abbrev Drive := StateT Execution Run

/-- The path of the node at `index` below `base`. -/
def Engine.nodePath (base : String) (index : Nat) : String :=
  if base.isEmpty then toString index else s!"{base}.{index}"

/-- The nodes a branch arm runs: a sub-flow's nodes, or the node itself. -/
def armNodes : FlowNode → List FlowNode
  | .sequence nodes => nodes
  | other => [other]

/-- Whether a node is a branch that takes failures. -/
def absorbsErrors : Option FlowNode → Bool
  | some (.branch arms) => arms.any (·.1 == "error")
  | _ => false

/-- How a walk runs a step node: in instance `id`, the node at `path`,
handed the output `previous`. The engine runs its steps through the registry
(`Engine.runStep`); the walk itself is the same for any step runner. -/
abbrev StepRunner := String → FlowNode → String → Option StepOutput → Drive Outcome

/-- The rest of the cursor for a loop's controller block, if the resume
re-enters there. -/
def controllerResume? : Option (LoopPhase × Resume) → Option Resume
  | some (.controller, r) => some r
  | _ => none

/-- The rest of the cursor for the running iteration of a loop, if the resume
re-enters there. -/
def actionsResume? : Option (LoopPhase × Resume) → Option Resume
  | some (.actions, r) => some r
  | _ => none

/-- What bounds the rounds of a loop from `iteration` on: each round either
stops the loop or moves to the next iteration. A fresh round runs below the
limit; a round re-entered in its actions may run at any count, and the rounds
after it count on from the count after it. -/
def loopWeight (limit iteration : Nat) (pending : Option (LoopPhase × Resume)) : Nat :=
  if (actionsResume? pending).isSome then limit - succ64 iteration + 1 else limit - iteration

namespace Engine

/-- Publishes an event about an instance, if the instance exists. -/
def emitFor (eng : Engine) (e : Execution) (id : String) (kind : EventKind) (payload : Value)
    (error : Option Failure) : Run Unit :=
  match e.get? id with
  | none => pure ()
  | some i => do
    let sequence := (← get).nextSequence
    let t ← Run.now
    let event := FlowEvent.about sequence kind e.rootId i payload error t
    modify fun w => { w with nextSequence := sequence + 1, events := w.events.push event }
    if eng.logEvents then
      let r := event.logRecord
      Run.log r.level r.component r.message

/-- Publishes an event about an instance of the walked execution. -/
def emit (eng : Engine) (id : String) (kind : EventKind) (payload : Value)
    (error : Option Failure) : Drive Unit := do
  emitFor eng (← get) id kind payload error

/-- Adds a step record to an instance and publishes it. -/
def pushRecord (eng : Engine) (id : String) (record : StepRecord) : Drive Unit := do
  let e ← get
  let record := { record with sequence := e.stepCount }
  match e.require id fun i => { i with steps := i.steps ++ [record] } with
  | .ok e =>
    set e
    emitFor eng e id .flowStep record.summary record.error
  | .error err => throw err

/-- Records a failed step and gives the failure. -/
def failStep (eng : Engine) (id : String) (attempt : StepRecord) (err : FlowError) :
    Drive Outcome := do
  let failure := err.toFailure (some attempt.path) (some id)
  Run.error .engine s!"Step '{attempt.stepId}' at {attempt.path} failed: {failure.message}"
  let t ← Run.now
  pushRecord eng id { attempt with status := .failed, error := some failure, finishedAt := some t }
  pure (.failed failure)

/-- Completes the record a suspended step left behind. -/
def completePausedStep (eng : Engine) (id : String) (output : StepOutput) : Drive Unit := do
  let e ← get
  match e.get? id with
  | none => throw (.corruptCursor s!"unknown instance '{id}'")
  | some i =>
    match i.steps.reverse.find? (·.status == .paused) with
    | none => throw (.corruptCursor s!"no paused step in instance '{id}'")
    | some r =>
      let t ← Run.now
      let r := { r with status := .completed, output := some output, finishedAt := some t }
      let e := e.modify id fun i =>
        { i with steps := modifyLast (·.status == .paused) (fun _ => r) i.steps }
      set e
      Run.debug .engine s!"Step at {(Value.str r.path).compact} resumed through '{output.edge}'"
      emitFor eng e id .flowStep r.summary none

/-- The failure of opening an instance too deep below `parentId`, if it is. -/
def depthExceeded (eng : Engine) (e : Execution) (parentId path : String) : Option Failure :=
  let depth := ((e.get? parentId).map (·.depth)).getD 0 + 1
  if depth > eng.config.maxDepth then
    some ((FlowError.invalidStructure
      s!"nesting depth {depth} exceeds the limit of {eng.config.maxDepth}").toFailure
      (some path) (some parentId))
  else none

/-- Opens a child instance and announces it. -/
def openInstance (eng : Engine) (parentId id : String) (branchType : BranchType)
    (iteration : Option Nat) : Drive Unit := do
  let t ← Run.now
  match (← get).spawn parentId id branchType iteration t with
  | .ok _ e =>
    set e
    Run.debug .engine s!"Opened instance {id} under {parentId}"
    emitFor eng e id .flowStart .null none
  | .error err _ => throw err

/-- Writes the final status of an instance; a suspension leaves it open. -/
def finishInstance (eng : Engine) (id : String) (outcome : Outcome) : Drive Unit := do
  match outcome.final id with
  | none => pure ()
  | some (status, result, error) =>
    let t ← Run.now
    let e := (← get).modify id fun i =>
      { i with status := status, result := result, error := error, finishedAt := some t }
    set e
    emitFor eng e id .flowEnd
      (Value.object [("status", .str status.name), ("result", result.getD .null)]) error

/-- The flow error a step error becomes. -/
def stepFailure (step : String) : StepError → FlowError
  | .invalidInput name message => .invalidParams step s!"input '{name}': {message}"
  | .failed message => .stepFailed step message

/-- Acts on how a run of `step` at `path` in instance `id` ended: records
the attempt as failed, completed through a declared edge, or paused under a
new ticket, and gives the node's outcome. -/
def settle (eng : Engine) (id path : String) (step : StepDefinition) (limit : Option Nat)
    (attempt : StepRecord) : StepResult → Drive Outcome
  | .timedOut => do
    let l := limit.getD 0
    Run.warn .stepCall s!"Step '{step.id}' timed out after {Text.durationText l}"
    failStep eng id attempt (.executionTimeout step.id l)
  | .finished (.error se) => do
    Run.debug .stepCall s!"Step '{step.id}' returned an error: {se.message}"
    failStep eng id attempt (stepFailure step.id se)
  | .finished (.ok (.exit edge value)) =>
    if !step.declares edge then failStep eng id attempt (.undeclaredEdge step.id edge)
    else do
      let output := StepOutput.make edge value
      let t ← Run.now
      pushRecord eng id
        { attempt with status := .completed, output := some output, finishedAt := some t }
      pure (.done (some output))
  | .finished (.ok (.suspend details resumeEdge)) =>
    if !step.declares resumeEdge then failStep eng id attempt (.undeclaredEdge step.id resumeEdge)
    else do
      let pauseId ← Run.freshUuid
      Run.info .engine s!"Step '{step.id}' at {path} suspended (ticket {pauseId})"
      pushRecord eng id { attempt with status := .paused }
      pure (.suspended [] ⟨pauseId, id, details, resumeEdge⟩)

/-- Runs one step node, acting on the step's result as `adjust` turns it.
The engine takes every result as it is (`runStep`); a walk in which chosen
step runs end otherwise takes the others. -/
def runStepWith (eng : Engine) (adjust : StepResult → StepResult) (id : String) (node : FlowNode)
    (path : String) (previous : Option StepOutput) : Drive Outcome := do
  let reference := node.stepId?.getD ""
  let startedAt ← Run.now
  let attempt : StepRecord :=
    { node := node, path := path, stepId := reference, status := .failed, startedAt := startedAt }
  match eng.registry.resolve reference with
  | .error err => failStep eng id attempt err
  | .ok step =>
    let attempt := { attempt with stepId := step.id }
    match step.resolve (node.params?.getD .null) with
    | .error err => failStep eng id attempt err
    | .ok params =>
      Run.debug .engine s!"Running step '{step.id}' at {path} in {id}"
      let limit := match step.timeoutMs with
        | some t => some t
        | none => eng.config.defaultStepTimeoutMs
      let e ← get
      let ctx : StepContext := ⟨e.rootId, id, path, step.id, previous⟩
      let (result, scope) ← (perform ctx limit params step.behaviour).run { execution := e }
      set scope.execution
      settle eng id path step limit { attempt with logs := scope.logs, emitted := scope.emitted }
        (adjust result)

/-- Runs one step node. -/
def runStep (eng : Engine) : StepRunner := eng.runStepWith id

/-! ## Why the walk ends

Each walk function is measured by the size of the nodes it runs, then by its
place in the call order (a child's block before the child, a loop's rounds
before the loop, a block before the node it sits in), then by what is left of
a block or a loop. Every call either runs strictly smaller nodes or keeps them
and moves down that order. -/

/-- The lexicographic order the walk's measures decrease in. -/
abbrev WalkOrder : (Nat × Nat × Nat) → (Nat × Nat × Nat) → Prop :=
  Prod.Lex (· < ·) (Prod.Lex (· < ·) (· < ·))

theorem walkOrder_of_lt {a b r s x y : Nat} (h : a < b) : WalkOrder (a, r, x) (b, s, y) :=
  Prod.Lex.left _ _ h

theorem walkOrder_of_rank {a b r s x y : Nat} (h : a = b) (hr : r < s) :
    WalkOrder (a, r, x) (b, s, y) := by
  subst h
  exact Prod.Lex.right _ (Prod.Lex.left _ _ hr)

theorem walkOrder_of_rest {a r x y : Nat} (hx : x < y) : WalkOrder (a, r, x) (a, r, y) :=
  Prod.Lex.right _ (Prod.Lex.right _ hx)

/-- A node of a block is smaller than the block. -/
theorem sizeOf_lt_of_getElem? {nodes : List FlowNode} {index : Nat} {node : FlowNode}
    (h : nodes[index]? = some node) : sizeOf node < sizeOf nodes :=
  List.sizeOf_lt_of_mem (List.mem_of_getElem? h)

/-- Past a node of a block, less of the block is left. -/
theorem length_sub_succ_lt {nodes : List FlowNode} {index : Nat} {node : FlowNode}
    (h : nodes[index]? = some node) : nodes.length - (index + 1) < nodes.length - index := by
  have := (List.getElem?_eq_some_iff.1 h).1
  omega

/-- The nodes an arm runs are smaller than the branch. -/
theorem sizeOf_armNodes_lt {arms : List (String × FlowNode)} {edge : String} {target : FlowNode}
    (h : (edge, target) ∈ arms) : sizeOf (armNodes target) < sizeOf (FlowNode.branch arms) := by
  have hmem := List.sizeOf_lt_of_mem h
  cases target <;> simp_all [armNodes] <;> omega

/-- The controller's block is smaller than the loop. -/
theorem sizeOf_controller_lt (controller : FlowNode) (actions : List FlowNode) :
    sizeOf [controller] < sizeOf (controller :: actions) + 1 := by
  cases actions with
  | nil => simp
  | cons a rest => simp; omega

/-- A round that moves to the next iteration leaves fewer rounds. -/
theorem loopWeight_next {limit iteration : Nat} {pending : Option (LoopPhase × Resume)}
    (hlimit : limit < Nat.pow 2 64)
    (h : ¬((actionsResume? pending).isNone && decide (iteration ≥ limit)) = true) :
    loopWeight limit (succ64 iteration) none < loopWeight limit iteration pending := by
  unfold loopWeight
  cases hp : actionsResume? pending with
  | none =>
    -- A fresh round runs below the limit, so its count does not wrap.
    have hlt : iteration < limit := by simpa [hp] using h
    have hsucc : succ64 iteration = iteration + 1 := succ64_of_lt (by omega)
    simp only [actionsResume?, Option.isSome_none, Bool.false_eq_true, if_false, hsucc]
    omega
  | some r =>
    simp [actionsResume?]

mutual

/-- Runs a block of nodes in instance `id`, entering with `entry`, or
re-entering along `resume`. -/
def runBlock (eng : Engine) (step : StepRunner) (id : String) (nodes : List FlowNode)
    (base : String) (entry : Option StepOutput) (resume : Option Resume) : Drive Outcome :=
  match resume with
  | none => blockFrom eng step id nodes base 0 entry none
  | some r =>
    match r.frames with
    | [] => throw (.corruptCursor "cursor ended early")
    | .block frameId index before :: rest =>
      if frameId == id then
        if rest.isEmpty then do
          completePausedStep eng id r.value
          blockFrom eng step id nodes base (succ64 index) (some r.value) none
        else blockFrom eng step id nodes base index before (some ⟨rest, r.value⟩)
      else throw (.corruptCursor
        s!"expected a block frame for '{id}', found {(Frame.block frameId index before).debugText}")
    | other :: _ =>
      throw (.corruptCursor s!"expected a block frame for '{id}', found {other.debugText}")
termination_by (sizeOf nodes, 2, 0)
decreasing_by
  all_goals exact walkOrder_of_rank rfl (by decide)

/-- Runs the nodes of a block from `index` on. -/
def blockFrom (eng : Engine) (step : StepRunner) (id : String) (nodes : List FlowNode)
    (base : String) (index : Nat) (previous : Option StepOutput) (nested : Option Resume) :
    Drive Outcome :=
  match h : nodes[index]? with
  | none => pure (.done previous)
  | some node => do
    let path := nodePath base index
    if nested.isNone && (← Run.isCancelled) then
      Run.info .engine s!"Instance {id} cancelled before node {path}"
      return .cancelled
    match ← runNode eng step id node index path previous nested with
    | .done output =>
      let previous := match output with
        | some o => some o
        | none => previous
      blockFrom eng step id nodes base (index + 1) previous none
    | .suspended frames pause => pure (.suspended (frames ++ [.block id index previous]) pause)
    | .failed failure =>
      if absorbsErrors nodes[index + 1]? then
        Run.warn .engine s!"Failure at {path} handed to its error branch: {failure.display}"
        blockFrom eng step id nodes base (index + 1) (some (StepOutput.ofFailure failure)) none
      else pure (.failed failure)
    | .cancelled => pure .cancelled
termination_by (sizeOf nodes, 1, nodes.length - index)
decreasing_by
  · exact walkOrder_of_lt (sizeOf_lt_of_getElem? h)
  · exact walkOrder_of_rest (length_sub_succ_lt h)
  · exact walkOrder_of_rest (length_sub_succ_lt h)

/-- Runs one node of a block. -/
def runNode (eng : Engine) (step : StepRunner) (id : String) (node : FlowNode) (index : Nat)
    (path : String) (previous : Option StepOutput) (resuming : Option Resume) : Drive Outcome :=
  match node with
  | .step _ | .call .. =>
    if resuming.isSome then throw (.corruptCursor s!"step at {path} cannot hold nested frames")
    else step id node path previous
  | .sequence children =>
    runChild eng step id s!"{id}-{index}-sequence" .sequence none children path previous resuming
  | .loop parts => runLoop eng step id index path parts resuming
  | .branch arms =>
    let edge := (previous.map StepOutput.edge).getD ""
    match _hfound : arms.find? (·.1 == edge) with
    | some (_, target) =>
      runChild eng step id s!"{id}-{index}-branch-{edge}" (.edge edge) none (armNodes target)
        s!"{path}.{edge}" previous resuming
    | none => do
      Run.error .engine s!"No branch at {path} handles edge '{edge}'"
      pure (.failed ((FlowError.unhandledEdge edge).toFailure (some path) (some id)))
termination_by (sizeOf node, 5, 0)
decreasing_by
  · exact walkOrder_of_lt (by simp)
  · exact walkOrder_of_rank (by simp; omega) (by decide)
  · exact walkOrder_of_lt (sizeOf_armNodes_lt (List.mem_of_find?_eq_some _hfound))

/-- Runs a block in a child instance: a new one named after `candidate`, or
the one the cursor names when resuming. -/
def runChild (eng : Engine) (step : StepRunner) (parentId candidate : String)
    (branchType : BranchType) (iteration : Option Nat) (nodes : List FlowNode) (base : String)
    (entry : Option StepOutput) (resume : Option Resume) : Drive Outcome :=
  match resume with
  | some r =>
    match r.frames with
    | [] => throw (.corruptCursor "cursor ended early")
    | frame :: _ => do
      let outcome ← runBlock eng step frame.instanceId nodes base entry resume
      finishInstance eng frame.instanceId outcome
      pure outcome
  | none => do
    match depthExceeded eng (← get) parentId base with
    | some failure => pure (.failed failure)
    | none =>
      let id := (← get).freshId candidate
      openInstance eng parentId id branchType iteration
      let outcome ← runBlock eng step id nodes base entry none
      finishInstance eng id outcome
      pure outcome
termination_by (sizeOf nodes, 3, 0)
decreasing_by
  all_goals exact walkOrder_of_rank rfl (by decide)

/-- Runs a loop node at `index` of its parent's block. -/
def runLoop (eng : Engine) (step : StepRunner) (parentId : String) (index : Nat) (path : String)
    (parts : List FlowNode) (resume : Option Resume) : Drive Outcome :=
  match parts with
  | [] => pure (.failed ((FlowError.invalidStructure "loop has no controller").toFailure
      (some path) (some parentId)))
  | controller :: actions =>
    let controllerBase := s!"{path}.controller"
    let actionsBase := s!"{path}.actions"
    match resume with
    | some r =>
      match r.frames with
      | [] => throw (.corruptCursor "cursor ended early")
      | .loop loopId iteration output phase :: rest => do
        let outcome ← loopRound eng step loopId controller actions controllerBase actionsBase path
          iteration output (some (phase, ⟨rest, r.value⟩))
        finishInstance eng loopId outcome
        pure outcome
      | other :: _ =>
        throw (.corruptCursor s!"expected a loop frame at {path}, found {other.debugText}")
    | none => do
      match depthExceeded eng (← get) parentId path with
      | some failure => pure (.failed failure)
      | none =>
        let loopId := (← get).freshId s!"{parentId}-{index}-loop"
        openInstance eng parentId loopId .loop none
        let outcome ← loopRound eng step loopId controller actions controllerBase actionsBase path
          0 none none
        finishInstance eng loopId outcome
        pure outcome
termination_by (sizeOf parts + 1, 4, 0)
decreasing_by
  all_goals exact walkOrder_of_rank rfl (by decide)

/-- Runs loop rounds from `iteration` on: the controller decides, and
`loopFollow` acts on the decision. `pending` says where a resume re-enters. -/
def loopRound (eng : Engine) (step : StepRunner) (loopId : String) (controller : FlowNode)
    (actions : List FlowNode) (controllerBase actionsBase path : String) (iteration : Nat)
    (controllerOutput : Option StepOutput) (pending : Option (LoopPhase × Resume)) :
    Drive Outcome := do
  let decided : Sum Outcome (Option StepOutput) ←
    if (actionsResume? pending).isSome then pure (.inr controllerOutput)
    else if (controllerResume? pending).isNone && (← Run.isCancelled) then do
      Run.info .engine s!"Loop {loopId} cancelled before iteration {iteration}"
      pure (.inl .cancelled)
    else do
      match ← runBlock eng step loopId [controller] controllerBase controllerOutput
          (controllerResume? pending) with
      | .done output => pure (.inr output)
      | .suspended frames pause =>
        pure (.inl (.suspended (frames ++ [.loop loopId iteration controllerOutput .controller]) pause))
      | other => pure (.inl other)
  loopFollow eng step loopId controller actions controllerBase actionsBase path iteration pending
    decided
termination_by (sizeOf (controller :: actions) + 1, 3,
  2 * loopWeight eng.config.maxIterations iteration pending + 1)
decreasing_by
  · exact walkOrder_of_rest (by omega)
  · exact walkOrder_of_lt (sizeOf_controller_lt controller actions)

/-- Acts on what a loop's controller decided: an outcome ends the loop, an
output through `continue` runs the actions and the next round, one through
`exit` ends the loop with it. -/
def loopFollow (eng : Engine) (step : StepRunner) (loopId : String) (controller : FlowNode)
    (actions : List FlowNode) (controllerBase actionsBase path : String) (iteration : Nat)
    (pending : Option (LoopPhase × Resume)) (decided : Sum Outcome (Option StepOutput)) :
    Drive Outcome :=
  match decided with
  | .inl outcome => pure outcome
  | .inr controllerOutput =>
    let edge := (controllerOutput.map StepOutput.edge).getD ""
    if edge == "continue" then
      if h : (actionsResume? pending).isNone && iteration ≥ eng.config.maxIterations then
        pure (.failed ((FlowError.iterationLimitExceeded eng.config.maxIterations).toFailure
          (some path) (some loopId)))
      else do
        let body : Option Outcome ←
          if actions.isEmpty then pure none
          else do
            Run.debug .engine s!"Loop {loopId} iteration {iteration}"
            match ← runChild eng step loopId s!"{loopId}-iter-{iteration}" .loopActions
                (some iteration) actions actionsBase controllerOutput (actionsResume? pending) with
            | .done _ => pure none
            | .suspended frames pause =>
              pure (some (.suspended (frames ++ [.loop loopId iteration controllerOutput .actions]) pause))
            | other => pure (some other)
        match body with
        | some outcome => pure outcome
        | none =>
          loopRound eng step loopId controller actions controllerBase actionsBase path
            (succ64 iteration) controllerOutput none
    else if edge == "exit" then pure (.done controllerOutput)
    else do
      Run.error .engine s!"Loop controller at {controllerBase} returned edge '{edge}'"
      pure (.failed ((FlowError.unhandledEdge edge).toFailure (some controllerBase) (some loopId)))
termination_by (sizeOf (controller :: actions) + 1, 3,
  2 * loopWeight eng.config.maxIterations iteration pending)
decreasing_by
  · exact walkOrder_of_rest (by have := loopWeight_next eng.config.maxIterations_lt h; omega)
  · exact walkOrder_of_lt (by simp only [List.cons.sizeOf_spec]; omega)

end

/-- Writes a run summary, when the engine keeps them; a failure to write is
only a warning. -/
def record (eng : Engine) (report : ExecutionReport) : Run Unit :=
  match eng.summaries with
  | none => pure ()
  | some dir => do
    let write : Run Unit := do
      Run.onDisk fun d => d.createDirAll dir
      let path := joinPath dir s!"{report.executionId}.json"
      Run.onDisk fun d => d.write path report.toValue.pretty
      Run.info .summaries s!"Run summary saved to {path}"
    try write catch e => Run.warn .engine s!"Could not record summary of {report.executionId}: {e.message}"

/-- Saves a suspended execution under its ticket and reports it paused. -/
def suspend (eng : Engine) (definition : FlowDefinition) (e : Execution) (cursor : Cursor)
    (pause : PendingPause) : Run ExecutionReport := do
  let waiting := cursor.instanceIds
  let e := waiting.foldl (fun e id => e.modify id fun i => { i with status := .paused }) e
  let t ← Run.now
  let ticket : PauseTicket := ⟨pause.pauseId, e.rootId, pause.instanceId, pause.details, t⟩
  let paused : PausedExecution := ⟨ticket, pause.resumeEdge, definition, e, cursor⟩
  Run.storeTicket paused
  modify fun w => { w with saved := w.saved.push paused }
  let payload := Value.object [("pauseId", .str ticket.pauseId),
    ("flowInstanceId", .str ticket.instanceId), ("details", ticket.details)]
  for id in waiting do
    emitFor eng e id .flowPaused payload none
  Run.info .engine s!"Flow '{definition.name}' paused; resume execution {ticket.executionId} with ticket {ticket.pauseId}"
  let report := ExecutionReport.ofExecution definition.name e (some ticket)
  record eng report
  pure report

/-- Walks a definition from the start or along a cursor, running its steps
with `step`, and reports. -/
def drive (eng : Engine) (step : StepRunner) (definition : FlowDefinition) (e : Execution)
    (resume : Option Resume) : Run ExecutionReport := do
  let rootId := e.rootId
  let (outcome, e) ← (runBlock eng step rootId definition.nodes "" none resume).run e
  match outcome with
  | .suspended frames pause => suspend eng definition e (Cursor.ofUnwound frames) pause
  | _ =>
    let ((), e) ← (finishInstance eng rootId outcome).run e
    let report := ExecutionReport.ofExecution definition.name e none
    match report.status, report.error with
    | .completed, _ => Run.info .engine s!"Flow '{definition.name}' completed ({report.completedSteps} steps)"
    | .cancelled, _ => Run.warn .engine s!"Flow '{definition.name}' was cancelled"
    | _, some f => Run.error .engine s!"Flow '{definition.name}' failed: {f.display}"
    | status, none => Run.warn .engine s!"Flow '{definition.name}' stopped as {status.name}"
    record eng report
    pure report

/-- Validates a definition and opens its execution. Nothing opens unless the
definition is valid; `initialState` is laid over the definition's own
initial state. -/
def start (eng : Engine) (definition : FlowDefinition) (initialState : Value) : Run Execution := do
  let report ← Run.logged (validateFlow definition eng.registry eng.config)
  match report.intoResult with
  | .error err =>
    Run.error .engine s!"Flow '{definition.name}' is invalid, not starting it"
    throw err
  | .ok _ => pure ()
  let seed := definition.initialState.getD Value.empty
  let seed := if initialState.isNull then seed else deepMerge seed initialState
  let id ← Run.freshUuid
  let t ← Run.now
  let e := Execution.create id seed t
  Run.info .engine s!"Starting flow '{definition.name}' ({definition.nodeCount} nodes) as {id}"
  emitFor eng e id .flowStart (Value.object [("name", .str definition.name)]) none
  pure e

/-- Runs a flow until it completes, fails, is cancelled or first suspends. -/
def run (eng : Engine) (definition : FlowDefinition) (initialState : Value) : Run ExecutionReport := do
  let e ← eng.start definition initialState
  drive eng eng.runStep definition e none

/-- Resumes a paused execution: the suspended step exits with `value`. -/
def resume (eng : Engine) (pauseId : String) (value : Value) : Run ExecutionReport := do
  let paused ← Run.claimTicket pauseId
  Run.info .engine s!"Resuming execution {paused.ticket.executionId} with ticket {paused.ticket.pauseId}"
  let payload := Value.object [("pauseId", .str paused.ticket.pauseId)]
  let mut e := paused.execution
  for id in paused.cursor.instanceIds do
    e := e.modify id fun i => { i with status := .running }
    emitFor eng e id .flowResumed payload none
  drive eng eng.runStep paused.definition e
    (some ⟨paused.cursor.frames, StepOutput.make paused.resumeEdge value⟩)

end Engine

end Flowline
