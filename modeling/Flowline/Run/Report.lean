import Flowline.Run.Instance
set_option autoImplicit false

/-!
# Execution reports and pause tickets

A run or resume ends with an `ExecutionReport`: the root instance's status,
result and failure, the pause ticket when the execution is waiting, and
every instance with its step records.

A `PauseTicket` is what a suspended execution hands out: the identifier to
resume it with, the instance that suspended and what it asked for.
-/

namespace Flowline

/-- The handle of a suspended execution. -/
structure PauseTicket where
  pauseId : String
  executionId : String
  /-- The instance whose step suspended. -/
  instanceId : String
  /-- What the suspended step asks for. -/
  details : Value
  createdAt : Timestamp
  deriving Inhabited

/-- The stored form of a ticket. -/
def PauseTicket.toValue (t : PauseTicket) : Value :=
  Value.object [("pauseId", .str t.pauseId), ("executionId", .str t.executionId),
    ("flowInstanceId", .str t.instanceId), ("details", t.details),
    ("createdAt", .str t.createdAt.rfc3339)]

/-- How an execution stopped. -/
structure ExecutionReport where
  executionId : String
  flowName : String
  status : InstanceStatus
  result : Option Value := none
  error : Option Failure := none
  pause : Option PauseTicket := none
  instances : List FlowInstance
  deriving Inhabited

namespace ExecutionReport

/-- The report of an execution, read off its root instance. Without a root
the execution counts as failed. -/
def ofExecution (flowName : String) (e : Execution) (pause : Option PauseTicket) :
    ExecutionReport :=
  let (status, result, error) := match e.root? with
    | some root => (root.status, root.result, root.error)
    | none => (.failed, none, none)
  ⟨e.rootId, flowName, status, result, error, pause, e.instances⟩

/-- Whether the execution completed. -/
def isCompleted (r : ExecutionReport) : Bool := r.status == .completed

/-- Whether the execution waits for a resume. -/
def isPaused (r : ExecutionReport) : Bool := r.status == .paused

/-- The ticket identifier of a waiting execution. -/
def pauseId? (r : ExecutionReport) : Option String := r.pause.map (·.pauseId)

/-- The first instance with an identifier. -/
def instance? (r : ExecutionReport) (id : String) : Option FlowInstance :=
  r.instances.find? (·.id == id)

/-- The root instance. -/
def root? (r : ExecutionReport) : Option FlowInstance := r.instance? r.executionId

/-- Every step record in run order. -/
def steps (r : ExecutionReport) : List StepRecord :=
  (r.instances.flatMap (·.steps)).mergeSort fun a b => a.sequence ≤ b.sequence

/-- The records of one step. -/
def stepsFor (r : ExecutionReport) (stepId : String) : List StepRecord :=
  r.steps.filter (·.stepId == stepId)

/-- The number of completed step records. -/
def completedSteps (r : ExecutionReport) : Nat :=
  (r.steps.filter (·.status == .completed)).length

/-- The stored form; absent options are left out. -/
def toValue (r : ExecutionReport) : Value :=
  Value.object <|
    [("executionId", .str r.executionId), ("flowName", .str r.flowName),
      ("status", .str r.status.name), ("instances", .arr (r.instances.map FlowInstance.toValue))] ++
    optionalMember "result" (fun v => v) r.result ++
    optionalMember "error" Failure.toValue r.error ++
    optionalMember "pause" PauseTicket.toValue r.pause

end ExecutionReport

end Flowline
