import Flowline.Run.Instance
import Flowline.Log
set_option autoImplicit false

/-!
# Lifecycle events

An execution publishes an event whenever an instance starts, records a step,
pauses, resumes or ends. Each event carries the instance's place in the
tree (parent, depth, branch type), so a listener can rebuild the tree from
events alone. Sequence numbers grow over the whole life of the program, so
events from different executions still order.

`FlowEvent.logRecord` is how events read in a log: indented by depth,
failures as warnings, step events as debug lines with their payload, the
rest as information.
-/

namespace Flowline

/-- What happened to an instance. -/
inductive EventKind where
  | flowStart
  | flowStep
  | flowPaused
  | flowResumed
  | flowEnd
  deriving Inhabited, BEq, Repr

namespace EventKind

/-- The written name, `flowStart` and so on. -/
def name : EventKind → String
  | .flowStart => "flowStart"
  | .flowStep => "flowStep"
  | .flowPaused => "flowPaused"
  | .flowResumed => "flowResumed"
  | .flowEnd => "flowEnd"

/-- The name as logs show it, `FlowStart` and so on. -/
def title : EventKind → String
  | .flowStart => "FlowStart"
  | .flowStep => "FlowStep"
  | .flowPaused => "FlowPaused"
  | .flowResumed => "FlowResumed"
  | .flowEnd => "FlowEnd"

/-- Every kind, in declaration order. -/
def all : List EventKind := [.flowStart, .flowStep, .flowPaused, .flowResumed, .flowEnd]

end EventKind

/-- One lifecycle event of an instance. -/
structure FlowEvent where
  sequence : Nat
  kind : EventKind
  executionId : String
  instanceId : String
  parentId : Option String := none
  depth : Nat
  branchType : BranchType
  timestamp : Timestamp
  payload : Value := .null
  error : Option Failure := none
  deriving Inhabited

namespace FlowEvent

/-- An event about an instance. -/
def about (sequence : Nat) (kind : EventKind) (executionId : String) (i : FlowInstance)
    (payload : Value) (error : Option Failure) (now : Timestamp) : FlowEvent :=
  { sequence := sequence, kind := kind, executionId := executionId, instanceId := i.id,
    parentId := i.parentId, depth := i.depth, branchType := i.branchType, timestamp := now,
    payload := payload, error := error }

/-- The published form, without the timestamp. -/
def toValue (e : FlowEvent) : Value :=
  Value.object <|
    [("kind", .str e.kind.name), ("executionId", .str e.executionId),
      ("flowInstanceId", .str e.instanceId), ("depth", .ofNat e.depth),
      ("branchType", .str e.branchType.name), ("payload", e.payload), ("sequence", .ofNat e.sequence)] ++
    optionalMember "parentId" Value.str e.parentId ++
    optionalMember "error" Failure.toValue e.error

/-- How the event reads in a log. -/
def logRecord (e : FlowEvent) : LogRecord :=
  let indent := String.join (List.replicate e.depth "  ")
  match e.error, e.kind with
  | some f, kind =>
    ⟨.warn, .events, s!"{indent}{kind.title} {e.instanceId} [{e.branchType.name}]: {f.display}"⟩
  | none, .flowStep => ⟨.debug, .events, s!"{indent}flowStep {e.instanceId} {e.payload.compact}"⟩
  | none, kind => ⟨.info, .events, s!"{indent}{kind.title} {e.instanceId} [{e.branchType.name}]"⟩

end FlowEvent

end Flowline
