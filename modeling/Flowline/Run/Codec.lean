import Flowline.Run.Cursor
import Flowline.Run.Event
import Flowline.Run.Report
import Flowline.Flow.Document
set_option autoImplicit false

/-!
# Reading stored runs

Decoders for the stored forms of failures, outputs, step records,
instances, executions, cursors, tickets and events. Each record may be an
object or the list of its members in declaration order (`Decode.record`),
so a bad document is refused with the first problem found:
`missing field `ticket``, `invalid type: integer `5`, expected a string`,
`invalid length 2, expected struct FlowEvent with 10 elements`.

Members with defaults may be left out. Optional members read null as
absent. Unknown members are ignored. A frame is named by its `kind` tag
(`Decode.tagged`), so its members are read as a buffered part.
-/

namespace Flowline

/-- Reads an error code. -/
def ErrorCode.decode : Decode ErrorCode := Decode.unitVariant (ErrorCode.all.map fun c => (c.name, c))

/-- Reads a stored failure. -/
def Failure.decode : Decode Failure := fun src t => do
  let f ← Decode.record "struct FlowFailure"
    [Decode.req "code" ErrorCode.decode, Decode.req "message" Decode.string,
     Decode.opt "nodeId" (Decode.optional Decode.string),
     Decode.opt "instanceId" (Decode.optional Decode.string)] src t
  pure ⟨← f.get "code" ErrorCode.decode, ← f.get "message" Decode.string,
    ← f.opt "nodeId" Decode.string, ← f.opt "instanceId" Decode.string⟩

/-- Reads a stored output. -/
def StepOutput.decode : Decode StepOutput := fun src t => do
  let f ← Decode.record "struct StepOutput"
    [Decode.req "edges" (Decode.list Decode.string), Decode.req "value" Decode.any] src t
  pure ⟨← f.get "edges" (Decode.list Decode.string), ← f.get "value" Decode.any⟩

/-- Reads an instance status. -/
def InstanceStatus.decode : Decode InstanceStatus :=
  Decode.unitVariant (InstanceStatus.all.map fun s => (s.name, s))

/-- Reads a step status. -/
def StepStatus.decode : Decode StepStatus :=
  Decode.unitVariant [("paused", .paused), ("completed", .completed), ("failed", .failed)]

/-- Reads a branch type from its name. -/
def BranchType.decode : Decode BranchType := fun src t => (Decode.string src t).map BranchType.ofName

/-- Reads a stored step record. -/
def StepRecord.decode : Decode StepRecord := fun src t => do
  let f ← Decode.record "struct StepRecord"
    [Decode.req "node" FlowDefinition.nodeDecode, Decode.req "path" Decode.string,
     Decode.req "stepId" Decode.string, Decode.opt "sequence" Decode.count,
     Decode.req "status" StepStatus.decode, Decode.opt "output" (Decode.optional StepOutput.decode),
     Decode.opt "error" (Decode.optional Failure.decode),
     Decode.opt "logs" (Decode.list Decode.string), Decode.opt "emitted" (Decode.list Decode.any),
     Decode.req "startedAt" Timestamp.decode,
     Decode.opt "finishedAt" (Decode.optional Timestamp.decode)] src t
  pure { node := ← f.get "node" FlowDefinition.nodeDecode
         path := ← f.get "path" Decode.string
         stepId := ← f.get "stepId" Decode.string
         sequence := ← f.getD "sequence" Decode.count 0
         status := ← f.get "status" StepStatus.decode
         output := ← f.opt "output" StepOutput.decode
         error := ← f.opt "error" Failure.decode
         logs := ← f.getD "logs" (Decode.list Decode.string) []
         emitted := ← f.getD "emitted" (Decode.list Decode.any) []
         startedAt := ← f.get "startedAt" Timestamp.decode
         finishedAt := ← f.opt "finishedAt" Timestamp.decode }

/-- Reads a stored instance. -/
def FlowInstance.decode : Decode FlowInstance := fun src t => do
  let f ← Decode.record "struct FlowInstance"
    [Decode.req "id" Decode.string, Decode.opt "parentId" (Decode.optional Decode.string),
     Decode.req "depth" Decode.count, Decode.req "branchType" BranchType.decode,
     Decode.opt "iteration" (Decode.optional Decode.count),
     Decode.req "status" InstanceStatus.decode, Decode.opt "steps" (Decode.list StepRecord.decode),
     Decode.opt "result" (Decode.optional Decode.any),
     Decode.opt "error" (Decode.optional Failure.decode),
     Decode.opt "state" Decode.any, Decode.req "startedAt" Timestamp.decode,
     Decode.opt "finishedAt" (Decode.optional Timestamp.decode)] src t
  pure { id := ← f.get "id" Decode.string
         parentId := ← f.opt "parentId" Decode.string
         depth := ← f.get "depth" Decode.count
         branchType := ← f.get "branchType" BranchType.decode
         iteration := ← f.opt "iteration" Decode.count
         status := ← f.get "status" InstanceStatus.decode
         steps := ← f.getD "steps" (Decode.list StepRecord.decode) []
         result := ← f.opt "result" Decode.any
         error := ← f.opt "error" Failure.decode
         state := ← f.getD "state" Decode.any .null
         startedAt := ← f.get "startedAt" Timestamp.decode
         finishedAt := ← f.opt "finishedAt" Timestamp.decode }

/-- Reads a stored execution. -/
def Execution.decode : Decode Execution := fun src t => do
  let f ← Decode.record "struct RawExecution"
    [Decode.req "rootId" Decode.string, Decode.req "instances" (Decode.list FlowInstance.decode)]
    src t
  pure (Execution.ofInstances (← f.get "rootId" Decode.string)
    (← f.get "instances" (Decode.list FlowInstance.decode)))

/-- Reads a loop phase. -/
def LoopPhase.decode : Decode LoopPhase :=
  Decode.unitVariant [("controller", .controller), ("actions", .actions)]

/-- Reads the members of a block frame. -/
def Frame.decodeBlock : Decode Frame := fun src t => do
  let f ← Decode.record "struct variant Frame::Block"
    [Decode.req "instanceId" Decode.string, Decode.req "index" Decode.count,
     Decode.opt "previous" (Decode.optional StepOutput.decode)] src t
  pure (.block (← f.get "instanceId" Decode.string) (← f.get "index" Decode.count)
    (← f.opt "previous" StepOutput.decode))

/-- Reads the members of a loop frame. -/
def Frame.decodeLoop : Decode Frame := fun src t => do
  let f ← Decode.record "struct variant Frame::Loop"
    [Decode.req "instanceId" Decode.string, Decode.req "iteration" Decode.count,
     Decode.opt "controllerOutput" (Decode.optional StepOutput.decode),
     Decode.req "phase" LoopPhase.decode] src t
  pure (.loop (← f.get "instanceId" Decode.string) (← f.get "iteration" Decode.count)
    (← f.opt "controllerOutput" StepOutput.decode) (← f.get "phase" LoopPhase.decode))

/-- Reads a stored frame, named by its `kind`. -/
def Frame.decode : Decode Frame :=
  Decode.tagged "kind" "internally tagged enum Frame"
    [("block", Frame.decodeBlock), ("loop", Frame.decodeLoop)]

/-- Reads a stored cursor. -/
def Cursor.decode : Decode Cursor := fun src t => do
  let f ← Decode.record "struct Cursor" [Decode.req "frames" (Decode.list Frame.decode)] src t
  pure ⟨← f.get "frames" (Decode.list Frame.decode)⟩

/-- Reads a stored ticket. -/
def PauseTicket.decode : Decode PauseTicket := fun src t => do
  let f ← Decode.record "struct PauseTicket"
    [Decode.req "pauseId" Decode.string, Decode.req "executionId" Decode.string,
     Decode.req "flowInstanceId" Decode.string, Decode.req "details" Decode.any,
     Decode.req "createdAt" Timestamp.decode] src t
  pure ⟨← f.get "pauseId" Decode.string, ← f.get "executionId" Decode.string,
    ← f.get "flowInstanceId" Decode.string, ← f.get "details" Decode.any,
    ← f.get "createdAt" Timestamp.decode⟩

/-- Reads an event kind. -/
def EventKind.decode : Decode EventKind := Decode.unitVariant (EventKind.all.map fun k => (k.name, k))

/-- Reads a published event. -/
def FlowEvent.decode : Decode FlowEvent := fun src t => do
  let f ← Decode.record "struct FlowEvent"
    [Decode.req "sequence" (Decode.natBelow64 "u64"), Decode.req "kind" EventKind.decode,
     Decode.req "executionId" Decode.string, Decode.req "flowInstanceId" Decode.string,
     Decode.opt "parentId" (Decode.optional Decode.string), Decode.req "depth" Decode.count,
     Decode.req "branchType" BranchType.decode, Decode.req "timestamp" Timestamp.decode,
     Decode.opt "payload" Decode.any, Decode.opt "error" (Decode.optional Failure.decode)] src t
  pure { sequence := ← f.get "sequence" (Decode.natBelow64 "u64")
         kind := ← f.get "kind" EventKind.decode
         executionId := ← f.get "executionId" Decode.string
         instanceId := ← f.get "flowInstanceId" Decode.string
         parentId := ← f.opt "parentId" Decode.string
         depth := ← f.get "depth" Decode.count
         branchType := ← f.get "branchType" BranchType.decode
         timestamp := ← f.get "timestamp" Timestamp.decode
         payload := ← f.getD "payload" Decode.any .null
         error := ← f.opt "error" Failure.decode }

end Flowline
