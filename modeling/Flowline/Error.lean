import Flowline.Data.Value
set_option autoImplicit false

/-!
# Errors

`FlowError` is what a library call fails with: one constructor per cause,
its wording in `FlowError.message`, its class in `FlowError.code`. A failed
execution stores the storable `Failure` instead: the code, the message and
where the failure happened.

Storage problems (`io`, `json`, `yaml`) keep the wording of the layer that
found them; a JSON problem also says whether the text was malformed
(`JsonProblem.malformed`) or the document had the wrong shape
(`JsonProblem.shape`).
-/

namespace Flowline

/-- The class of an error. -/
inductive ErrorCode where
  | unknownStep
  | invalidParams
  | missingRequiredInput
  | unhandledEdge
  | undeclaredEdge
  | iterationLimitExceeded
  | executionTimeout
  | unknownPauseId
  | alreadyResumed
  | duplicateId
  | ambiguousAlias
  | invalidStructure
  | invalidDefinition
  | stepFailed
  | cancelled
  | corruptCursor
  | storage
  deriving DecidableEq, Repr, Inhabited

namespace ErrorCode

/-- The name of a code, as it is printed and stored. -/
def name : ErrorCode → String
  | .unknownStep => "UnknownStep"
  | .invalidParams => "InvalidParams"
  | .missingRequiredInput => "MissingRequiredInput"
  | .unhandledEdge => "UnhandledEdge"
  | .undeclaredEdge => "UndeclaredEdge"
  | .iterationLimitExceeded => "IterationLimitExceeded"
  | .executionTimeout => "ExecutionTimeout"
  | .unknownPauseId => "UnknownPauseId"
  | .alreadyResumed => "AlreadyResumed"
  | .duplicateId => "DuplicateId"
  | .ambiguousAlias => "AmbiguousAlias"
  | .invalidStructure => "InvalidStructure"
  | .invalidDefinition => "InvalidDefinition"
  | .stepFailed => "StepFailed"
  | .cancelled => "Cancelled"
  | .corruptCursor => "CorruptCursor"
  | .storage => "Storage"

/-- Every code, in declaration order. -/
def all : List ErrorCode :=
  [.unknownStep, .invalidParams, .missingRequiredInput, .unhandledEdge, .undeclaredEdge,
   .iterationLimitExceeded, .executionTimeout, .unknownPauseId, .alreadyResumed, .duplicateId,
   .ambiguousAlias, .invalidStructure, .invalidDefinition, .stepFailed, .cancelled,
   .corruptCursor, .storage]

/-- The code with a given name. -/
def ofName? (s : String) : Option ErrorCode := all.find? (·.name == s)

end ErrorCode

/-- A JSON problem: malformed text, or a document of the wrong shape. -/
inductive JsonProblem where
  | malformed (text : String)
  | shape (text : String)
  deriving Repr, Inhabited

/-- The wording of a JSON problem. -/
def JsonProblem.text : JsonProblem → String
  | .malformed t => t
  | .shape t => t

/-- Why a library call failed. -/
inductive FlowError where
  | unknownStep (name : String)
  | invalidParams (step message : String)
  | missingRequiredInput (step input : String)
  | unhandledEdge (edge : String)
  | undeclaredEdge (step edge : String)
  | iterationLimitExceeded (limit : Nat)
  | executionTimeout (step : String) (afterMs : Nat)
  | unknownPauseId (id : String)
  | alreadyResumed (id : String)
  | duplicateId (id : String)
  | ambiguousAlias (name : String) (candidates : List String)
  | invalidStructure (message : String)
  | invalidDefinition (message : String)
  | stepFailed (step message : String)
  | cancelled
  | corruptCursor (message : String)
  | io (message : String)
  | json (problem : JsonProblem)
  | yaml (message : String)
  deriving Repr, Inhabited

namespace FlowError

/-- The class of an error; storage problems share one. -/
def code : FlowError → ErrorCode
  | .unknownStep _ => .unknownStep
  | .invalidParams .. => .invalidParams
  | .missingRequiredInput .. => .missingRequiredInput
  | .unhandledEdge _ => .unhandledEdge
  | .undeclaredEdge .. => .undeclaredEdge
  | .iterationLimitExceeded _ => .iterationLimitExceeded
  | .executionTimeout .. => .executionTimeout
  | .unknownPauseId _ => .unknownPauseId
  | .alreadyResumed _ => .alreadyResumed
  | .duplicateId _ => .duplicateId
  | .ambiguousAlias .. => .ambiguousAlias
  | .invalidStructure _ => .invalidStructure
  | .invalidDefinition _ => .invalidDefinition
  | .stepFailed .. => .stepFailed
  | .cancelled => .cancelled
  | .corruptCursor _ => .corruptCursor
  | .io _ => .storage
  | .json _ => .storage
  | .yaml _ => .storage

/-- The name of the cause, one per constructor. -/
def kind : FlowError → String
  | .io _ => "Io"
  | .json _ => "Json"
  | .yaml _ => "Yaml"
  | e => e.code.name

/-- The wording of an error. -/
def message : FlowError → String
  | .unknownStep name => s!"Unknown step '{name}'"
  | .invalidParams step message => s!"Invalid parameters for step '{step}': {message}"
  | .missingRequiredInput step input => s!"Step '{step}' is missing required input '{input}'"
  | .unhandledEdge edge => s!"No branch handles edge '{edge}'"
  | .undeclaredEdge step edge => s!"Step '{step}' returned undeclared edge '{edge}'"
  | .iterationLimitExceeded limit => s!"Loop exceeded the iteration limit of {limit}"
  | .executionTimeout step afterMs => s!"Step '{step}' timed out after {afterMs} ms"
  | .unknownPauseId id => s!"No pause ticket with id '{id}'"
  | .alreadyResumed id => s!"Pause ticket '{id}' was already resumed"
  | .duplicateId id => s!"A step with id '{id}' is already registered"
  | .ambiguousAlias name candidates =>
    let listed := ", ".intercalate candidates
    s!"Alias '{name}' matches several steps: {listed}"
  | .invalidStructure message => s!"Invalid flow structure: {message}"
  | .invalidDefinition message => s!"Invalid step definition: {message}"
  | .stepFailed step message => s!"Step '{step}' failed: {message}"
  | .cancelled => "Execution was cancelled"
  | .corruptCursor message => s!"Resume cursor does not match the stored execution: {message}"
  | .io message => s!"I/O error: {message}"
  | .json problem => s!"JSON error: {problem.text}"
  | .yaml message => s!"YAML error: {message}"

end FlowError

/-- A failure as an execution stores it. -/
structure Failure where
  code : ErrorCode
  message : String
  nodeId : Option String := none
  instanceId : Option String := none
  deriving Repr, Inhabited

namespace FlowError

/-- The failure an error becomes at a node of an instance. -/
def toFailure (e : FlowError) (nodeId instanceId : Option String) : Failure :=
  ⟨e.code, e.message, nodeId, instanceId⟩

end FlowError

namespace Failure

/-- `[Code] message`, followed by ` (node N)` when the node is known. -/
def display (f : Failure) : String :=
  s!"[{f.code.name}] {f.message}" ++ match f.nodeId with
    | some n => s!" (node {n})"
    | none => ""

/-- The stored form: `code` and `message`, with `nodeId` and `instanceId`
when known. -/
def toValue (f : Failure) : Value :=
  .obj <| Fields.ofList <|
    [("code", .str f.code.name), ("message", .str f.message)] ++
    (f.nodeId.map fun n => [("nodeId", Value.str n)]).getD [] ++
    (f.instanceId.map fun i => [("instanceId", Value.str i)]).getD []

end Failure

end Flowline
