import Flowline.Step.Contract
import Flowline.Step.Script
import Flowline.Flow.Issue
import Flowline.Data.Decode
set_option autoImplicit false

/-!
# Step definitions

A `StepDefinition` is a step's contract (identifier, display name, inputs,
outputs, exit edges, timeout) together with its `Behaviour`: one of the
built-in behaviours or a `Script`.

A step that declares no edges exits through the single implicit edge
`success`. `StepDefinition.issues` checks a definition's own contract before
it is registered: a blank identifier, inputs declared twice, defaults their
own input refuses, blank or repeated edges.
-/

namespace Flowline

/-- The edge of steps that declare none. -/
def defaultEdge : String := "success"

/-- What a step does when it runs. -/
inductive Behaviour where
  /-- Exits with its `input`. -/
  | echo
  /-- Compares `value` with `compareValue` and exits through `true` or `false`. -/
  | condition
  /-- Drives a loop: `continue` with the next item, or `exit`. -/
  | loopController
  /-- Writes `value` at `path`. -/
  | stateSet
  /-- Reads `path`, exiting through `missing` when nothing is there. -/
  | stateGet
  /-- Suspends the execution until someone answers. -/
  | humanInput
  /-- Waits `ms` milliseconds. -/
  | delay
  /-- Always fails with `message`. -/
  | fail
  /-- Does what a script says. -/
  | script (s : Script)
  deriving Inhabited

/-- A step: its contract and its behaviour. -/
structure StepDefinition where
  id : String
  name : String
  version : String := "1.0.0"
  description : String := ""
  inputs : List InputSpec := []
  outputs : List OutputSpec := []
  edges : List String := []
  timeoutMs : Option Nat := none
  behaviour : Behaviour
  deriving Inhabited

namespace StepDefinition

/-- A definition with a trimmed identifier, named after it. -/
def make (id : String) (behaviour : Behaviour) : StepDefinition :=
  let id := Text.trim id
  { id := id, name := id, behaviour := behaviour }

/-- The edges the step may exit through, the implicit one included. -/
def declaredEdges (d : StepDefinition) : List String :=
  if d.edges.isEmpty then [defaultEdge] else d.edges

/-- Whether the step may exit through `edge`. -/
def declares (d : StepDefinition) (edge : String) : Bool :=
  if d.edges.isEmpty then edge == defaultEdge else d.edges.contains edge

/-- The parameters the step runs with. -/
def resolve (d : StepDefinition) (params : Value) : Except FlowError Fields :=
  resolveParams d.id d.inputs params

/-- The contract as a document: `description` and `timeoutMs` only when set. -/
def manifest (d : StepDefinition) : Value :=
  Value.object <|
    [("id", .str d.id), ("name", .str d.name), ("version", .str d.version),
     ("inputs", .arr (d.inputs.map InputSpec.toValue)),
     ("outputs", .arr (d.outputs.map OutputSpec.toValue)),
     ("edges", Value.strs d.declaredEdges)] ++
    (if d.description.isEmpty then [] else [("description", .str d.description)]) ++
    (d.timeoutMs.map fun t => [("timeoutMs", Value.ofNat t)]).getD []

/-- The problems of a definition's own contract, in the order they are found. -/
def issues (d : StepDefinition) : List Issue :=
  if Text.isBlank d.id then [.emptyStepId]
  else
    let (_, inputIssues) := d.inputs.foldl (fun (seen, acc) (i : InputSpec) =>
      let dup := if seen.contains i.name then [Issue.duplicateInput d.id i.name] else []
      let bad := match i.default with
        | some v => match i.check v with
          | .error m => [Issue.invalidDefault d.id i.name m]
          | .ok () => []
        | none => []
      (if seen.contains i.name then seen else seen ++ [i.name], acc ++ dup ++ bad))
      (([] : List String), ([] : List Issue))
    let (_, edgeIssues) := d.edges.foldl (fun (seen, acc) (e : String) =>
      if Text.isBlank e then (seen, acc ++ [Issue.emptyEdge d.id])
      else if seen.contains e then (seen, acc ++ [Issue.duplicateEdge d.id e])
      else (seen ++ [e], acc))
      (([] : List String), ([] : List Issue))
    inputIssues ++ edgeIssues

end StepDefinition

namespace StepSpec

/-- Reads a value type by its lower-case name. -/
def valueType : Decode ValueType := Decode.unitVariant (ValueType.all.map fun t => (t.name, t))

/-- Reads an input rule. -/
def rule : Decode InputRule := fun src t => do
  let f ← Decode.record "struct InputRule"
    [Decode.opt "min" (Decode.optional Decode.float), Decode.opt "max" (Decode.optional Decode.float),
     Decode.opt "oneOf" (Decode.list Decode.any), Decode.opt "minLength" (Decode.optional Decode.count)]
    src t
  pure { min := ← f.opt "min" Decode.float, max := ← f.opt "max" Decode.float
         oneOf := ← f.getD "oneOf" (Decode.list Decode.any) []
         minLength := ← f.opt "minLength" Decode.count }

/-- Reads a declared input. -/
def input : Decode InputSpec := fun src t => do
  let f ← Decode.record "struct InputSpec"
    [Decode.req "name" Decode.string, Decode.req "type" valueType, Decode.opt "required" Decode.bool,
     Decode.opt "default" (Decode.optional Decode.any), Decode.opt "validation" (Decode.optional rule)]
    src t
  pure { name := ← f.get "name" Decode.string, kind := ← f.get "type" valueType
         required := ← f.getD "required" Decode.bool false
         default := ← f.opt "default" Decode.any, rule := ← f.opt "validation" rule }

/-- Reads a documented output. -/
def output : Decode OutputSpec := fun src t => do
  let f ← Decode.record "struct OutputSpec"
    [Decode.req "name" Decode.string, Decode.req "type" valueType] src t
  pure ⟨← f.get "name" Decode.string, ← f.get "type" valueType⟩

/-- A member that is a string. -/
def text? (v : Value) (key : String) : Option String := (v.field? key).bind Value.str?

/-- A list member read by `d`: nothing when absent. -/
def listOf {α : Type} (v : Value) (key : String) (d : Decode α) : Except String (List α) :=
  match v.field? key with
  | some items => Decode.fromValue (Decode.list d) items
  | none => .ok []

/-- Reads a step given as data: `id` (a string), `name`, `version`,
`description`, `inputs` and `outputs` (read as records), `edges` (a
non-string edge reads as empty), `timeoutMs`, and the script `do`. -/
def toDefinition (spec : Value) : Except String StepDefinition := do
  let id ← match text? spec "id" with
    | some id => pure id
    | none => throw "custom step needs an id"
  let inputs ← listOf spec "inputs" input
  let outputs ← listOf spec "outputs" output
  let base := StepDefinition.make id (.script (Script.ofValue (spec.fieldOrNull "do")))
  pure { base with
    name := (text? spec "name").getD base.name
    version := (text? spec "version").getD base.version
    description := (text? spec "description").getD ""
    inputs, outputs
    edges := (((spec.field? "edges").bind Value.arr?).getD []).map fun e => (e.str?).getD ""
    timeoutMs := (spec.field? "timeoutMs").bind Value.nat? }

end StepSpec

end Flowline
