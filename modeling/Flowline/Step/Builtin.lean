import Flowline.Step.Registry
set_option autoImplicit false

/-!
# Built-in steps

The standard steps every registry can start from: `step.echo`,
`logic.condition.if`, `logic.control.loop`, `state.set`, `state.get`,
`human.input`, `core.delay` and `core.fail`. This module holds their
contracts; what they do when they run is the engine's part.

It also holds `compare`, the comparison `logic.condition.if` makes:
numbers compare as doubles (so `1 == 1.0`), texts by code point, and
`contains` looks into texts, lists and object keys.
-/

namespace Flowline

/-- Why a step implementation failed. -/
inductive StepError where
  | failed (message : String)
  | invalidInput (name message : String)
  deriving Repr, Inhabited

namespace StepError

/-- The name of the cause. -/
def kind : StepError → String
  | .failed _ => "Failed"
  | .invalidInput .. => "InvalidInput"

/-- The wording of a step error. -/
def message : StepError → String
  | .failed m => m
  | .invalidInput name m => s!"input '{name}': {m}"

end StepError

/-- The operators `logic.condition.if` understands. -/
def operators : List String := ["==", "!=", ">", ">=", "<", "<=", "contains", "exists"]

/-- The loop bound a controller uses when none is given. -/
def defaultMaxIterations : Nat := 1000

/-- Equality that compares numbers as doubles. -/
def looseEq (a b : Value) : Bool :=
  match a.float?, b.float? with
  | some x, some y => x == y
  | _, _ => a == b

/-- The order of two numbers or two texts: negative, zero or positive. -/
def order? (a b : Value) : Option Ordering :=
  match a, b with
  | .num x, .num y =>
    let (p, q) := (x.toFloat, y.toFloat)
    if p < q then some .lt else if p == q then some .eq else if p > q then some .gt else none
  | .str x, .str y => some (compare x y)
  | _, _ => none

/-- Evaluates `value operator other`. -/
def compareValues (value : Value) (operator : String) (other : Value) : Except StepError Bool :=
  if operator == "==" then .ok (looseEq value other)
  else if operator == "!=" then .ok (!looseEq value other)
  else if operator == ">" || operator == ">=" || operator == "<" || operator == "<=" then
    match order? value other with
    | none => .error (.invalidInput "compareValue"
        s!"cannot order {value.compact} against {other.compact}")
    | some o =>
      .ok (if operator == ">" then o == .gt
        else if operator == ">=" then o != .lt
        else if operator == "<" then o == .lt
        else o != .gt)
  else if operator == "contains" then
    .ok <| match value with
      | .str s => match other with
        | .str needle => Text.contains s needle
        | _ => false
      | .arr items => items.any fun item => looseEq item other
      | .obj fs => match other with
        | .str key => Fields.contains fs key
        | _ => false
      | _ => false
  else if operator == "exists" then .ok (!value.isNull)
  else .error (.invalidInput "operator" s!"unknown operator '{operator}'")

/-- A rule allowing only the given texts. -/
def oneOfTexts (values : List String) : InputRule := { oneOf := values.map Value.str }

/-- A rule with a lower bound. -/
def atLeast (min : Float) : InputRule := { min := some min }

/-- The contracts of the built-in steps, in registration order. -/
def builtinSteps : List StepDefinition :=
  [ { StepDefinition.make "step.echo" .echo with
      name := "Echo", description := "Outputs its input unchanged"
      inputs := [InputSpec.need "input" .any]
      outputs := [⟨"value", .any⟩] },
    { StepDefinition.make "logic.condition.if" .condition with
      name := "If Condition"
      description := "Compares a value and exits through true or false"
      inputs := [InputSpec.maybe "value" .any,
        { InputSpec.maybe "operator" .string with
          default := some (.str "=="), rule := some (oneOfTexts operators) },
        InputSpec.maybe "compareValue" .any]
      outputs := [⟨"result", .boolean⟩]
      edges := ["true", "false"] },
    { StepDefinition.make "logic.control.loop" .loopController with
      name := "Loop"
      description := "Loop controller for count, forEach and while loops"
      inputs := [
        { InputSpec.maybe "mode" .string with
          default := some (.str "count"), rule := some (oneOfTexts ["count", "forEach", "while"]) },
        { InputSpec.maybe "maxIterations" .integer with
          default := some (Value.ofNat defaultMaxIterations), rule := some (atLeast 0.0) },
        InputSpec.maybe "items" .array,
        InputSpec.maybe "condition" .string]
      outputs := [⟨"index", .integer⟩, ⟨"item", .any⟩]
      edges := ["continue", "exit"] },
    { StepDefinition.make "state.set" .stateSet with
      name := "Set State", description := "Writes a value at a dotted state path"
      inputs := [{ InputSpec.need "path" .string with rule := some { minLength := some 1 } },
        InputSpec.need "value" .any,
        { InputSpec.maybe "shared" .boolean with default := some (.bool false) }] },
    { StepDefinition.make "state.get" .stateGet with
      name := "Get State"
      description := "Reads a value from state, falling back to parent scopes"
      inputs := [InputSpec.need "path" .string]
      outputs := [⟨"value", .any⟩]
      edges := ["success", "missing"] },
    { StepDefinition.make "human.input" .humanInput with
      name := "Human Input"
      description := "Pauses the execution until someone answers the prompt"
      inputs := [InputSpec.need "prompt" .string, InputSpec.maybe "fields" .any]
      outputs := [⟨"answer", .any⟩] },
    { StepDefinition.make "core.delay" .delay with
      name := "Delay", description := "Sleeps for a number of milliseconds"
      inputs := [{ InputSpec.need "ms" .integer with rule := some (atLeast 0.0) }] },
    { StepDefinition.make "core.fail" .fail with
      name := "Fail", description := "Always fails; useful for exercising error branches"
      inputs := [{ InputSpec.maybe "message" .string with default := some (.str "step failed") }] } ]

/-- A registry holding every built-in step. -/
def builtinRegistry : ExceptT FlowError Logged Registry := Registry.registerAll {} builtinSteps

end Flowline
