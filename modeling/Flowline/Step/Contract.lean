import Flowline.Data.Value
import Flowline.Data.Text
import Flowline.Json.Writer
import Flowline.Error
set_option autoImplicit false

/-!
# Step contracts

A step declares the inputs it takes. Each input has a name, a JSON type it
accepts, whether it is required, an optional default and an optional rule
(`InputRule`): numeric bounds, a list of allowed values, a minimum length.

`resolveParams` turns the parameters written in a flow into the parameters a
step runs with:

* null parameters are an empty object, any other non-object is refused;
* an input that is absent, or null while its type is not `any`, takes its
  default; without a default a required input is missing, an optional one
  is left as it was;
* every value that ends up in an input is checked against the input's type
  and rule; members nobody declared pass through untouched.
-/

namespace Flowline

/-- The JSON type an input accepts. -/
inductive ValueType where
  | any
  | string
  | number
  | integer
  | boolean
  | object
  | array
  deriving DecidableEq, Repr, Inhabited

namespace ValueType

/-- The name of a type, as written in contracts. -/
def name : ValueType → String
  | .any => "any"
  | .string => "string"
  | .number => "number"
  | .integer => "integer"
  | .boolean => "boolean"
  | .object => "object"
  | .array => "array"

/-- Every type. -/
def all : List ValueType := [.any, .string, .number, .integer, .boolean, .object, .array]

/-- The type with a given name. -/
def ofName? (s : String) : Option ValueType := all.find? (·.name == s)

/-- Whether a value has this type; `integer` means a number without a
fraction as it was read. -/
def accepts : ValueType → Value → Bool
  | .any, _ => true
  | .string, v => v.isString
  | .number, v => v.isNumber
  | .integer, v => v.isInteger
  | .boolean, v => v.isBool
  | .object, v => v.isObject
  | .array, v => v.isArray

end ValueType

/-- Extra constraints on the value of an input. -/
structure InputRule where
  /-- Inclusive lower bound for numbers. -/
  min : Option Float := none
  /-- Inclusive upper bound for numbers. -/
  max : Option Float := none
  /-- The allowed values; empty allows all. -/
  oneOf : List Value := []
  /-- Minimum length of texts (in characters) and lists. -/
  minLength : Option Nat := none
  deriving Inhabited

/-- A double as it is quoted in messages. -/
def plainNumber (f : Float) : String := NumberLayout.plain.render f

namespace InputRule

/-- Checks a value against the rule: bounds first, then the allowed values,
then the length. -/
def check (r : InputRule) (v : Value) : Except String Unit := do
  match v.float? with
  | some n =>
    match r.min with
    | some lo => if n < lo then throw s!"{plainNumber n} is below the minimum {plainNumber lo}"
    | none => pure ()
    match r.max with
    | some hi => if n > hi then throw s!"{plainNumber n} is above the maximum {plainNumber hi}"
    | none => pure ()
  | none => pure ()
  if !r.oneOf.isEmpty && !r.oneOf.contains v then
    throw s!"{v.compact} is not one of {(Value.arr r.oneOf).compact}"
  match r.minLength with
  | some least =>
    let len : Option Nat := match v with
      | .str s => some (Text.charCount s)
      | .arr xs => some xs.length
      | _ => none
    match len with
    | some l => if l < least then throw s!"length {l} is shorter than {least}"
    | none => pure ()
  | none => pure ()

/-- The stored form: only the constraints that are set. -/
def toValue (r : InputRule) : Value :=
  Value.object <|
    (r.min.map fun m => [("min", Value.ofFloat m)]).getD [] ++
    (r.max.map fun m => [("max", Value.ofFloat m)]).getD [] ++
    (if r.oneOf.isEmpty then [] else [("oneOf", .arr r.oneOf)]) ++
    (r.minLength.map fun m => [("minLength", Value.ofNat m)]).getD []

end InputRule

/-- A declared input of a step. -/
structure InputSpec where
  name : String
  kind : ValueType
  required : Bool := false
  default : Option Value := none
  rule : Option InputRule := none
  deriving Inhabited

namespace InputSpec

/-- A required input. -/
def need (name : String) (kind : ValueType) : InputSpec := ⟨name, kind, true, none, none⟩

/-- An optional input. -/
def maybe (name : String) (kind : ValueType) : InputSpec := ⟨name, kind, false, none, none⟩

/-- Checks the type, then the rule. -/
def check (i : InputSpec) (v : Value) : Except String Unit :=
  if !i.kind.accepts v then .error s!"expected {i.kind.name}, found {v.compact}"
  else match i.rule with
    | some r => r.check v
    | none => .ok ()

/-- The stored form. -/
def toValue (i : InputSpec) : Value :=
  Value.object <|
    [("name", .str i.name), ("type", .str i.kind.name), ("required", .bool i.required)] ++
    (i.default.map fun d => [("default", d)]).getD [] ++
    (i.rule.map fun r => [("validation", r.toValue)]).getD []

end InputSpec

/-- A documented output of a step; not checked when the step runs. -/
structure OutputSpec where
  name : String
  kind : ValueType
  deriving Inhabited

/-- The stored form of an output. -/
def OutputSpec.toValue (o : OutputSpec) : Value :=
  Value.object [("name", .str o.name), ("type", .str o.kind.name)]

/-- Applies defaults and checks every declared input of step `step`. -/
def resolveParams (step : String) (inputs : List InputSpec) (params : Value) :
    Except FlowError Fields := do
  let start ← match params with
    | .null => pure []
    | .obj fs => pure fs
    | other => throw (.invalidParams step s!"parameters must be an object, found {other.compact}")
  List.foldlM (fun values input => do
    let supplied := (Fields.find? values input.name).filter fun v =>
      !v.isNull || input.kind == .any
    match supplied.or input.default with
    | none =>
      if input.required then throw (.missingRequiredInput step input.name)
      else pure values
    | some value =>
      match input.check value with
      | .error m => throw (.invalidParams step s!"input '{input.name}': {m}")
      | .ok () => pure (Fields.insert values input.name value)) start inputs

end Flowline
