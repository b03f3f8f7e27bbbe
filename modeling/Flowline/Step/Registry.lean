import Flowline.Step.Definition
import Flowline.Log
import Flowline.Unicode.Chars
set_option autoImplicit false

/-!
# The step registry

Steps are registered under their identifier, and their display names serve
as aliases: lower case, without surrounding blanks. `Registry.resolve` looks
up the exact identifier first, then the alias; an alias shared by several
steps is an error that lists them, never a silent pick.

Registration checks the definition's contract (`StepDefinition.issues`) and
refuses a second step with the same identifier.
-/

namespace Flowline

/-- Registered steps, in registration order, and the identifiers behind each
alias. -/
structure Registry where
  steps : List StepDefinition := []
  aliases : List (String × List String) := []
  deriving Inhabited

/-- Texts in ascending order. -/
def sortTexts (xs : List String) : List String := xs.mergeSort fun a b => !(b < a)

namespace Registry

/-- The alias a display name is found under. -/
def aliasKey (name : String) : String := Unicode.lower (Text.trim name)

/-- The step with exactly this identifier. -/
def find? (r : Registry) (id : String) : Option StepDefinition := r.steps.find? (·.id == id)

/-- Whether a step has this identifier. -/
def contains (r : Registry) (id : String) : Bool := (r.find? id).isSome

/-- The step with exactly this identifier, or an unknown-step error. -/
def get (r : Registry) (id : String) : Except FlowError StepDefinition :=
  match r.find? id with
  | some d => .ok d
  | none => .error (.unknownStep id)

/-- The identifiers behind an alias. -/
def aliasIds (r : Registry) (key : String) : List String :=
  ((r.aliases.find? (·.1 == key)).map (·.2)).getD []

/-- Looks a step up by identifier, then by display name. -/
def resolve (r : Registry) (name : String) : Except FlowError StepDefinition :=
  match r.find? name with
  | some d => .ok d
  | none =>
    match r.aliasIds (aliasKey name) with
    | [id] => r.get id
    | [] => .error (.unknownStep name)
    | ids => .error (.ambiguousAlias name (sortTexts ids))

/-- Registers a step after checking its contract. -/
def register (r : Registry) (d : StepDefinition) : ExceptT FlowError Logged Registry := do
  let issues := d.issues
  if !issues.isEmpty then
    throw (.invalidDefinition ("; ".intercalate (issues.map Issue.message)))
  if r.contains d.id then throw (.duplicateId d.id)
  Logged.debug .registry s!"Registered step '{d.id}' ({d.name})"
  let key := aliasKey d.name
  let aliases :=
    if r.aliases.any (·.1 == key) then
      r.aliases.map fun (k, ids) => if k == key then (k, ids ++ [d.id]) else (k, ids)
    else r.aliases ++ [(key, [d.id])]
  pure { steps := r.steps ++ [d], aliases := aliases }

/-- Registers steps in order, stopping at the first error. -/
def registerAll (r : Registry) (ds : List StepDefinition) : ExceptT FlowError Logged Registry :=
  ds.foldlM (fun acc d => acc.register d) r

/-- The number of registered steps. -/
def len (r : Registry) : Nat := r.steps.length

/-- The registered identifiers, sorted. -/
def ids (r : Registry) : List String := sortTexts (r.steps.map (·.id))

/-- The manifests of every step, sorted by identifier. -/
def manifests (r : Registry) : List Value :=
  r.ids.filterMap fun id => (r.find? id).map StepDefinition.manifest

end Registry

end Flowline
