import Flowline.Flow.Document
import Flowline.Flow.Issue
import Flowline.Step.Registry
import Flowline.Config
set_option autoImplicit false

/-!
# Validating flows

Static checks run before anything executes. The walk visits every node the
way the engine would run it and records `Issue`s:

* a step reference must resolve, and unambiguously; its parameters must be
  an object meeting the step's declared inputs;
* a loop needs a controller, and a controller that is a step must declare
  both `continue` and `exit`;
* a branch needs edges; one arm alone reads back as a step call (warning);
* a branch is checked against what the node before it can exit through: at
  the start of a block nothing ran (warning), after a step every declared
  edge should have an arm (warning), after a composite node nothing is
  known;
* nesting deeper than `maxDepth` is an error and stops the walk there.

After the walk come one warning per step referenced by bare name more than
once (by step identifier), and a warning for a definition larger than
`largeDefinitionThreshold`. Errors make a definition invalid; warnings never
do.
-/

namespace Flowline

/-- What the node before a block position hands to a branch. -/
inductive Entry where
  /-- Nothing ran before. -/
  | start
  /-- The edges are not known statically. -/
  | unknown
  /-- The node in front exits through one of these edges. -/
  | edges (source : String) (names : List String)
  deriving Inhabited

/-- What the walk has found so far. -/
structure WalkState where
  issues : Array Issue := #[]
  references : List (String × Nat) := []

/-- The validation walk: a registry and a depth limit, and what was found. -/
abbrev Walk := ReaderT (Registry × Nat) (StateM WalkState)

namespace Walk

/-- Records an issue. -/
def report (i : Issue) : Walk Unit := modify fun s => { s with issues := s.issues.push i }

/-- Counts a bare reference to a step. -/
def countReference (step : String) : Walk Unit :=
  modify fun s =>
    let refs := if s.references.any (·.1 == step) then
      s.references.map fun (k, n) => if k == step then (k, n + 1) else (k, n)
    else s.references ++ [(step, 1)]
    { s with references := refs }

/-- Whether `depth` is within the limit; records the issue when not. -/
def withinDepth (path : String) (depth : Nat) : Walk Bool := do
  let (_, limit) ← read
  if depth > limit then
    report (.tooDeep path limit)
    pure false
  else pure true

end Walk

/-- The path of the node at `index` below `base`. -/
def nodePath (base : String) (index : Nat) : String :=
  if base.isEmpty then toString index else s!"{base}.{index}"

/-- Checks a step node and says which edges it can exit through. -/
def walkStep (node : FlowNode) (path : String) : Walk Entry := do
  let reference := node.stepId?.getD ""
  match node with
  | .step _ => Walk.countReference reference
  | _ => pure ()
  let (registry, _) ← read
  match registry.resolve reference with
  | .error (.ambiguousAlias _ candidates) =>
    Walk.report (.ambiguousStep path reference candidates)
    pure .unknown
  | .error _ =>
    Walk.report (.unknownStep path reference)
    pure .unknown
  | .ok step =>
    let params := node.params?.getD .null
    let isCall := match node with
      | .call .. => true
      | _ => false
    if isCall && !params.isObject then
      Walk.report (.invalidParams path step.id s!"expected an object, found {params.compact}")
    else
      match step.resolve params with
      | .error (.missingRequiredInput s i) => Walk.report (.missingRequiredInput path s i)
      | .error e => Walk.report (.invalidParams path step.id e.message)
      | .ok _ => pure ()
    pure (.edges step.id step.declaredEdges)

/-- The edges from `previous` that no arm of a branch handles. -/
def uncovered (arms : List (String × FlowNode)) (path : String) : Entry → List Issue
  | .start => [.branchWithoutSource path]
  | .edges source names =>
    (names.filter fun e => !arms.any (·.1 == e)).map fun e => .uncoveredEdge path source e
  | .unknown => []

mutual

/-- Checks one node and says what it hands to the next sibling. -/
def walkNode (node : FlowNode) (path : String) (depth : Nat) (previous : Entry) : Walk Entry :=
  match node with
  | .step _ => walkStep node path
  | .call .. => walkStep node path
  | .sequence children => do
    if children.isEmpty then
      Walk.report (.emptySubFlow path)
    else if ← Walk.withinDepth path (depth + 1) then
      walkBlock children path (depth + 1) 0 previous
    pure .unknown
  | .loop parts =>
    match parts with
    | [] => do
      Walk.report (.emptyLoop path)
      pure (.edges s!"loop {path}" ["exit"])
    | controller :: actions => do
      if ← Walk.withinDepth path (depth + 1) then
        let controllerBase := s!"{path}.controller"
        let _ ← walkNode controller (nodePath controllerBase 0) (depth + 1) .unknown
        match controller.stepId? with
        | some id =>
          let (registry, _) ← read
          match registry.resolve id with
          | .ok step =>
            if !(step.declares "continue" && step.declares "exit") then
              Walk.report (.controllerWithoutLoopEdges (nodePath controllerBase 0) step.id)
          | .error _ => pure ()
        | none => pure ()
        if !actions.isEmpty then
          let actionsBase := s!"{path}.actions"
          if ← Walk.withinDepth actionsBase (depth + 2) then
            walkBlock actions actionsBase (depth + 2) 0 (.edges s!"loop {path}" ["continue"])
      pure (.edges s!"loop {path}" ["exit"])
  | .branch arms => do
    if arms.isEmpty then
      Walk.report (.emptyBranch path)
    else
      match arms with
      | [(edge, _)] => Walk.report (.ambiguousBranch path edge)
      | _ => pure ()
      for i in uncovered arms path previous do
        Walk.report i
      if ← Walk.withinDepth path (depth + 1) then
        walkArms arms path (depth + 1)
    pure .unknown

/-- Checks each arm of a branch as a block entered through its edge. -/
def walkArms (arms : List (String × FlowNode)) (path : String) (depth : Nat) : Walk Unit :=
  match arms with
  | [] => pure ()
  | (edge, target) :: rest => do
    let base := s!"{path}.{edge}"
    let entry := Entry.edges s!"branch {path}" [edge]
    match target with
    | .sequence nodes => walkBlock nodes base depth 0 entry
    | other =>
      let _ ← walkNode other (nodePath base 0) depth entry
      pure ()
    walkArms rest path depth

/-- Checks the nodes of one block from position `index` on. -/
def walkBlock (nodes : List FlowNode) (base : String) (depth : Nat) (index : Nat)
    (previous : Entry) : Walk Unit :=
  match nodes with
  | [] => pure ()
  | node :: rest => do
    let next ← walkNode node (nodePath base index) depth previous
    walkBlock rest base depth (index + 1) next

end

/-- The outcome of validating a flow definition. -/
structure ValidationReport where
  valid : Bool
  errors : List Issue
  warnings : List Issue
  deriving Inhabited

namespace ValidationReport

/-- A report from issues in the order found. -/
def ofIssues (issues : List Issue) : ValidationReport :=
  let errors := issues.filter Issue.isError
  ⟨errors.isEmpty, errors, issues.filter fun i => !i.isError⟩

/-- The report, or an invalid-definition error listing every error, one per
line. -/
def intoResult (r : ValidationReport) : Except FlowError ValidationReport :=
  if r.valid then .ok r
  else .error (.invalidDefinition ("\n".intercalate (r.errors.map Issue.message)))

end ValidationReport

/-- Checks a whole definition: its nodes are the top-level block. -/
def walkDefinition (definition : FlowDefinition) : Walk Unit := do
  if definition.nodes.isEmpty then Walk.report .emptyFlow
  walkBlock definition.nodes "" 0 0 .start

/-- Validates a definition against a registry with the limits of `config`. -/
def validateFlow (definition : FlowDefinition) (registry : Registry) (config : EngineConfig) :
    Logged ValidationReport := do
  let count := definition.nodeCount
  Logged.info .validator s!"Validating flow '{definition.name}' with {count} nodes"
  let ((), state) := ((walkDefinition definition).run (registry, config.maxDepth)).run {}
  let repeated := (state.references.filter fun (_, n) => n > 1).mergeSort
    fun a b => !(b.1 < a.1)
  let issues := state.issues.toList ++ repeated.map (fun (s, n) => Issue.repeatedStep s n) ++
    (if count > config.largeDefinitionThreshold then
      [Issue.largeDefinition count config.largeDefinitionThreshold] else [])
  let report := ValidationReport.ofIssues issues
  for w in report.warnings do
    Logged.warn .validator w.message
  if report.valid then
    Logged.info .validator s!"Flow '{definition.name}' validated ({report.warnings.length} warnings)"
  else
    Logged.debug .validator s!"Flow '{definition.name}' has {report.errors.length} validation errors"
  pure report

end Flowline
