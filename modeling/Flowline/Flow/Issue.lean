import Flowline.Error
set_option autoImplicit false

/-!
# Validation issues

What static checking can find wrong with a flow definition or with a step
definition. Each issue has a severity (`Issue.isError`: errors make a
definition invalid, warnings are only reported), the code of the runtime
failure it corresponds to (`Issue.code`) and a message (`Issue.message`)
naming the node path where it was found.
-/

namespace Flowline

/-- A problem found by static checking. -/
inductive Issue where
  | emptyFlow
  | unknownStep (path step : String)
  | ambiguousStep (path step : String) (candidates : List String)
  | invalidParams (path step message : String)
  | missingRequiredInput (path step input : String)
  | emptySubFlow (path : String)
  | emptyLoop (path : String)
  | controllerWithoutLoopEdges (path step : String)
  | emptyBranch (path : String)
  | ambiguousBranch (path edge : String)
  | branchWithoutSource (path : String)
  | uncoveredEdge (path source edge : String)
  | tooDeep (path : String) (limit : Nat)
  | repeatedStep (step : String) (count : Nat)
  | largeDefinition (nodes threshold : Nat)
  | emptyStepId
  | emptyEdge (step : String)
  | duplicateInput (step input : String)
  | duplicateEdge (step edge : String)
  | invalidDefault (step input message : String)
  deriving Repr, Inhabited

namespace Issue

/-- Whether an issue makes a definition invalid; the others are warnings. -/
def isError : Issue → Bool
  | .emptyFlow => false
  | .emptySubFlow _ => false
  | .ambiguousBranch .. => false
  | .branchWithoutSource _ => false
  | .uncoveredEdge .. => false
  | .repeatedStep .. => false
  | .largeDefinition .. => false
  | _ => true

/-- The code of the runtime failure an issue corresponds to. -/
def code : Issue → ErrorCode
  | .unknownStep .. => .unknownStep
  | .ambiguousStep .. => .ambiguousAlias
  | .invalidParams .. => .invalidParams
  | .missingRequiredInput .. => .missingRequiredInput
  | .uncoveredEdge .. => .unhandledEdge
  | .branchWithoutSource _ => .unhandledEdge
  | .emptyStepId => .invalidDefinition
  | .emptyEdge _ => .invalidDefinition
  | .duplicateInput .. => .invalidDefinition
  | .duplicateEdge .. => .invalidDefinition
  | .invalidDefault .. => .invalidDefinition
  | _ => .invalidStructure

/-- The wording of an issue. -/
def message : Issue → String
  | .emptyFlow => "Flow has no nodes"
  | .unknownStep path step => s!"Node {path}: unknown step '{step}'"
  | .ambiguousStep path step candidates =>
    let listed := ", ".intercalate candidates
    s!"Node {path}: '{step}' matches several steps ({listed})"
  | .invalidParams path step message =>
    s!"Node {path}: invalid parameters for '{step}': {message}"
  | .missingRequiredInput path step input =>
    s!"Node {path}: step '{step}' requires input '{input}'"
  | .emptySubFlow path => s!"Node {path}: sub-flow is empty"
  | .emptyLoop path => s!"Node {path}: loop has no controller"
  | .controllerWithoutLoopEdges path step =>
    s!"Node {path}: loop controller '{step}' must declare 'continue' and 'exit' edges"
  | .emptyBranch path => s!"Node {path}: branch has no edges"
  | .ambiguousBranch path edge =>
    s!"Node {path}: branch with the single edge '{edge}' reads back as a step call"
  | .branchWithoutSource path =>
    s!"Node {path}: branch has no previous step to take an edge from"
  | .uncoveredEdge path source edge =>
    s!"Node {path}: edge '{edge}' from '{source}' has no matching branch"
  | .tooDeep path limit => s!"Node {path}: nesting exceeds the depth limit of {limit}"
  | .repeatedStep step count => s!"Step '{step}' is referenced {count} times"
  | .largeDefinition nodes threshold =>
    s!"Flow has {nodes} nodes (more than {threshold}); consider splitting it"
  | .emptyStepId => "Step has empty or whitespace-only ID"
  | .emptyEdge step => s!"Step '{step}' declares an empty edge name"
  | .duplicateInput step input => s!"Step '{step}' declares input '{input}' twice"
  | .duplicateEdge step edge => s!"Step '{step}' declares edge '{edge}' twice"
  | .invalidDefault step input message =>
    s!"Step '{step}': default of input '{input}' is invalid: {message}"

end Issue

end Flowline
