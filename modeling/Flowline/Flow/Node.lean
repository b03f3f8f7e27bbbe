import Flowline.Data.Value
import Flowline.Json.Writer
import Flowline.Error
set_option autoImplicit false

/-!
# Flow nodes

A flow is a list of nodes, and each node is plain data:

| written as | node |
|---|---|
| `"step.id"` | a step reference |
| `{"step.id": params}` (one key) | a step call with parameters |
| `[a, b, c]` | a sub-flow, run in order in a child instance |
| `[[controller, action, …]]` (one item, itself a list) | a loop |
| `{"edgeA": node, "edgeB": node}` (any other key count) | a branch on the previous edge |

`FlowNode.ofValue` reads that grammar and `FlowNode.toValue` writes it back.
Two shapes that can be built directly have no written form and are refused
by `toValue`: a sub-flow whose only node is itself a list (it would read back
as a loop) and a branch with one arm (it would read back as a step call).
-/

namespace Flowline

/-- One node of a flow definition. Branch arms are kept sorted by edge, one
arm per edge. -/
inductive FlowNode where
  /-- A step by identifier, with no parameters. -/
  | step (id : String)
  /-- A step by identifier with its parameter value. -/
  | call (id : String) (params : Value)
  /-- Nodes run in order in a child instance. -/
  | sequence (nodes : List FlowNode)
  /-- A controller followed by the actions it repeats. -/
  | loop (parts : List FlowNode)
  /-- The arm to take for each edge of the previous node. -/
  | branch (arms : List (String × FlowNode))
  deriving Inhabited

namespace FlowNode

/-- A loop from its controller and actions. -/
def looped (controller : FlowNode) (actions : List FlowNode) : FlowNode :=
  .loop (controller :: actions)

/-- Adds an arm to sorted arms, replacing the arm of the same edge. -/
def insertArm (arms : List (String × FlowNode)) (edge : String) (node : FlowNode) :
    List (String × FlowNode) :=
  match arms with
  | [] => [(edge, node)]
  | (e, n) :: rest =>
    if edge < e then (edge, node) :: (e, n) :: rest
    else if edge = e then (edge, node) :: rest
    else (e, n) :: insertArm rest edge node

/-- A branch from `(edge, node)` pairs; a later pair for the same edge wins. -/
def branchOf (pairs : List (String × FlowNode)) : FlowNode :=
  .branch (pairs.foldl (fun arms (e, n) => insertArm arms e n) [])

/-- The short name of a node's shape, used in paths and messages. -/
def kind : FlowNode → String
  | .step _ => "step"
  | .call .. => "step"
  | .sequence _ => "sequence"
  | .loop _ => "loop"
  | .branch _ => "branch"

/-- The step identifier of a step node. -/
def stepId? : FlowNode → Option String
  | .step id => some id
  | .call id _ => some id
  | _ => none

/-- The parameters of a step node; a bare reference has null parameters. -/
def params? : FlowNode → Option Value
  | .step _ => some .null
  | .call _ p => some p
  | _ => none

/-- Whether a node calls a step. -/
def isStep (n : FlowNode) : Bool := n.stepId?.isSome

/-- The number of nodes in a tree, the node itself included. -/
def count : FlowNode → Nat
  | .step _ => 1
  | .call .. => 1
  | .sequence nodes => 1 + countList nodes
  | .loop parts => 1 + countList parts
  | .branch arms => 1 + countArms arms
where
  /-- The nodes in a list of trees. -/
  countList : List FlowNode → Nat
    | [] => 0
    | n :: rest => count n + countList rest
  /-- The nodes in the arms of a branch. -/
  countArms : List (String × FlowNode) → Nat
    | [] => 0
    | (_, n) :: rest => count n + countArms rest

/-- Whether a node is written as a list. -/
def isList : FlowNode → Bool
  | .sequence _ => true
  | .loop _ => true
  | _ => false

/-- The written form of a node, or why it has none. -/
def toValue : FlowNode → Except FlowError Value
  | .step id => .ok (.str id)
  | .call id params => .ok (.obj [(id, params)])
  | .sequence nodes =>
    match nodes with
    | [n] =>
      if n.isList then
        .error (.invalidStructure "a sub-flow holding a single list node has no canonical form")
      else (listValue nodes).map .arr
    | _ => (listValue nodes).map .arr
  | .loop parts => (listValue parts).map fun vs => .arr [.arr vs]
  | .branch arms =>
    if arms.length = 1 then
      .error (.invalidStructure
        "a branch needs at least two arms to be told apart from a step call")
    else (armsValue arms).map .obj
where
  /-- The written forms of a list of nodes. -/
  listValue : List FlowNode → Except FlowError (List Value)
    | [] => .ok []
    | n :: rest => do
      let v ← toValue n
      let vs ← listValue rest
      pure (v :: vs)
  /-- The written forms of branch arms, keyed by edge. -/
  armsValue : List (String × FlowNode) → Except FlowError Fields
    | [] => .ok []
    | (e, n) :: rest => do
      let v ← toValue n
      let vs ← armsValue rest
      pure ((e, v) :: vs)

/-- Reads a node from its written form. The key count of an object is the
only thing that tells a step call (one key) from a branch. -/
def ofValue : Value → Except FlowError FlowNode
  | .str id => .ok (.step id)
  | .arr [.arr parts] => (ofList parts).map .loop
  | .arr items => (ofList items).map .sequence
  | .obj [(id, params)] => .ok (.call id params)
  | .obj arms => (ofArms arms).map .branch
  | other => .error (.invalidStructure
      s!"expected a string, list or object node, found {other.compact}")
where
  /-- Reads a list of nodes, stopping at the first bad one. -/
  ofList : List Value → Except FlowError (List FlowNode)
    | [] => .ok []
    | v :: rest => do
      let n ← ofValue v
      let ns ← ofList rest
      pure (n :: ns)
  /-- Reads the arms of a branch, in edge order. -/
  ofArms : List (String × Value) → Except FlowError (List (String × FlowNode))
    | [] => .ok []
    | (e, v) :: rest => do
      let n ← ofValue v
      let ns ← ofArms rest
      pure ((e, n) :: ns)

/-- Structural equality of nodes. -/
def beq : FlowNode → FlowNode → Bool
  | .step a, .step b => a == b
  | .call a p, .call b q => a == b && p == q
  | .sequence xs, .sequence ys => beqList xs ys
  | .loop xs, .loop ys => beqList xs ys
  | .branch xs, .branch ys => beqArms xs ys
  | _, _ => false
where
  /-- Equality of node lists. -/
  beqList : List FlowNode → List FlowNode → Bool
    | [], [] => true
    | x :: xs, y :: ys => beq x y && beqList xs ys
    | _, _ => false
  /-- Equality of branch arms. -/
  beqArms : List (String × FlowNode) → List (String × FlowNode) → Bool
    | [], [] => true
    | (e, x) :: xs, (f, y) :: ys => e == f && beq x y && beqArms xs ys
    | _, _ => false

instance : BEq FlowNode := ⟨beq⟩

end FlowNode

end Flowline
