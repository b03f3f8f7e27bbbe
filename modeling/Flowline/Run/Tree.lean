import Flowline.Run.Event
set_option autoImplicit false

/-!
# Execution trees from events

`ExecutionTree.ofEvents` rebuilds the instance tree from lifecycle events,
in whatever order they arrive:

* the first event of an instance creates its node, running, with the
  parent, depth and branch type that event carries;
* every event lowers the node's first sequence number to its own if smaller;
* a step event counts a step;
* a status-carrying event (start, resume: running; pause: paused; end: the
  status in its payload, else failed or completed by whether it carries an
  error) applies when its sequence number is at least that of the status
  seen so far, so late arrivals of older events do not undo newer ones.

Roots are nodes without a parent or whose parent never showed up. Children
and roots are ordered by first sequence number. Nodes caught in a parent
cycle are neither roots nor reachable from one, so `render` leaves them out.
-/

namespace Flowline

/-- One instance as the events describe it. -/
structure TreeNode where
  id : String
  parentId : Option String
  depth : Nat
  branchType : BranchType
  status : InstanceStatus := .running
  steps : Nat := 0
  firstSequence : Nat
  statusSequence : Nat := 0
  deriving Inhabited

/-- The status an event reports, if it reports one. -/
def statusOf (e : FlowEvent) : Option InstanceStatus :=
  match e.kind with
  | .flowStart | .flowResumed => some .running
  | .flowPaused => some .paused
  | .flowStep => none
  | .flowEnd =>
    let reported := (e.payload.field? "status").bind fun
      | .str s => InstanceStatus.all.find? (·.name == s)
      | _ => none
    some (reported.getD (if e.error.isSome then .failed else .completed))

/-- The tree of instances seen in events, in order of first appearance. -/
structure ExecutionTree where
  nodes : List TreeNode := []
  deriving Inhabited

namespace ExecutionTree

/-- The node of an instance. -/
def get? (t : ExecutionTree) (id : String) : Option TreeNode := t.nodes.find? (·.id == id)

end ExecutionTree

/-- Applies one event to a node. -/
def TreeNode.apply (n : TreeNode) (e : FlowEvent) : TreeNode :=
  let n := { n with firstSequence := min n.firstSequence e.sequence }
  let n := if e.kind == .flowStep then { n with steps := n.steps + 1 } else n
  match statusOf e with
  | some s => if e.sequence ≥ n.statusSequence then { n with status := s, statusSequence := e.sequence } else n
  | none => n

namespace ExecutionTree

/-- Takes in one event. -/
def ingest (t : ExecutionTree) (e : FlowEvent) : ExecutionTree :=
  let fresh : TreeNode :=
    { id := e.instanceId, parentId := e.parentId, depth := e.depth, branchType := e.branchType,
      firstSequence := e.sequence }
  if t.nodes.any (·.id == e.instanceId) then
    { nodes := t.nodes.map fun n => if n.id == e.instanceId then n.apply e else n }
  else { nodes := t.nodes ++ [fresh.apply e] }

/-- The tree described by a list of events. -/
def ofEvents (events : List FlowEvent) : ExecutionTree := events.foldl ingest {}

/-- The number of instances. -/
def len (t : ExecutionTree) : Nat := t.nodes.length

/-- Nodes ordered by first sequence number, keeping their order on ties. -/
def bySequence (ns : List TreeNode) : List TreeNode :=
  ns.mergeSort fun a b => a.firstSequence ≤ b.firstSequence

/-- The nodes without a known parent. -/
def roots (t : ExecutionTree) : List TreeNode :=
  bySequence <| t.nodes.filter fun n => match n.parentId with
    | none => true
    | some p => !t.nodes.any (·.id == p)

/-- The direct children of a node. -/
def children (t : ExecutionTree) (id : String) : List TreeNode :=
  bySequence <| t.nodes.filter (·.parentId == some id)

/-- The line of one node. -/
def line (n : TreeNode) (indent : Nat) : String :=
  String.join (List.replicate indent "  ") ++
    s!"{n.id} [{n.branchType.name}] {n.status.name} ({n.steps} steps)\n"

/-- The lines of a node and its descendants. A path from a root never
visits a node twice, so its length is bounded by the node count and the
fuel is never spent. -/
def renderNode (t : ExecutionTree) : Nat → TreeNode → Nat → String
  | 0, _, _ => ""
  | fuel + 1, n, indent =>
    line n indent ++ String.join ((t.children n.id).map fun c => renderNode t fuel c (indent + 1))

/-- The tree as text, one line per node, children indented below parents. -/
def render (t : ExecutionTree) : String :=
  "\nExecution Tree:\n\n" ++ String.join ((t.roots).map fun r => t.renderNode (t.len + 1) r 0)

end ExecutionTree

end Flowline
