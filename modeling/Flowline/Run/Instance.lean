import Flowline.Flow.Node
import Flowline.Data.Path
import Flowline.Run.Time
set_option autoImplicit false

/-!
# Instances and executions

An execution is a tree of instances. Each instance runs one block of nodes:
the root flow, a sub-flow, a branch arm, a loop (whose block is its
controller) or one iteration of a loop's actions. An instance records the
steps it ran and holds the state it wrote; reads fall back to its
ancestors, so a child sees what its parents wrote unless it wrote the same
path itself.

Instances are kept in creation order, with an index from identifiers to
positions. Identifiers are unique when created through `Execution.spawn`; a
stored execution may repeat one, and then its index, rebuilt as it is read,
records the later instance, the one `Execution.get?` finds.

`Execution.lineage` walks parent links from an instance to the root. The
walk stops once it is longer than the depth of the instance it reached plus
one, so a tampered parent link cannot make it run forever.
-/

namespace Flowline

/-- The lifecycle of an instance. -/
inductive InstanceStatus where
  | running
  | paused
  | completed
  | failed
  | cancelled
  deriving Inhabited, BEq, Repr, DecidableEq

namespace InstanceStatus

/-- The lower-case name. -/
def name : InstanceStatus → String
  | .running => "running"
  | .paused => "paused"
  | .completed => "completed"
  | .failed => "failed"
  | .cancelled => "cancelled"

/-- Every status, in declaration order. -/
def all : List InstanceStatus := [.running, .paused, .completed, .failed, .cancelled]

/-- Whether the instance can no longer change. -/
def isTerminal : InstanceStatus → Bool
  | .completed | .failed | .cancelled => true
  | _ => false

end InstanceStatus

/-- Why an instance exists relative to its parent. -/
inductive BranchType where
  /-- The root instance. -/
  | main
  /-- A sub-flow. -/
  | sequence
  /-- A loop; it records its controller's steps. -/
  | loop
  /-- One iteration of a loop's actions. -/
  | loopActions
  /-- A branch arm, named after the edge that selected it. -/
  | edge (name : String)
  deriving Inhabited, BEq, Repr

namespace BranchType

/-- The written name. -/
def name : BranchType → String
  | .main => "main"
  | .sequence => "sequence"
  | .loop => "loop"
  | .loopActions => "loop-actions"
  | .edge e => e

/-- Reads a written name; any other name is an edge. -/
def ofName (s : String) : BranchType :=
  if s == "main" then .main
  else if s == "sequence" then .sequence
  else if s == "loop" then .loop
  else if s == "loop-actions" then .loopActions
  else .edge s

end BranchType

/-- The status of a recorded step. -/
inductive StepStatus where
  /-- Suspended, waiting for a resume value. -/
  | paused
  /-- Exited through an edge. -/
  | completed
  /-- Failed; the record holds the failure. -/
  | failed
  deriving Inhabited, BEq, Repr, DecidableEq

/-- The lower-case name of a step status. -/
def StepStatus.name : StepStatus → String
  | .paused => "paused"
  | .completed => "completed"
  | .failed => "failed"

/-- The edge a node exited through, and its value. -/
structure StepOutput where
  edges : List String
  value : Value
  deriving Inhabited

namespace StepOutput

/-- An output through one edge. -/
def make (edge : String) (value : Value) : StepOutput := ⟨[edge], value⟩

/-- The output handed to an `error` branch for a failure. -/
def ofFailure (f : Failure) : StepOutput := make "error" f.toValue

/-- The edge taken, or `""` if none. -/
def edge (o : StepOutput) : String := o.edges.head?.getD ""

/-- The stored form, `{edges, value}`. -/
def toValue (o : StepOutput) : Value :=
  Value.object [("edges", Value.strs o.edges), ("value", o.value)]

end StepOutput

/-- The members of an optional value, present only when it is set. -/
def optionalMember {α : Type} (key : String) (f : α → Value) : Option α → List (String × Value)
  | some a => [(key, f a)]
  | none => []

/-- The written form of the step node a record was made for. -/
def recordedNode (n : FlowNode) : Value :=
  match n.toValue with
  | .ok v => v
  | .error _ => .null

/-- The audit entry of one step run. -/
structure StepRecord where
  /-- The node that ran. -/
  node : FlowNode
  /-- Where the node sits in the definition, such as `1.true.0`. -/
  path : String
  /-- The identifier the node resolved to, or its reference when it did not. -/
  stepId : String
  /-- The position of the record in the run order of the execution. -/
  sequence : Nat := 0
  status : StepStatus
  output : Option StepOutput := none
  error : Option Failure := none
  logs : List String := []
  /-- Values the step published while running. -/
  emitted : List Value := []
  startedAt : Timestamp
  finishedAt : Option Timestamp := none
  deriving Inhabited

namespace StepRecord

/-- The payload of a `flowStep` event. -/
def summary (r : StepRecord) : Value :=
  Value.object [("path", .str r.path), ("stepId", .str r.stepId), ("status", .str r.status.name),
    ("output", (r.output.map StepOutput.toValue).getD .null), ("emitted", .arr r.emitted)]

/-- The stored form; empty logs and emitted values are left out. -/
def toValue (r : StepRecord) : Value :=
  Value.object <|
    [("node", recordedNode r.node), ("path", .str r.path), ("stepId", .str r.stepId),
      ("sequence", .ofNat r.sequence), ("status", .str r.status.name),
      ("startedAt", .str r.startedAt.rfc3339)] ++
    optionalMember "output" StepOutput.toValue r.output ++
    optionalMember "error" Failure.toValue r.error ++
    (if r.logs.isEmpty then [] else [("logs", Value.strs r.logs)]) ++
    (if r.emitted.isEmpty then [] else [("emitted", .arr r.emitted)]) ++
    optionalMember "finishedAt" (fun t => .str t.rfc3339) r.finishedAt

end StepRecord

/-- One node of the execution tree. -/
structure FlowInstance where
  id : String
  parentId : Option String := none
  /-- The number of ancestors. -/
  depth : Nat := 0
  branchType : BranchType
  /-- The iteration number of a loop-actions instance. -/
  iteration : Option Nat := none
  status : InstanceStatus := .running
  steps : List StepRecord := []
  result : Option Value := none
  error : Option Failure := none
  /-- What this instance wrote; reads fall back to its ancestors. -/
  state : Value := Value.empty
  startedAt : Timestamp
  finishedAt : Option Timestamp := none
  deriving Inhabited

/-- The stored form of an instance; absent options are left out. -/
def FlowInstance.toValue (i : FlowInstance) : Value :=
  Value.object <|
    [("id", .str i.id), ("depth", .ofNat i.depth), ("branchType", .str i.branchType.name),
      ("status", .str i.status.name), ("steps", .arr (i.steps.map StepRecord.toValue)),
      ("state", i.state), ("startedAt", .str i.startedAt.rfc3339)] ++
    optionalMember "parentId" Value.str i.parentId ++
    optionalMember "iteration" Value.ofNat i.iteration ++
    optionalMember "result" (fun v => v) i.result ++
    optionalMember "error" Failure.toValue i.error ++
    optionalMember "finishedAt" (fun t => .str t.rfc3339) i.finishedAt

/-- Changes the last element that satisfies `p`. -/
def modifyLast {α : Type} (p : α → Bool) (f : α → α) (xs : List α) : List α :=
  (go xs.reverse).reverse
where
  /-- Changes the first element that satisfies `p`. -/
  go : List α → List α
    | [] => []
    | x :: rest => if p x then f x :: rest else x :: go rest

theorem Execution.map_modifyLast_go {α β : Type} (key : α → β) {p : α → Bool} {f : α → α}
    (hf : ∀ a, key (f a) = key a) : ∀ l : List α, (modifyLast.go p f l).map key = l.map key
  | [] => rfl
  | x :: rest => by
    by_cases hx : p x = true
    · simp [modifyLast.go, hx, hf]
    · simp [modifyLast.go, hx, Execution.map_modifyLast_go key hf rest]

/-- What a change keeps of every element, it keeps of the list. -/
theorem map_modifyLast {α β : Type} {p : α → Bool} (f : α → α) (key : α → β)
    (hf : ∀ a, key (f a) = key a) (l : List α) : (modifyLast p f l).map key = l.map key := by
  rw [modifyLast, List.map_reverse, Execution.map_modifyLast_go key hf, List.map_reverse,
    List.reverse_reverse]

/-- Where each instance sits in an execution, by identifier: an association
list standing for a hash map, the newest entry of an identifier first. -/
abbrev IdIndex := List (String × Nat)

namespace IdIndex

/-- The position recorded for an identifier. -/
def find? (ix : IdIndex) (id : String) : Option Nat :=
  (List.find? (·.1 == id) ix).map (·.2)

/-- Records a position for an identifier, in place of any recorded before. -/
def insert (ix : IdIndex) (id : String) (n : Nat) : IdIndex := (id, n) :: ix

/-- The index of identifiers listed in order, each at its position; an
identifier listed twice is recorded at its later position. -/
def build (ids : List String) : IdIndex :=
  ids.zipIdx.foldl (fun ix p => ix.insert p.1 p.2) []

/-- Building the index of one identifier more records it at the end. -/
theorem build_append (ids : List String) (id : String) :
    build (ids ++ [id]) = (build ids).insert id ids.length := by
  simp [build, List.zipIdx_append, List.foldl_append]

end IdIndex

/-- All instances of one execution, in creation order, with the index of
their identifiers. The root's identifier is the execution's identifier. -/
structure Execution where
  rootId : String
  instances : List FlowInstance
  /-- The position of each instance, by identifier. -/
  index : IdIndex
  /-- The index is the one the instances give: `spawn` keeps it so as it
  adds an instance, and a stored execution is read back with it rebuilt. -/
  indexed : index = IdIndex.build (instances.map (·.id))

namespace Execution

/-- An execution of the given instances, its index built from them. -/
def ofInstances (rootId : String) (instances : List FlowInstance) : Execution :=
  ⟨rootId, instances, IdIndex.build (instances.map (·.id)), rfl⟩

instance : Inhabited Execution := ⟨ofInstances "" []⟩

/-- An execution holding only its root instance; a seed that is not an
object gives an empty state. -/
def create (rootId : String) (seed : Value) (now : Timestamp) : Execution :=
  let state := if seed.isObject then seed else Value.empty
  ofInstances rootId [{ id := rootId, branchType := .main, state := state, startedAt := now }]

/-- The instance at the position the index records for an identifier. -/
def get? (e : Execution) (id : String) : Option FlowInstance :=
  (e.index.find? id).bind fun n => e.instances[n]?

/-- Whether the index records an identifier. -/
def has (e : Execution) (id : String) : Bool := (e.index.find? id).isSome

/-- The root instance. -/
def root? (e : Execution) : Option FlowInstance := e.get? e.rootId

/-- Adds an instance at the end and records its position. -/
def push (e : Execution) (c : FlowInstance) : Execution :=
  ⟨e.rootId, e.instances ++ [c], e.index.insert c.id e.instances.length, by
    rw [e.indexed, List.map_append, List.map_singleton, IdIndex.build_append, List.length_map]⟩

/-- Changes the instance with an identifier, the later one if it repeats;
nothing happens when there is none. The change never touches the identifier,
which the index is keyed on. -/
def modify (e : Execution) (id : String) (f : FlowInstance → FlowInstance) : Execution :=
  ⟨e.rootId, modifyLast (·.id == id) (fun i => { f i with id := i.id }) e.instances, e.index, by
    rw [e.indexed]
    exact congrArg IdIndex.build
      (map_modifyLast (fun i => { f i with id := i.id }) (·.id) (fun _ => rfl) e.instances).symm⟩

/-- Changes the instance with an identifier, which must exist. -/
def require (e : Execution) (id : String) (f : FlowInstance → FlowInstance) :
    Except FlowError Execution :=
  if e.has id then .ok (e.modify id f)
  else .error (.corruptCursor s!"unknown instance '{id}'")

/-- The number of step records of every instance. -/
def stepCount (e : Execution) : Nat := e.instances.foldl (fun n i => n + i.steps.length) 0

/-- Every step record, instance by instance in creation order. -/
def stepRecords (e : Execution) : List StepRecord := e.instances.flatMap (·.steps)

/-- `candidate`, or with the first suffix `-2`, `-3`, … that is free. -/
def freshId (e : Execution) (candidate : String) : String :=
  if e.has candidate then go 2 e.instances.length else candidate
where
  /-- Tries suffix `n`; `budget` more attempts remain. Among more suffixes
  than there are instances one is free, so the budget is never spent. -/
  go (n : Nat) : Nat → String
    | 0 => s!"{candidate}-{n}"
    | budget + 1 =>
      let id := s!"{candidate}-{n}"
      if e.has id then go (n + 1) budget else id

/-- Adds an instance one level below `parentId`, in place. The parent and
the identifier are checked first; the execution after the call comes back
with the new instance or with the reason there is none. -/
def spawn (e : Execution) (parentId id : String) (branchType : BranchType)
    (iteration : Option Nat) (now : Timestamp) : EStateM.Result FlowError Execution FlowInstance :=
  go.run e
where
  /-- The call, on the execution it changes. -/
  go : EStateM FlowError Execution FlowInstance := do
    let some parent := (← get).get? parentId
      | throw (.corruptCursor s!"unknown parent '{parentId}'")
    if (← get).has id then throw (.duplicateId id)
    let child : FlowInstance :=
      { id := id, parentId := some parentId, depth := parent.depth + 1,
        branchType := branchType, iteration := iteration, startedAt := now }
    set ((← get).push child)
    pure child

/-- The largest depth of any instance. -/
def maxDepth (e : Execution) : Nat := e.instances.foldl (fun m i => max m i.depth) 0

/-- The instance followed by its ancestors up to the root. -/
def lineage (e : Execution) (id : String) : List FlowInstance :=
  walk (e.maxDepth + 2) [] (e.get? id)
where
  /-- Extends `chain` from `current`; `fuel` bounds the length, which the
  depth check reaches first. -/
  walk : Nat → List FlowInstance → Option FlowInstance → List FlowInstance
    | 0, chain, _ => chain
    | _, chain, none => chain
    | fuel + 1, chain, some i =>
      let chain := chain ++ [i]
      if chain.length > i.depth + 1 then chain
      else walk fuel chain (i.parentId.bind e.get?)

/-- The direct children of an instance, in creation order. -/
def children (e : Execution) (id : String) : List FlowInstance :=
  e.instances.filter (·.parentId == some id)

/-- The value at a state path as an instance sees it. -/
def lookup (e : Execution) (id path : String) : Option Value :=
  (e.lineage id).findSome? fun i => getPath i.state path

/-- Writes a state path in an instance. -/
def setState (e : Execution) (id path : String) (value : Value) : Execution :=
  e.modify id fun i => { i with state := setPath i.state path value }

/-- Writes a state path in the root instance, where every instance sees it. -/
def setShared (e : Execution) (path : String) (value : Value) : Execution :=
  e.setState e.rootId path value

/-- Removes a state path from an instance, giving what was there. -/
def removeState (e : Execution) (id path : String) : Execution × Option Value :=
  match e.get? id with
  | none => (e, none)
  | some i =>
    let (state, removed) := removePath i.state path
    match removed with
    | none => (e, none)
    | some v => (e.modify id fun j => { j with state := state }, some v)

/-- Everything an instance sees: the states of its lineage merged, the root
first. -/
def snapshot (e : Execution) (id : String) : Value :=
  (e.lineage id).reverse.foldl (fun merged i => deepMerge merged i.state) Value.empty

/-- The stored form, `{rootId, instances}`. -/
def toValue (e : Execution) : Value :=
  Value.object [("rootId", .str e.rootId), ("instances", .arr (e.instances.map FlowInstance.toValue))]

end Execution

end Flowline
