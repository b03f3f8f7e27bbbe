import Flowline.Proofs.Edges
set_option autoImplicit false

/-!
# The calls a walk makes

`Engine.Calls` relates a call of the walk to each call it makes: a block
runs its nodes one after the other, a sub-flow or an arm runs a block in a
child instance, and a loop runs rounds of its controller's block and its
actions' block. The relation leaves out the instances the calls run in and
what the execution holds, so it relates a call to every call it makes in some
state; only where a block goes on with a node's output does it ask that the
node can give that output.

From the root of a definition every call keeps to validation's entries
(`Engine.Calls.placed_of_root`): each node sits in a block the validation walk
goes through, and is handed an output its entry admits, or a failure it
takes. At a branch that has no arm for the edge it is handed, the entry is
then unknown or validation warned of the branch or of the edge
(`Engine.calls_foreseen`).
-/

namespace Flowline

/-- A call of the walk with what it is handed, leaving out the instance it
runs in. -/
inductive WalkCall where
  /-- `runBlock`, also as `runChild` runs it in a child instance. -/
  | block (nodes : List FlowNode) (base : String) (entry : Option StepOutput)
      (resume : Option Resume)
  /-- `blockFrom`. -/
  | blockFrom (nodes : List FlowNode) (base : String) (index : Nat) (previous : Option StepOutput)
      (nested : Option Resume)
  /-- `runNode` at `path`. -/
  | node (node : FlowNode) (path : String) (previous : Option StepOutput) (resuming : Option Resume)
  /-- `loopRound`. -/
  | round (controller : FlowNode) (actions : List FlowNode) (controllerBase actionsBase path : String)
      (iteration : Nat) (controllerOutput : Option StepOutput) (pending : Option (LoopPhase × Resume))
  /-- `loopFollow`. -/
  | follow (controller : FlowNode) (actions : List FlowNode) (controllerBase actionsBase path : String)
      (iteration : Nat) (pending : Option (LoopPhase × Resume))
      (decided : Sum Outcome (Option StepOutput))

/-! ## Nodes validation walks -/

/-- The blocks a node opens are smaller than the node. -/
theorem FlowNode.Opens.sizeOf_lt {node : FlowNode} {path : String} {entry : Entry} {c : Block}
    (h : node.Opens path entry c) : sizeOf c.nodes < sizeOf node := by
  cases h with
  | sequence => simp
  | @controller controller actions =>
    have := Engine.sizeOf_controller_lt controller actions
    simp only [FlowNode.loop.sizeOf_spec]
    omega
  | actions => simp only [FlowNode.loop.sizeOf_spec, List.cons.sizeOf_spec]; omega
  | arm hmem => exact Engine.sizeOf_armNodes_lt hmem

namespace Block

variable (reg : Registry) (root : Block)

/-- `node` sits at `path` in a block the validation walk from `root` goes
through, and `entry` is the entry validation threads to it. -/
def Places (node : FlowNode) (path : String) (entry : Entry) : Prop :=
  ∃ (b : Block) (index : Nat), Inside reg root b ∧ b.nodes[index]? = some node ∧
    path = nodePath b.base index ∧ entry = b.entryAt reg index

variable {reg root}

/-- Every node of a block walked from `root` is placed there. -/
theorem places_of_inside {b : Block} (h : Inside reg root b) {index : Nat} {node : FlowNode}
    (hnode : b.nodes[index]? = some node) :
    root.Places reg node (nodePath b.base index) (b.entryAt reg index) :=
  ⟨b, index, h, hnode, rfl, rfl⟩

/-- The blocks the walk of `root` reaches are no larger than it. -/
theorem Inside.sizeOf_le {b : Block} (h : Inside reg root b) : sizeOf b.nodes ≤ sizeOf root.nodes := by
  induction h with
  | refl => exact le_rfl
  | tail _ hchild ih =>
    obtain ⟨index, node, hnode, hopens⟩ := hchild
    have := Engine.sizeOf_lt_of_getElem? hnode
    have := hopens.sizeOf_lt
    omega

/-- The blocks a placed node opens are walked too. -/
theorem Places.inside {node : FlowNode} {path : String} {entry : Entry} {c : Block}
    (h : root.Places reg node path entry) (ho : node.Opens path entry c) : Inside reg root c := by
  obtain ⟨b, index, hin, hnode, rfl, rfl⟩ := h
  exact hin.tail ⟨index, node, hnode, ho⟩

end Block

/-- What a call of the walk from `root` keeps to: its block is one the
validation walk goes through, its node is handed an output the node's entry
lets it receive, and the cursor it follows is admitted there. -/
def WalkCall.Placed (reg : Registry) (root : Block) : WalkCall → Prop
  | .block nodes base entry resume => ∃ E : Entry, Block.Inside reg root ⟨nodes, base, E⟩ ∧
      E.Admits entry ∧ ∀ r, resume = some r → Frame.Admitted reg r.value.edge ⟨nodes, base, E⟩ r.frames
  | .blockFrom nodes base index previous nested => ∃ E : Entry,
      Block.Inside reg root ⟨nodes, base, E⟩ ∧ ∀ n, nodes[index]? = some n →
        (Block.entryAt reg ⟨nodes, base, E⟩ index).Receives n previous ∧
        ∀ r, nested = some r → Frame.AdmittedNode reg r.value.edge n (nodePath base index)
          (Block.entryAt reg ⟨nodes, base, E⟩ index) previous r.frames
  | .node n path previous resuming => ∃ E : Entry, root.Places reg n path E ∧
      E.Receives n previous ∧
      ∀ r, resuming = some r → Frame.AdmittedNode reg r.value.edge n path E previous r.frames
  | .round controller actions controllerBase actionsBase path _ _ pending
  | .follow controller actions controllerBase actionsBase path _ pending _ => ∃ E : Entry,
      root.Places reg (.loop (controller :: actions)) path E ∧
      controllerBase = s!"{path}.controller" ∧ actionsBase = s!"{path}.actions" ∧
      Engine.PendingAdmitted reg controller actions path pending

/-! ## The call relation -/

namespace Engine

/-- `Calls eng c c'`: the walk of `eng`, with the engine's own steps, makes
call `c'` while running call `c`, in some state. -/
inductive Calls (eng : Engine) : WalkCall → WalkCall → Prop where
  /-- A block entered afresh runs from its first node. -/
  | enter {nodes : List FlowNode} {base : String} {entry : Option StepOutput} :
      Calls eng (.block nodes base entry none) (.blockFrom nodes base 0 entry none)
  /-- A block resumed at its suspended step goes on after it with the resume's
  output. -/
  | resumeStep {nodes : List FlowNode} {base : String} {entry : Option StepOutput} {r : Resume}
      {x : String} {index : Nat} {before : Option StepOutput}
      (hframes : r.frames = [.block x index before]) :
      Calls eng (.block nodes base entry (some r))
        (.blockFrom nodes base (succ64 index) (some r.value) none)
  /-- A block resumed further down re-enters the node its frame names. -/
  | resumeDown {nodes : List FlowNode} {base : String} {entry : Option StepOutput} {r : Resume}
      {x : String} {index : Nat} {before : Option StepOutput} {rest : List Frame}
      (hframes : r.frames = .block x index before :: rest) (hrest : rest ≠ []) :
      Calls eng (.block nodes base entry (some r))
        (.blockFrom nodes base index before (some ⟨rest, r.value⟩))
  /-- A block runs its node. -/
  | run {nodes : List FlowNode} {base : String} {index : Nat} {previous : Option StepOutput}
      {nested : Option Resume} {node : FlowNode} (hnode : nodes[index]? = some node) :
      Calls eng (.blockFrom nodes base index previous nested)
        (.node node (nodePath base index) previous nested)
  /-- A block goes on with the node's output, or what the node was handed. -/
  | next {nodes : List FlowNode} {base : String} {index : Nat} {previous : Option StepOutput}
      {nested : Option Resume} {node : FlowNode} {output : Option StepOutput}
      (hnode : nodes[index]? = some node)
      (hdone : ∃ id e w e' w', execIn (eng.runNode eng.runStep id node index (nodePath base index)
        previous nested) e w = (.ok (.done output, e'), w')) :
      Calls eng (.blockFrom nodes base index previous nested)
        (.blockFrom nodes base (index + 1) (match output with | some o => some o | none => previous)
          none)
  /-- A block hands a failure on to a next node that takes failures. -/
  | absorb {nodes : List FlowNode} {base : String} {index : Nat} {previous : Option StepOutput}
      {nested : Option Resume} (failure : Failure) (habsorbs : absorbsErrors nodes[index + 1]? = true) :
      Calls eng (.blockFrom nodes base index previous nested)
        (.blockFrom nodes base (index + 1) (some (StepOutput.ofFailure failure)) none)
  /-- A sub-flow runs its children. -/
  | sequence {children : List FlowNode} {path : String} {previous : Option StepOutput}
      {resuming : Option Resume} :
      Calls eng (.node (.sequence children) path previous resuming)
        (.block children path previous resuming)
  /-- A branch runs the arm of the edge it is handed. -/
  | arm {arms : List (String × FlowNode)} {path : String} {previous : Option StepOutput}
      {resuming : Option Resume} {edge arm : String} {target : FlowNode}
      (hedge : (previous.map StepOutput.edge).getD "" = edge)
      (hfound : arms.find? (·.1 == edge) = some (arm, target)) :
      Calls eng (.node (.branch arms) path previous resuming)
        (.block (armNodes target) s!"{path}.{edge}" previous resuming)
  /-- A loop entered afresh starts its rounds. -/
  | loop {controller : FlowNode} {actions : List FlowNode} {path : String}
      {previous : Option StepOutput} :
      Calls eng (.node (.loop (controller :: actions)) path previous none)
        (.round controller actions s!"{path}.controller" s!"{path}.actions" path 0 none none)
  /-- A loop resumed re-enters the round its frame names. -/
  | resumeLoop {controller : FlowNode} {actions : List FlowNode} {path : String}
      {previous : Option StepOutput} {r : Resume} {x : String} {iteration : Nat}
      {output : Option StepOutput} {phase : LoopPhase} {rest : List Frame}
      (hframes : r.frames = .loop x iteration output phase :: rest) :
      Calls eng (.node (.loop (controller :: actions)) path previous (some r))
        (.round controller actions s!"{path}.controller" s!"{path}.actions" path iteration output
          (some (phase, ⟨rest, r.value⟩)))
  /-- A round runs the controller's block. -/
  | controller {controller : FlowNode} {actions : List FlowNode}
      {controllerBase actionsBase path : String} {iteration : Nat}
      {controllerOutput : Option StepOutput} {pending : Option (LoopPhase × Resume)} :
      Calls eng (.round controller actions controllerBase actionsBase path iteration controllerOutput
        pending) (.block [controller] controllerBase controllerOutput (controllerResume? pending))
  /-- A round acts on what it decided. -/
  | decides {controller : FlowNode} {actions : List FlowNode}
      {controllerBase actionsBase path : String} {iteration : Nat}
      {controllerOutput : Option StepOutput} {pending : Option (LoopPhase × Resume)}
      (decided : Sum Outcome (Option StepOutput)) :
      Calls eng (.round controller actions controllerBase actionsBase path iteration controllerOutput
        pending) (.follow controller actions controllerBase actionsBase path iteration pending decided)
  /-- A controller output through `continue` runs the actions' block. -/
  | actions {controller : FlowNode} {actions : List FlowNode}
      {controllerBase actionsBase path : String} {iteration : Nat}
      {pending : Option (LoopPhase × Resume)} {controllerOutput : Option StepOutput}
      (hcont : (controllerOutput.map StepOutput.edge).getD "" = "continue") :
      Calls eng (.follow controller actions controllerBase actionsBase path iteration pending
        (.inr controllerOutput)) (.block actions actionsBase controllerOutput (actionsResume? pending))
  /-- A controller output through `continue` goes on to the next round. -/
  | again {controller : FlowNode} {actions : List FlowNode}
      {controllerBase actionsBase path : String} {iteration : Nat}
      {pending : Option (LoopPhase × Resume)} {controllerOutput : Option StepOutput} :
      Calls eng (.follow controller actions controllerBase actionsBase path iteration pending
        (.inr controllerOutput))
        (.round controller actions controllerBase actionsBase path (succ64 iteration) controllerOutput
          none)

variable {eng : Engine} {reg : Registry} {root : Block}

/-- A placed block runs its first node, and a cursor's frame re-enters one of its nodes, placed. -/
theorem Calls.placed {c c' : WalkCall} (h : Calls eng c c') (heng : eng.registry = reg)
    (hsize : sizeOf root.nodes < Nat.pow 2 64) (hc : c.Placed reg root) : c'.Placed reg root := by
  cases h with
  | enter =>
    obtain ⟨E, hin, hentry, -⟩ := hc
    exact ⟨E, hin, fun _ _ => ⟨.inl hentry, fun _ h => by cases h⟩⟩
  | @resumeStep nodes base entry r x index before hframes =>
    obtain ⟨E, hin, -, hres⟩ := hc
    have hadm := hres r rfl
    rw [hframes] at hadm
    -- the resumed step declares the edge its output goes through
    cases hadm with
    | leaf _ hpass => exact ⟨E, hin, fun _ _ => ⟨.inl (Entry.Passes.admits hpass), fun _ h => by cases h⟩⟩
    | down _ _ hnext => exact absurd rfl hnext.ne_nil
  | @resumeDown nodes base entry r x index before rest hframes hrest =>
    obtain ⟨E, hin, -, hres⟩ := hc
    have hadm := hres r rfl
    rw [hframes] at hadm
    cases hadm with
    | leaf => exact absurd rfl hrest
    | down hnode hrec hnext =>
      refine ⟨E, hin, fun node h => ?_⟩
      rw [hnode] at h
      cases h
      exact ⟨hrec, fun r' h => by cases h; exact hnext⟩
  | run hnode =>
    obtain ⟨E, hin, hpre⟩ := hc
    obtain ⟨hrec, hnested⟩ := hpre _ hnode
    exact ⟨_, Block.places_of_inside hin hnode, hrec, hnested⟩
  | @next nodes base index previous nested node output hnode hdone =>
    subst heng
    obtain ⟨E, hin, hpre⟩ := hc
    obtain ⟨hrec, hnested⟩ := hpre node hnode
    obtain ⟨id, e, w, e', w', hrun⟩ := hdone
    -- the node's output is one the entry after it allows
    have hnodeSize : sizeOf node < Nat.pow 2 64 := by
      have := Engine.sizeOf_lt_of_getElem? hnode
      have := hin.sizeOf_le
      dsimp only at this
      omega
    have hyields := ((walk_admits (runStep_declares eng) (runStep_pauses eng)).2.2.1 id node index
      (nodePath base index) previous nested hnodeSize _ hrec hnested e w _ e' w' hrun).1 output rfl
    have hentry : Block.entryAt eng.registry ⟨nodes, base, E⟩ (index + 1) =
        Entry.after eng.registry node (nodePath base index) := by
      simp only [Block.entryAt, hnode]
      rfl
    refine ⟨E, hin, fun _ _ => ⟨.inl ?_, fun _ h => by cases h⟩⟩
    rw [hentry]
    cases output <;> exact hyields.admits previous
  | absorb failure habsorbs =>
    obtain ⟨E, hin, -⟩ := hc
    refine ⟨E, hin, fun node hnode => ⟨.inr ⟨by simp, ?_⟩, fun _ h => by cases h⟩⟩
    rwa [hnode] at habsorbs
  | sequence =>
    obtain ⟨E, hplace, hrec, hres⟩ := hc
    -- a sub-flow takes no failures, so it is handed an admitted output
    refine ⟨E, hplace.inside .sequence, hrec.resolve_right fun h => by simp [absorbsErrors] at h,
      fun r h => ?_⟩
    cases hres r h with
    | sequence hadm => exact hadm
  | @arm arms path previous resuming edge arm target hedge hfound =>
    obtain ⟨E, hplace, -, hres⟩ := hc
    -- the arm taken is the one named by the edge the branch is handed
    have harm : arm = edge := by
      simpa using List.find?_some hfound
    subst harm
    have hopen : (FlowNode.branch arms).Opens path E
        ⟨armNodes target, s!"{path}.{arm}", .edges s!"branch {path}" [arm]⟩ :=
      .arm (List.mem_of_find?_eq_some hfound)
    refine ⟨_, hplace.inside hopen, by simp [Entry.Admits, hedge], fun r h => ?_⟩
    cases hres r h with
    | branch hfound' hadm =>
      rw [hedge, hfound] at hfound'
      cases hfound'
      exact hadm
  | loop =>
    obtain ⟨E, hplace, -⟩ := hc
    exact ⟨E, hplace, rfl, rfl, fun _ h => (by cases h), fun _ h => (by cases h)⟩
  | @resumeLoop controller actions path previous r x iteration output phase rest hframes =>
    obtain ⟨E, hplace, -, hres⟩ := hc
    have hadm := hres r rfl
    rw [hframes] at hadm
    refine ⟨E, hplace, rfl, rfl, ?_⟩
    -- the cursor re-enters the controller or the actions, as its frame says
    cases hadm with
    | loop hloop =>
      cases hloop with
      | controller hc => exact ⟨fun r' h => (by cases h; exact hc), fun _ h => (by cases h)⟩
      | actions _ ha => exact ⟨fun _ h => (by cases h), fun r' h => (by cases h; exact ha)⟩
  | controller =>
    obtain ⟨E, hplace, rfl, -, hpending, -⟩ := hc
    exact ⟨.unknown, hplace.inside .controller, trivial, hpending⟩
  | decides decided =>
    exact hc
  | actions hcont =>
    obtain ⟨E, hplace, -, rfl, -, hpending⟩ := hc
    exact ⟨_, hplace.inside .actions, by simp [Entry.Admits, hcont], hpending⟩
  | again =>
    obtain ⟨E, hplace, hcb, hab, -⟩ := hc
    exact ⟨E, hplace, hcb, hab, fun _ h => (by cases h), fun _ h => (by cases h)⟩

/-- Every call the walk reaches from a placed call is placed. -/
theorem Calls.placed_of_reaches {c c' : WalkCall} (heng : eng.registry = reg)
    (hsize : sizeOf root.nodes < Nat.pow 2 64)
    (h : Relation.ReflTransGen (Calls eng) c c') (hc : c.Placed reg root) : c'.Placed reg root := by
  induction h with
  | refl => exact hc
  | tail _ hstep ih => exact hstep.placed heng hsize ih

/-- The walk of a definition's nodes, fresh or along a cursor admitted from
their start, calls only placed calls. -/
theorem Calls.placed_of_root {nodes : List FlowNode} {resume : Option Resume} {c : WalkCall}
    (heng : eng.registry = reg) (hsize : sizeOf nodes < Nat.pow 2 64)
    (hres : ∀ r, resume = some r → Frame.Admitted reg r.value.edge ⟨nodes, "", .start⟩ r.frames)
    (h : Relation.ReflTransGen (Calls eng) (.block nodes "" none resume) c) :
    c.Placed reg ⟨nodes, "", .start⟩ :=
  placed_of_reaches heng hsize h ⟨.start, .refl, rfl, hres⟩

end Engine

/-! ## Branches validation foresees -/

/-- A branch whose arms miss the edge of an output its entry admits has an
entry validation does not know, or `uncovered` names the branch or the
edge. -/
theorem Entry.uncovered_of_admits {E : Entry} {previous : Option StepOutput} (h : E.Admits previous)
    {arms : List (String × FlowNode)}
    (hnone : arms.find? (·.1 == (previous.map StepOutput.edge).getD "") = none) (path : String) :
    E = .unknown ∨ .branchWithoutSource path ∈ uncovered arms path E ∨
      ∃ source, .uncoveredEdge path source ((previous.map StepOutput.edge).getD "") ∈
        uncovered arms path E := by
  cases E with
  | start => exact .inr (.inl (List.mem_singleton_self _))
  | unknown => exact .inl rfl
  | edges source names =>
    refine .inr (.inr ⟨source, List.mem_map.2 ⟨_, List.mem_filter.2 ⟨h, ?_⟩, rfl⟩⟩)
    simpa [List.find?_eq_none] using hnone

/-- What validation's report foresees of a branch at `path`, handed
`previous`, on a walk from `root`: the branch is one validation walks; the
output is one its entry admits, or a failure for a branch that takes
failures; and when no arm takes the output's edge, the entry is unknown or
the report warns of the branch or of the edge. -/
def ValidationReport.Foresees (report : ValidationReport) (reg : Registry) (root : Block)
    (arms : List (String × FlowNode)) (path : String) (previous : Option StepOutput) : Prop :=
  ∃ E : Entry, root.Places reg (.branch arms) path E ∧ E.Receives (.branch arms) previous ∧
    (arms.find? (·.1 == (previous.map StepOutput.edge).getD "") = none →
      E = .unknown ∨ Issue.branchWithoutSource path ∈ report.warnings ∨
        ∃ source, Issue.uncoveredEdge path source ((previous.map StepOutput.edge).getD "") ∈
          report.warnings)

namespace Engine

variable {eng : Engine} {reg : Registry}

/-- On the walk of a valid definition's nodes, fresh or along a cursor
admitted from their start, every branch called is foreseen by the report. -/
theorem calls_foreseen {d : FlowDefinition} {config : EngineConfig}
    (hvalid : (Logged.collect (validateFlow d reg config)).1.valid = true) (heng : eng.registry = reg)
    (hsize : sizeOf d.nodes < Nat.pow 2 64) {resume : Option Resume}
    (hres : ∀ r, resume = some r → Frame.Admitted reg r.value.edge ⟨d.nodes, "", .start⟩ r.frames)
    {arms : List (String × FlowNode)} {path : String} {previous : Option StepOutput}
    {resuming : Option Resume}
    (h : Relation.ReflTransGen (Calls eng) (.block d.nodes "" none resume)
      (.node (.branch arms) path previous resuming)) :
    (Logged.collect (validateFlow d reg config)).1.Foresees reg ⟨d.nodes, "", .start⟩ arms path
      previous := by
  obtain ⟨E, hplace, hrec, -⟩ := Calls.placed_of_root heng hsize hres h
  refine ⟨E, hplace, hrec, fun hnone => ?_⟩
  -- a failure would find the branch's `error` arm, so the output is admitted
  have hadm : E.Admits previous := hrec.resolve_right fun ⟨herr, habs⟩ => by
    rw [herr] at hnone
    simp [absorbsErrors, List.find?_eq_none] at hnone habs
    obtain ⟨a, ha⟩ := habs
    exact hnone _ _ ha rfl
  obtain ⟨b, index, hin, hnode, rfl, rfl⟩ := hplace
  have hwarns := (validateFlow_warns d reg config).collect hvalid b hin
  rcases Entry.uncovered_of_admits hadm hnone (nodePath b.base index) with hE | hi | ⟨source, hi⟩
  · exact .inl hE
  · exact .inr (.inl (hwarns _ ⟨index, arms, hnode, hi⟩))
  · exact .inr (.inr ⟨source, hwarns _ ⟨index, arms, hnode, hi⟩⟩)

end Engine

end Flowline
