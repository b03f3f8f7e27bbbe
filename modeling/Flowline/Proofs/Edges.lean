import Flowline.Proofs.Entries
import Flowline.Proofs.Resumption
set_option autoImplicit false

/-!
# The edges a walk hands on

The walk hands every node the output of the last node that gave one. This
module shows that, whatever the steps do, those outputs are the ones
validation's entries allow, node by node:

* the engine's steps exit and suspend only through edges they declare
  (`Engine.runStep_declares`), so a step's output goes through one of the
  edges `Entry.after` lists for it; a loop ends only through `exit`;
* a node handed an output its entry admits (`Entry.Receives`, which also
  lets a failure through to a branch that takes failures) hands on an output
  the entry after it allows (`Entry.Yields`);
* a suspension leaves a cursor that keeps this for the walk that resumes it
  (`Frame.Admitted`): every block frame holds an output its node's entry
  admits, and the suspended step declares the edge it is resumed through.

`Engine.walk_admits` proves the three together, over the walk's mutual
recursion.
-/

namespace Flowline

theorem Engine.nodePath_eq : Engine.nodePath = nodePath := rfl

@[simp] theorem StepOutput.edge_make (edge : String) (value : Value) :
    (StepOutput.make edge value).edge = edge := rfl

@[simp] theorem StepOutput.edge_ofFailure (f : Failure) : (StepOutput.ofFailure f).edge = "error" :=
  rfl

/-- A step declares exactly the edges it lists, or the default edge when it
lists none. -/
theorem StepDefinition.declares_iff {step : StepDefinition} {edge : String} :
    step.declares edge = true ↔ edge ∈ step.declaredEdges := by
  unfold StepDefinition.declares StepDefinition.declaredEdges
  split <;> simp

namespace Entry

/-- What a node may be handed after an entry: an output the entry admits, or
a failure, when the node is a branch that takes failures. -/
def Receives (E : Entry) (node : FlowNode) (previous : Option StepOutput) : Prop :=
  E.Admits previous ∨
    ((previous.map StepOutput.edge).getD "" = "error" ∧ absorbsErrors (some node) = true)

/-- An output through an edge that may be taken is admitted. -/
theorem Passes.admits {E : Entry} {o : StepOutput} (h : E.Passes o.edge) : E.Admits (some o) := by
  cases E with
  | start => exact absurd h id
  | unknown => trivial
  | edges source names => exact h

/-- After a step node, the entry is that of the step its reference resolves
to. -/
theorem after_of_resolve {reg : Registry} {node : FlowNode} (hstep : node.stepId?.isSome = true)
    {step : StepDefinition} (hres : reg.resolve (node.stepId?.getD "") = .ok step) (path : String) :
    Entry.after reg node path = .edges step.id step.declaredEdges := by
  cases node with
  | step id => simp only [after, hres]
  | call id params => simp only [after, hres]
  | _ => simp [FlowNode.stepId?] at hstep

end Entry

/-! ## The engine's steps exit through declared edges -/

/-- A step runner whose every exit and suspension goes through an edge of
the step that the node's reference resolves to in `reg`. -/
def StepRunner.Declares (reg : Registry) (step : StepRunner) : Prop :=
  ∀ id node path previous e w, Ensures (step id node path previous) e w fun o _ _ =>
    (∀ out, o = .done out → ∃ s o', reg.resolve (node.stepId?.getD "") = .ok s ∧ out = some o' ∧
      s.declares o'.edge = true) ∧
    ∀ fs pause, o = .suspended fs pause →
      ∃ s, reg.resolve (node.stepId?.getD "") = .ok s ∧ s.declares pause.resumeEdge = true

namespace Engine

variable (eng : Engine)

/-- Acting on a step's result, the engine exits and suspends only through
edges the step declares. -/
theorem settle_declares (id path : String) (step : StepDefinition) (limit : Option Nat)
    (attempt : StepRecord) (result : StepResult) (e : Execution) (w : World) :
    Ensures (eng.settle id path step limit attempt result) e w fun o _ _ =>
      (∀ out, o = .done out → ∃ o', out = some o' ∧ step.declares o'.edge = true) ∧
      ∀ fs pause, o = .suspended fs pause → step.declares pause.resumeEdge = true := by
  -- A failed attempt neither exits nor suspends.
  have hfail : ∀ err w, Ensures (eng.failStep id attempt err) e w fun o _ _ =>
      (∀ out, o = .done out → ∃ o', out = some o' ∧ step.declares o'.edge = true) ∧
      ∀ fs pause, o = .suspended fs pause → step.declares pause.resumeEdge = true := by
    intro err w
    refine (failStep_spec eng id attempt err e w).mono fun o _ _ h => ?_
    rw [h.1]
    exact ⟨fun _ h => (by cases h), fun _ _ h => (by cases h)⟩
  cases result with
  | timedOut =>
    rw [settle]
    exact Ensures.bind (Ensures.lift fun _ _ _ => hfail _ _)
  | finished r =>
    rcases r with se | (⟨edge, value⟩ | ⟨details, resumeEdge⟩) <;> rw [settle]
    · exact Ensures.bind (Ensures.lift fun _ _ _ => hfail _ _)
    · refine Ensures.ite (fun _ => hfail _ _) fun hdecl => ?_
      have hdecl : step.declares edge = true := by simpa using hdecl
      refine Ensures.bind (Ensures.lift fun t _ _ => ?_)
      refine Ensures.bind ((pushRecord_spec eng id _ _ _).mono fun _ _ _ _ => ?_)
      exact Ensures.pure ⟨fun _ h => (by cases h; exact ⟨_, rfl, hdecl⟩), fun _ _ h => (by cases h)⟩
    · refine Ensures.ite (fun _ => hfail _ _) fun hdecl => ?_
      have hdecl : step.declares resumeEdge = true := by simpa using hdecl
      refine Ensures.bind (Ensures.lift fun _ _ _ => ?_)
      refine Ensures.bind (Ensures.lift fun _ _ _ => ?_)
      refine Ensures.bind ((pushRecord_spec eng id _ _ _).mono fun _ _ _ _ => ?_)
      exact Ensures.pure ⟨fun _ h => (by cases h), fun _ _ h => (by cases h; exact hdecl)⟩

/-- The engine's step runner exits and suspends only through edges the step
declares, as its registry resolves it. -/
theorem runStep_declares : StepRunner.Declares eng.registry eng.runStep := by
  intro id node path previous e w
  unfold runStep runStepWith
  refine Ensures.bind (Ensures.lift fun startedAt _ _ => ?_)
  dsimp only
  have hfail : ∀ attempt err e w, Ensures (eng.failStep id attempt err) e w fun o _ _ =>
      (∀ out, o = .done out → ∃ s o', eng.registry.resolve (node.stepId?.getD "") = .ok s ∧
        out = some o' ∧ s.declares o'.edge = true) ∧
      ∀ fs pause, o = .suspended fs pause → ∃ s, eng.registry.resolve (node.stepId?.getD "") = .ok s ∧
        s.declares pause.resumeEdge = true := by
    intro attempt err e w
    refine (failStep_spec eng id attempt err e w).mono fun o _ _ h => ?_
    rw [h.1]
    exact ⟨fun _ h => (by cases h), fun _ _ h => (by cases h)⟩
  split
  · exact hfail _ _ _ _
  · rename_i step hres
    split
    · exact hfail _ _ _ _
    · refine Ensures.bind (Ensures.lift fun _ _ _ => ?_)
      refine Ensures.bind (Ensures.get ?_)
      refine Ensures.bind (Ensures.lift fun ran _ _ => ?_)
      refine Ensures.bind (Ensures.set ?_)
      refine (settle_declares eng id path step _ _ _ _ _).mono fun o _ _ h => ?_
      exact ⟨fun out ho => let ⟨o', hout, hd⟩ := h.1 out ho; ⟨step, o', hres, hout, hd⟩,
        fun fs pause ho => ⟨step, hres, h.2 fs pause ho⟩⟩

end Engine

/-! ## Cursors that validation's entries admit -/

/-- A list of nodes is shorter than its size, so a list whose size fits a
64-bit count has positions that do too. -/
theorem nodes_length_lt_sizeOf : ∀ nodes : List FlowNode, nodes.length < sizeOf nodes
  | [] => by simp
  | node :: rest => by
    have := nodes_length_lt_sizeOf rest
    simp only [List.length_cons, List.cons.sizeOf_spec]
    omega

namespace Frame

variable (reg : Registry)

mutual

/-- Frames a resume follows down block `b`, ending at the step it resumes
through `edge`: every block frame holds an output its node's entry lets the
node receive, and the step at the end declares `edge`. -/
inductive Admitted (edge : String) : Block → List Frame → Prop where
  | leaf {b : Block} {x : String} {index : Nat} {before : Option StepOutput} {node : FlowNode} :
      b.nodes[index]? = some node → (b.entryAt reg (succ64 index)).Passes edge →
      Admitted edge b [.block x index before]
  | down {b : Block} {x : String} {index : Nat} {before : Option StepOutput} {node : FlowNode}
      {rest : List Frame} :
      b.nodes[index]? = some node → (b.entryAt reg index).Receives node before →
      AdmittedNode edge node (nodePath b.base index) (b.entryAt reg index) before rest →
      Admitted edge b (.block x index before :: rest)

/-- Frames a resume follows into a node at `path`, entered with `entry` and
handed `before`: those of a sub-flow's block, of the arm that `before`
selects, or of a loop. -/
inductive AdmittedNode (edge : String) : FlowNode → String → Entry → Option StepOutput →
    List Frame → Prop where
  | sequence {children : List FlowNode} {path : String} {entry : Entry}
      {before : Option StepOutput} {rest : List Frame} :
      Admitted edge ⟨children, path, entry⟩ rest →
      AdmittedNode edge (.sequence children) path entry before rest
  | branch {arms : List (String × FlowNode)} {path : String} {entry : Entry}
      {before : Option StepOutput} {arm : String} {target : FlowNode} {rest : List Frame} :
      arms.find? (·.1 == (before.map StepOutput.edge).getD "") = some (arm, target) →
      Admitted edge ⟨armNodes target, s!"{path}.{arm}", .edges s!"branch {path}" [arm]⟩ rest →
      AdmittedNode edge (.branch arms) path entry before rest
  | loop {parts : List FlowNode} {path : String} {entry : Entry} {before : Option StepOutput}
      {rest : List Frame} :
      AdmittedLoop edge parts path rest → AdmittedNode edge (.loop parts) path entry before rest

/-- Frames a resume follows into a loop at `path`: its frame, then those of
the controller's block, or those of the actions' block, entered through
`continue`. -/
inductive AdmittedLoop (edge : String) : List FlowNode → String → List Frame → Prop where
  | controller {controller : FlowNode} {actions : List FlowNode} {path l : String}
      {iteration : Nat} {output : Option StepOutput} {rest : List Frame} :
      Admitted edge ⟨[controller], s!"{path}.controller", .unknown⟩ rest →
      AdmittedLoop edge (controller :: actions) path (.loop l iteration output .controller :: rest)
  | actions {controller : FlowNode} {actions : List FlowNode} {path l : String}
      {iteration : Nat} {output : Option StepOutput} {rest : List Frame} :
      (output.map StepOutput.edge).getD "" = "continue" →
      Admitted edge ⟨actions, s!"{path}.actions", .edges s!"loop {path}" ["continue"]⟩ rest →
      AdmittedLoop edge (controller :: actions) path (.loop l iteration output .actions :: rest)

end

variable {reg}

theorem Admitted.ne_nil {edge : String} {b : Block} {fs : List Frame} (h : Admitted reg edge b fs) :
    fs ≠ [] := by
  cases h <;> exact List.cons_ne_nil _ _

theorem AdmittedNode.ne_nil {edge : String} {node : FlowNode} {path : String} {E : Entry}
    {before : Option StepOutput} {fs : List Frame} (h : AdmittedNode reg edge node path E before fs) :
    fs ≠ [] := by
  cases h with
  | sequence h => exact h.ne_nil
  | branch _ h => exact h.ne_nil
  | loop h => cases h <;> exact List.cons_ne_nil _ _

/-- A block adds its frame to a suspension of one of its nodes: that of a
step, resumed through an edge the entry after it passes, or frames admitted
for the node. -/
theorem admitted_block {b : Block} (hsize : sizeOf b.nodes < Nat.pow 2 64) {index : Nat}
    {node : FlowNode} (hnode : b.nodes[index]? = some node) {id edge : String}
    {previous : Option StepOutput}
    (hrec : (b.entryAt reg index).Receives node previous) {fs : List Frame}
    (h : fs = [] ∧ (Entry.after reg node (nodePath b.base index)).Passes edge ∨
      AdmittedNode reg edge node (nodePath b.base index) (b.entryAt reg index) previous fs.reverse) :
    Admitted reg edge b (fs ++ [Frame.block id index previous]).reverse := by
  rw [List.reverse_append, List.reverse_singleton, List.singleton_append]
  rcases h with ⟨rfl, hpass⟩ | hnext
  · -- A position of a block smaller than a 64-bit count has a successor that does not wrap.
    have hlt : index + 1 < Nat.pow 2 64 := by
      have hindex := (List.getElem?_eq_some_iff.1 hnode).1
      have hlen := nodes_length_lt_sizeOf b.nodes
      omega
    have hentry : b.entryAt reg (succ64 index) = Entry.after reg node (nodePath b.base index) := by
      simp [succ64_of_lt hlt, Block.entryAt, hnode]
    exact .leaf hnode (hentry ▸ hpass)
  · exact .down hnode hrec hnext

end Frame

/-! ## The walk keeps to the entries -/

namespace Engine

variable (eng : Engine) (reg : Registry) (step : StepRunner)

/-- Every suspension of `m` leaves frames that, read outermost first, are
admitted for the edge its step is resumed through as `admitted` says. -/
abbrev Resumes (m : Drive Outcome) (admitted : String → List Frame → Prop) : Prop :=
  ∀ e w, Ensures m e w fun o _ _ => ∀ fs pause, o = .suspended fs pause →
    admitted pause.resumeEdge fs.reverse

/-- How a loop at `path` may end: through `exit`, or suspended with frames
admitted for it. -/
def LoopEnds (parts : List FlowNode) (path : String) (o : Outcome) : Prop :=
  (∀ out, o = .done out → (Entry.edges s!"loop {path}" ["exit"]).Yields out) ∧
    ∀ fs pause, o = .suspended fs pause → Frame.AdmittedLoop reg pause.resumeEdge parts path fs.reverse

/-- What a loop's rounds are resumed along: the controller's block, or the
actions' block. -/
def PendingAdmitted (controller : FlowNode) (actions : List FlowNode) (path : String)
    (pending : Option (LoopPhase × Resume)) : Prop :=
  (∀ r, controllerResume? pending = some r →
    Frame.Admitted reg r.value.edge ⟨[controller], s!"{path}.controller", .unknown⟩ r.frames) ∧
  ∀ r, actionsResume? pending = some r →
    Frame.Admitted reg r.value.edge ⟨actions, s!"{path}.actions", .edges s!"loop {path}" ["continue"]⟩
      r.frames

/-- A block (or a child instance running one) entered with an output its
entry admits, along a cursor admitted for it. -/
abbrev BlockAdmits (nodes : List FlowNode) (base : String) (entry : Option StepOutput)
    (resume : Option Resume) (m : Drive Outcome) : Prop :=
  sizeOf nodes < Nat.pow 2 64 → ∀ E : Entry, E.Admits entry →
    (∀ r, resume = some r → Frame.Admitted reg r.value.edge ⟨nodes, base, E⟩ r.frames) →
    Resumes m fun edge fs => Frame.Admitted reg edge ⟨nodes, base, E⟩ fs

/-- A node handed an output its entry lets it receive hands on an output the
entry after it allows, and suspends only as a step or with admitted frames. -/
abbrev NodeAdmits (node : FlowNode) (path : String) (previous : Option StepOutput)
    (resuming : Option Resume) (m : Drive Outcome) : Prop :=
  sizeOf node < Nat.pow 2 64 → ∀ E : Entry, E.Receives node previous →
    (∀ r, resuming = some r → Frame.AdmittedNode reg r.value.edge node path E previous r.frames) →
    ∀ e w, Ensures m e w fun o _ _ =>
      (∀ out, o = .done out → (Entry.after reg node path).Yields out) ∧
      ∀ fs pause, o = .suspended fs pause →
        fs = [] ∧ (Entry.after reg node path).Passes pause.resumeEdge ∨
          Frame.AdmittedNode reg pause.resumeEdge node path E previous fs.reverse

variable {eng reg step}

/-- The walk hands every node an output validation's entry admits for it, as
long as its steps exit through declared edges: each node hands on what the
entry after it allows, a loop ends through `exit`, and every suspension
leaves a cursor admitted for the edge the step is resumed through. -/
theorem walk_admits (hstep : StepRunner.Declares reg step) (hpause : StepRunner.Pauses step) :
    (∀ id nodes base entry resume,
      BlockAdmits reg nodes base entry resume (eng.runBlock step id nodes base entry resume)) ∧
    (∀ id nodes base index previous nested, sizeOf nodes < Nat.pow 2 64 → ∀ E : Entry,
      (∀ node, nodes[index]? = some node →
        (Block.entryAt reg ⟨nodes, base, E⟩ index).Receives node previous ∧
        ∀ r, nested = some r → Frame.AdmittedNode reg r.value.edge node (nodePath base index)
          (Block.entryAt reg ⟨nodes, base, E⟩ index) previous r.frames) →
      Resumes (eng.blockFrom step id nodes base index previous nested)
        fun edge fs => Frame.Admitted reg edge ⟨nodes, base, E⟩ fs) ∧
    (∀ id node index path previous resuming,
      NodeAdmits reg node path previous resuming (eng.runNode step id node index path previous resuming)) ∧
    (∀ parentId index path parts resume, sizeOf parts < Nat.pow 2 64 →
      (∀ r, resume = some r → Frame.AdmittedLoop reg r.value.edge parts path r.frames) →
      ∀ e w, Ensures (eng.runLoop step parentId index path parts resume) e w fun o _ _ =>
        LoopEnds reg parts path o) ∧
    (∀ loopId controller actions controllerBase actionsBase path iteration controllerOutput pending,
      sizeOf (controller :: actions) < Nat.pow 2 64 →
      controllerBase = s!"{path}.controller" → actionsBase = s!"{path}.actions" →
      PendingAdmitted reg controller actions path pending →
      ∀ e w, Ensures (eng.loopRound step loopId controller actions controllerBase actionsBase path
        iteration controllerOutput pending) e w fun o _ _ => LoopEnds reg (controller :: actions) path o) ∧
    (∀ loopId controller actions controllerBase actionsBase path iteration pending decided,
      sizeOf (controller :: actions) < Nat.pow 2 64 →
      controllerBase = s!"{path}.controller" → actionsBase = s!"{path}.actions" →
      PendingAdmitted reg controller actions path pending →
      (∀ o, decided = .inl o → LoopEnds reg (controller :: actions) path o) →
      ∀ e w, Ensures (eng.loopFollow step loopId controller actions controllerBase actionsBase path
        iteration pending decided) e w fun o _ _ => LoopEnds reg (controller :: actions) path o) ∧
    (∀ parentId candidate branchType iteration nodes base entry resume,
      BlockAdmits reg nodes base entry resume
        (eng.runChild step parentId candidate branchType iteration nodes base entry resume)) := by
  -- Outcomes that neither end through an edge nor suspend say nothing.
  have failedEnds : ∀ {parts path} (f : Failure), LoopEnds reg parts path (.failed f) :=
    fun _ => ⟨fun _ h => (by cases h), fun _ _ h => (by cases h)⟩
  have finished : ∀ (id : String) (o : Outcome) (e : Execution) (w : World),
      Ensures (eng.finishInstance id o) e w fun _ _ _ => True :=
    fun id o e w => (finishInstance_spec eng id o e w).mono fun _ _ _ _ => trivial
  -- A step node exits through an edge of its step and suspends with no frames.
  have stepAdmits : ∀ id node path previous (E : Entry), node.stepId?.isSome = true → ∀ e w,
      Ensures (step id node path previous) e w fun o _ _ =>
        (∀ out, o = .done out → (Entry.after reg node path).Yields out) ∧
        ∀ fs pause, o = .suspended fs pause →
          fs = [] ∧ (Entry.after reg node path).Passes pause.resumeEdge ∨
            Frame.AdmittedNode reg pause.resumeEdge node path E previous fs.reverse := by
    intro id node path previous E hsome e w
    refine ((hstep id node path previous e w).and (hpause id node path previous e w)).mono
      fun o _ _ h => ⟨fun out ho => ?_, fun fs pause ho => .inl ⟨(h.2 fs pause ho).1, ?_⟩⟩
    · obtain ⟨s, o', hres, rfl, hdecl⟩ := h.1.1 out ho
      rw [Entry.after_of_resolve hsome hres]
      exact StepDefinition.declares_iff.mp hdecl
    · obtain ⟨s, hres, hdecl⟩ := h.1.2 fs pause ho
      rw [Entry.after_of_resolve hsome hres]
      exact StepDefinition.declares_iff.mp hdecl
  apply Engine.runBlock.mutual_induct eng step
    (fun id nodes base entry resume =>
      BlockAdmits reg nodes base entry resume (eng.runBlock step id nodes base entry resume))
    (fun id nodes base index previous nested => sizeOf nodes < Nat.pow 2 64 → ∀ E : Entry,
      (∀ node, nodes[index]? = some node →
        (Block.entryAt reg ⟨nodes, base, E⟩ index).Receives node previous ∧
        ∀ r, nested = some r → Frame.AdmittedNode reg r.value.edge node (nodePath base index)
          (Block.entryAt reg ⟨nodes, base, E⟩ index) previous r.frames) →
      Resumes (eng.blockFrom step id nodes base index previous nested)
        fun edge fs => Frame.Admitted reg edge ⟨nodes, base, E⟩ fs)
    (fun id node index path previous resuming =>
      NodeAdmits reg node path previous resuming (eng.runNode step id node index path previous resuming))
    (fun parentId index path parts resume => sizeOf parts < Nat.pow 2 64 →
      (∀ r, resume = some r → Frame.AdmittedLoop reg r.value.edge parts path r.frames) →
      ∀ e w, Ensures (eng.runLoop step parentId index path parts resume) e w fun o _ _ =>
        LoopEnds reg parts path o)
    (fun loopId controller actions controllerBase actionsBase path iteration controllerOutput
      pending => sizeOf (controller :: actions) < Nat.pow 2 64 →
      controllerBase = s!"{path}.controller" → actionsBase = s!"{path}.actions" →
      PendingAdmitted reg controller actions path pending →
      ∀ e w, Ensures (eng.loopRound step loopId controller actions controllerBase actionsBase path
        iteration controllerOutput pending) e w fun o _ _ => LoopEnds reg (controller :: actions) path o)
    (fun loopId controller actions controllerBase actionsBase path iteration pending decided =>
      sizeOf (controller :: actions) < Nat.pow 2 64 →
      controllerBase = s!"{path}.controller" → actionsBase = s!"{path}.actions" →
      PendingAdmitted reg controller actions path pending →
      (∀ o, decided = .inl o → LoopEnds reg (controller :: actions) path o) →
      ∀ e w, Ensures (eng.loopFollow step loopId controller actions controllerBase actionsBase path
        iteration pending decided) e w fun o _ _ => LoopEnds reg (controller :: actions) path o)
    (fun parentId candidate branchType iteration nodes base entry resume =>
      BlockAdmits reg nodes base entry resume
        (eng.runChild step parentId candidate branchType iteration nodes base entry resume))
  · intro id nodes base entry ih hsize E hentry _ e w
    rw [Engine.runBlock]
    exact ih hsize E (fun _ _ => ⟨.inl hentry, fun _ h => by cases h⟩) e w
  · intro id nodes base entry r hr _ E _ _ e w
    rw [Engine.runBlock, hr]
    exact Ensures.throw
  · intro id nodes base entry r frameId index before rest hr hid hempty ih hsize E _ hres e w
    rw [Engine.runBlock, hr]
    simp only [hid, hempty, if_true]
    have hnil : rest = [] := List.isEmpty_iff.mp hempty
    have hadm := hres r rfl
    rw [hr, hnil] at hadm
    -- the step resumed declares the edge its output goes through
    cases hadm with
    | leaf hnode hpass =>
      refine Ensures.next ((completePausedStep_spec eng id r.value e w).mono fun _ _ _ _ => trivial)
        fun _ e₁ w₁ _ => ih hsize E (fun _ _ => ⟨.inl (Entry.Passes.admits hpass), fun _ h => by cases h⟩) e₁ w₁
    | down _ _ hnext => exact absurd rfl hnext.ne_nil
  · intro id nodes base entry r frameId index before rest hr hid hempty ih hsize E _ hres e w
    rw [Engine.runBlock, hr]
    simp only [hid, hempty, if_true]
    have hadm := hres r rfl
    rw [hr] at hadm
    cases hadm with
    | leaf => simp at hempty
    | down hnode hrec hnext =>
      refine ih hsize E (fun node h => ?_) e w
      rw [hnode] at h
      cases h
      exact ⟨hrec, fun r' h => by cases h; exact hnext⟩
  · intro id nodes base entry r frameId index before rest hr hid _ E _ _ e w
    rw [Engine.runBlock, hr]
    simp only [hid]
    exact Ensures.throw
  · intro id nodes base entry r other tail hother hr _ E _ _ e w
    rw [Engine.runBlock_not_block hother hr]
    exact Ensures.throw
  -- `blockFrom`: the node's output is what the next node is handed.
  · intro id nodes base index previous nested hnone _ E _ e w
    rw [Engine.blockFrom_past hnone]
    exact Ensures.pure fun _ _ h => by cases h
  · intro id nodes base index previous nested node hnode path ihNode ihDone ihAbsorb hsize E hpre e w
    rw [Engine.blockFrom]
    split
    · rename_i h
      rw [hnode] at h
      cases h
    rename_i node' h
    rw [hnode] at h
    cases h
    obtain ⟨hrec, hnested⟩ := hpre node hnode
    have hentry : Block.entryAt reg ⟨nodes, base, E⟩ (index + 1) = Entry.after reg node path := by
      simp only [Block.entryAt, hnode]
      rfl
    refine Ensures.bind (Ensures.lift fun cancelled _ _ => ?_)
    refine Ensures.ite (fun _ => ?_) (fun _ => ?_)
    · exact Ensures.bind (Ensures.lift fun _ _ _ => Ensures.pure fun _ _ h => by cases h)
    refine Ensures.next (ihNode (by have := sizeOf_lt_of_getElem? hnode; omega) _ hrec hnested e _) fun o e₁ w₁ h₁ => ?_
    split
    · rename_i output
      refine ihDone _ hsize E (fun node' _ => ⟨.inl ?_, fun _ h => by cases h⟩) e₁ w₁
      rw [hentry]
      have hyields := h₁.1 output rfl
      cases output <;> exact hyields.admits previous
    · rename_i frames pause
      exact Ensures.pure fun fs p h => by
        cases h
        exact Frame.admitted_block hsize hnode hrec (h₁.2 frames pause rfl)
    · -- a failure goes on only to a branch that takes it
      rename_i failure
      refine Ensures.ite (fun habsorbs => ?_) (fun _ => Ensures.pure fun _ _ h => by cases h)
      refine Ensures.bind (Ensures.lift fun _ w₂ _ => ihAbsorb _ hsize E (fun node' hnode' => ?_) e₁ w₂)
      rw [hnode'] at habsorbs
      exact ⟨.inr ⟨by simp, habsorbs⟩, fun _ h => by cases h⟩
    · exact Ensures.pure fun _ _ h => by cases h
  -- `runNode`: a step exits through its edges, a loop through `exit`.
  · intro id index path previous resuming stepId h _ E _ _ e w
    rw [Engine.runNode, if_pos h]
    exact Ensures.throw
  · intro id index path previous resuming stepId h _ E _ _ e w
    rw [Engine.runNode, if_neg h]
    exact stepAdmits id _ path previous E rfl e w
  · intro id index path previous resuming stepId params h _ E _ _ e w
    rw [Engine.runNode, if_pos h]
    exact Ensures.throw
  · intro id index path previous resuming stepId params h _ E _ _ e w
    rw [Engine.runNode, if_neg h]
    exact stepAdmits id _ path previous E rfl e w
  · intro id index path previous resuming children ih hsize E hrec hres e w
    rw [Engine.runNode]
    -- a sub-flow takes no failures, so it is handed an admitted output
    have hentry : E.Admits previous := hrec.resolve_right fun h => by simp [absorbsErrors] at h
    refine (ih (by simp only [FlowNode.sequence.sizeOf_spec] at hsize; omega) E hentry (fun r h => ?_) e w).mono fun o _ _ h => ⟨fun _ _ => trivial,
      fun fs p hs => .inr (.sequence (h fs p hs))⟩
    cases hres r h with
    | sequence hadm => exact hadm
  · intro id index path previous resuming parts ih hsize E _ hres e w
    rw [Engine.runNode]
    refine (ih (by simp only [FlowNode.loop.sizeOf_spec] at hsize; omega) (fun r h => ?_) e w).mono fun o _ _ h => ⟨h.1, fun fs p hs => .inr (.loop (h.2 fs p hs))⟩
    cases hres r h with
    | loop hadm => exact hadm
  · intro id index path previous resuming arms edge arm target hfound ih hsize E _ hres e w
    rw [Engine.runNode_branch_found rfl hfound]
    have harm : arm = edge := by
      simpa using List.find?_some hfound
    subst harm
    have hlt := sizeOf_armNodes_lt (List.mem_of_find?_eq_some hfound)
    refine (ih (by omega) (.edges s!"branch {path}" [edge]) (by simp [Entry.Admits, edge]) (fun r h => ?_)
      e w).mono fun o _ _ h => ⟨fun _ _ => trivial, fun fs p hs => .inr (.branch hfound (h fs p hs))⟩
    cases hres r h with
    | branch hfound' hadm =>
      rw [hfound] at hfound'
      cases hfound'
      exact hadm
  · intro id index path previous resuming arms edge hnone _ E _ _ e w
    rw [Engine.runNode_branch_none rfl hnone]
    exact Ensures.bind (Ensures.lift fun _ _ _ => Ensures.pure ⟨fun _ h => (by cases h),
      fun _ _ h => (by cases h)⟩)
  -- `runLoop`: the loop ends as its rounds do.
  · intro parentId index path resume _ _ e w
    rw [Engine.runLoop]
    exact Ensures.pure (failedEnds _)
  · intro parentId index path controller actions r hr _ _ e w
    rw [Engine.runLoop, hr]
    exact Ensures.throw
  · intro parentId index path controller actions controllerBase actionsBase r loopId iteration output
      phase rest hr ih hsize hres e w
    rw [Engine.runLoop, hr]
    have hadm := hres r rfl
    rw [hr] at hadm
    have hpending : PendingAdmitted reg controller actions path (some (phase, ⟨rest, r.value⟩)) := by
      cases hadm with
      | controller hc =>
        exact ⟨fun r' h => (by cases h; exact hc), fun _ h => (by cases h)⟩
      | actions _ ha =>
        exact ⟨fun _ h => (by cases h), fun r' h => (by cases h; exact ha)⟩
    refine Ensures.next (ih hsize rfl rfl hpending e w) fun o e₁ _ h₁ => ?_
    exact Ensures.next (finished loopId o e₁ _) fun _ _ _ _ => Ensures.pure h₁
  · intro parentId index path controller actions r other tail hother hr _ _ e w
    rw [Engine.runLoop_not_loop hother hr]
    exact Ensures.throw
  · intro parentId index path controller actions controllerBase actionsBase ih hsize _ e w
    rw [Engine.runLoop]
    refine Ensures.bind (Ensures.get ?_)
    split
    · exact Ensures.pure (failedEnds _)
    refine Ensures.bind (Ensures.get ?_)
    refine Ensures.next ((openInstance_spec eng _ _ _ _ e w).mono fun _ _ _ _ => trivial)
      fun _ e₁ _ _ => ?_
    refine Ensures.next (ih e hsize rfl rfl ⟨fun _ h => (by cases h), fun _ h => by cases h⟩ e₁ _)
      fun o e₂ _ h₂ => ?_
    exact Ensures.next (finished _ o e₂ _) fun _ _ _ _ => Ensures.pure h₂
  -- `loopRound`: a suspension of the controller gets the loop's frame.
  · intro loopId controller actions controllerBase actionsBase path iteration controllerOutput
      pending ihFollow ihCtrl hsize hcb hab hpending e w
    rw [Engine.loopRound]
    refine Ensures.bind (Ensures.lift fun cancelled w₁ _ => ?_)
    dsimp only
    refine Ensures.ite (fun _ => ?_) (fun _ => Ensures.ite (fun _ => ?_) (fun _ => ?_))
    · exact ihFollow _ hsize hcb hab hpending (fun _ h => by cases h) e w₁
    · exact Ensures.bind (Ensures.lift fun _ w₂ _ =>
        ihFollow _ hsize hcb hab hpending (fun o h => by cases h; exact ⟨fun _ h => (by cases h),
          fun _ _ h => (by cases h)⟩) e w₂)
    · have hctrl := sizeOf_controller_lt controller actions
      refine Ensures.next (ihCtrl (by omega) .unknown trivial (fun r h => hcb ▸ hpending.1 r h) e w₁)
        fun o e₁ w₂ h₁ => ?_
      split
      · exact ihFollow _ hsize hcb hab hpending (fun _ h => by cases h) e₁ w₂
      · rename_i frames pause
        refine ihFollow _ hsize hcb hab hpending (fun o h => ?_) e₁ w₂
        cases h
        refine ⟨fun _ h => (by cases h), fun fs p h => ?_⟩
        cases h
        rw [List.reverse_append, List.reverse_singleton, List.singleton_append]
        exact .controller (hcb ▸ h₁ frames pause rfl)
      · rename_i outcome hdone hsusp
        refine ihFollow _ hsize hcb hab hpending (fun o h => ?_) e₁ w₂
        cases h
        exact ⟨fun out h => absurd h (hdone out), fun fs p h => absurd h (hsusp fs p)⟩
  -- `loopFollow`: a suspension of the actions gets the loop's frame.
  · intro loopId controller actions controllerBase actionsBase path iteration pending outcome
      _ _ _ _ hd e w
    rw [Engine.loopFollow]
    exact Ensures.pure (hd outcome rfl)
  · intro loopId controller actions controllerBase actionsBase path iteration pending
      controllerOutput edge hcont hlimit _ _ _ _ _ e w
    rw [Engine.loopFollow, if_pos hcont, dif_pos hlimit]
    exact Ensures.pure (failedEnds _)
  · intro loopId controller actions controllerBase actionsBase path iteration pending
      controllerOutput edge hcont hlimit hempty ih hsize hcb hab _ _ e w
    rw [Engine.loopFollow, if_pos hcont, dif_neg hlimit]
    dsimp only
    rw [if_pos hempty]
    exact ih hsize hcb hab ⟨fun _ h => (by cases h), fun _ h => by cases h⟩ e w
  · intro loopId controller actions controllerBase actionsBase path iteration pending
      controllerOutput edge hcont hlimit hempty ihNext ihChild hsize hcb hab hpending _ e w
    rw [Engine.loopFollow, if_pos hcont, dif_neg hlimit]
    dsimp only
    rw [if_neg hempty]
    have hcont' : (controllerOutput.map StepOutput.edge).getD "" = "continue" := by simpa using hcont
    refine Ensures.bind (Ensures.lift fun _ _ _ => ?_)
    refine Ensures.next (ihChild (by simp only [List.cons.sizeOf_spec] at hsize; omega) (.edges s!"loop {path}" ["continue"]) (by simp [Entry.Admits, hcont'])
      (fun r h => hab ▸ hpending.2 r h) e _) fun o e₁ w₁ h₁ => ?_
    split
    · exact ihNext hsize hcb hab ⟨fun _ h => (by cases h), fun _ h => by cases h⟩ e₁ w₁
    · rename_i frames pause
      refine Ensures.pure ⟨fun _ h => (by cases h), fun fs p h => ?_⟩
      cases h
      rw [List.reverse_append, List.reverse_singleton, List.singleton_append]
      exact .actions hcont' (hab ▸ h₁ frames pause rfl)
    · rename_i outcome hdone hsusp
      exact Ensures.pure ⟨fun out h => by cases h; exact absurd rfl (hdone out),
        fun fs p h => by cases h; exact absurd rfl (hsusp fs p)⟩
  · intro loopId controller actions controllerBase actionsBase path iteration pending
      controllerOutput edge hcont hexit _ _ _ _ _ e w
    rw [Engine.loopFollow, if_neg hcont, if_pos hexit]
    refine Ensures.pure ⟨fun out h => ?_, fun _ _ h => (by cases h)⟩
    cases h
    cases controllerOutput with
    | none => simp [edge] at hexit
    | some o => simpa [Entry.Yields, edge] using hexit
  · intro loopId controller actions controllerBase actionsBase path iteration pending
      controllerOutput edge hcont hexit _ _ _ _ _ e w
    rw [Engine.loopFollow, if_neg hcont, if_neg hexit]
    exact Ensures.bind (Ensures.lift fun _ _ _ => Ensures.pure (failedEnds _))
  -- `runChild`: the child's suspensions pass up as they are.
  · intro parentId candidate branchType iteration nodes base entry r hr _ E _ _ e w
    rw [Engine.runChild, hr]
    exact Ensures.throw
  · intro parentId candidate branchType iteration nodes base entry r frame tail hr ih hsize E hentry hres e w
    rw [Engine.runChild, hr]
    refine Ensures.next (ih hsize E hentry hres e w) fun o e₁ _ h₁ => ?_
    exact Ensures.next (finished _ o e₁ _) fun _ _ _ _ => Ensures.pure h₁
  · intro parentId candidate branchType iteration nodes base entry ih hsize E hentry _ e w
    rw [Engine.runChild]
    refine Ensures.bind (Ensures.get ?_)
    split
    · exact Ensures.pure fun _ _ h => by cases h
    refine Ensures.bind (Ensures.get ?_)
    refine Ensures.next ((openInstance_spec eng _ _ _ _ e w).mono fun _ _ _ _ => trivial)
      fun _ e₁ _ _ => ?_
    refine Ensures.next (ih e hsize E hentry (fun _ h => by cases h) e₁ _) fun o e₂ _ h₂ => ?_
    exact Ensures.next (finished _ o e₂ _) fun _ _ _ _ => Ensures.pure h₂

end Engine

end Flowline
