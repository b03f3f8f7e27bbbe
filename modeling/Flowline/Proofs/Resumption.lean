import Flowline.Proofs.Throws
set_option autoImplicit false

/-!
# Following a cursor back down

A suspension unwinds into a cursor, and a resume follows it back down,
checking at every level that the frame it meets is the one it expects: a
block frame of the block's own instance, a loop frame at a loop node, no
frames below a step, a paused record at the end. Each check fails with a
corrupt-cursor error. This module shows that a cursor the walk produced never
fails them.

A cursor fits a block (`Frame.FitsBlock`) when it is built the way the walk
unwinds: a block frame at one of the block's nodes, then frames that fit that
node (`Frame.FitsNode`): those of a sub-flow's block, of the arm the frame's
output selects, or of a loop (`Frame.FitsLoop`), whose frame is followed by
the controller's block or by the actions' block. It ends at the block frame
of the suspended instance (`Frame.EndsAt`), which holds the paused record
(`Execution.HoldsPaused`).

* Every suspension of the walk leaves frames that fit the nodes walked,
  ending at the instance whose step suspended, which holds its paused
  record; and the walk keeps the pause store (`Engine.walk_suspends`).
* Along such frames, from instances that exist, the walk never fails
  (`Engine.walk_total`).

So a ticket the engine saved is `PausedExecution.Resumable`, and a resume of
it fails only where the store does.
-/

namespace Flowline

namespace Frame

mutual

/-- Frames a resume can follow down a block of `nodes`: a block frame at one of
the block's nodes, with nothing below it when the node's step is the one that
suspended, or frames that fit the node. -/
inductive FitsBlock : List FlowNode → List Frame → Prop where
  | leaf {nodes : List FlowNode} {x : String} {index : Nat} {before : Option StepOutput}
      {node : FlowNode} :
      nodes[index]? = some node → FitsBlock nodes [.block x index before]
  | down {nodes : List FlowNode} {x : String} {index : Nat} {before : Option StepOutput}
      {node : FlowNode} {rest : List Frame} :
      nodes[index]? = some node → FitsNode node before rest →
      FitsBlock nodes (.block x index before :: rest)

/-- Frames a resume can follow into a node handed `before`: those of the block
a sub-flow runs, of the arm that the edge of `before` selects, or of a loop. -/
inductive FitsNode : FlowNode → Option StepOutput → List Frame → Prop where
  | sequence {children : List FlowNode} {before : Option StepOutput} {rest : List Frame} :
      FitsBlock children rest → FitsNode (.sequence children) before rest
  | branch {arms : List (String × FlowNode)} {before : Option StepOutput} {edge : String}
      {target : FlowNode} {rest : List Frame} :
      arms.find? (·.1 == (before.map StepOutput.edge).getD "") = some (edge, target) →
      FitsBlock (armNodes target) rest → FitsNode (.branch arms) before rest
  | loop {parts : List FlowNode} {before : Option StepOutput} {rest : List Frame} :
      FitsLoop parts rest → FitsNode (.loop parts) before rest

/-- Frames a resume can follow into a loop of `parts`: a loop frame, then the
frames of the controller's block, or those of the actions' block, which run
only after the controller's output went through `continue`. -/
inductive FitsLoop : List FlowNode → List Frame → Prop where
  | controller {controller : FlowNode} {actions : List FlowNode} {l : String} {iteration : Nat}
      {output : Option StepOutput} {rest : List Frame} :
      FitsBlock [controller] rest →
      FitsLoop (controller :: actions) (.loop l iteration output .controller :: rest)
  | actions {controller : FlowNode} {actions : List FlowNode} {l : String} {iteration : Nat}
      {output : Option StepOutput} {rest : List Frame} :
      (output.map StepOutput.edge).getD "" = "continue" → FitsBlock actions rest →
      FitsLoop (controller :: actions) (.loop l iteration output .actions :: rest)

end

/-- Frames that end at a block frame of `y`. -/
def EndsAt (fs : List Frame) (y : String) : Prop :=
  ∃ index before, fs.getLast? = some (.block y index before)

/-- Frames fitting a block start with a block frame. -/
theorem FitsBlock.head {nodes : List FlowNode} {fs : List Frame} (h : FitsBlock nodes fs) :
    ∃ x index before rest, fs = .block x index before :: rest := by
  cases h with
  | leaf => exact ⟨_, _, _, [], rfl⟩
  | down => exact ⟨_, _, _, _, rfl⟩

theorem FitsBlock.ne_nil {nodes : List FlowNode} {fs : List Frame} (h : FitsBlock nodes fs) :
    fs ≠ [] := by
  obtain ⟨x, index, before, rest, rfl⟩ := h.head
  exact List.cons_ne_nil _ _

/-- Only a block with nodes has frames that fit it. -/
theorem FitsBlock.nodes_ne_nil {nodes : List FlowNode} {fs : List Frame} (h : FitsBlock nodes fs) :
    nodes ≠ [] := by
  rintro rfl
  cases h with
  | leaf hnode => simp at hnode
  | down hnode => simp at hnode

/-- A frame above frames that end at `y` still ends at `y`. -/
theorem EndsAt.cons {fs : List Frame} {y : String} (h : EndsAt fs y) (f : Frame) :
    EndsAt (f :: fs) y := by
  obtain ⟨index, before, hlast⟩ := h
  cases fs with
  | nil => cases hlast
  | cons g rest => exact ⟨index, before, by rw [List.getLast?_cons_cons, hlast]⟩

/-- Below its first frame, a cursor of more than one frame ends where it did. -/
theorem EndsAt.tail {f : Frame} {fs : List Frame} {y : String} (h : EndsAt (f :: fs) y)
    (hne : fs ≠ []) : EndsAt fs y := by
  obtain ⟨index, before, hlast⟩ := h
  cases fs with
  | nil => exact absurd rfl hne
  | cons g rest => exact ⟨index, before, by rw [← List.getLast?_cons_cons, hlast]⟩

theorem endsAt_singleton {x y : String} {index : Nat} {before : Option StepOutput}
    (h : EndsAt [.block x index before] y) : x = y := by
  obtain ⟨_, _, hlast⟩ := h
  simp only [List.getLast?_singleton, Option.some.injEq, Frame.block.injEq] at hlast
  exact hlast.1

end Frame

namespace Execution

/-- Instance `y` holds a paused step record. -/
def HoldsPaused (e : Execution) (y : String) : Prop :=
  ∃ Y, e.get? y = some Y ∧ ∃ r ∈ Y.steps, r.status = .paused

/-- A change that keeps identifiers and step records keeps a paused record. -/
theorem HoldsPaused.modify {e : Execution} {y : String} (h : e.HoldsPaused y) (id : String)
    {g : FlowInstance → FlowInstance} (hg : ∀ i, (g i).id = i.id ∧ (g i).steps = i.steps) :
    (e.modify id g).HoldsPaused y := by
  obtain ⟨Y, hY, r, hr, hpaused⟩ := h
  rw [HoldsPaused, get?_modify fun i => (hg i).1]
  by_cases hy : y = id
  · exact ⟨g Y, by simp [hy ▸ hY, hy], r, (hg Y).2 ▸ hr, hpaused⟩
  · exact ⟨Y, by simp [hy, hY], r, hr, hpaused⟩

/-- A paused record added to an instance that exists is held there. -/
theorem holdsPaused_record {e : Execution} {y : String} (hy : e.has y = true) {r : StepRecord}
    (hr : r.status = .paused) : (e.record y r).HoldsPaused y := by
  obtain ⟨Y, hY⟩ := Option.isSome_iff_exists.1 (get?_isSome_of_has hy)
  refine ⟨{ Y with steps := Y.steps ++ [{ r with sequence := e.stepCount }] }, ?_, _,
    List.mem_append_right _ (List.mem_singleton_self _), hr⟩
  rw [record, get?_modify, if_pos rfl, hY]
  · rfl
  · exact fun _ => rfl

/-- Frames that end at an instance holding its paused record. -/
def PausedAt (e : Execution) (fs : List Frame) : Prop :=
  ∃ y, Frame.EndsAt fs y ∧ e.HoldsPaused y

theorem PausedAt.tail {e : Execution} {f : Frame} {fs : List Frame} (h : e.PausedAt (f :: fs))
    (hne : fs ≠ []) : e.PausedAt fs := by
  obtain ⟨y, hends, hy⟩ := h
  exact ⟨y, hends.tail hne, hy⟩

/-- A spawned instance is found. -/
theorem get?_isSome_of_spawn {e e' : Execution} {parentId id : String} {branchType : BranchType}
    {iteration : Option Nat} {now : Timestamp} {child : FlowInstance}
    (hs : e.spawn parentId id branchType iteration now = .ok child e') : (e'.get? id).isSome := by
  obtain ⟨_, _, _, rfl, rfl⟩ := spawn_eq_ok hs
  rw [get?_push, if_pos rfl]
  rfl

end Execution

namespace Frame

/-- Frames a suspension collected, innermost first: read outermost first they
fit as `fits` says and end at the block of the instance that suspended, which
holds its paused record. -/
def Unwound (fits : List Frame → Prop) (e : Execution) (fs : List Frame) (pause : PendingPause) :
    Prop :=
  fits fs.reverse ∧ EndsAt fs.reverse pause.instanceId ∧ e.HoldsPaused pause.instanceId

theorem Unwound.mono {fits fits' : List Frame → Prop} {e : Execution} {fs : List Frame}
    {pause : PendingPause} (h : Unwound fits e fs pause) (hf : ∀ fs, fits fs → fits' fs) :
    Unwound fits' e fs pause :=
  ⟨hf _ h.1, h.2⟩

/-- A block adds its frame to a suspension of one of its nodes: that of a
step, which suspended right there, or frames that fit the node. -/
theorem unwound_block {nodes : List FlowNode} {index : Nat} {node : FlowNode}
    (hnode : nodes[index]? = some node) {id : String} {previous : Option StepOutput}
    {e : Execution} {fs : List Frame} {pause : PendingPause}
    (h : fs = [] ∧ pause.instanceId = id ∧ e.HoldsPaused id ∨ Unwound (FitsNode node previous) e fs pause) :
    Unwound (FitsBlock nodes) e (fs ++ [.block id index previous]) pause := by
  rw [Unwound, List.reverse_append, List.reverse_singleton, List.singleton_append]
  rcases h with ⟨rfl, hid, hpaused⟩ | ⟨hfits, hends, hpaused⟩
  · exact ⟨.leaf hnode, ⟨index, previous, by rw [hid]; rfl⟩, hid ▸ hpaused⟩
  · exact ⟨.down hnode hfits, hends.cons _, hpaused⟩

/-- A loop adds its frame to a suspension of its controller. -/
theorem unwound_controller {controller : FlowNode} {actions : List FlowNode} {l : String}
    {iteration : Nat} {output : Option StepOutput} {e : Execution} {fs : List Frame}
    {pause : PendingPause} (h : Unwound (FitsBlock [controller]) e fs pause) :
    Unwound (FitsLoop (controller :: actions)) e (fs ++ [.loop l iteration output .controller])
      pause := by
  obtain ⟨hfits, hends, hpaused⟩ := h
  rw [Unwound, List.reverse_append, List.reverse_singleton, List.singleton_append]
  exact ⟨.controller hfits, hends.cons _, hpaused⟩

/-- A loop adds its frame to a suspension of an iteration of its actions. -/
theorem unwound_actions {controller : FlowNode} {actions : List FlowNode} {l : String}
    {iteration : Nat} {output : Option StepOutput} {e : Execution} {fs : List Frame}
    {pause : PendingPause} (hcont : (output.map StepOutput.edge).getD "" = "continue")
    (h : Unwound (FitsBlock actions) e fs pause) :
    Unwound (FitsLoop (controller :: actions)) e (fs ++ [.loop l iteration output .actions])
      pause := by
  obtain ⟨hfits, hends, hpaused⟩ := h
  rw [Unwound, List.reverse_append, List.reverse_singleton, List.singleton_append]
  exact ⟨.actions hcont hfits, hends.cons _, hpaused⟩

/-- Below a block frame with more frames comes a node of the block, with
frames that fit it. -/
theorem FitsBlock.node {nodes : List FlowNode} {x : String} {index : Nat}
    {before : Option StepOutput} {rest : List Frame}
    (h : FitsBlock nodes (.block x index before :: rest)) (hne : rest ≠ []) :
    ∃ node, nodes[index]? = some node ∧ FitsNode node before rest := by
  cases h with
  | leaf => exact absurd rfl hne
  | down hnode hfits => exact ⟨_, hnode, hfits⟩

variable {e : Execution}

/-- A cursor atop `x` starts with a block frame of `x`. -/
theorem Atop.cons {x y : String} {index : Nat} {before : Option StepOutput} {rest : List Frame}
    (h : Atop e x (.block y index before :: rest)) : y = x ∧ Below e x rest := by
  obtain ⟨index', before', rest', hfs, hb⟩ := h
  cases hfs
  exact ⟨rfl, hb⟩

/-- Below a loop's controller frame, a cursor that fits a block is atop the
loop's own instance. -/
theorem atop_controller {l : String} {iteration : Nat} {output : Option StepOutput}
    {nodes : List FlowNode} {rest : List Frame}
    (h : Descends e (.loop l iteration output .controller :: rest)) (hfits : FitsBlock nodes rest) :
    Atop e l rest := by
  obtain ⟨x, index, before, rest', rfl⟩ := hfits.head
  obtain ⟨hl, hd⟩ := h
  cases hl
  exact ⟨index, before, rest', rfl, descends_block.1 hd⟩

/-- A cursor below `x` that fits a block is atop its first instance, a child
of `x`, which exists. -/
theorem Below.atop {x : String} {f : Frame} {fs : List Frame} {nodes : List FlowNode}
    (h : Below e x (f :: fs)) (hfits : FitsBlock nodes (f :: fs)) :
    (e.get? f.instanceId).isSome ∧ Atop e f.instanceId (f :: fs) := by
  obtain ⟨⟨Y, hY, -⟩, hd⟩ := h
  obtain ⟨y, index, before, rest, hfs⟩ := hfits.head
  cases hfs
  exact ⟨by simp [hY], index, before, fs, rfl, descends_block.1 hd⟩

end Frame

/-! ## What the walk needs of its step runner -/

/-- A step runner that leaves the pause store as it is. -/
def StepRunner.KeepsStore (step : StepRunner) : Prop :=
  ∀ id node path previous, Flowline.KeepsStore (step id node path previous)

/-- A step runner whose suspensions leave no frames, name the instance the
step ran in and leave a paused record there. -/
def StepRunner.Pauses (step : StepRunner) : Prop :=
  ∀ id node path previous e w, Ensures (step id node path previous) e w fun o e' _ =>
    ∀ fs pause, o = .suspended fs pause → fs = [] ∧ pause.instanceId = id ∧ e'.HoldsPaused id

/-- A step runner that never fails in an instance that exists. -/
def StepRunner.Total (step : StepRunner) : Prop :=
  ∀ id node path previous (e : Execution) w, (e.get? id).isSome →
    Throws (step id node path previous) e w fun _ _ => False

namespace Engine

variable (eng : Engine)

/-- The engine's step runner suspends at the instance it ran in, where it
leaves the paused record. -/
theorem runStep_pauses : StepRunner.Pauses eng.runStep := by
  intro id node path previous e w
  refine (runStep_spec eng id node path previous e w).mono fun o e' w' h => ?_
  obtain ⟨e₁, r, -, hid, rfl, -, -, hend⟩ := h
  intro fs pause ho
  cases hend with
  | suspended _ hpaused _ hinst =>
    cases ho
    exact ⟨rfl, hinst, Execution.holdsPaused_record hid hpaused⟩
  | _ => cases ho

theorem runStep_total : StepRunner.Total eng.runStep := by
  intro id node path previous e w hid
  refine (runStep_throws eng id node path previous e w).mono fun _ _ ⟨hmissing, _⟩ => ?_
  rw [Execution.has_of_get?_isSome hid] at hmissing
  cases hmissing

/-! ## The walk keeps the pause store -/

variable (step : StepRunner)

/-- Nothing the walk does touches the pause store. -/
theorem walk_keepsStore (hstep : StepRunner.KeepsStore step) :
    (∀ id nodes base entry resume, KeepsStore (eng.runBlock step id nodes base entry resume)) ∧
    (∀ id nodes base index previous nested,
      KeepsStore (eng.blockFrom step id nodes base index previous nested)) ∧
    (∀ id node index path previous resuming,
      KeepsStore (eng.runNode step id node index path previous resuming)) ∧
    (∀ parentId index path parts resume,
      KeepsStore (eng.runLoop step parentId index path parts resume)) ∧
    (∀ loopId controller actions controllerBase actionsBase path iteration controllerOutput pending,
      KeepsStore (eng.loopRound step loopId controller actions controllerBase actionsBase path
        iteration controllerOutput pending)) ∧
    (∀ loopId controller actions controllerBase actionsBase path iteration pending decided,
      KeepsStore (eng.loopFollow step loopId controller actions controllerBase actionsBase path
        iteration pending decided)) ∧
    (∀ parentId candidate branchType iteration nodes base entry resume,
      KeepsStore (eng.runChild step parentId candidate branchType iteration nodes base entry
        resume)) := by
  -- The tame effects of the walk, run from its state.
  have tame : ∀ {α : Type} {m : Drive α}, Tame m → KeepsStore m := KeepsStore.of_tame
  have lift : ∀ {α : Type} {r : Run α}, Run.Tame r → KeepsStore (liftM r : Drive α) :=
    fun h => tame (Tame.lift h)
  apply Engine.runBlock.mutual_induct eng step
    (fun id nodes base entry resume => KeepsStore (eng.runBlock step id nodes base entry resume))
    (fun id nodes base index previous nested =>
      KeepsStore (eng.blockFrom step id nodes base index previous nested))
    (fun id node index path previous resuming =>
      KeepsStore (eng.runNode step id node index path previous resuming))
    (fun parentId index path parts resume =>
      KeepsStore (eng.runLoop step parentId index path parts resume))
    (fun loopId controller actions controllerBase actionsBase path iteration controllerOutput
      pending => KeepsStore (eng.loopRound step loopId controller actions controllerBase
        actionsBase path iteration controllerOutput pending))
    (fun loopId controller actions controllerBase actionsBase path iteration pending decided =>
      KeepsStore (eng.loopFollow step loopId controller actions controllerBase actionsBase path
        iteration pending decided))
    (fun parentId candidate branchType iteration nodes base entry resume =>
      KeepsStore (eng.runChild step parentId candidate branchType iteration nodes base entry
        resume))
  · intro id nodes base entry ih
    rw [Engine.runBlock]
    exact ih
  · intro id nodes base entry r hr
    rw [Engine.runBlock, hr]
    exact KeepsStore.throw _
  · intro id nodes base entry r frameId index before rest hr hid hempty ih
    rw [Engine.runBlock, hr]
    simp only [hid, hempty, if_true]
    exact KeepsStore.bind (completePausedStep_keepsStore eng id r.value) fun _ => ih
  · intro id nodes base entry r frameId index before rest hr hid hempty ih
    rw [Engine.runBlock, hr]
    simp only [hid, hempty, if_true]
    exact ih
  · intro id nodes base entry r frameId index before rest hr hid
    rw [Engine.runBlock, hr]
    simp only [hid]
    exact KeepsStore.throw _
  · intro id nodes base entry r other tail hother hr
    rw [Engine.runBlock_not_block hother hr]
    exact KeepsStore.throw _
  · intro id nodes base index previous nested hnone
    rw [Engine.blockFrom_past hnone]
    exact tame (Tame.pure _)
  · intro id nodes base index previous nested node hnode path ihNode ihDone ihAbsorb
    rw [Engine.blockFrom]
    split
    · rename_i h
      rw [hnode] at h
      cases h
    rename_i node' h
    rw [hnode] at h
    cases h
    refine KeepsStore.bind (lift Run.isCancelled_tame) fun cancelled => ?_
    refine KeepsStore.ite (KeepsStore.bind (lift (Run.info_tame _ _)) fun _ => tame (Tame.pure _)) ?_
    refine KeepsStore.bind ihNode fun o => ?_
    split
    · exact ihDone _
    · exact tame (Tame.pure _)
    · exact KeepsStore.ite (KeepsStore.bind (lift (Run.warn_tame _ _)) fun _ => ihAbsorb _)
        (tame (Tame.pure _))
    · exact tame (Tame.pure _)
  · intro id index path previous resuming stepId h
    rw [Engine.runNode, if_pos h]
    exact KeepsStore.throw _
  · intro id index path previous resuming stepId h
    rw [Engine.runNode, if_neg h]
    exact hstep _ _ _ _
  · intro id index path previous resuming stepId params h
    rw [Engine.runNode, if_pos h]
    exact KeepsStore.throw _
  · intro id index path previous resuming stepId params h
    rw [Engine.runNode, if_neg h]
    exact hstep _ _ _ _
  · intro id index path previous resuming children ih
    rw [Engine.runNode]
    exact ih
  · intro id index path previous resuming parts ih
    rw [Engine.runNode]
    exact ih
  · intro id index path previous resuming arms edge arm target hfound ih
    rw [Engine.runNode_branch_found rfl hfound]
    exact ih
  · intro id index path previous resuming arms edge hnone
    rw [Engine.runNode_branch_none rfl hnone]
    exact KeepsStore.bind (lift (Run.error_tame _ _)) fun _ => tame (Tame.pure _)
  · intro parentId index path resume
    rw [Engine.runLoop]
    exact tame (Tame.pure _)
  · intro parentId index path controller actions r hr
    rw [Engine.runLoop, hr]
    exact KeepsStore.throw _
  · intro parentId index path controller actions controllerBase actionsBase r loopId iteration output
      phase rest hr ih
    rw [Engine.runLoop, hr]
    exact KeepsStore.bind ih fun _ =>
      KeepsStore.bind (tame (finishInstance_tame eng _ _)) fun _ => tame (Tame.pure _)
  · intro parentId index path controller actions r other tail hother hr
    rw [Engine.runLoop_not_loop hother hr]
    exact KeepsStore.throw _
  · intro parentId index path controller actions controllerBase actionsBase ih
    rw [Engine.runLoop]
    refine KeepsStore.bind (tame Tame.get) fun e => ?_
    split
    · exact tame (Tame.pure _)
    refine KeepsStore.bind (tame Tame.get) fun _ => ?_
    refine KeepsStore.bind (openInstance_keepsStore eng _ _ _ _) fun _ => ?_
    exact KeepsStore.bind (ih _) fun _ =>
      KeepsStore.bind (tame (finishInstance_tame eng _ _)) fun _ => tame (Tame.pure _)
  · intro loopId controller actions controllerBase actionsBase path iteration controllerOutput
      pending ihFollow ihCtrl
    rw [Engine.loopRound]
    refine KeepsStore.bind (lift Run.isCancelled_tame) fun cancelled => ?_
    dsimp only
    refine KeepsStore.ite (ihFollow _) (KeepsStore.ite ?_ ?_)
    · exact KeepsStore.bind (lift (Run.info_tame _ _)) fun _ => ihFollow _
    · refine KeepsStore.bind ihCtrl fun o => ?_
      split <;> exact ihFollow _
  · intro loopId controller actions controllerBase actionsBase path iteration pending outcome
    rw [Engine.loopFollow]
    exact tame (Tame.pure _)
  · intro loopId controller actions controllerBase actionsBase path iteration pending
      controllerOutput edge hcont hlimit
    rw [Engine.loopFollow, if_pos hcont, dif_pos hlimit]
    exact tame (Tame.pure _)
  · intro loopId controller actions controllerBase actionsBase path iteration pending
      controllerOutput edge hcont hlimit hempty ih
    rw [Engine.loopFollow, if_pos hcont, dif_neg hlimit]
    dsimp only
    rw [if_pos hempty]
    exact ih
  · intro loopId controller actions controllerBase actionsBase path iteration pending
      controllerOutput edge hcont hlimit hempty ihNext ihChild
    rw [Engine.loopFollow, if_pos hcont, dif_neg hlimit]
    dsimp only
    rw [if_neg hempty]
    refine KeepsStore.bind (lift (Run.debug_tame _ _)) fun _ => KeepsStore.bind ihChild fun o => ?_
    split
    · exact ihNext
    · exact tame (Tame.pure _)
    · exact tame (Tame.pure _)
  · intro loopId controller actions controllerBase actionsBase path iteration pending
      controllerOutput edge hcont hexit
    rw [Engine.loopFollow, if_neg hcont, if_pos hexit]
    exact tame (Tame.pure _)
  · intro loopId controller actions controllerBase actionsBase path iteration pending
      controllerOutput edge hcont hexit
    rw [Engine.loopFollow, if_neg hcont, if_neg hexit]
    exact KeepsStore.bind (lift (Run.error_tame _ _)) fun _ => tame (Tame.pure _)
  · intro parentId candidate branchType iteration nodes base entry r hr
    rw [Engine.runChild, hr]
    exact KeepsStore.throw _
  · intro parentId candidate branchType iteration nodes base entry r frame tail hr ih
    rw [Engine.runChild, hr]
    exact KeepsStore.bind ih fun _ =>
      KeepsStore.bind (tame (finishInstance_tame eng _ _)) fun _ => tame (Tame.pure _)
  · intro parentId candidate branchType iteration nodes base entry ih
    rw [Engine.runChild]
    refine KeepsStore.bind (tame Tame.get) fun e => ?_
    split
    · exact tame (Tame.pure _)
    refine KeepsStore.bind (tame Tame.get) fun _ => ?_
    refine KeepsStore.bind (openInstance_keepsStore eng _ _ _ _) fun _ => ?_
    exact KeepsStore.bind (ih _) fun _ =>
      KeepsStore.bind (tame (finishInstance_tame eng _ _)) fun _ => tame (Tame.pure _)

/-! ## Suspensions leave frames that fit -/

/-- A suspension leaves an instance as it was. -/
theorem finishInstance_suspended (id : String) (o : Outcome) (e : Execution) (w : World) :
    Ensures (eng.finishInstance id o) e w fun _ e' _ => ∀ fs pause, o = .suspended fs pause → e' = e :=
  (finishInstance_spec eng id o e w).mono fun _ _ _ h fs pause ho => by
    subst ho
    exact h

/-- Every suspension `m` returns leaves frames that fit as `fits` says. -/
abbrev Suspends (m : Drive Outcome) (fits : List Frame → Prop) : Prop :=
  ∀ e w, Ensures m e w fun o e' _ => ∀ fs pause, o = .suspended fs pause → Frame.Unwound fits e' fs pause

/-- Every suspension of a node of instance `id` handed `previous` is its
step's, right there, or leaves frames that fit the node. -/
abbrev NodeSuspends (id : String) (node : FlowNode) (previous : Option StepOutput)
    (m : Drive Outcome) : Prop :=
  ∀ e w, Ensures m e w fun o e' _ => ∀ fs pause, o = .suspended fs pause →
    fs = [] ∧ pause.instanceId = id ∧ e'.HoldsPaused id ∨
      Frame.Unwound (Frame.FitsNode node previous) e' fs pause

/-- A suspension of the walk, read outermost first, is a cursor that fits the
nodes walked and ends at the instance whose step suspended, which holds its
paused record. -/
theorem walk_suspends (hstep : StepRunner.Pauses step) :
    (∀ id nodes base entry resume,
      Suspends (eng.runBlock step id nodes base entry resume) (Frame.FitsBlock nodes)) ∧
    (∀ id nodes base index previous nested,
      Suspends (eng.blockFrom step id nodes base index previous nested) (Frame.FitsBlock nodes)) ∧
    (∀ id node index path previous resuming,
      NodeSuspends id node previous (eng.runNode step id node index path previous resuming)) ∧
    (∀ parentId index path parts resume,
      Suspends (eng.runLoop step parentId index path parts resume) (Frame.FitsLoop parts)) ∧
    (∀ loopId controller actions controllerBase actionsBase path iteration controllerOutput pending,
      Suspends (eng.loopRound step loopId controller actions controllerBase actionsBase path
        iteration controllerOutput pending) (Frame.FitsLoop (controller :: actions))) ∧
    (∀ loopId controller actions controllerBase actionsBase path iteration pending decided e w,
      (∀ fs pause, decided = .inl (.suspended fs pause) →
        Frame.Unwound (Frame.FitsLoop (controller :: actions)) e fs pause) →
      Ensures (eng.loopFollow step loopId controller actions controllerBase actionsBase path
        iteration pending decided) e w fun o e' _ => ∀ fs pause, o = .suspended fs pause →
          Frame.Unwound (Frame.FitsLoop (controller :: actions)) e' fs pause) ∧
    (∀ parentId candidate branchType iteration nodes base entry resume,
      Suspends (eng.runChild step parentId candidate branchType iteration nodes base entry resume)
        (Frame.FitsBlock nodes)) := by
  -- Outcomes other than a suspension say nothing.
  have other : ∀ {o : Outcome} {fits : List Frame → Prop} {e : Execution},
      (∀ fs pause, o ≠ .suspended fs pause) →
      ∀ fs pause, o = .suspended fs pause → Frame.Unwound fits e fs pause :=
    fun h fs pause ho => absurd ho (h fs pause)
  apply Engine.runBlock.mutual_induct eng step
    (fun id nodes base entry resume =>
      Suspends (eng.runBlock step id nodes base entry resume) (Frame.FitsBlock nodes))
    (fun id nodes base index previous nested =>
      Suspends (eng.blockFrom step id nodes base index previous nested) (Frame.FitsBlock nodes))
    (fun id node index path previous resuming =>
      NodeSuspends id node previous (eng.runNode step id node index path previous resuming))
    (fun parentId index path parts resume =>
      Suspends (eng.runLoop step parentId index path parts resume) (Frame.FitsLoop parts))
    (fun loopId controller actions controllerBase actionsBase path iteration controllerOutput
      pending => Suspends (eng.loopRound step loopId controller actions controllerBase actionsBase
        path iteration controllerOutput pending) (Frame.FitsLoop (controller :: actions)))
    (fun loopId controller actions controllerBase actionsBase path iteration pending decided =>
      ∀ e w, (∀ fs pause, decided = .inl (.suspended fs pause) →
        Frame.Unwound (Frame.FitsLoop (controller :: actions)) e fs pause) →
      Ensures (eng.loopFollow step loopId controller actions controllerBase actionsBase path
        iteration pending decided) e w fun o e' _ => ∀ fs pause, o = .suspended fs pause →
          Frame.Unwound (Frame.FitsLoop (controller :: actions)) e' fs pause)
    (fun parentId candidate branchType iteration nodes base entry resume =>
      Suspends (eng.runChild step parentId candidate branchType iteration nodes base entry resume)
        (Frame.FitsBlock nodes))
  -- `runBlock`: fresh, on a cursor, at the suspended step, on the way down.
  · intro id nodes base entry ih e w
    rw [Engine.runBlock]
    exact ih e w
  · intro id nodes base entry r hr e w
    rw [Engine.runBlock, hr]
    exact Ensures.throw
  · intro id nodes base entry r frameId index before rest hr hid hempty ih e w
    rw [Engine.runBlock, hr]
    simp only [hid, hempty, if_true]
    exact Ensures.next (completePausedStep_grows eng id r.value e w) fun _ e₁ w₁ _ => ih e₁ w₁
  · intro id nodes base entry r frameId index before rest hr hid hempty ih e w
    rw [Engine.runBlock, hr]
    simp only [hid, hempty, if_true]
    exact ih e w
  · intro id nodes base entry r frameId index before rest hr hid e w
    rw [Engine.runBlock, hr]
    simp only [hid]
    exact Ensures.throw
  · intro id nodes base entry r other tail hother hr e w
    rw [Engine.runBlock_not_block hother hr]
    exact Ensures.throw
  -- `blockFrom`: a suspension of the node gets the block's frame.
  · intro id nodes base index previous nested hnone e w
    rw [Engine.blockFrom_past hnone]
    exact Ensures.pure (other fun _ _ h => by cases h)
  · intro id nodes base index previous nested node hnode path ihNode ihDone ihAbsorb e w
    rw [Engine.blockFrom]
    split
    · rename_i h
      rw [hnode] at h
      cases h
    rename_i node' h
    rw [hnode] at h
    cases h
    refine Ensures.bind (Ensures.lift fun cancelled _ _ => ?_)
    refine Ensures.ite (fun _ => ?_) (fun _ => ?_)
    · exact Ensures.bind (Ensures.lift fun _ _ _ => Ensures.pure (other fun _ _ h => by cases h))
    refine Ensures.next (ihNode e _) fun o e₁ w₁ h₁ => ?_
    split
    · exact ihDone _ e₁ w₁
    · rename_i frames pause
      exact Ensures.pure fun fs p h => by
        cases h
        exact Frame.unwound_block hnode (h₁ frames pause rfl)
    · refine Ensures.ite (fun _ => ?_) (fun _ => ?_)
      · exact Ensures.bind (Ensures.lift fun _ w₂ _ => ihAbsorb _ e₁ w₂)
      · exact Ensures.pure (other fun _ _ h => by cases h)
    · exact Ensures.pure (other fun _ _ h => by cases h)
  -- `runNode`: a step suspends with no frames, in the block's instance.
  · intro id index path previous resuming stepId h e w
    rw [Engine.runNode, if_pos h]
    exact Ensures.throw
  · intro id index path previous resuming stepId h e w
    rw [Engine.runNode, if_neg h]
    exact (hstep id _ path previous e w).mono fun o e' _ h fs p hs => .inl (h fs p hs)
  · intro id index path previous resuming stepId params h e w
    rw [Engine.runNode, if_pos h]
    exact Ensures.throw
  · intro id index path previous resuming stepId params h e w
    rw [Engine.runNode, if_neg h]
    exact (hstep id _ path previous e w).mono fun o e' _ h fs p hs => .inl (h fs p hs)
  · intro id index path previous resuming children ih e w
    rw [Engine.runNode]
    exact (ih e w).mono fun o e' _ h fs p hs => .inr ((h fs p hs).mono fun _ hf => .sequence hf)
  · intro id index path previous resuming parts ih e w
    rw [Engine.runNode]
    exact (ih e w).mono fun o e' _ h fs p hs => .inr ((h fs p hs).mono fun _ hf => .loop hf)
  · intro id index path previous resuming arms edge arm target hfound ih e w
    rw [Engine.runNode_branch_found rfl hfound]
    exact (ih e w).mono fun o e' _ h fs p hs =>
      .inr ((h fs p hs).mono fun _ hf => .branch hfound hf)
  · intro id index path previous resuming arms edge hnone e w
    rw [Engine.runNode_branch_none rfl hnone]
    exact Ensures.bind (Ensures.lift fun _ _ _ => Ensures.pure fun _ _ h => by cases h)
  -- `runLoop`: the loop's suspensions pass up as they are.
  · intro parentId index path resume e w
    rw [Engine.runLoop]
    exact Ensures.pure (other fun _ _ h => by cases h)
  · intro parentId index path controller actions r hr e w
    rw [Engine.runLoop, hr]
    exact Ensures.throw
  · intro parentId index path controller actions controllerBase actionsBase r loopId iteration output
      phase rest hr ih e w
    rw [Engine.runLoop, hr]
    refine Ensures.next (ih e w) fun o e₁ _ h₁ => ?_
    refine Ensures.next (finishInstance_suspended eng loopId o e₁ _) fun _ e₂ _ h₂ => ?_
    exact Ensures.pure fun fs p hs => by
      rw [h₂ fs p hs]
      exact h₁ fs p hs
  · intro parentId index path controller actions r other tail hother hr e w
    rw [Engine.runLoop_not_loop hother hr]
    exact Ensures.throw
  · intro parentId index path controller actions controllerBase actionsBase ih e w
    rw [Engine.runLoop]
    refine Ensures.bind (Ensures.get ?_)
    split
    · exact Ensures.pure (other fun _ _ h => by cases h)
    refine Ensures.bind (Ensures.get ?_)
    refine Ensures.next (openInstance_spec eng _ _ _ _ e w) fun _ e₁ _ _ => ?_
    refine Ensures.next (ih e e₁ _) fun o e₂ _ h₂ => ?_
    refine Ensures.next (finishInstance_suspended eng _ o e₂ _) fun _ e₃ _ h₃ => ?_
    exact Ensures.pure fun fs p hs => by
      rw [h₃ fs p hs]
      exact h₂ fs p hs
  -- `loopRound`: a suspension of the controller gets the loop's frame.
  · intro loopId controller actions controllerBase actionsBase path iteration controllerOutput
      pending ihFollow ihCtrl e w
    rw [Engine.loopRound]
    refine Ensures.bind (Ensures.lift fun cancelled w₁ _ => ?_)
    dsimp only
    refine Ensures.ite (fun _ => ?_) (fun _ => Ensures.ite (fun _ => ?_) (fun _ => ?_))
    · exact ihFollow _ e w₁ fun _ _ h => by cases h
    · exact Ensures.bind (Ensures.lift fun _ w₂ _ => ihFollow _ e w₂ fun _ _ h => by cases h)
    · refine Ensures.next (ihCtrl e w₁) fun o e₁ w₂ h₁ => ?_
      split
      · exact ihFollow _ e₁ w₂ fun _ _ h => by cases h
      · rename_i frames pause
        exact ihFollow _ e₁ w₂ fun fs p h => by
          cases h
          exact Frame.unwound_controller (h₁ frames pause rfl)
      · rename_i outcome hdone hsusp
        exact ihFollow _ e₁ w₂ fun fs p h => by
          cases h
          exact absurd rfl (hsusp fs p)
  -- `loopFollow`: a suspension of the actions gets the loop's frame.
  · intro loopId controller actions controllerBase actionsBase path iteration pending outcome e w hd
    rw [Engine.loopFollow]
    exact Ensures.pure fun fs p h => hd fs p (by rw [h])
  · intro loopId controller actions controllerBase actionsBase path iteration pending
      controllerOutput edge hcont hlimit e w _
    rw [Engine.loopFollow, if_pos hcont, dif_pos hlimit]
    exact Ensures.pure (other fun _ _ h => by cases h)
  · intro loopId controller actions controllerBase actionsBase path iteration pending
      controllerOutput edge hcont hlimit hempty ih e w _
    rw [Engine.loopFollow, if_pos hcont, dif_neg hlimit]
    dsimp only
    rw [if_pos hempty]
    exact ih e w
  · intro loopId controller actions controllerBase actionsBase path iteration pending
      controllerOutput edge hcont hlimit hempty ihNext ihChild e w _
    rw [Engine.loopFollow, if_pos hcont, dif_neg hlimit]
    dsimp only
    rw [if_neg hempty]
    refine Ensures.bind (Ensures.lift fun _ _ _ => ?_)
    refine Ensures.next (ihChild e _) fun o e₁ w₁ h₁ => ?_
    split
    · exact ihNext e₁ w₁
    · rename_i frames pause
      exact Ensures.pure fun fs p h => by
        cases h
        exact Frame.unwound_actions (by simpa using hcont) (h₁ frames pause rfl)
    · rename_i outcome hdone hsusp
      exact Ensures.pure fun fs p h => by
        cases h
        exact absurd rfl (hsusp fs p)
  · intro loopId controller actions controllerBase actionsBase path iteration pending
      controllerOutput edge hcont hexit e w _
    rw [Engine.loopFollow, if_neg hcont, if_pos hexit]
    exact Ensures.pure (other fun _ _ h => by cases h)
  · intro loopId controller actions controllerBase actionsBase path iteration pending
      controllerOutput edge hcont hexit e w _
    rw [Engine.loopFollow, if_neg hcont, if_neg hexit]
    exact Ensures.bind (Ensures.lift fun _ _ _ => Ensures.pure fun _ _ h => by cases h)
  -- `runChild`: the child's suspensions pass up as they are.
  · intro parentId candidate branchType iteration nodes base entry r hr e w
    rw [Engine.runChild, hr]
    exact Ensures.throw
  · intro parentId candidate branchType iteration nodes base entry r frame tail hr ih e w
    rw [Engine.runChild, hr]
    refine Ensures.next (ih e w) fun o e₁ _ h₁ => ?_
    refine Ensures.next (finishInstance_suspended eng _ o e₁ _) fun _ e₂ _ h₂ => ?_
    exact Ensures.pure fun fs p hs => by
      rw [h₂ fs p hs]
      exact h₁ fs p hs
  · intro parentId candidate branchType iteration nodes base entry ih e w
    rw [Engine.runChild]
    refine Ensures.bind (Ensures.get ?_)
    split
    · exact Ensures.pure (other fun _ _ h => by cases h)
    refine Ensures.bind (Ensures.get ?_)
    refine Ensures.next (openInstance_spec eng _ _ _ _ e w) fun _ e₁ _ _ => ?_
    refine Ensures.next (ih e e₁ _) fun o e₂ _ h₂ => ?_
    refine Ensures.next (finishInstance_suspended eng _ o e₂ _) fun _ e₃ _ h₃ => ?_
    exact Ensures.pure fun fs p hs => by
      rw [h₃ fs p hs]
      exact h₂ fs p hs

/-! ## Following a cursor that fits never fails -/

/-- `m`, run in instance `x` that exists, along a cursor that goes down as
`follows` says and ends at a paused record, never fails. -/
abbrev Total (m : Drive Outcome) (x : String) (cursor : Option Resume)
    (follows : Execution → List Frame → Prop) : Prop :=
  ∀ e w, (e.get? x).isSome → (∀ r, cursor = some r → follows e r.frames ∧ e.PausedAt r.frames) →
    Throws m e w fun _ _ => False

section Total

variable {step} (hgrow : StepRunner.Grows step) (htotal : StepRunner.Total step)
include hgrow htotal

/-- Along a cursor that goes down from the instances the walk stands in,
fits the nodes it walks and ends at a paused record, from instances that
exist, the walk never fails: every corrupt-cursor branch, every missing
instance and every taken identifier is out of reach. -/
theorem walk_total :
    (∀ id nodes base entry resume,
      Total (eng.runBlock step id nodes base entry resume) id resume fun e fs =>
        Frame.Atop e id fs ∧ Frame.FitsBlock nodes fs) ∧
    (∀ id nodes base index previous nested,
      Total (eng.blockFrom step id nodes base index previous nested) id nested fun e fs =>
        Frame.Below e id fs ∧ ∃ node, nodes[index]? = some node ∧ Frame.FitsNode node previous fs) ∧
    (∀ id node index path previous resuming,
      Total (eng.runNode step id node index path previous resuming) id resuming fun e fs =>
        Frame.Below e id fs ∧ Frame.FitsNode node previous fs) ∧
    (∀ parentId index path parts resume,
      Total (eng.runLoop step parentId index path parts resume) parentId resume fun e fs =>
        Frame.Below e parentId fs ∧ Frame.FitsLoop parts fs) ∧
    (∀ loopId controller actions controllerBase actionsBase path iteration controllerOutput pending
      e w, (e.get? loopId).isSome →
      (∀ r, controllerResume? pending = some r →
        (Frame.Atop e loopId r.frames ∧ Frame.FitsBlock [controller] r.frames) ∧ e.PausedAt r.frames) →
      (∀ r, actionsResume? pending = some r →
        (Frame.Below e loopId r.frames ∧ Frame.FitsBlock actions r.frames) ∧ e.PausedAt r.frames) →
      Throws (eng.loopRound step loopId controller actions controllerBase actionsBase path iteration
        controllerOutput pending) e w fun _ _ => False) ∧
    (∀ loopId controller actions controllerBase actionsBase path iteration pending decided,
      Total (eng.loopFollow step loopId controller actions controllerBase actionsBase path
        iteration pending decided) loopId (actionsResume? pending) fun e fs =>
          Frame.Below e loopId fs ∧ Frame.FitsBlock actions fs) ∧
    (∀ parentId candidate branchType iteration nodes base entry resume,
      Total (eng.runChild step parentId candidate branchType iteration nodes base entry resume)
        parentId resume fun e fs => Frame.Below e parentId fs ∧ Frame.FitsBlock nodes fs) := by
  have fresh : ∀ {P : Resume → Prop}, ∀ r, (none : Option Resume) = some r → P r :=
    fun _ h => by cases h
  apply Engine.runBlock.mutual_induct eng step
    (fun id nodes base entry resume =>
      Total (eng.runBlock step id nodes base entry resume) id resume fun e fs =>
        Frame.Atop e id fs ∧ Frame.FitsBlock nodes fs)
    (fun id nodes base index previous nested =>
      Total (eng.blockFrom step id nodes base index previous nested) id nested fun e fs =>
        Frame.Below e id fs ∧ ∃ node, nodes[index]? = some node ∧ Frame.FitsNode node previous fs)
    (fun id node index path previous resuming =>
      Total (eng.runNode step id node index path previous resuming) id resuming fun e fs =>
        Frame.Below e id fs ∧ Frame.FitsNode node previous fs)
    (fun parentId index path parts resume =>
      Total (eng.runLoop step parentId index path parts resume) parentId resume fun e fs =>
        Frame.Below e parentId fs ∧ Frame.FitsLoop parts fs)
    (fun loopId controller actions controllerBase actionsBase path iteration controllerOutput
      pending => ∀ e w, (e.get? loopId).isSome →
      (∀ r, controllerResume? pending = some r →
        (Frame.Atop e loopId r.frames ∧ Frame.FitsBlock [controller] r.frames) ∧ e.PausedAt r.frames) →
      (∀ r, actionsResume? pending = some r →
        (Frame.Below e loopId r.frames ∧ Frame.FitsBlock actions r.frames) ∧ e.PausedAt r.frames) →
      Throws (eng.loopRound step loopId controller actions controllerBase actionsBase path iteration
        controllerOutput pending) e w fun _ _ => False)
    (fun loopId controller actions controllerBase actionsBase path iteration pending decided =>
      Total (eng.loopFollow step loopId controller actions controllerBase actionsBase path
        iteration pending decided) loopId (actionsResume? pending) fun e fs =>
          Frame.Below e loopId fs ∧ Frame.FitsBlock actions fs)
    (fun parentId candidate branchType iteration nodes base entry resume =>
      Total (eng.runChild step parentId candidate branchType iteration nodes base entry resume)
        parentId resume fun e fs => Frame.Below e parentId fs ∧ Frame.FitsBlock nodes fs)
  -- `runBlock`: the cursor starts with a block frame of the block's instance.
  · intro id nodes base entry ih e w hx _
    rw [Engine.runBlock]
    exact ih e w hx fresh
  · intro id nodes base entry r hr e w _ hres
    obtain ⟨⟨⟨_, _, _, hfs, _⟩, _⟩, _⟩ := hres r rfl
    rw [hr] at hfs
    cases hfs
  · -- At the suspended step's block, its paused record is there to complete.
    intro id nodes base entry r frameId index before rest hr hid hempty ih e w hx hres
    rw [Engine.runBlock, hr]
    simp only [hid, hempty, if_true]
    obtain ⟨_, y, hends, hheld⟩ := hres r rfl
    have hrest : rest = [] := List.isEmpty_iff.1 hempty
    rw [hr, hrest] at hends
    have hy := Frame.endsAt_singleton hends
    have hfid : frameId = id := by simpa using hid
    rw [← hy, hfid] at hheld
    refine Throws.bind ((completePausedStep_throws eng id r.value e w).mono fun _ _ h => h.1 hheld) ?_
    exact (completePausedStep_grows eng id r.value e w).mono fun _ e₁ w₁ hg =>
      ih e₁ w₁ (hg.isSome hx) fresh
  · intro id nodes base entry r frameId index before rest hr hid hempty ih e w hx hres
    rw [Engine.runBlock, hr]
    simp only [hid, hempty, if_true]
    refine ih e w hx fun r' h => ?_
    cases h
    obtain ⟨⟨hatop, hfits⟩, hpaused⟩ := hres r rfl
    rw [hr] at hatop hfits hpaused
    have hne : rest ≠ [] := fun h => by simp [h] at hempty
    exact ⟨⟨(Frame.Atop.cons hatop).2, hfits.node hne⟩, hpaused.tail hne⟩
  · intro id nodes base entry r frameId index before rest hr hid e w _ hres
    obtain ⟨⟨hatop, -⟩, -⟩ := hres r rfl
    rw [hr] at hatop
    rw [(Frame.Atop.cons hatop).1] at hid
    simp at hid
  · intro id nodes base entry r other tail hother hr e w _ hres
    obtain ⟨⟨⟨index, before, rest, hfs, _⟩, _⟩, _⟩ := hres r rfl
    rw [hr] at hfs
    cases hfs
    exact absurd rfl (hother _ index before)
  -- `blockFrom`: the node below the block frame is the one the cursor fits.
  · intro id nodes base index previous nested hnone e w _ _
    rw [Engine.blockFrom_past hnone]
    exact Throws.pure _
  · intro id nodes base index previous nested node hnode path ihNode ihDone ihAbsorb e w hx hres
    rw [Engine.blockFrom]
    split
    · rename_i h
      rw [hnode] at h
      cases h
    rename_i node' h
    rw [hnode] at h
    cases h
    have hnested : ∀ r, nested = some r →
        (Frame.Below e id r.frames ∧ Frame.FitsNode node previous r.frames) ∧ e.PausedAt r.frames := by
      intro r hr
      obtain ⟨⟨hb, node', hnode', hfits⟩, hpaused⟩ := hres r hr
      rw [hnode] at hnode'
      cases hnode'
      exact ⟨⟨hb, hfits⟩, hpaused⟩
    refine Throws.lift_after Run.isCancelled_tame fun cancelled _ => ?_
    refine Throws.ite (fun _ => ?_) (fun _ => ?_)
    · exact Throws.lift_after (Run.info_tame _ _) fun _ _ => Throws.pure _
    refine Throws.bind (ihNode e _ hx hnested) ?_
    refine (runNode_unwinds hgrow e _ fun r hr => (hnested r hr).1.1).mono fun o e₁ w₁ h₁ => ?_
    have hx₁ := h₁.1.isSome hx
    split
    · exact ihDone _ e₁ w₁ hx₁ fresh
    · exact Throws.pure _
    · refine Throws.ite (fun _ => ?_) (fun _ => Throws.pure _)
      exact Throws.lift_after (Run.warn_tame _ _) fun _ w₂ => ihAbsorb _ e₁ w₂ hx₁ fresh
    · exact Throws.pure _
  -- `runNode`: a step holds no frames, the other nodes pass theirs on.
  · intro id index path previous resuming stepId h e w _ hres
    obtain ⟨r, rfl⟩ := Option.isSome_iff_exists.1 h
    obtain ⟨⟨-, hfits⟩, -⟩ := hres r rfl
    cases hfits
  · intro id index path previous resuming stepId h e w hx _
    rw [Engine.runNode, if_neg h]
    exact htotal id _ path previous e w hx
  · intro id index path previous resuming stepId params h e w _ hres
    obtain ⟨r, rfl⟩ := Option.isSome_iff_exists.1 h
    obtain ⟨⟨-, hfits⟩, -⟩ := hres r rfl
    cases hfits
  · intro id index path previous resuming stepId params h e w hx _
    rw [Engine.runNode, if_neg h]
    exact htotal id _ path previous e w hx
  · intro id index path previous resuming children ih e w hx hres
    rw [Engine.runNode]
    refine ih e w hx fun r hr => ?_
    obtain ⟨⟨hb, hfits⟩, hpaused⟩ := hres r hr
    cases hfits with
    | sequence h => exact ⟨⟨hb, h⟩, hpaused⟩
  · intro id index path previous resuming parts ih e w hx hres
    rw [Engine.runNode]
    refine ih e w hx fun r hr => ?_
    obtain ⟨⟨hb, hfits⟩, hpaused⟩ := hres r hr
    cases hfits with
    | loop h => exact ⟨⟨hb, h⟩, hpaused⟩
  · intro id index path previous resuming arms edge arm target hfound ih e w hx hres
    rw [Engine.runNode_branch_found rfl hfound]
    refine ih e w hx fun r hr => ?_
    obtain ⟨⟨hb, hfits⟩, hpaused⟩ := hres r hr
    cases hfits with
    | branch hf h =>
      rw [hfound] at hf
      cases hf
      exact ⟨⟨hb, h⟩, hpaused⟩
  · intro id index path previous resuming arms edge hnone e w _ _
    rw [Engine.runNode_branch_none rfl hnone]
    exact Throws.lift_after (Run.error_tame _ _) fun _ _ => Throws.pure _
  -- `runLoop`: the cursor starts with a frame of the loop, a child of the parent.
  · intro parentId index path resume e w _ _
    rw [Engine.runLoop]
    exact Throws.pure _
  · intro parentId index path controller actions r hr e w _ hres
    obtain ⟨⟨-, hfits⟩, -⟩ := hres r rfl
    rw [hr] at hfits
    cases hfits
  · intro parentId index path controller actions controllerBase actionsBase r loopId iteration output
      phase rest hr ih e w _ hres
    rw [Engine.runLoop, hr]
    obtain ⟨⟨hb, hfits⟩, hpaused⟩ := hres r rfl
    rw [hr] at hb hfits hpaused
    obtain ⟨⟨L, hL, -⟩, hd⟩ := hb
    have hl : (e.get? loopId).isSome := Option.isSome_iff_exists.2 ⟨L, hL⟩
    -- The frame's phase says which block the rest of the cursor fits.
    have hctrl : ∀ r', controllerResume? (some (phase, ⟨rest, r.value⟩)) = some r' →
        (Frame.Atop e loopId r'.frames ∧ Frame.FitsBlock [controller] r'.frames) ∧
          e.PausedAt r'.frames := by
      intro r' h
      cases hfits with
      | controller hf =>
        cases h
        exact ⟨⟨Frame.atop_controller hd hf, hf⟩, hpaused.tail hf.ne_nil⟩
      | actions => cases h
    have hacts : ∀ r', actionsResume? (some (phase, ⟨rest, r.value⟩)) = some r' →
        (Frame.Below e loopId r'.frames ∧ Frame.FitsBlock actions r'.frames) ∧
          e.PausedAt r'.frames := by
      intro r' h
      cases hfits with
      | controller => cases h
      | actions _ hf =>
        cases h
        exact ⟨⟨Frame.descends_actions hd, hf⟩, hpaused.tail hf.ne_nil⟩
    exact Throws.seq (ih e w hl hctrl hacts) fun o _ _ =>
      Throws.after (finishInstance_tame eng loopId o) fun _ _ _ => Throws.pure _
  · intro parentId index path controller actions r other tail hother hr e w _ hres
    obtain ⟨⟨-, hfits⟩, -⟩ := hres r rfl
    rw [hr] at hfits
    cases hfits with
    | controller => exact absurd rfl (hother _ _ _ _)
    | actions => exact absurd rfl (hother _ _ _ _)
  · -- A fresh loop opens its instance under an identifier that is free.
    intro parentId index path controller actions controllerBase actionsBase ih e w hx _
    rw [Engine.runLoop]
    refine Throws.bind Throws.get (Ensures.get ?_)
    split
    · exact Throws.pure _
    refine Throws.bind Throws.get (Ensures.get ?_)
    refine Throws.bind ((openInstance_throws eng _ _ _ _ e w).mono fun _ _ h => ?_) ?_
    · rcases h with ⟨h, -⟩ | ⟨h, -⟩
      · simp [h] at hx
      · rw [Execution.has_freshId] at h
        cases h
    refine (openInstance_spec eng _ _ _ _ e w).mono fun _ e₁ w₁ hpost => ?_
    obtain ⟨t, _, hspawn⟩ := hpost
    exact Throws.seq (ih e e₁ w₁ (Execution.get?_isSome_of_spawn hspawn) fresh fresh) fun o _ _ =>
      Throws.after (finishInstance_tame eng _ o) fun _ _ _ => Throws.pure _
  -- `loopRound`: the controller's block is the loop's own instance.
  · intro loopId controller actions controllerBase actionsBase path iteration controllerOutput
      pending ihFollow ihCtrl e w hl hctrl hacts
    rw [Engine.loopRound]
    refine Throws.lift_after Run.isCancelled_tame fun cancelled w₁ => ?_
    dsimp only
    refine Throws.ite (fun _ => ?_) (fun hna => Throws.ite (fun _ => ?_) (fun _ => ?_))
    · exact ihFollow _ e w₁ hl hacts
    · exact Throws.lift_after (Run.info_tame _ _) fun _ w₂ => ihFollow _ e w₂ hl hacts
    -- Past the controller, no cursor is left for the actions.
    have hnone : ∀ r, actionsResume? pending = some r →
        ∀ (e' : Execution), (Frame.Below e' loopId r.frames ∧ Frame.FitsBlock actions r.frames) ∧
          e'.PausedAt r.frames := by
      intro r h
      rw [h] at hna
      exact absurd rfl hna
    refine Throws.bind (ihCtrl e w₁ hl hctrl) ?_
    refine (runBlock_unwinds hgrow e w₁ fun r hr => (hctrl r hr).1.1.descends).mono
      fun o e₁ w₂ h₁ => ?_
    have hl₁ := h₁.1.isSome hl
    split
    · exact ihFollow _ e₁ w₂ hl₁ fun r h => hnone r h e₁
    · exact ihFollow _ e₁ w₂ hl₁ fun r h => hnone r h e₁
    · exact ihFollow _ e₁ w₂ hl₁ fun r h => hnone r h e₁
  -- `loopFollow`: the actions' block runs in an iteration, a child of the loop.
  · intro loopId controller actions controllerBase actionsBase path iteration pending outcome e w _ _
    rw [Engine.loopFollow]
    exact Throws.pure _
  · intro loopId controller actions controllerBase actionsBase path iteration pending
      controllerOutput edge hcont hlimit e w _ _
    rw [Engine.loopFollow, if_pos hcont, dif_pos hlimit]
    exact Throws.pure _
  · intro loopId controller actions controllerBase actionsBase path iteration pending
      controllerOutput edge hcont hlimit hempty ih e w hl _
    rw [Engine.loopFollow, if_pos hcont, dif_neg hlimit]
    dsimp only
    rw [if_pos hempty]
    exact ih e w hl fresh fresh
  · intro loopId controller actions controllerBase actionsBase path iteration pending
      controllerOutput edge hcont hlimit hempty ihNext ihChild e w hl hacts
    rw [Engine.loopFollow, if_pos hcont, dif_neg hlimit]
    dsimp only
    rw [if_neg hempty]
    refine Throws.lift_after (Run.debug_tame _ _) fun _ w₁ => ?_
    refine Throws.bind (ihChild e w₁ hl hacts) ?_
    refine (runChild_unwinds hgrow e w₁ fun r hr => (hacts r hr).1.1).mono fun o e₁ w₂ h₁ => ?_
    split
    · exact ihNext e₁ w₂ (h₁.1.isSome hl) fresh fresh
    · exact Throws.pure _
    · exact Throws.pure _
  · intro loopId controller actions controllerBase actionsBase path iteration pending
      controllerOutput edge hcont hexit e w _ _
    rw [Engine.loopFollow, if_neg hcont, if_pos hexit]
    exact Throws.pure _
  · intro loopId controller actions controllerBase actionsBase path iteration pending
      controllerOutput edge hcont hexit e w _ _
    rw [Engine.loopFollow, if_neg hcont, if_neg hexit]
    exact Throws.lift_after (Run.error_tame _ _) fun _ _ => Throws.pure _
  -- `runChild`: re-entered in the child the cursor names, or opened fresh.
  · intro parentId candidate branchType iteration nodes base entry r hr e w _ hres
    obtain ⟨⟨-, hfits⟩, -⟩ := hres r rfl
    rw [hr] at hfits
    exact absurd rfl hfits.ne_nil
  · intro parentId candidate branchType iteration nodes base entry r frame tail hr ih e w _ hres
    rw [Engine.runChild, hr]
    obtain ⟨⟨hb, hfits⟩, hpaused⟩ := hres r rfl
    rw [hr] at hb hfits
    obtain ⟨hy, hatop⟩ := hb.atop hfits
    refine Throws.seq (ih e w hy fun r' h => ?_) fun o _ _ =>
      Throws.after (finishInstance_tame eng _ o) fun _ _ _ => Throws.pure _
    cases h
    rw [hr]
    rw [hr] at hpaused
    exact ⟨⟨hatop, hfits⟩, hpaused⟩
  · intro parentId candidate branchType iteration nodes base entry ih e w hx _
    rw [Engine.runChild]
    refine Throws.bind Throws.get (Ensures.get ?_)
    split
    · exact Throws.pure _
    refine Throws.bind Throws.get (Ensures.get ?_)
    refine Throws.bind ((openInstance_throws eng _ _ _ _ e w).mono fun _ _ h => ?_) ?_
    · rcases h with ⟨h, -⟩ | ⟨h, -⟩
      · simp [h] at hx
      · rw [Execution.has_freshId] at h
        cases h
    refine (openInstance_spec eng _ _ _ _ e w).mono fun _ e₁ w₁ hpost => ?_
    obtain ⟨t, _, hspawn⟩ := hpost
    exact Throws.seq (ih e e₁ w₁ (Execution.get?_isSome_of_spawn hspawn) fresh) fun o _ _ =>
      Throws.after (finishInstance_tame eng _ o) fun _ _ _ => Throws.pure _

end Total

end Engine

end Flowline
