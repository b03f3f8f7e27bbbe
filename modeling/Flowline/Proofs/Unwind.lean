import Flowline.Proofs.Walk
set_option autoImplicit false

/-!
# Unwinding and re-entering the walk

When a step suspends, every block on the way up adds a block frame and every
loop a loop frame; reversed, they make the cursor that a resume follows back
down. A cursor is well formed (`Frame.Descends`) when each frame leads to the
next (`Frame.Leads`): below a block frame comes a frame of a child instance
(a sub-flow, a branch arm or a loop), below a loop's controller frame the
loop's own block, below its actions frame the block of an iteration, a child
of the loop.

Whatever runs the step nodes, as long as it only grows the execution and
suspends without frames (`StepRunner.Grows`, which `Engine.runStep` does), the
walk only grows its execution, and a suspension unwinds into a well-formed
cursor ending at the block it started in; resumed along a well-formed cursor,
the walk enters only children of the instances it is in
(`Engine.walk_unwinds`).
-/

namespace Flowline

namespace Frame

variable {e e' : Execution}

/-- How a frame may follow another in a cursor, outermost first. -/
def Leads (e : Execution) : Frame → Frame → Prop
  | .block x _ _, next => e.IsChild next.instanceId x
  | .loop l _ _ .controller, .block y _ _ => y = l
  | .loop l _ _ .actions, .block y _ _ => e.IsChild y l
  | .loop .., .loop .. => False

/-- A cursor whose every frame leads to the next. -/
def Descends (e : Execution) : List Frame → Prop
  | f :: g :: rest => Leads e f g ∧ Descends e (g :: rest)
  | _ => True

/-- Frames that go down from instance `x`: the first in a child of `x`. -/
def Below (e : Execution) (x : String) : List Frame → Prop
  | [] => True
  | f :: rest => e.IsChild f.instanceId x ∧ Descends e (f :: rest)

/-- Frames that start with a block frame of `x` and go down from there. -/
def Atop (e : Execution) (x : String) (fs : List Frame) : Prop :=
  ∃ index before rest, fs = .block x index before :: rest ∧ Below e x rest

/-! ### Growing keeps a cursor well formed -/

theorem Leads.grows (h : e.Grows e') {f g : Frame} (hl : Leads e f g) : Leads e' f g := by
  match f, g, hl with
  | .block _ _ _, _, hl => exact h.isChild hl
  | .loop _ _ _ .controller, .block _ _ _, hl => exact hl
  | .loop _ _ _ .actions, .block _ _ _, hl => exact h.isChild hl

theorem Descends.grows (h : e.Grows e') : ∀ {fs : List Frame}, Descends e fs → Descends e' fs
  | [], _ => trivial
  | [_], _ => trivial
  | _ :: _ :: _, ⟨hl, hd⟩ => ⟨hl.grows h, Descends.grows h hd⟩

theorem Below.grows (h : e.Grows e') {x : String} {fs : List Frame} (hb : Below e x fs) :
    Below e' x fs := by
  cases fs with
  | nil => trivial
  | cons f rest => exact ⟨h.isChild hb.1, hb.2.grows h⟩

theorem Atop.grows (h : e.Grows e') {x : String} {fs : List Frame} (ha : Atop e x fs) :
    Atop e' x fs := by
  obtain ⟨index, before, rest, rfl, hb⟩ := ha
  exact ⟨index, before, rest, rfl, hb.grows h⟩

/-! ### Reading a cursor frame by frame -/

/-- Below a block frame of `x`, the cursor goes down from `x`. -/
theorem descends_block {x : String} {index : Nat} {before : Option StepOutput}
    {rest : List Frame} : Descends e (.block x index before :: rest) ↔ Below e x rest := by
  cases rest with
  | nil => exact ⟨fun _ => trivial, fun _ => trivial⟩
  | cons g rest => exact ⟨fun ⟨hl, hd⟩ => ⟨hl, hd⟩, fun ⟨hl, hd⟩ => ⟨hl, hd⟩⟩

theorem Atop.descends {x : String} {fs : List Frame} (h : Atop e x fs) : Descends e fs := by
  obtain ⟨index, before, rest, rfl, hb⟩ := h
  exact descends_block.2 hb

/-- Frames atop a child of `x` go down from `x`. -/
theorem Atop.below {x y : String} {fs : List Frame} (h : Atop e y fs) (hc : e.IsChild y x) :
    Below e x fs := by
  obtain ⟨index, before, rest, rfl, hb⟩ := h
  exact ⟨hc, descends_block.2 hb⟩

/-- Below a loop's controller frame comes a well-formed cursor of the loop's
own block. -/
theorem descends_controller {l : String} {iteration : Nat} {output : Option StepOutput}
    {rest : List Frame} (h : Descends e (.loop l iteration output .controller :: rest)) :
    Descends e rest := by
  cases rest with
  | nil => trivial
  | cons g rest => exact h.2

/-- Below a loop's actions frame, the cursor goes down from the loop. -/
theorem descends_actions {l : String} {iteration : Nat} {output : Option StepOutput}
    {rest : List Frame} (h : Descends e (.loop l iteration output .actions :: rest)) :
    Below e l rest := by
  match rest, h with
  | [], _ => trivial
  | .block _ _ _ :: _, ⟨hl, hd⟩ => exact ⟨hl, hd⟩

end Frame

/-- A step runner that only grows the execution and suspends without
frames: what the walk needs of whatever runs its step nodes. -/
def StepRunner.Grows (step : StepRunner) : Prop :=
  ∀ id node path previous e w, Ensures (step id node path previous) e w fun o e' _ =>
    e.Grows e' ∧ ∀ fs pause, o = .suspended fs pause → fs = []

/-- The engine's step runner grows the execution and suspends without
frames. -/
theorem Engine.runStep_grows (eng : Engine) : StepRunner.Grows eng.runStep := by
  intro id node path previous e w
  refine (eng.runStep_spec id node path previous e w).mono fun o e' _ h => ?_
  obtain ⟨e₁, r, hedits, _, rfl, -, -, hend⟩ := h
  refine ⟨hedits.grows.trans (.record e₁ id r), fun fs pause ho => ?_⟩
  cases hend with
  | suspended => cases ho; rfl
  | _ => cases ho

namespace Engine

variable (eng : Engine) (step : StepRunner)

/-! ## What each walk function keeps

Each function of the walk, from an execution and along a resume cursor that
go down as the function expects, grows its execution, and a suspension it
returns leaves frames that go down from where it stands. -/

/-- A block's walk. -/
abbrev BlockUnwinds (id : String) (nodes : List FlowNode) (base : String)
    (entry : Option StepOutput) (resume : Option Resume) : Prop :=
  ∀ e w, (∀ r, resume = some r → Frame.Descends e r.frames) →
    Ensures (eng.runBlock step id nodes base entry resume) e w fun o e' _ =>
      e.Grows e' ∧ ∀ fs pause, o = .suspended fs pause → Frame.Atop e' id fs.reverse

/-- A block's walk from a position on. -/
abbrev FromUnwinds (id : String) (nodes : List FlowNode) (base : String) (index : Nat)
    (previous : Option StepOutput) (nested : Option Resume) : Prop :=
  ∀ e w, (∀ r, nested = some r → Frame.Below e id r.frames) →
    Ensures (eng.blockFrom step id nodes base index previous nested) e w fun o e' _ =>
      e.Grows e' ∧ ∀ fs pause, o = .suspended fs pause → Frame.Atop e' id fs.reverse

/-- One node of a block. -/
abbrev NodeUnwinds (id : String) (node : FlowNode) (index : Nat) (path : String)
    (previous : Option StepOutput) (resuming : Option Resume) : Prop :=
  ∀ e w, (∀ r, resuming = some r → Frame.Below e id r.frames) →
    Ensures (eng.runNode step id node index path previous resuming) e w fun o e' _ =>
      e.Grows e' ∧ ∀ fs pause, o = .suspended fs pause → Frame.Below e' id fs.reverse

/-- A loop node. -/
abbrev LoopUnwinds (parentId : String) (index : Nat) (path : String) (parts : List FlowNode)
    (resume : Option Resume) : Prop :=
  ∀ e w, (∀ r, resume = some r → Frame.Below e parentId r.frames) →
    Ensures (eng.runLoop step parentId index path parts resume) e w fun o e' _ =>
      e.Grows e' ∧ ∀ fs pause, o = .suspended fs pause → Frame.Below e' parentId fs.reverse

/-- A loop's rounds. -/
abbrev RoundUnwinds (loopId : String) (controller : FlowNode) (actions : List FlowNode)
    (controllerBase actionsBase path : String) (iteration : Nat)
    (controllerOutput : Option StepOutput) (pending : Option (LoopPhase × Resume)) : Prop :=
  ∀ e w, (∀ r, controllerResume? pending = some r → Frame.Descends e r.frames) →
    (∀ r, actionsResume? pending = some r → Frame.Below e loopId r.frames) →
    Ensures (eng.loopRound step loopId controller actions controllerBase actionsBase path iteration
      controllerOutput pending) e w fun o e' _ =>
      e.Grows e' ∧ ∀ fs pause, o = .suspended fs pause →
        ∃ it out phase rest, fs.reverse = .loop loopId it out phase :: rest ∧
          Frame.Descends e' fs.reverse

/-- What a loop does on its controller's decision. A decided suspension
comes from the controller's block, under a frame of the loop. -/
abbrev FollowUnwinds (loopId : String) (controller : FlowNode) (actions : List FlowNode)
    (controllerBase actionsBase path : String) (iteration : Nat)
    (pending : Option (LoopPhase × Resume)) (decided : Sum Outcome (Option StepOutput)) : Prop :=
  ∀ e w, (∀ r, actionsResume? pending = some r → Frame.Below e loopId r.frames) →
    (∀ fs pause, decided = .inl (.suspended fs pause) →
      ∃ it out phase rest, fs.reverse = .loop loopId it out phase :: rest ∧
        Frame.Descends e fs.reverse) →
    Ensures (eng.loopFollow step loopId controller actions controllerBase actionsBase path iteration
      pending decided) e w fun o e' _ =>
      e.Grows e' ∧ ∀ fs pause, o = .suspended fs pause →
        ∃ it out phase rest, fs.reverse = .loop loopId it out phase :: rest ∧
          Frame.Descends e' fs.reverse

/-- A block in a child instance. -/
abbrev ChildUnwinds (parentId candidate : String) (branchType : BranchType)
    (iteration : Option Nat) (nodes : List FlowNode) (base : String) (entry : Option StepOutput)
    (resume : Option Resume) : Prop :=
  ∀ e w, (∀ r, resume = some r → Frame.Below e parentId r.frames) →
    Ensures (eng.runChild step parentId candidate branchType iteration nodes base entry resume) e w
      fun o e' _ => e.Grows e' ∧ ∀ fs pause, o = .suspended fs pause →
        ∃ y, e'.IsChild y parentId ∧ Frame.Atop e' y fs.reverse

/-- An outcome that is not a suspension leaves no frames to check. -/
theorem not_suspended {o : Outcome} {P : List Frame → Prop}
    (h : ∀ fs pause, o ≠ .suspended fs pause) : ∀ fs pause, o = .suspended fs pause → P fs :=
  fun fs pause ho => absurd ho (h fs pause)

/-- The walk only grows its execution; a suspension unwinds into frames that
go down from where each walk function stands, and a resume along such frames
only enters children of the instances it is in. -/
theorem walk_unwinds (hstep : StepRunner.Grows step) :
    (∀ id nodes base entry resume, BlockUnwinds eng step id nodes base entry resume) ∧
    (∀ id nodes base index previous nested,
      FromUnwinds eng step id nodes base index previous nested) ∧
    (∀ id node index path previous resuming,
      NodeUnwinds eng step id node index path previous resuming) ∧
    (∀ parentId index path parts resume, LoopUnwinds eng step parentId index path parts resume) ∧
    (∀ loopId controller actions controllerBase actionsBase path iteration controllerOutput pending,
      RoundUnwinds eng step loopId controller actions controllerBase actionsBase path iteration
        controllerOutput pending) ∧
    (∀ loopId controller actions controllerBase actionsBase path iteration pending decided,
      FollowUnwinds eng step loopId controller actions controllerBase actionsBase path iteration
        pending decided) ∧
    (∀ parentId candidate branchType iteration nodes base entry resume,
      ChildUnwinds eng step parentId candidate branchType iteration nodes base entry resume) := by
  apply Engine.runBlock.mutual_induct eng step (BlockUnwinds eng step) (FromUnwinds eng step)
    (NodeUnwinds eng step) (LoopUnwinds eng step) (RoundUnwinds eng step)
    (FollowUnwinds eng step) (ChildUnwinds eng step)
  -- `runBlock`: fresh, on a cursor, at the suspended step, on the way down; on
  -- the way down the rest of the cursor goes down from `id`.
  · intro id nodes base entry ih e w _
    rw [Engine.runBlock]
    exact ih e w fun _ h => by cases h
  · intro id nodes base entry r hr e w _
    rw [Engine.runBlock, hr]
    exact Ensures.throw
  · intro id nodes base entry r frameId index before rest hr hid hempty ih e w _
    rw [Engine.runBlock, hr]
    simp only [hid, hempty, if_true]
    refine Ensures.next (completePausedStep_grows eng id r.value e w) fun _ e₁ _ h₁ => ?_
    exact (ih e₁ _ fun _ h => by cases h).mono fun o e₂ _ h₂ => ⟨h₁.trans h₂.1, h₂.2⟩
  · intro id nodes base entry r frameId index before rest hr hid hempty ih e w hres
    rw [Engine.runBlock, hr]
    simp only [hid, hempty, if_true]
    have hfid : frameId = id := by simpa using hid
    subst hfid
    have hdesc := hres r rfl
    rw [hr] at hdesc
    exact ih e w fun r' h => by cases h; exact Frame.descends_block.1 hdesc
  · intro id nodes base entry r frameId index before rest hr hid e w _
    rw [Engine.runBlock, hr]
    simp only [hid]
    exact Ensures.throw
  · intro id nodes base entry r other tail hother hr e w _
    rw [Engine.runBlock_not_block hother hr]
    exact Ensures.throw
  -- `blockFrom`: run the node, then go on, absorb its failure, or stop.
  · intro id nodes base index previous nested hnone e w _
    rw [Engine.blockFrom_past hnone]
    exact Ensures.pure ⟨.refl e, not_suspended fun _ _ h => by cases h⟩
  · intro id nodes base index previous nested node hnode path ihNode ihDone ihAbsorb e w hn
    rw [Engine.blockFrom]
    split
    · rename_i h
      rw [hnode] at h
      cases h
    rename_i node' h
    rw [hnode] at h
    cases h
    refine Ensures.bind (Ensures.lift fun cancelled _ _ => ?_)
    refine Ensures.ite (fun _ => ?_) (fun _ => ?_)
    · exact Ensures.bind (Ensures.lift fun _ _ _ =>
        Ensures.pure ⟨.refl e, not_suspended fun _ _ h => by cases h⟩)
    refine Ensures.next (ihNode e _ hn) fun o e₁ _ h₁ => ?_
    obtain ⟨hg₁, hs₁⟩ := h₁
    split
    · exact (ihDone _ e₁ _ fun _ h => by cases h).mono fun o' e₂ _ h₂ => ⟨hg₁.trans h₂.1, h₂.2⟩
    · rename_i frames pause
      refine Ensures.pure ⟨hg₁, fun fs p h => ?_⟩
      cases h
      exact ⟨index, previous, frames.reverse, by simp, hs₁ frames pause rfl⟩
    · refine Ensures.ite (fun _ => ?_) (fun _ => ?_)
      · exact Ensures.bind (Ensures.lift fun _ _ _ =>
          (ihAbsorb _ e₁ _ fun _ h => by cases h).mono fun o' e₂ _ h₂ => ⟨hg₁.trans h₂.1, h₂.2⟩)
      · exact Ensures.pure ⟨hg₁, not_suspended fun _ _ h => by cases h⟩
    · exact Ensures.pure ⟨hg₁, not_suspended fun _ _ h => by cases h⟩
  -- `runNode`: a step runs through the step runner, the other nodes in a child.
  · intro id index path previous resuming stepId h e w _
    rw [Engine.runNode, if_pos h]
    exact Ensures.throw
  · intro id index path previous resuming stepId h e w _
    rw [Engine.runNode, if_neg h]
    exact (hstep id _ path previous e w).mono fun o e' _ h =>
      ⟨h.1, fun fs p hs => by rw [h.2 fs p hs]; trivial⟩
  · intro id index path previous resuming stepId params h e w _
    rw [Engine.runNode, if_pos h]
    exact Ensures.throw
  · intro id index path previous resuming stepId params h e w _
    rw [Engine.runNode, if_neg h]
    exact (hstep id _ path previous e w).mono fun o e' _ h =>
      ⟨h.1, fun fs p hs => by rw [h.2 fs p hs]; trivial⟩
  · intro id index path previous resuming children ih e w hres
    rw [Engine.runNode]
    exact (ih e w hres).mono fun o e' _ h => ⟨h.1, fun fs p hs => by
      obtain ⟨y, hy, ha⟩ := h.2 fs p hs
      exact ha.below hy⟩
  · intro id index path previous resuming parts ih e w hres
    rw [Engine.runNode]
    exact ih e w hres
  · intro id index path previous resuming arms edge arm target hfound ih e w hres
    rw [Engine.runNode_branch_found rfl hfound]
    exact (ih e w hres).mono fun o e' _ h => ⟨h.1, fun fs p hs => by
      obtain ⟨y, hy, ha⟩ := h.2 fs p hs
      exact ha.below hy⟩
  · intro id index path previous resuming arms edge hnone e w _
    rw [Engine.runNode_branch_none rfl hnone]
    exact Ensures.bind (Ensures.lift fun _ _ _ =>
      Ensures.pure ⟨.refl e, not_suspended fun _ _ h => by cases h⟩)
  -- `runLoop`: re-entered on its frame, or opened fresh below the parent.
  · intro parentId index path resume e w _
    rw [Engine.runLoop]
    exact Ensures.pure ⟨.refl e, not_suspended fun _ _ h => by cases h⟩
  · intro parentId index path controller actions r hr e w _
    rw [Engine.runLoop, hr]
    exact Ensures.throw
  · intro parentId index path controller actions controllerBase actionsBase r loopId iteration output
      phase rest hr ih e w hres
    rw [Engine.runLoop, hr]
    have hbelow := hres r rfl
    rw [hr] at hbelow
    obtain ⟨hchild, hdesc⟩ := hbelow
    have hctrl : ∀ r', controllerResume? (some (phase, ⟨rest, r.value⟩)) = some r' →
        Frame.Descends e r'.frames := by
      intro r' h
      cases phase with
      | controller => cases h; exact Frame.descends_controller hdesc
      | actions => cases h
    have hacts : ∀ r', actionsResume? (some (phase, ⟨rest, r.value⟩)) = some r' →
        Frame.Below e loopId r'.frames := by
      intro r' h
      cases phase with
      | controller => cases h
      | actions => cases h; exact Frame.descends_actions hdesc
    refine Ensures.next (ih e w hctrl hacts) fun o e₁ _ h₁ => ?_
    refine Ensures.next (finishInstance_grows eng loopId o e₁ _) fun _ e₂ _ h₂ => ?_
    refine Ensures.pure ⟨h₁.1.trans h₂, fun fs p hs => ?_⟩
    obtain ⟨it, out, ph, rest', hrev, hd⟩ := h₁.2 fs p hs
    rw [hrev] at hd ⊢
    exact ⟨(h₁.1.trans h₂).isChild hchild, hd.grows h₂⟩
  · intro parentId index path controller actions r other tail hother hr e w _
    rw [Engine.runLoop_not_loop hother hr]
    exact Ensures.throw
  · intro parentId index path controller actions controllerBase actionsBase ih e w _
    rw [Engine.runLoop]
    refine Ensures.bind (Ensures.get ?_)
    split
    · exact Ensures.pure ⟨.refl e, not_suspended fun _ _ h => by cases h⟩
    refine Ensures.bind (Ensures.get ?_)
    refine Ensures.next (openInstance_spec eng _ _ _ _ e w) fun _ e₁ _ h₁ => ?_
    obtain ⟨t, _, hspawn⟩ := h₁
    have hg₁ := Execution.Grows.of_spawn hspawn
    refine Ensures.next (ih e e₁ _ (fun _ h => by cases h) (fun _ h => by cases h))
      fun o e₂ _ h₂ => ?_
    refine Ensures.next (finishInstance_grows eng _ o e₂ _) fun _ e₃ _ h₃ => ?_
    have hg := hg₁.trans (h₂.1.trans h₃)
    refine Ensures.pure ⟨hg, fun fs p hs => ?_⟩
    obtain ⟨it, out, ph, rest, hrev, hd⟩ := h₂.2 fs p hs
    rw [hrev] at hd ⊢
    exact ⟨(h₂.1.trans h₃).isChild (Execution.isChild_spawn hspawn), hd.grows h₃⟩
  -- `loopRound`: the controller decides, then the loop follows the decision.
  · intro loopId controller actions controllerBase actionsBase path iteration controllerOutput
      pending ihFollow ihCtrl e w hc ha
    rw [Engine.loopRound]
    refine Ensures.bind (Ensures.lift fun cancelled w₁ _ => ?_)
    dsimp only
    refine Ensures.ite (fun _ => ?_) (fun _ => Ensures.ite (fun _ => ?_) (fun _ => ?_))
    · exact ihFollow _ e w₁ ha fun _ _ h => by cases h
    · exact Ensures.bind (Ensures.lift fun _ w₂ _ => ihFollow _ e w₂ ha fun _ _ h => by cases h)
    · refine Ensures.next (ihCtrl e w₁ hc) fun o e₁ w₂ h₁ => ?_
      obtain ⟨hg₁, hs₁⟩ := h₁
      have ha₁ : ∀ r, actionsResume? pending = some r → Frame.Below e₁ loopId r.frames :=
        fun r h => (ha r h).grows hg₁
      split
      · exact (ihFollow _ e₁ w₂ ha₁ fun _ _ h => by cases h).mono fun o' e₂ _ h₂ =>
          ⟨hg₁.trans h₂.1, h₂.2⟩
      · rename_i frames pause
        refine (ihFollow _ e₁ w₂ ha₁ fun fs p h => ?_).mono fun o' e₂ _ h₂ =>
          ⟨hg₁.trans h₂.1, h₂.2⟩
        cases h
        obtain ⟨index, before, rest, hrev, hb⟩ := hs₁ frames pause rfl
        refine ⟨iteration, controllerOutput, .controller, frames.reverse, by simp, ?_⟩
        rw [List.reverse_append, hrev, List.reverse_singleton, List.singleton_append]
        exact ⟨rfl, Frame.descends_block.2 hb⟩
      · rename_i other hdone hsusp
        refine (ihFollow _ e₁ w₂ ha₁ fun fs p h => ?_).mono fun o' e₂ _ h₂ =>
          ⟨hg₁.trans h₂.1, h₂.2⟩
        cases h
        exact absurd rfl (hsusp fs p)
  -- `loopFollow`: the actions run in an iteration instance, then the next round.
  · intro loopId controller actions controllerBase actionsBase path iteration pending outcome e w _ hd
    rw [Engine.loopFollow]
    exact Ensures.pure ⟨.refl e, fun fs p h => by cases h; exact hd fs p rfl⟩
  · intro loopId controller actions controllerBase actionsBase path iteration pending
      controllerOutput edge hcont hlimit e w _ _
    rw [Engine.loopFollow, if_pos hcont, dif_pos hlimit]
    exact Ensures.pure ⟨.refl e, not_suspended fun _ _ h => by cases h⟩
  · intro loopId controller actions controllerBase actionsBase path iteration pending
      controllerOutput edge hcont hlimit hempty ih e w _ _
    rw [Engine.loopFollow, if_pos hcont, dif_neg hlimit]
    dsimp only
    rw [if_pos hempty]
    exact ih e w (fun _ h => by cases h) (fun _ h => by cases h)
  · intro loopId controller actions controllerBase actionsBase path iteration pending
      controllerOutput edge hcont hlimit hempty ihNext ihChild e w ha _
    rw [Engine.loopFollow, if_pos hcont, dif_neg hlimit]
    dsimp only
    rw [if_neg hempty]
    refine Ensures.bind (Ensures.lift fun _ _ _ => ?_)
    refine Ensures.next (ihChild e _ ha) fun o e₁ w₁ h₁ => ?_
    obtain ⟨hg₁, hs₁⟩ := h₁
    split
    · exact (ihNext e₁ w₁ (fun _ h => by cases h) (fun _ h => by cases h)).mono
        fun o' e₂ _ h₂ => ⟨hg₁.trans h₂.1, h₂.2⟩
    · rename_i frames pause
      refine Ensures.pure ⟨hg₁, fun fs p h => ?_⟩
      cases h
      obtain ⟨y, hy, index, before, rest, hrev, hb⟩ := hs₁ frames pause rfl
      refine ⟨iteration, controllerOutput, .actions, frames.reverse, by simp, ?_⟩
      rw [List.reverse_append, hrev, List.reverse_singleton, List.singleton_append]
      exact ⟨hy, Frame.descends_block.2 hb⟩
    · rename_i other hdone hsusp
      refine Ensures.pure ⟨hg₁, fun fs p h => ?_⟩
      cases h
      exact absurd rfl (hsusp fs p)
  · intro loopId controller actions controllerBase actionsBase path iteration pending
      controllerOutput edge hcont hexit e w _ _
    rw [Engine.loopFollow, if_neg hcont, if_pos hexit]
    exact Ensures.pure ⟨.refl e, not_suspended fun _ _ h => by cases h⟩
  · intro loopId controller actions controllerBase actionsBase path iteration pending
      controllerOutput edge hcont hexit e w _ _
    rw [Engine.loopFollow, if_neg hcont, if_neg hexit]
    exact Ensures.bind (Ensures.lift fun _ _ _ =>
      Ensures.pure ⟨.refl e, not_suspended fun _ _ h => by cases h⟩)
  -- `runChild`: re-entered in the instance its frame names, or opened fresh.
  · intro parentId candidate branchType iteration nodes base entry r hr e w _
    rw [Engine.runChild, hr]
    exact Ensures.throw
  · intro parentId candidate branchType iteration nodes base entry r frame tail hr ih e w hres
    rw [Engine.runChild, hr]
    have hbelow := hres r rfl
    rw [hr] at hbelow
    obtain ⟨hchild, hdesc⟩ := hbelow
    refine Ensures.next (ih e w fun r' h => by cases h; rw [hr]; exact hdesc) fun o e₁ _ h₁ => ?_
    refine Ensures.next (finishInstance_grows eng _ o e₁ _) fun _ e₂ _ h₂ => ?_
    exact Ensures.pure ⟨h₁.1.trans h₂, fun fs p hs =>
      ⟨frame.instanceId, (h₁.1.trans h₂).isChild hchild, (h₁.2 fs p hs).grows h₂⟩⟩
  · intro parentId candidate branchType iteration nodes base entry ih e w _
    rw [Engine.runChild]
    refine Ensures.bind (Ensures.get ?_)
    split
    · exact Ensures.pure ⟨.refl e, not_suspended fun _ _ h => by cases h⟩
    refine Ensures.bind (Ensures.get ?_)
    refine Ensures.next (openInstance_spec eng _ _ _ _ e w) fun _ e₁ _ h₁ => ?_
    obtain ⟨t, _, hspawn⟩ := h₁
    have hg₁ := Execution.Grows.of_spawn hspawn
    refine Ensures.next (ih e e₁ _ fun _ h => by cases h) fun o e₂ _ h₂ => ?_
    refine Ensures.next (finishInstance_grows eng _ o e₂ _) fun _ e₃ _ h₃ => ?_
    exact Ensures.pure ⟨hg₁.trans (h₂.1.trans h₃), fun fs p hs =>
      ⟨_, (h₂.1.trans h₃).isChild (Execution.isChild_spawn hspawn), (h₂.2 fs p hs).grows h₃⟩⟩

section Projections

variable {eng step} (hstep : StepRunner.Grows step)
include hstep

theorem runBlock_unwinds {id : String} {nodes : List FlowNode} {base : String}
    {entry : Option StepOutput} {resume : Option Resume} :
    BlockUnwinds eng step id nodes base entry resume :=
  (walk_unwinds eng step hstep).1 id nodes base entry resume

theorem runNode_unwinds {id : String} {node : FlowNode} {index : Nat} {path : String}
    {previous : Option StepOutput} {resuming : Option Resume} :
    NodeUnwinds eng step id node index path previous resuming :=
  (walk_unwinds eng step hstep).2.2.1 id node index path previous resuming

theorem loopRound_unwinds {loopId : String} {controller : FlowNode} {actions : List FlowNode}
    {controllerBase actionsBase path : String} {iteration : Nat}
    {controllerOutput : Option StepOutput} {pending : Option (LoopPhase × Resume)} :
    RoundUnwinds eng step loopId controller actions controllerBase actionsBase path iteration
      controllerOutput pending :=
  (walk_unwinds eng step hstep).2.2.2.2.1 loopId controller actions controllerBase actionsBase path
    iteration controllerOutput pending

theorem runChild_unwinds {parentId candidate : String} {branchType : BranchType}
    {iteration : Option Nat} {nodes : List FlowNode} {base : String} {entry : Option StepOutput}
    {resume : Option Resume} :
    ChildUnwinds eng step parentId candidate branchType iteration nodes base entry resume :=
  (walk_unwinds eng step hstep).2.2.2.2.2.2 parentId candidate branchType iteration nodes base
    entry resume

end Projections

end Engine

/-! ## Tickets a resume can follow -/

/-- A paused execution a resume can follow: its execution is grown and its
cursor goes down frame by frame. -/
def PausedExecution.Honest (p : PausedExecution) : Prop :=
  p.execution.Grown ∧ Frame.Descends p.execution p.cursor.frames

/-- A world whose pause store is in memory and holds only paused executions a
resume can follow. -/
def World.Honest (w : World) : Prop :=
  ∃ slots, w.store = .memory slots ∧ ∀ k p, (k, some p) ∈ slots → p.Honest

/-- What a store in memory gives out is one of its slots. -/
theorem mem_of_takeSlot {slots : List (String × Option PausedExecution)} {id : String}
    {p : PausedExecution} {rest : List (String × Option PausedExecution)}
    (h : takeSlot slots id = .ok (p, rest)) : ∃ k, (k, some p) ∈ slots := by
  unfold takeSlot at h
  split at h
  · cases h
  · cases h
  · rename_i k p' hfind
    cases h
    exact ⟨k, List.mem_of_find?_eq_some hfind⟩

/-- A ticket claimed from a store in memory is one the store kept. -/
theorem claimTicket_kept {w : World} {slots : List (String × Option PausedExecution)}
    (hstore : w.store = .memory slots) (id : String) :
    Run.Ensures (Run.claimTicket id) w fun p _ => ∃ k, (k, some p) ∈ slots := by
  unfold Run.claimTicket
  refine Run.Ensures.bind (Run.Ensures.get ?_)
  rw [hstore]
  dsimp only
  split
  · rename_i p rest htake
    exact Run.Ensures.after fun _ _ => Run.Ensures.pure (mem_of_takeSlot htake)
  · exact Run.Ensures.throw

/-- A claimed ticket of an honest world can be followed. -/
theorem claimTicket_honest {w : World} (hw : w.Honest) (id : String) :
    Run.Ensures (Run.claimTicket id) w fun p _ => p.Honest := by
  obtain ⟨slots, hstore, hslots⟩ := hw
  exact (claimTicket_kept hstore id).mono fun p _ ⟨k, hk⟩ => hslots k p hk

end Flowline
