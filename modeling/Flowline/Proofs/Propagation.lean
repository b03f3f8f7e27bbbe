import Flowline.Proofs.Unwind
set_option autoImplicit false

/-!
# How a failure travels up

A failure arises in the block of one instance: a step fails or does not
resolve, a branch has no arm for an edge, a loop has no controller, runs past
its iteration limit or gets an edge it does not handle, a child would nest
too deep. The block then stops, unless its next node is a branch with an
`error` arm, and hands the failure to the instance's parent, which ends the
instance failed with it; the parent's block applies the same rule.

`Execution.FailedUp e f top x` says that `x` and the instances above it, up
to `top` and without it, all ended failed with `f`. Each function of the walk
ends with a failure only when the instance it names is the start of such a
chain up to the instance the function runs in (`Engine.walk_fails_up`). So a
report that is failed carries its failure, and every instance on the chain of
parent links from the instance the failure names up to the root ended failed
with it, after every run and every resume of an honestly kept ticket
(`Engine.run_failsToRoot`, `Engine.resume_failsToRoot`); the report is failed
with `f` exactly when the walk of the root's block ended with `f`
(`Engine.drive_reports_outcome`).
-/

namespace Flowline

namespace Execution

/-- `x` and the instances above it, up to `top` and without it, have all
ended failed with `f`. -/
inductive FailedUp (e : Execution) (f : Failure) (top : String) : String → Prop where
  | top : FailedUp e f top top
  | up {x p : String} {X : FlowInstance} : e.get? x = some X → X.status = .failed →
      X.error = some f → X.parentId = some p → FailedUp e f top p → FailedUp e f top x

namespace FailedUp

variable {e : Execution} {f : Failure} {top : String}

/-- Along a chain the depth drops by one per link, so the top is above every
instance of the chain below it. -/
theorem top_shallower (hl : e.Linked) {x p : String} {X : FlowInstance} (h : e.FailedUp f top p)
    (hX : e.get? x = some X) (hp : X.parentId = some p) :
    ∃ T, e.get? top = some T ∧ T.depth < X.depth := by
  induction h generalizing x X with
  | top =>
    obtain ⟨T, hT, hdepth⟩ := hl.parent X (mem_of_get? hX).1 _ hp
    exact ⟨T, hT, by omega⟩
  | up hP _ _ hq _ ih =>
    obtain ⟨T, hT, hlt⟩ := ih hP hq
    obtain ⟨P, hP', hdepth⟩ := hl.parent X (mem_of_get? hX).1 _ hp
    rw [hP] at hP'
    cases hP'
    exact ⟨T, hT, by omega⟩

/-- Changing the top in place keeps the chain below it: no instance of the
chain is the top. -/
theorem modify_top (hl : e.Linked) {x : String} (h : e.FailedUp f top x)
    {g : FlowInstance → FlowInstance} (hg : KeepsPlace g) : (e.modify top g).FailedUp f top x := by
  induction h with
  | top => exact .top
  | @up x p X hX hs herr hp hrest ih =>
    have hne : x ≠ top := by
      rintro rfl
      obtain ⟨T, hT, hlt⟩ := hrest.top_shallower hl hX hp
      rw [hX] at hT
      cases hT
      omega
    refine .up ?_ hs herr hp ih
    rw [get?_modify (fun i => (hg i).1), if_neg hne, hX]

theorem trans {x p : String} (h : e.FailedUp f top x) (h' : e.FailedUp f p top) :
    e.FailedUp f p x := by
  induction h with
  | top => exact h'
  | up hX hs herr hp _ ih => exact .up hX hs herr hp ih

/-- Ending the top failed with `f` moves the top of the chain to its parent. -/
theorem finish (hl : e.Linked) {x p : String} (h : e.FailedUp f top x) (hc : e.IsChild top p)
    (t : Timestamp) : (e.finish top .failed none (some f) t).FailedUp f p x := by
  obtain ⟨T, hT, hp⟩ := hc
  have hkeep : KeepsPlace fun i =>
      { i with status := .failed, result := none, error := some f, finishedAt := some t } :=
    fun _ => ⟨rfl, rfl, rfl⟩
  have hT' : (e.finish top .failed none (some f) t).get? top =
      some { T with status := .failed, result := none, error := some f, finishedAt := some t } := by
    rw [Execution.finish, get?_modify (fun i => (hkeep i).1), if_pos rfl, hT]
    rfl
  exact (h.modify_top hl hkeep).trans (.up hT' rfl rfl hp .top)

/-- A chain whose top ended failed with `f` and has no parent is the whole
chain of parent links from `x`. -/
theorem chain {x : String} (h : e.FailedUp f top x) {T : FlowInstance} (hT : e.get? top = some T)
    (hroot : T.parentId = none) (hs : T.status = .failed) (herr : T.error = some f) :
    ∃ X c, e.get? x = some X ∧ e.Chain X c ∧ ∀ i ∈ c, i.status = .failed ∧ i.error = some f := by
  induction h with
  | top => exact ⟨T, [T], hT, .last hroot, by simp [hs, herr]⟩
  | @up x p X hX hs' herr' hp _ ih =>
    obtain ⟨P, c, hP, hc, hall⟩ := ih
    refine ⟨X, X :: c, hX, .up hp hP hc, ?_⟩
    intro i hi
    rcases List.mem_cons.1 hi with rfl | hi
    · exact ⟨hs', herr'⟩
    · exact hall i hi

end FailedUp

/-- `f` names an instance, and every instance on the chain of parent links
from it up to the root ended failed with `f`. -/
def FailedToRoot (e : Execution) (f : Failure) : Prop :=
  ∃ x X c, f.instanceId = some x ∧ e.get? x = some X ∧ e.Chain X c ∧
    (∀ i ∈ c, i.status = .failed ∧ i.error = some f) ∧
    ∃ r, c.getLast? = some r ∧ r.id = e.rootId

end Execution

/-- If `o` is a failure, the instance it names starts a chain of instances
that ended failed with it, up to `top`. -/
def Outcome.FailedUpTo (o : Outcome) (e : Execution) (top : String) : Prop :=
  ∀ f, o = .failed f → ∃ x, f.instanceId = some x ∧ e.FailedUp f top x

namespace Outcome

variable {e : Execution} {top : String}

/-- A failure raised in `top` itself. -/
theorem failedUpTo_here (err : FlowError) (path : Option String) :
    (Outcome.failed (err.toFailure path (some top))).FailedUpTo e top := by
  intro f hf
  cases hf
  exact ⟨top, rfl, .top⟩

/-- Only a failed outcome has a chain to show. -/
theorem failedUpTo_of_ne {o : Outcome} (h : ∀ f, o ≠ .failed f) : o.FailedUpTo e top :=
  fun f hf => absurd hf (h f)

/-- An outcome that leaves its instance failed is a failure, and leaves it
as the instance's error. -/
theorem eq_failed_of_final {o : Outcome} {id : String} {result : Option Value}
    {error : Option Failure} (h : o.final id = some (.failed, result, error)) :
    ∃ f, error = some f ∧ o = .failed f := by
  cases o with
  | failed f =>
    simp only [final, Option.some.injEq, Prod.mk.injEq] at h
    exact ⟨f, h.2.2.symm, rfl⟩
  | _ => simp [final] at h

end Outcome

/-- A step runner whose failures name the instance the step ran in. -/
def StepRunner.FailsHere (step : StepRunner) : Prop :=
  ∀ id node path previous e w, Ensures (step id node path previous) e w fun o e' _ =>
    o.FailedUpTo e' id

namespace Engine

variable (eng : Engine)

/-- The engine's step failures name the instance the step ran in. -/
theorem runStep_failsHere : StepRunner.FailsHere eng.runStep := by
  intro id node path previous e w
  refine (eng.runStep_spec id node path previous e w).mono fun o e' _ h => ?_
  obtain ⟨e₁, r, -, -, -, -, -, hend⟩ := h
  cases hend with
  | unresolved => exact Outcome.failedUpTo_here _ _
  | failed => exact Outcome.failedUpTo_here _ _
  | exited => exact Outcome.failedUpTo_of_ne fun _ h => by cases h
  | suspended => exact Outcome.failedUpTo_of_ne fun _ h => by cases h

/-- A child that would nest too deep fails in its parent. -/
theorem depthExceeded_failedUpTo {e e' : Execution} {parentId path : String} {failure : Failure}
    (h : eng.depthExceeded e parentId path = some failure) :
    (Outcome.failed failure).FailedUpTo e' parentId := by
  unfold depthExceeded at h
  dsimp only at h
  split at h
  · cases h
    exact Outcome.failedUpTo_here _ _
  · cases h

/-- Ending the instance at the top of a failure's chain with the failure
moves the chain's top to the instance's parent. -/
theorem finishInstance_failedUpTo {e : Execution} {w : World} {id p : String} {o : Outcome}
    (hl : e.Linked) (hc : e.IsChild id p) (h : o.FailedUpTo e id) :
    Ensures (eng.finishInstance id o) e w fun _ e' _ => o.FailedUpTo e' p := by
  refine (finishInstance_spec eng id o e w).mono fun _ e' _ h' => ?_
  intro f hf
  subst hf
  obtain ⟨x, hx, hup⟩ := h f rfl
  obtain ⟨t, rfl⟩ := h'
  exact ⟨x, hx, hup.finish hl hc t⟩

variable (step : StepRunner)

/-! ## What each walk function does with a failure

Each function of the walk, from a grown execution and along a resume cursor
that goes down as it expects, ends with a failure only when the instance the
failure names starts a chain of instances ended failed with it, up to the
instance the function runs in. -/

/-- A block's walk. -/
abbrev BlockFailsUp (id : String) (nodes : List FlowNode) (base : String)
    (entry : Option StepOutput) (resume : Option Resume) : Prop :=
  ∀ e w, e.Grown → (∀ r, resume = some r → Frame.Descends e r.frames) →
    Ensures (eng.runBlock step id nodes base entry resume) e w fun o e' _ => o.FailedUpTo e' id

/-- A block's walk from a position on. -/
abbrev FromFailsUp (id : String) (nodes : List FlowNode) (base : String) (index : Nat)
    (previous : Option StepOutput) (nested : Option Resume) : Prop :=
  ∀ e w, e.Grown → (∀ r, nested = some r → Frame.Below e id r.frames) →
    Ensures (eng.blockFrom step id nodes base index previous nested) e w fun o e' _ =>
      o.FailedUpTo e' id

/-- One node of a block. -/
abbrev NodeFailsUp (id : String) (node : FlowNode) (index : Nat) (path : String)
    (previous : Option StepOutput) (resuming : Option Resume) : Prop :=
  ∀ e w, e.Grown → (∀ r, resuming = some r → Frame.Below e id r.frames) →
    Ensures (eng.runNode step id node index path previous resuming) e w fun o e' _ =>
      o.FailedUpTo e' id

/-- A loop node: the loop's instance has ended with the failure. -/
abbrev LoopFailsUp (parentId : String) (index : Nat) (path : String) (parts : List FlowNode)
    (resume : Option Resume) : Prop :=
  ∀ e w, e.Grown → (∀ r, resume = some r → Frame.Below e parentId r.frames) →
    Ensures (eng.runLoop step parentId index path parts resume) e w fun o e' _ =>
      o.FailedUpTo e' parentId

/-- A loop's rounds. -/
abbrev RoundFailsUp (loopId : String) (controller : FlowNode) (actions : List FlowNode)
    (controllerBase actionsBase path : String) (iteration : Nat)
    (controllerOutput : Option StepOutput) (pending : Option (LoopPhase × Resume)) : Prop :=
  ∀ e w, e.Grown → (∀ r, controllerResume? pending = some r → Frame.Descends e r.frames) →
    (∀ r, actionsResume? pending = some r → Frame.Below e loopId r.frames) →
    Ensures (eng.loopRound step loopId controller actions controllerBase actionsBase path iteration
      controllerOutput pending) e w fun o e' _ => o.FailedUpTo e' loopId

/-- What a loop does on its controller's decision. -/
abbrev FollowFailsUp (loopId : String) (controller : FlowNode) (actions : List FlowNode)
    (controllerBase actionsBase path : String) (iteration : Nat)
    (pending : Option (LoopPhase × Resume)) (decided : Sum Outcome (Option StepOutput)) : Prop :=
  ∀ e w, e.Grown → (∀ r, actionsResume? pending = some r → Frame.Below e loopId r.frames) →
    (∀ o, decided = .inl o → o.FailedUpTo e loopId) →
    Ensures (eng.loopFollow step loopId controller actions controllerBase actionsBase path iteration
      pending decided) e w fun o e' _ => o.FailedUpTo e' loopId

/-- A block in a child instance: the child has ended with the failure. -/
abbrev ChildFailsUp (parentId candidate : String) (branchType : BranchType)
    (iteration : Option Nat) (nodes : List FlowNode) (base : String) (entry : Option StepOutput)
    (resume : Option Resume) : Prop :=
  ∀ e w, e.Grown → (∀ r, resume = some r → Frame.Below e parentId r.frames) →
    Ensures (eng.runChild step parentId candidate branchType iteration nodes base entry resume) e w
      fun o e' _ => o.FailedUpTo e' parentId

/-- Every failure of the walk has climbed, instance by instance, to the
instance of the walk function that ends with it. -/
theorem walk_fails_up (hstep : StepRunner.Grows step) (hfail : StepRunner.FailsHere step) :
    (∀ id nodes base entry resume, BlockFailsUp eng step id nodes base entry resume) ∧
    (∀ id nodes base index previous nested,
      FromFailsUp eng step id nodes base index previous nested) ∧
    (∀ id node index path previous resuming,
      NodeFailsUp eng step id node index path previous resuming) ∧
    (∀ parentId index path parts resume, LoopFailsUp eng step parentId index path parts resume) ∧
    (∀ loopId controller actions controllerBase actionsBase path iteration controllerOutput pending,
      RoundFailsUp eng step loopId controller actions controllerBase actionsBase path iteration
        controllerOutput pending) ∧
    (∀ loopId controller actions controllerBase actionsBase path iteration pending decided,
      FollowFailsUp eng step loopId controller actions controllerBase actionsBase path iteration
        pending decided) ∧
    (∀ parentId candidate branchType iteration nodes base entry resume,
      ChildFailsUp eng step parentId candidate branchType iteration nodes base entry resume) := by
  apply Engine.runBlock.mutual_induct eng step (BlockFailsUp eng step) (FromFailsUp eng step)
    (NodeFailsUp eng step) (LoopFailsUp eng step) (RoundFailsUp eng step)
    (FollowFailsUp eng step) (ChildFailsUp eng step)
  -- `runBlock`: fresh, on a cursor, at the suspended step, on the way down.
  · intro id nodes base entry ih e w hg _
    rw [Engine.runBlock]
    exact ih e w hg fun _ h => by cases h
  · intro id nodes base entry r hr e w _ _
    rw [Engine.runBlock, hr]
    exact Ensures.throw
  · intro id nodes base entry r frameId index before rest hr hid hempty ih e w hg _
    rw [Engine.runBlock, hr]
    simp only [hid, hempty, if_true]
    refine Ensures.next (completePausedStep_grows eng id r.value e w) fun _ e₁ _ h₁ => ?_
    exact ih e₁ _ (hg.grows h₁) fun _ h => by cases h
  · intro id nodes base entry r frameId index before rest hr hid hempty ih e w hg hres
    rw [Engine.runBlock, hr]
    simp only [hid, hempty, if_true]
    have hfid : frameId = id := by simpa using hid
    subst hfid
    have hdesc := hres r rfl
    rw [hr] at hdesc
    exact ih e w hg fun r' h => by cases h; exact Frame.descends_block.1 hdesc
  · intro id nodes base entry r frameId index before rest hr hid e w _ _
    rw [Engine.runBlock, hr]
    simp only [hid]
    exact Ensures.throw
  · intro id nodes base entry r other tail hother hr e w _ _
    rw [Engine.runBlock_not_block hother hr]
    exact Ensures.throw
  -- `blockFrom`: a failure goes to the error branch after it, where the rest of
  -- the block answers for what fails, or ends the block.
  · intro id nodes base index previous nested hnone e w _ _
    rw [Engine.blockFrom_past hnone]
    exact Ensures.pure (Outcome.failedUpTo_of_ne fun _ h => by cases h)
  · intro id nodes base index previous nested node hnode path ihNode ihDone ihAbsorb e w hg hn
    rw [Engine.blockFrom]
    split
    · rename_i h
      rw [hnode] at h
      cases h
    rename_i node' h
    rw [hnode] at h
    cases h
    refine Ensures.bind (Ensures.lift fun cancelled _ _ => ?_)
    refine Ensures.ite (fun _ => ?_) (fun _ => ?_)
    · exact Ensures.bind (Ensures.lift fun _ _ _ =>
        Ensures.pure (Outcome.failedUpTo_of_ne fun _ h => by cases h))
    refine Ensures.next ((ihNode e _ hg hn).and (runNode_unwinds hstep e _ hn))
      fun o e₁ _ h₁ => ?_
    obtain ⟨hf₁, hg₁, -⟩ := h₁
    have hgrown := hg.grows hg₁
    split
    · exact ihDone _ e₁ _ hgrown fun _ h => by cases h
    · exact Ensures.pure (Outcome.failedUpTo_of_ne fun _ h => by cases h)
    · refine Ensures.ite (fun _ => ?_) (fun _ => ?_)
      · exact Ensures.bind (Ensures.lift fun _ _ _ => ihAbsorb _ e₁ _ hgrown fun _ h => by cases h)
      · exact Ensures.pure hf₁
    · exact Ensures.pure (Outcome.failedUpTo_of_ne fun _ h => by cases h)
  -- `runNode`: a step, and a branch with no arm for the edge, fail in the block's instance.
  · intro id index path previous resuming stepId h e w _ _
    rw [Engine.runNode, if_pos h]
    exact Ensures.throw
  · intro id index path previous resuming stepId h e w _ _
    rw [Engine.runNode, if_neg h]
    exact hfail id _ path previous e w
  · intro id index path previous resuming stepId params h e w _ _
    rw [Engine.runNode, if_pos h]
    exact Ensures.throw
  · intro id index path previous resuming stepId params h e w _ _
    rw [Engine.runNode, if_neg h]
    exact hfail id _ path previous e w
  · intro id index path previous resuming children ih e w hg hres
    rw [Engine.runNode]
    exact ih e w hg hres
  · intro id index path previous resuming parts ih e w hg hres
    rw [Engine.runNode]
    exact ih e w hg hres
  · intro id index path previous resuming arms edge arm target hfound ih e w hg hres
    rw [Engine.runNode_branch_found rfl hfound]
    exact ih e w hg hres
  · intro id index path previous resuming arms edge hnone e w _ _
    rw [Engine.runNode_branch_none rfl hnone]
    exact Ensures.bind (Ensures.lift fun _ _ _ => Ensures.pure (Outcome.failedUpTo_here _ _))
  -- `runLoop`: too deep, or without a controller, the loop fails in its parent;
  -- otherwise it ends its instance with the failure.
  · intro parentId index path resume e w _ _
    rw [Engine.runLoop]
    exact Ensures.pure (Outcome.failedUpTo_here _ _)
  · intro parentId index path controller actions r hr e w _ _
    rw [Engine.runLoop, hr]
    exact Ensures.throw
  · intro parentId index path controller actions controllerBase actionsBase r loopId iteration output
      phase rest hr ih e w hg hres
    rw [Engine.runLoop, hr]
    have hbelow := hres r rfl
    rw [hr] at hbelow
    obtain ⟨hchild, hdesc⟩ := hbelow
    have hctrl : ∀ r', controllerResume? (some (phase, ⟨rest, r.value⟩)) = some r' →
        Frame.Descends e r'.frames := by
      intro r' h
      cases phase with
      | controller => cases h; exact Frame.descends_controller hdesc
      | actions => cases h
    have hacts : ∀ r', actionsResume? (some (phase, ⟨rest, r.value⟩)) = some r' →
        Frame.Below e loopId r'.frames := by
      intro r' h
      cases phase with
      | controller => cases h
      | actions => cases h; exact Frame.descends_actions hdesc
    refine Ensures.next ((ih e w hg hctrl hacts).and (loopRound_unwinds hstep e w hctrl hacts))
      fun o e₁ _ h₁ => ?_
    obtain ⟨hf₁, hg₁, -⟩ := h₁
    refine Ensures.next (finishInstance_failedUpTo eng (hg.grows hg₁).linked (hg₁.isChild hchild)
      hf₁) fun _ e₂ _ h₂ => ?_
    exact Ensures.pure h₂
  · intro parentId index path controller actions r other tail hother hr e w _ _
    rw [Engine.runLoop_not_loop hother hr]
    exact Ensures.throw
  · intro parentId index path controller actions controllerBase actionsBase ih e w hg _
    rw [Engine.runLoop]
    refine Ensures.bind (Ensures.get ?_)
    split
    · rename_i failure hdepth
      exact Ensures.pure (depthExceeded_failedUpTo eng hdepth)
    refine Ensures.bind (Ensures.get ?_)
    refine Ensures.next (openInstance_spec eng _ _ _ _ e w) fun _ e₁ _ h₁ => ?_
    obtain ⟨t, _, hspawn⟩ := h₁
    have hgrown₁ := Execution.Grown.spawn hg hspawn
    refine Ensures.next ((ih e e₁ _ hgrown₁ (fun _ h => by cases h) (fun _ h => by cases h)).and
      (loopRound_unwinds hstep e₁ _ (fun _ h => by cases h) (fun _ h => by cases h)))
      fun o e₂ _ h₂ => ?_
    obtain ⟨hf₂, hg₂, -⟩ := h₂
    refine Ensures.next (finishInstance_failedUpTo eng (hgrown₁.grows hg₂).linked
      (hg₂.isChild (Execution.isChild_spawn hspawn)) hf₂) fun _ e₃ _ h₃ => ?_
    exact Ensures.pure h₃
  -- `loopRound`: what the controller's block fails with is the decision.
  · intro loopId controller actions controllerBase actionsBase path iteration controllerOutput
      pending ihFollow ihCtrl e w hg hc ha
    rw [Engine.loopRound]
    refine Ensures.bind (Ensures.lift fun cancelled w₁ _ => ?_)
    dsimp only
    refine Ensures.ite (fun _ => ?_) (fun _ => Ensures.ite (fun _ => ?_) (fun _ => ?_))
    · exact ihFollow _ e w₁ hg ha fun _ h => by cases h
    · exact Ensures.bind (Ensures.lift fun _ w₂ _ => ihFollow _ e w₂ hg ha fun _ h => by
        cases h
        exact Outcome.failedUpTo_of_ne fun _ h => by cases h)
    · refine Ensures.next ((ihCtrl e w₁ hg hc).and (runBlock_unwinds hstep e w₁ hc))
        fun o e₁ w₂ h₁ => ?_
      obtain ⟨hf₁, hg₁, -⟩ := h₁
      have ha₁ : ∀ r, actionsResume? pending = some r → Frame.Below e₁ loopId r.frames :=
        fun r h => (ha r h).grows hg₁
      split
      · exact ihFollow _ e₁ w₂ (hg.grows hg₁) ha₁ fun _ h => by cases h
      · exact ihFollow _ e₁ w₂ (hg.grows hg₁) ha₁ fun _ h => by
          cases h
          exact Outcome.failedUpTo_of_ne fun _ h => by cases h
      · exact ihFollow _ e₁ w₂ (hg.grows hg₁) ha₁ fun _ h => by
          cases h
          exact hf₁
  -- `loopFollow`: past the limit or through a stray edge the loop fails in its
  -- own instance; an iteration's failure is the loop's.
  · intro loopId controller actions controllerBase actionsBase path iteration pending outcome e w _ _
      hd
    rw [Engine.loopFollow]
    exact Ensures.pure (hd outcome rfl)
  · intro loopId controller actions controllerBase actionsBase path iteration pending
      controllerOutput edge hcont hlimit e w _ _ _
    rw [Engine.loopFollow, if_pos hcont, dif_pos hlimit]
    exact Ensures.pure (Outcome.failedUpTo_here _ _)
  · intro loopId controller actions controllerBase actionsBase path iteration pending
      controllerOutput edge hcont hlimit hempty ih e w hg _ _
    rw [Engine.loopFollow, if_pos hcont, dif_neg hlimit]
    dsimp only
    rw [if_pos hempty]
    exact ih e w hg (fun _ h => by cases h) (fun _ h => by cases h)
  · intro loopId controller actions controllerBase actionsBase path iteration pending
      controllerOutput edge hcont hlimit hempty ihNext ihChild e w hg ha _
    rw [Engine.loopFollow, if_pos hcont, dif_neg hlimit]
    dsimp only
    rw [if_neg hempty]
    refine Ensures.bind (Ensures.lift fun _ _ _ => ?_)
    refine Ensures.next ((ihChild e _ hg ha).and (runChild_unwinds hstep e _ ha))
      fun o e₁ w₁ h₁ => ?_
    obtain ⟨hf₁, hg₁, -⟩ := h₁
    split
    · exact ihNext e₁ w₁ (hg.grows hg₁) (fun _ h => by cases h) (fun _ h => by cases h)
    · exact Ensures.pure (Outcome.failedUpTo_of_ne fun _ h => by cases h)
    · exact Ensures.pure hf₁
  · intro loopId controller actions controllerBase actionsBase path iteration pending
      controllerOutput edge hcont hexit e w _ _ _
    rw [Engine.loopFollow, if_neg hcont, if_pos hexit]
    exact Ensures.pure (Outcome.failedUpTo_of_ne fun _ h => by cases h)
  · intro loopId controller actions controllerBase actionsBase path iteration pending
      controllerOutput edge hcont hexit e w _ _ _
    rw [Engine.loopFollow, if_neg hcont, if_neg hexit]
    exact Ensures.bind (Ensures.lift fun _ _ _ => Ensures.pure (Outcome.failedUpTo_here _ _))
  -- `runChild`: as `runLoop`, the child ends its instance with the failure.
  · intro parentId candidate branchType iteration nodes base entry r hr e w _ _
    rw [Engine.runChild, hr]
    exact Ensures.throw
  · intro parentId candidate branchType iteration nodes base entry r frame tail hr ih e w hg hres
    rw [Engine.runChild, hr]
    have hbelow := hres r rfl
    rw [hr] at hbelow
    obtain ⟨hchild, hdesc⟩ := hbelow
    have hdown : ∀ r', some r = some r' → Frame.Descends e r'.frames := by
      intro r' h
      cases h
      rw [hr]
      exact hdesc
    refine Ensures.next ((ih e w hg hdown).and (runBlock_unwinds hstep e w hdown))
      fun o e₁ _ h₁ => ?_
    obtain ⟨hf₁, hg₁, -⟩ := h₁
    refine Ensures.next (finishInstance_failedUpTo eng (hg.grows hg₁).linked (hg₁.isChild hchild)
      hf₁) fun _ e₂ _ h₂ => ?_
    exact Ensures.pure h₂
  · intro parentId candidate branchType iteration nodes base entry ih e w hg _
    rw [Engine.runChild]
    refine Ensures.bind (Ensures.get ?_)
    split
    · rename_i failure hdepth
      exact Ensures.pure (depthExceeded_failedUpTo eng hdepth)
    refine Ensures.bind (Ensures.get ?_)
    refine Ensures.next (openInstance_spec eng _ _ _ _ e w) fun _ e₁ _ h₁ => ?_
    obtain ⟨t, _, hspawn⟩ := h₁
    have hgrown₁ := Execution.Grown.spawn hg hspawn
    refine Ensures.next ((ih e e₁ _ hgrown₁ fun _ h => by cases h).and
      (runBlock_unwinds hstep e₁ _ fun _ h => by cases h)) fun o e₂ _ h₂ => ?_
    obtain ⟨hf₂, hg₂, -⟩ := h₂
    refine Ensures.next (finishInstance_failedUpTo eng (hgrown₁.grows hg₂).linked
      (hg₂.isChild (Execution.isChild_spawn hspawn)) hf₂) fun _ e₃ _ h₃ => ?_
    exact Ensures.pure h₃

end Engine

/-! ## The report of a run or a resume -/

namespace Cursor

/-- Collecting a cursor's instances keeps those already collected. -/
theorem mem_foldl_instanceIds {x : String} : ∀ (frames : List Frame) (ids : List String), x ∈ ids →
    x ∈ frames.foldl (fun ids f =>
      if ids.getLast? == some f.instanceId then ids else ids ++ [f.instanceId]) ids
  | [], _, h => h
  | f :: rest, ids, h => by
    rw [List.foldl_cons]
    apply mem_foldl_instanceIds rest
    split
    · exact h
    · exact List.mem_append_left _ h

/-- The outermost frame's instance is among a cursor's instances. -/
theorem mem_instanceIds_head (f : Frame) (rest : List Frame) :
    f.instanceId ∈ (Cursor.mk (f :: rest)).instanceIds := by
  unfold instanceIds
  rw [List.foldl_cons]
  apply mem_foldl_instanceIds
  simp

end Cursor

namespace Execution

/-- Applying an idempotent change that keeps identifiers to each listed
instance changes exactly the listed instances, each once. -/
theorem get?_foldl_modify {g : FlowInstance → FlowInstance} (hg : ∀ i, (g i).id = i.id)
    (hidem : ∀ i, g (g i) = g i) :
    ∀ (ids : List String) (e : Execution) (x : String),
      (ids.foldl (fun e id => e.modify id g) e).get? x =
        if x ∈ ids then (e.get? x).map g else e.get? x
  | [], e, x => by simp
  | id :: rest, e, x => by
    rw [List.foldl_cons, get?_foldl_modify hg hidem rest, get?_modify hg]
    by_cases hr : x ∈ rest <;> by_cases hx : x = id
    · subst hx
      simp [hr, Option.map_map, Function.comp_def, hidem]
    · simp [hr, hx]
    · subst hx
      simp [hr]
    · simp [hr, hx]

theorem rootId_foldl_modify (g : FlowInstance → FlowInstance) :
    ∀ (ids : List String) (e : Execution), (ids.foldl (fun e id => e.modify id g) e).rootId = e.rootId
  | [], _ => rfl
  | id :: rest, e => rootId_foldl_modify g rest (e.modify id g)

/-- Ending the root changes the root as it says. -/
theorem root?_finish {e : Execution} {R₀ : FlowInstance} (hR₀ : e.get? e.rootId = some R₀)
    (status : InstanceStatus) (result : Option Value) (error : Option Failure) (t : Timestamp) :
    (e.finish e.rootId status result error t).root? =
      some { R₀ with status := status, result := result, error := error, finishedAt := some t } := by
  have hkeep : KeepsPlace fun i =>
      { i with status := status, result := result, error := error, finishedAt := some t } :=
    fun _ => ⟨rfl, rfl, rfl⟩
  rw [root?, finish, modify_rootId, get?_modify (fun i => (hkeep i).1), if_pos rfl, hR₀]
  rfl

end Execution

namespace ExecutionReport

/-- The execution a report shows: its root and its instances. -/
def execution (r : ExecutionReport) : Execution := Execution.ofInstances r.executionId r.instances

@[simp] theorem execution_ofExecution (name : String) (e : Execution) (p : Option PauseTicket) :
    (ofExecution name e p).execution = e :=
  Execution.ofInstances_self e

/-- A report is read off the root of its execution. -/
theorem ofExecution_root (name : String) {e : Execution} (p : Option PauseTicket)
    {root : FlowInstance} (h : e.root? = some root) :
    (ofExecution name e p).status = root.status ∧ (ofExecution name e p).error = root.error := by
  simp [ofExecution, h]

/-- A report read off a root just ended shows the status and the failure it
was ended with. -/
theorem ofExecution_finish {e : Execution} (hl : e.Linked) (status : InstanceStatus)
    (result : Option Value) (error : Option Failure) (t : Timestamp) (name : String) :
    (ofExecution name (e.finish e.rootId status result error t) none).status = status ∧
      (ofExecution name (e.finish e.rootId status result error t) none).error = error := by
  obtain ⟨R₀, hR₀, -, -⟩ := hl.root
  exact ofExecution_root name none (Execution.root?_finish hR₀ status result error t)

/-- A failed report carries its failure, which ended every instance from
the one it names up to the root. -/
def FailsToRoot (R : ExecutionReport) : Prop :=
  R.status = .failed → ∃ f, R.error = some f ∧ R.execution.FailedToRoot f

end ExecutionReport

namespace Engine

variable (eng : Engine)

/-- A suspension reports its execution with every instance on the cursor
paused. -/
theorem suspend_report (d : FlowDefinition) (e : Execution) (cursor : Cursor)
    (pause : PendingPause) (w : World) :
    Run.Ensures (eng.suspend d e cursor pause) w fun R _ => ∃ ticket,
      R = ExecutionReport.ofExecution d.name
        (cursor.instanceIds.foldl (fun e id => e.modify id fun i => { i with status := .paused }) e)
        (some ticket) := by
  unfold suspend
  refine Run.Ensures.after fun t _ => ?_
  refine Run.Ensures.after fun _ _ => ?_
  refine Run.Ensures.after fun _ _ => ?_
  refine Run.Ensures.after fun _ _ => ?_
  refine Run.Ensures.after fun _ _ => ?_
  refine Run.Ensures.after fun _ _ => ?_
  exact Run.Ensures.pure ⟨_, rfl⟩

/-- A suspension whose cursor passes through the root reports the execution
paused. -/
theorem suspend_paused (d : FlowDefinition) {e : Execution} (hl : e.Linked) (cursor : Cursor)
    (pause : PendingPause) (hmem : e.rootId ∈ cursor.instanceIds) (w : World) :
    Run.Ensures (eng.suspend d e cursor pause) w fun R _ => R.status = .paused := by
  refine (suspend_report eng d e cursor pause w).mono fun R _ hR => ?_
  obtain ⟨ticket, rfl⟩ := hR
  obtain ⟨R₀, hR₀, -, -⟩ := hl.root
  have hget := Execution.get?_foldl_modify (g := fun i => { i with status := .paused })
    (fun _ => rfl) (fun _ => rfl) cursor.instanceIds e e.rootId
  rw [if_pos hmem, hR₀, Option.map_some] at hget
  rw [← Execution.rootId_foldl_modify (fun i => { i with status := .paused }) cursor.instanceIds e]
    at hget
  exact (ExecutionReport.ofExecution_root d.name (some ticket) hget).1

/-- The root ended with the walk's outcome: if that leaves the report failed,
the report carries the failure, which climbed the whole chain from the
instance it names. -/
theorem report_failedToRoot {e e' : Execution} (hl : e.Linked) {o : Outcome}
    (hf : o.FailedUpTo e e.rootId) (hsusp : ∀ fs pause, o ≠ .suspended fs pause)
    (h : match o.final e.rootId with
      | none => e' = e
      | some (status, result, error) => ∃ t, e' = e.finish e.rootId status result error t)
    (name : String) : (ExecutionReport.ofExecution name e' none).FailsToRoot := by
  intro hfailed
  rw [ExecutionReport.execution_ofExecution]
  obtain ⟨R₀, hR₀, hR₀p, -⟩ := hl.root
  split at h
  · rename_i hnone
    cases o with
    | suspended fs pause => exact absurd rfl (hsusp fs pause)
    | _ => simp [Outcome.final] at hnone
  rename_i status result error hfinal
  obtain ⟨t, rfl⟩ := h
  have hkeep : Execution.KeepsPlace fun i =>
      { i with status := status, result := result, error := error, finishedAt := some t } :=
    fun _ => ⟨rfl, rfl, rfl⟩
  -- The report shows the root as the outcome ended it.
  have hroot := Execution.root?_finish hR₀ status result error t
  obtain ⟨hstatus, herror⟩ := ExecutionReport.ofExecution_root name none hroot
  rw [hstatus] at hfailed
  subst hfailed
  obtain ⟨f, rfl, rfl⟩ := Outcome.eq_failed_of_final hfinal
  obtain ⟨x, hx, hup⟩ := hf f rfl
  have hl' := hl.modify e.rootId hkeep
  obtain ⟨X, c, hX, hc, hall⟩ := (hup.modify_top hl hkeep).chain hroot hR₀p rfl rfl
  refine ⟨f, herror, x, X, c, hx, hX, hc, hall, ?_⟩
  exact hc.last_root hl' (Execution.mem_of_get? hX).1

variable (step : StepRunner)

/-- Driving the walk: a failed report carries its failure, which ended every
instance from the one it names up to the root. -/
theorem drive_failedToRoot (hstep : StepRunner.Grows step) (hfail : StepRunner.FailsHere step)
    (d : FlowDefinition) {e : Execution} {resume : Option Resume} (hg : e.Grown)
    (hres : ∀ r, resume = some r → Frame.Descends e r.frames) (w : World) :
    Run.Ensures (eng.drive step d e resume) w fun R _ => R.FailsToRoot := by
  unfold drive
  refine Run.Ensures.next (Ensures.run ((((walk_fails_up eng step hstep hfail).1 _ _ _ _ _ e w hg
    hres)).and (runBlock_unwinds hstep e w hres))) fun p w₁ h₁ => ?_
  obtain ⟨outcome, e₁⟩ := p
  obtain ⟨hf₁, hg₁, hs₁⟩ := h₁
  have hl₁ := (hg.grows hg₁).linked
  have hrootId := hg₁.rootId_eq
  dsimp only at hf₁ hs₁ ⊢
  split
  · -- A suspension leaves the root paused.
    rename_i frames pause
    obtain ⟨index, before, rest, hrev, -⟩ := hs₁ frames pause rfl
    have hmem : e₁.rootId ∈ (Cursor.ofUnwound frames).instanceIds := by
      rw [Cursor.ofUnwound, hrev, hrootId]
      exact Cursor.mem_instanceIds_head _ _
    refine (suspend_paused eng d hl₁ _ pause hmem w₁).mono fun R _ hR hfailed => ?_
    rw [hR] at hfailed
    cases hfailed
  · -- Otherwise the root ends with the walk's outcome.
    rename_i hsusp
    refine Run.Ensures.next (Ensures.run (finishInstance_spec eng e.rootId outcome e₁ w₁))
      fun p w₂ h₂ => ?_
    obtain ⟨⟨⟩, e₂⟩ := p
    rw [← hrootId] at hf₁ h₂
    have hreport := report_failedToRoot hl₁ hf₁ (fun fs pause h => hsusp fs pause h) h₂ d.name
    -- What is logged about the report changes nothing of it.
    dsimp only
    split <;> exact Run.Ensures.after fun _ _ => Run.Ensures.after fun _ _ => Run.Ensures.pure hreport

/-- Driving the walk reports what the walk of the root's block ended with:
the report is failed with `f` exactly when the walk failed with `f`. -/
theorem drive_reports_outcome (hstep : StepRunner.Grows step) (d : FlowDefinition) {e : Execution}
    {resume : Option Resume} (hg : e.Grown)
    (hres : ∀ r, resume = some r → Frame.Descends e r.frames) (w : World) :
    Run.Ensures (eng.drive step d e resume) w fun R _ => ∃ o e₁ w₁,
      execIn (eng.runBlock step e.rootId d.nodes "" none resume) e w = (.ok (o, e₁), w₁) ∧
      ∀ f, R.status = .failed ∧ R.error = some f ↔ o = .failed f := by
  unfold drive
  refine Run.Ensures.next (Ensures.run ((Ensures.self _ e w).and (runBlock_unwinds hstep e w hres)))
    fun p w₁ h₁ => ?_
  obtain ⟨outcome, e₁⟩ := p
  obtain ⟨hexec, hg₁, hs₁⟩ := h₁
  have hl₁ := (hg.grows hg₁).linked
  dsimp only at hexec hs₁ hl₁ ⊢
  split
  · -- A suspension leaves the root paused.
    rename_i frames pause
    obtain ⟨index, before, rest, hrev, -⟩ := hs₁ frames pause rfl
    have hmem : e₁.rootId ∈ (Cursor.ofUnwound frames).instanceIds := by
      rw [Cursor.ofUnwound, hrev, hg₁.rootId_eq]
      exact Cursor.mem_instanceIds_head _ _
    refine (suspend_paused eng d hl₁ _ pause hmem w₁).mono fun R _ hR =>
      ⟨_, e₁, w₁, hexec, fun f => ?_⟩
    rw [hR]
    exact ⟨fun h => absurd h.1 (by decide), fun h => by cases h⟩
  · -- Otherwise the root ends with the walk's outcome.
    rename_i hsusp
    refine Run.Ensures.next (Ensures.run (finishInstance_spec eng e.rootId outcome e₁ w₁))
      fun p w₂ h₂ => ?_
    obtain ⟨⟨⟩, e₂⟩ := p
    rw [← hg₁.rootId_eq] at h₂
    have hiff : ∀ f, (ExecutionReport.ofExecution d.name e₂ none).status = .failed ∧
        (ExecutionReport.ofExecution d.name e₂ none).error = some f ↔ outcome = .failed f := by
      intro f
      cases outcome with
      | done output =>
        obtain ⟨t, rfl⟩ := h₂
        simp [(ExecutionReport.ofExecution_finish hl₁ .completed _ none t d.name).1]
      | failed f' =>
        obtain ⟨t, rfl⟩ := h₂
        obtain ⟨hs, he⟩ := ExecutionReport.ofExecution_finish hl₁ .failed none (some f') t d.name
        simp [hs, he]
      | cancelled =>
        obtain ⟨t, rfl⟩ := h₂
        simp [(ExecutionReport.ofExecution_finish hl₁ .cancelled none _ t d.name).1]
      | suspended fs pause => exact absurd rfl (hsusp fs pause)
    -- What is logged about the report changes nothing of it.
    dsimp only
    split <;> exact Run.Ensures.after fun _ _ => Run.Ensures.after fun _ _ =>
      Run.Ensures.pure ⟨_, e₁, w₁, hexec, hiff⟩

/-- `start` opens a new execution. -/
theorem start_grown (d : FlowDefinition) (init : Value) (w : World) :
    Run.Ensures (eng.start d init) w fun e _ => e.Grown := by
  unfold start
  refine Run.Ensures.after fun report _ => ?_
  dsimp only
  split
  · exact Run.Ensures.after fun _ _ => Run.Ensures.bind Run.Ensures.throw
  · refine Run.Ensures.after fun id _ => Run.Ensures.after fun t _ => ?_
    exact Run.Ensures.after fun _ _ => Run.Ensures.after fun _ _ => Run.Ensures.pure (.create _ _ _)

/-- Every run: a failed report carries its failure, which ended every
instance from the one it names up to the root. -/
theorem run_failsToRoot (d : FlowDefinition) (init : Value) (w : World) :
    Run.Ensures (eng.run d init) w fun R _ => R.FailsToRoot := by
  unfold run
  refine Run.Ensures.next (start_grown eng d init w) fun e w₁ hg => ?_
  exact drive_failedToRoot eng eng.runStep (runStep_grows eng) (runStep_failsHere eng) d hg
    (fun _ h => by cases h) w₁

/-- Every resume of a ticket the store kept honestly: likewise. -/
theorem resume_failsToRoot (pauseId : String) (value : Value) {w : World} (hw : w.Honest) :
    Run.Ensures (eng.resume pauseId value) w fun R _ => R.FailsToRoot := by
  unfold resume
  refine Run.Ensures.next (claimTicket_honest hw pauseId) fun paused w₁ hp => ?_
  obtain ⟨hg, hdesc⟩ := hp
  refine Run.Ensures.after fun _ _ => ?_
  refine Run.Ensures.next (Run.Ensures.forIn _ _ (fun e => paused.execution.Grows e) ?_ (.refl _))
    fun e w₂ hge => ?_
  · intro id e' w' hge'
    exact Run.Ensures.after fun _ _ => Run.Ensures.pure (hge'.trans (.of_modify _ id fun _ => ⟨rfl, rfl, rfl⟩))
  exact drive_failedToRoot eng eng.runStep (runStep_grows eng) (runStep_failsHere eng) _
    (hg.grows hge) (fun r h => by cases h; exact hdesc.grows hge) w₂

end Engine

end Flowline
