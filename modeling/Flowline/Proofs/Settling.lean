import Flowline.Proofs.Statuses
set_option autoImplicit false

/-!
# Every report settles its statuses

The walk stands in one instance at a time. Entered fresh in `x`, exactly the
lineage of `x` is running and every other instance is terminal; entered along
a cursor, the same holds of the instance the cursor ends at. Every function
of the walk keeps every terminal status, and leaves running exactly the
lineage of the instance its outcome stands in (`Outcome.activeIn`): the one
whose step suspended, or the one it was entered in (`Engine.walk_settles`).

A suspension then marks that lineage paused, which the cursor's instances
are; a finished root leaves every instance terminal. So every report is
settled (`ExecutionReport.Settled`), and over whole sessions of runs and
resumes no terminal status ever changes
(`statuses_settle_across_sessions`).
-/

namespace Flowline

open Execution

/-- The instance whose lineage runs once a walk function standing in `x`
returns `o`: the one whose step suspended, or `x` itself. -/
def Outcome.activeIn (x : String) : Outcome → String
  | .suspended _ pause => pause.instanceId
  | _ => x

/-- What a walk function standing in `x` leaves of the statuses of `e` in
`e'` when it returns `o`: every terminal status, and running exactly the
lineage of the instance its outcome stands in. -/
def Outcome.Settles (o : Outcome) (x : String) (e e' : Execution) : Prop :=
  e.TerminalKept e' ∧ e'.ActiveAt .running (o.activeIn x)

theorem Outcome.Settles.of_kept {o : Outcome} {x : String} {e e₁ e₂ : Execution}
    (h₀ : e.TerminalKept e₁) (h : o.Settles x e₁ e₂) : o.Settles x e e₂ :=
  ⟨h₀.trans h.1, h.2⟩

/-- An outcome whose suspensions are all in `x` stands in `x`. -/
theorem Outcome.activeIn_of_pauses {o : Outcome} {x : String}
    (h : ∀ fs pause, o = .suspended fs pause → pause.instanceId = x) : o.activeIn x = x := by
  cases o with
  | suspended fs pause => exact h fs pause rfl
  | _ => rfl

/-- Where the walk stands when it enters `x`: fresh, the lineage of `x` is
the running one; along a cursor that goes down as `follows` says, that of the
instance the cursor ends at. -/
def Standing (e : Execution) (x : String) (cursor : Option Resume)
    (follows : Execution → List Frame → Prop) : Prop :=
  (cursor = none → e.ActiveAt .running x) ∧
    ∀ r, cursor = some r → follows e r.frames ∧ ∃ y, Frame.EndsAt r.frames y ∧ e.ActiveAt .running y

namespace Standing

variable {e : Execution} {x : String} {follows follows' : Execution → List Frame → Prop}

theorem fresh (h : e.ActiveAt .running x) : Standing e x none follows :=
  ⟨fun _ => h, fun _ h => by cases h⟩

theorem along {r : Resume} {y : String} (hf : follows e r.frames) (hends : Frame.EndsAt r.frames y)
    (hy : e.ActiveAt .running y) : Standing e x (some r) follows :=
  ⟨fun h => absurd h (Option.some_ne_none r), fun _ h => by cases h; exact ⟨hf, y, hends, hy⟩⟩

theorem mono {cursor : Option Resume} (h : Standing e x cursor follows)
    (hf : ∀ fs, follows e fs → follows' e fs) : Standing e x cursor follows' :=
  ⟨h.1, fun r hr => ⟨hf _ (h.2 r hr).1, (h.2 r hr).2⟩⟩

/-- With no cursor that follows as it must, the walk stands in `x`. -/
theorem active {cursor : Option Resume} (h : Standing e x cursor follows)
    (hno : ∀ r, cursor = some r → follows e r.frames → False) : e.ActiveAt .running x := by
  cases cursor with
  | none => exact h.1 rfl
  | some r => exact absurd (h.2 r rfl).1 (hno r rfl)

end Standing

/-- A loop with neither part to re-enter has nothing pending. -/
theorem pending_eq_none {pending : Option (LoopPhase × Resume)}
    (hc : controllerResume? pending = none) (ha : actionsResume? pending = none) : pending = none := by
  rcases pending with _ | ⟨_ | _, r⟩
  · rfl
  · cases hc
  · cases ha

/-! ## What the walk needs of its step runner -/

/-- A step runner that keeps every status. -/
def StepRunner.KeepsStatuses (step : StepRunner) : Prop :=
  ∀ id node path previous e w, Ensures (step id node path previous) e w fun _ e' _ =>
    e.SameStatuses e'

namespace Engine

variable (eng : Engine)

theorem runStep_keepsStatuses : StepRunner.KeepsStatuses eng.runStep := by
  intro id node path previous e w
  refine (runStep_spec eng id node path previous e w).mono fun _ e' _ h => ?_
  obtain ⟨e₁, r, hedits, -, rfl, -⟩ := h
  exact hedits.sameStatuses.trans (sameStatuses_record e₁ id r)

/-- Completing the paused record keeps every status. -/
theorem completePausedStep_sameStatuses (id : String) (output : StepOutput) (e : Execution)
    (w : World) : Ensures (eng.completePausedStep id output) e w fun _ e' _ => e.SameStatuses e' := by
  refine (completePausedStep_spec eng id output e w).mono fun _ e' _ h => ?_
  obtain ⟨_, _, _, _, _, rfl⟩ := h
  exact sameStatuses_modify e id fun _ => ⟨rfl, rfl⟩

/-- Finishing child `c` of `x` with the outcome of its block moves the
running lineage from `c` up to `x`; a suspension leaves everything as it
is. -/
theorem finishInstance_settles {c x : String} {o : Outcome} {e : Execution} (hl : e.Linked)
    (hc : e.IsChild c x) (h : e.ActiveAt .running (o.activeIn c)) (w : World) :
    Ensures (eng.finishInstance c o) e w fun _ e' _ => o.Settles x e e' := by
  -- A terminal status on the running instance `c` hands the walk up to `x`.
  have hfinish : ∀ status result error t, status.isTerminal = true → e.ActiveAt .running c →
      e.TerminalKept (e.finish c status result error t) ∧
        (e.finish c status result error t).ActiveAt .running x :=
    fun _ _ _ _ hterm hrun =>
      ⟨.modify (fun _ => rfl) fun _ hC => by rw [hrun.status hC]; rfl,
        hrun.finish hl hc (fun _ => ⟨rfl, rfl, rfl⟩) fun _ => hterm⟩
  refine (finishInstance_spec eng c o e w).mono fun _ e' _ hfin => ?_
  cases o with
  | done output =>
    obtain ⟨t, rfl⟩ := hfin
    exact hfinish _ _ _ t rfl h
  | failed failure =>
    obtain ⟨t, rfl⟩ := hfin
    exact hfinish _ _ _ t rfl h
  | cancelled =>
    obtain ⟨t, rfl⟩ := hfin
    exact hfinish _ _ _ t rfl h
  | suspended fs pause =>
    rw [show e' = e from hfin]
    exact ⟨.refl e, h⟩

/-! ## The walk settles statuses -/

variable (step : StepRunner)

/-- `m`, entered in `x` of a grown execution, standing as `Standing` says,
settles the statuses. -/
abbrev WalkSettles (m : Drive Outcome) (x : String) (cursor : Option Resume)
    (follows : Execution → List Frame → Prop) : Prop :=
  ∀ e w, e.Grown → Standing e x cursor follows → Ensures m e w fun o e' _ => o.Settles x e e'

/-- A loop's rounds: fresh, in the loop's lineage; re-entered in the
controller's block or, after a `continue`, in the actions' block. -/
abbrev RoundSettles (loopId : String) (controller : FlowNode) (actions : List FlowNode)
    (controllerBase actionsBase path : String) (iteration : Nat)
    (controllerOutput : Option StepOutput) (pending : Option (LoopPhase × Resume)) : Prop :=
  ∀ e w, e.Grown → (pending = none → e.ActiveAt .running loopId) →
    (∀ r, controllerResume? pending = some r →
      (Frame.Atop e loopId r.frames ∧ Frame.FitsBlock [controller] r.frames) ∧
        ∃ y, Frame.EndsAt r.frames y ∧ e.ActiveAt .running y) →
    (∀ r, actionsResume? pending = some r →
      (Frame.Below e loopId r.frames ∧ Frame.FitsBlock actions r.frames ∧
        (controllerOutput.map StepOutput.edge).getD "" = "continue") ∧
        ∃ y, Frame.EndsAt r.frames y ∧ e.ActiveAt .running y) →
    Ensures (eng.loopRound step loopId controller actions controllerBase actionsBase path iteration
      controllerOutput pending) e w fun o e' _ => o.Settles loopId e e'

/-- What a loop does on its controller's decision: an outcome already
settled, an output decided in the loop's lineage, or the actions re-entered
after a `continue`. -/
abbrev FollowSettles (loopId : String) (controller : FlowNode) (actions : List FlowNode)
    (controllerBase actionsBase path : String) (iteration : Nat)
    (pending : Option (LoopPhase × Resume)) (decided : Sum Outcome (Option StepOutput)) : Prop :=
  ∀ e w, e.Grown → (∀ o, decided = .inl o → e.ActiveAt .running (o.activeIn loopId)) →
    (∀ out, decided = .inr out → actionsResume? pending = none → e.ActiveAt .running loopId) →
    (∀ r, actionsResume? pending = some r →
      ((Frame.Below e loopId r.frames ∧ Frame.FitsBlock actions r.frames) ∧
        ∃ out, decided = .inr out ∧ (out.map StepOutput.edge).getD "" = "continue") ∧
        ∃ y, Frame.EndsAt r.frames y ∧ e.ActiveAt .running y) →
    Ensures (eng.loopFollow step loopId controller actions controllerBase actionsBase path
      iteration pending decided) e w fun o e' _ => o.Settles loopId e e'

/-- A cursor into a loop's actions comes with the controller's `continue`. -/
theorem no_actions_cursor {e : Execution} {loopId : String} {actions : List FlowNode}
    {pending : Option (LoopPhase × Resume)} {controllerOutput : Option StepOutput}
    (hacts : ∀ r, actionsResume? pending = some r →
      ((Frame.Below e loopId r.frames ∧ Frame.FitsBlock actions r.frames) ∧
        ∃ out, (Sum.inr controllerOutput : Sum Outcome (Option StepOutput)) = .inr out ∧
          (out.map StepOutput.edge).getD "" = "continue") ∧
        ∃ y, Frame.EndsAt r.frames y ∧ e.ActiveAt .running y)
    (hcont : ¬((controllerOutput.map StepOutput.edge).getD "" == "continue") = true) :
    actionsResume? pending = none := by
  cases h : actionsResume? pending with
  | none => rfl
  | some r =>
    obtain ⟨⟨-, out, hout, hedge⟩, -⟩ := hacts r h
    cases hout
    exact absurd (by simpa using hedge) hcont

section Walk

variable {step} (hgrow : StepRunner.Grows step) (hpause : StepRunner.Pauses step)
  (hkeep : StepRunner.KeepsStatuses step)
include hgrow hpause hkeep

/-- A step node keeps every status, and suspends only where it ran. -/
theorem step_settles {id : String} (node : FlowNode) (path : String)
    (previous : Option StepOutput) {e : Execution} (h : e.ActiveAt .running id) (w : World) :
    Ensures (step id node path previous) e w fun o e' _ => o.Settles id e e' := by
  refine ((hgrow id node path previous e w).and ((hpause id node path previous e w).and
    (hkeep id node path previous e w))).mono fun o e' _ ⟨⟨hg, _⟩, hp, hs⟩ => ?_
  refine ⟨.of_same hs, ?_⟩
  rw [Outcome.activeIn_of_pauses fun fs pause ho => (hp fs pause ho).2.1]
  exact h.of_same hg hs

/-- Entered fresh in the lineage of the instance it stands in, or along a
cursor that fits the nodes it walks and ends at a running lineage, the walk
keeps every terminal status and leaves running exactly the lineage of the
instance its outcome stands in. -/
theorem walk_settles :
    (∀ id nodes base entry resume,
      WalkSettles (eng.runBlock step id nodes base entry resume) id resume fun e fs =>
        Frame.Atop e id fs ∧ Frame.FitsBlock nodes fs) ∧
    (∀ id nodes base index previous nested,
      WalkSettles (eng.blockFrom step id nodes base index previous nested) id nested fun e fs =>
        Frame.Below e id fs ∧ ∃ node, nodes[index]? = some node ∧ Frame.FitsNode node previous fs) ∧
    (∀ id node index path previous resuming,
      WalkSettles (eng.runNode step id node index path previous resuming) id resuming fun e fs =>
        Frame.Below e id fs ∧ Frame.FitsNode node previous fs) ∧
    (∀ parentId index path parts resume,
      WalkSettles (eng.runLoop step parentId index path parts resume) parentId resume fun e fs =>
        Frame.Below e parentId fs ∧ Frame.FitsLoop parts fs) ∧
    (∀ loopId controller actions controllerBase actionsBase path iteration controllerOutput pending,
      RoundSettles eng step loopId controller actions controllerBase actionsBase path iteration
        controllerOutput pending) ∧
    (∀ loopId controller actions controllerBase actionsBase path iteration pending decided,
      FollowSettles eng step loopId controller actions controllerBase actionsBase path iteration
        pending decided) ∧
    (∀ parentId candidate branchType iteration nodes base entry resume,
      WalkSettles (eng.runChild step parentId candidate branchType iteration nodes base entry resume)
        parentId resume fun e fs => Frame.Below e parentId fs ∧ Frame.FitsBlock nodes fs) := by
  apply Engine.runBlock.mutual_induct eng step
    (fun id nodes base entry resume =>
      WalkSettles (eng.runBlock step id nodes base entry resume) id resume fun e fs =>
        Frame.Atop e id fs ∧ Frame.FitsBlock nodes fs)
    (fun id nodes base index previous nested =>
      WalkSettles (eng.blockFrom step id nodes base index previous nested) id nested fun e fs =>
        Frame.Below e id fs ∧ ∃ node, nodes[index]? = some node ∧ Frame.FitsNode node previous fs)
    (fun id node index path previous resuming =>
      WalkSettles (eng.runNode step id node index path previous resuming) id resuming fun e fs =>
        Frame.Below e id fs ∧ Frame.FitsNode node previous fs)
    (fun parentId index path parts resume =>
      WalkSettles (eng.runLoop step parentId index path parts resume) parentId resume fun e fs =>
        Frame.Below e parentId fs ∧ Frame.FitsLoop parts fs)
    (fun loopId controller actions controllerBase actionsBase path iteration controllerOutput
      pending => RoundSettles eng step loopId controller actions controllerBase actionsBase path
        iteration controllerOutput pending)
    (fun loopId controller actions controllerBase actionsBase path iteration pending decided =>
      FollowSettles eng step loopId controller actions controllerBase actionsBase path iteration
        pending decided)
    (fun parentId candidate branchType iteration nodes base entry resume =>
      WalkSettles (eng.runChild step parentId candidate branchType iteration nodes base entry resume)
        parentId resume fun e fs => Frame.Below e parentId fs ∧ Frame.FitsBlock nodes fs)
  · intro id nodes base entry ih e w hg hst
    rw [Engine.runBlock]
    exact ih e w hg (.fresh (hst.1 rfl))
  · intro id nodes base entry r hr e w _ _
    rw [Engine.runBlock, hr]
    exact Ensures.throw
  · -- The cursor ends here: the running lineage is this block's instance.
    intro id nodes base entry r frameId index before rest hr hid hempty ih e w hg hst
    rw [Engine.runBlock, hr]
    simp only [hid, hempty, if_true]
    obtain ⟨-, y, hends, hy⟩ := hst.2 r rfl
    rw [hr, List.isEmpty_iff.1 hempty] at hends
    have hfid : frameId = id := by simpa using hid
    rw [← Frame.endsAt_singleton hends, hfid] at hy
    refine Ensures.next ((completePausedStep_sameStatuses eng id r.value e w).and
      (completePausedStep_grows eng id r.value e w)) fun _ e₁ w₁ hpost => ?_
    obtain ⟨hs, hg₁⟩ := hpost
    exact (ih e₁ w₁ (hg.grows hg₁) (.fresh (hy.of_same hg₁ hs))).mono fun _ _ _ h =>
      h.of_kept (.of_same hs)
  · intro id nodes base entry r frameId index before rest hr hid hempty ih e w hg hst
    rw [Engine.runBlock, hr]
    simp only [hid, hempty, if_true]
    obtain ⟨⟨hatop, hfits⟩, y, hends, hy⟩ := hst.2 r rfl
    rw [hr] at hatop hfits hends
    have hne : rest ≠ [] := fun h => by simp [h] at hempty
    exact ih e w hg (.along ⟨(Frame.Atop.cons hatop).2, hfits.node hne⟩ (hends.tail hne) hy)
  · intro id nodes base entry r frameId index before rest hr hid e w _ _
    rw [Engine.runBlock, hr]
    simp only [hid]
    exact Ensures.throw
  · intro id nodes base entry r other tail hother hr e w _ _
    rw [Engine.runBlock_not_block hother hr]
    exact Ensures.throw
  -- `blockFrom`: each node hands the walk back to the block's instance.
  · intro id nodes base index previous nested hnone e w _ hst
    rw [Engine.blockFrom_past hnone]
    refine Ensures.pure ⟨.refl e, hst.active fun r _ hr => ?_⟩
    obtain ⟨_, node, hnode, _⟩ := hr
    rw [hnone] at hnode
    cases hnode
  · intro id nodes base index previous nested node hnode path ihNode ihDone ihAbsorb e w hg hst
    rw [Engine.blockFrom]
    split
    · rename_i h
      rw [hnode] at h
      cases h
    rename_i node' h
    rw [hnode] at h
    cases h
    have hnested : Standing e id nested fun e fs => Frame.Below e id fs ∧ Frame.FitsNode node previous fs :=
      hst.mono fun fs hfs => by
        obtain ⟨hb, node', hnode', hfits⟩ := hfs
        rw [hnode] at hnode'
        cases hnode'
        exact ⟨hb, hfits⟩
    refine Ensures.bind (Ensures.lift fun cancelled _ _ => ?_)
    refine Ensures.ite (fun hc => ?_) (fun _ => ?_)
    · -- Only a fresh node is cancelled, and then the walk is where it entered.
      have hfresh : nested = none := by
        simp only [Bool.and_eq_true, Option.isNone_iff_eq_none] at hc
        exact hc.1
      exact Ensures.bind (Ensures.lift fun _ _ _ => Ensures.pure ⟨.refl e, hst.1 hfresh⟩)
    refine Ensures.next ((ihNode e _ hg hnested).and
      (runNode_unwinds hgrow e _ fun r hr => (hnested.2 r hr).1.1)) fun o e₁ w₁ hpost => ?_
    obtain ⟨h₁, hg₁, _⟩ := hpost
    have hgr := hg.grows hg₁
    split
    · exact (ihDone _ e₁ w₁ hgr (.fresh h₁.2)).mono fun _ _ _ h => h.of_kept h₁.1
    · exact Ensures.pure h₁
    · refine Ensures.ite (fun _ => ?_) (fun _ => Ensures.pure h₁)
      exact Ensures.bind (Ensures.lift fun _ w₂ _ =>
        (ihAbsorb _ e₁ w₂ hgr (.fresh h₁.2)).mono fun _ _ _ h => h.of_kept h₁.1)
    · exact Ensures.pure h₁
  -- `runNode`: a step runs in the block's instance, the other nodes pass on.
  · intro id index path previous resuming stepId h e w _ _
    rw [Engine.runNode, if_pos h]
    exact Ensures.throw
  · intro id index path previous resuming stepId h e w _ hst
    rw [Engine.runNode, if_neg h]
    exact step_settles hgrow hpause hkeep _ path previous
      (hst.1 (Option.not_isSome_iff_eq_none.1 h)) w
  · intro id index path previous resuming stepId params h e w _ _
    rw [Engine.runNode, if_pos h]
    exact Ensures.throw
  · intro id index path previous resuming stepId params h e w _ hst
    rw [Engine.runNode, if_neg h]
    exact step_settles hgrow hpause hkeep _ path previous
      (hst.1 (Option.not_isSome_iff_eq_none.1 h)) w
  · intro id index path previous resuming children ih e w hg hst
    rw [Engine.runNode]
    exact ih e w hg (hst.mono fun fs hfs => by
      obtain ⟨hb, hfits⟩ := hfs
      cases hfits with
      | sequence h => exact ⟨hb, h⟩)
  · intro id index path previous resuming parts ih e w hg hst
    rw [Engine.runNode]
    exact ih e w hg (hst.mono fun fs hfs => by
      obtain ⟨hb, hfits⟩ := hfs
      cases hfits with
      | loop h => exact ⟨hb, h⟩)
  · intro id index path previous resuming arms edge arm target hfound ih e w hg hst
    rw [Engine.runNode_branch_found rfl hfound]
    exact ih e w hg (hst.mono fun fs hfs => by
      obtain ⟨hb, hfits⟩ := hfs
      cases hfits with
      | branch hf h =>
        rw [hfound] at hf
        cases hf
        exact ⟨hb, h⟩)
  · intro id index path previous resuming arms edge hnone e w _ hst
    rw [Engine.runNode_branch_none rfl hnone]
    refine Ensures.bind (Ensures.lift fun _ _ _ => Ensures.pure ⟨.refl e, hst.active ?_⟩)
    rintro r _ ⟨_, hfits⟩
    cases hfits with
    | branch hf _ =>
      rw [hnone] at hf
      cases hf
  -- `runLoop`: the loop's rounds run in the loop's instance, a child.
  · intro parentId index path resume e w _ hst
    rw [Engine.runLoop]
    refine Ensures.pure ⟨.refl e, hst.active fun r _ hr => ?_⟩
    obtain ⟨_, hfits⟩ := hr
    cases hfits
  · intro parentId index path controller actions r hr e w _ _
    rw [Engine.runLoop, hr]
    exact Ensures.throw
  · intro parentId index path controller actions controllerBase actionsBase r loopId iteration output
      phase rest hr ih e w hg hst
    rw [Engine.runLoop, hr]
    obtain ⟨⟨hb, hfits⟩, y, hends, hy⟩ := hst.2 r rfl
    rw [hr] at hb hfits hends
    obtain ⟨hc, hd⟩ := hb
    -- The frame's phase says which block the rest of the cursor goes into.
    have hctrl : ∀ r', controllerResume? (some (phase, ⟨rest, r.value⟩)) = some r' →
        (Frame.Atop e loopId r'.frames ∧ Frame.FitsBlock [controller] r'.frames) ∧
          ∃ y, Frame.EndsAt r'.frames y ∧ e.ActiveAt .running y := by
      intro r' h
      cases hfits with
      | controller hf =>
        cases h
        exact ⟨⟨Frame.atop_controller hd hf, hf⟩, y, hends.tail hf.ne_nil, hy⟩
      | actions => cases h
    have hacts : ∀ r', actionsResume? (some (phase, ⟨rest, r.value⟩)) = some r' →
        (Frame.Below e loopId r'.frames ∧ Frame.FitsBlock actions r'.frames ∧
          (output.map StepOutput.edge).getD "" = "continue") ∧
          ∃ y, Frame.EndsAt r'.frames y ∧ e.ActiveAt .running y := by
      intro r' h
      cases hfits with
      | controller => cases h
      | actions hcont hf =>
        cases h
        exact ⟨⟨Frame.descends_actions hd, hf, hcont⟩, y, hends.tail hf.ne_nil, hy⟩
    refine Ensures.next ((ih e w hg (fun h => by cases h) hctrl hacts).and
      (loopRound_unwinds hgrow e w (fun r' h => (hctrl r' h).1.1.descends) fun r' h =>
        (hacts r' h).1.1)) fun o e₁ w₁ hpost => ?_
    obtain ⟨h₁, hg₁, _⟩ := hpost
    refine Ensures.next (finishInstance_settles eng (hg.grows hg₁).linked (hg₁.isChild hc) h₁.2 w₁)
      fun _ e₂ _ h₂ => ?_
    exact Ensures.pure (h₂.of_kept h₁.1)
  · intro parentId index path controller actions r other tail hother hr e w _ _
    rw [Engine.runLoop_not_loop hother hr]
    exact Ensures.throw
  · intro parentId index path controller actions controllerBase actionsBase ih e w hg hst
    rw [Engine.runLoop]
    have hx := hst.1 rfl
    refine Ensures.bind (Ensures.get ?_)
    split
    · exact Ensures.pure ⟨.refl e, hx⟩
    refine Ensures.bind (Ensures.get ?_)
    refine Ensures.next (openInstance_spec eng _ _ _ _ e w) fun _ e₁ w₁ hpost => ?_
    obtain ⟨t, _, hspawn⟩ := hpost
    have hg₁ : e₁.Grown := .spawn hg hspawn
    refine Ensures.next ((ih e e₁ w₁ hg₁ (fun _ => hx.spawn hspawn) (fun _ h => by cases h)
      (fun _ h => by cases h)).and (loopRound_unwinds hgrow e₁ w₁ (fun _ h => by cases h)
        (fun _ h => by cases h))) fun o e₂ w₂ hpost => ?_
    obtain ⟨h₂, hg₂, _⟩ := hpost
    refine Ensures.next (finishInstance_settles eng (hg₁.grows hg₂).linked
      (hg₂.isChild (isChild_spawn hspawn)) h₂.2 w₂) fun _ e₃ _ h₃ => ?_
    exact Ensures.pure ((h₃.of_kept h₂.1).of_kept (.spawn hspawn))
  -- `loopRound`: the controller decides in the loop's instance.
  · intro loopId controller actions controllerBase actionsBase path iteration controllerOutput
      pending ihFollow ihCtrl e w hg hnone hctrl hacts
    rw [Engine.loopRound]
    refine Ensures.bind (Ensures.lift fun cancelled w₁ _ => ?_)
    dsimp only
    refine Ensures.ite (fun has => ?_) (fun hna => ?_)
    · refine ihFollow _ e w₁ hg (fun _ h => by cases h) (fun _ _ h => by rw [h] at has; cases has)
        fun r h => ?_
      obtain ⟨⟨hb, hf, hcont⟩, hy⟩ := hacts r h
      exact ⟨⟨⟨hb, hf⟩, _, rfl, hcont⟩, hy⟩
    have hnoacts : actionsResume? pending = none := Option.not_isSome_iff_eq_none.1 hna
    refine Ensures.ite (fun hc => ?_) (fun _ => ?_)
    · have hfresh : pending = none := by
        simp only [Bool.and_eq_true, Option.isNone_iff_eq_none] at hc
        exact pending_eq_none hc.1 hnoacts
      exact Ensures.bind (Ensures.lift fun _ w₂ _ => ihFollow _ e w₂ hg
        (fun _ h => by cases h; exact hnone hfresh) (fun _ h => by cases h)
        fun _ h => by rw [hnoacts] at h; cases h)
    · have hcur : Standing e loopId (controllerResume? pending) fun e fs =>
          Frame.Atop e loopId fs ∧ Frame.FitsBlock [controller] fs :=
        ⟨fun h => hnone (pending_eq_none h hnoacts), hctrl⟩
      refine Ensures.next ((ihCtrl e w₁ hg hcur).and (runBlock_unwinds hgrow e w₁ fun r h =>
        (hctrl r h).1.1.descends)) fun o e₁ w₂ hpost => ?_
      obtain ⟨h₁, hg₁, _⟩ := hpost
      have hgr := hg.grows hg₁
      have hnocur : ∀ r, actionsResume? pending = some r → False := fun r h => by
        rw [hnoacts] at h
        cases h
      split
      · exact (ihFollow _ e₁ w₂ hgr (fun _ h => by cases h) (fun _ _ _ => h₁.2)
          fun r h => (hnocur r h).elim).mono fun _ _ _ h => h.of_kept h₁.1
      · exact (ihFollow _ e₁ w₂ hgr (fun _ h => by cases h; exact h₁.2) (fun _ h => by cases h)
          fun r h => (hnocur r h).elim).mono fun _ _ _ h => h.of_kept h₁.1
      · exact (ihFollow _ e₁ w₂ hgr (fun _ h => by cases h; exact h₁.2) (fun _ h => by cases h)
          fun r h => (hnocur r h).elim).mono fun _ _ _ h => h.of_kept h₁.1
  · intro loopId controller actions controllerBase actionsBase path iteration pending outcome e w _
      hinl _ _
    rw [Engine.loopFollow]
    exact Ensures.pure ⟨.refl e, hinl outcome rfl⟩
  · intro loopId controller actions controllerBase actionsBase path iteration pending
      controllerOutput edge hcont hlimit e w _ _ hinr _
    rw [Engine.loopFollow, if_pos hcont, dif_pos hlimit]
    simp only [Bool.and_eq_true, Option.isNone_iff_eq_none] at hlimit
    exact Ensures.pure ⟨.refl e, hinr _ rfl hlimit.1⟩
  · -- No actions: a cursor into them is out of reach, and the next round is fresh.
    intro loopId controller actions controllerBase actionsBase path iteration pending
      controllerOutput edge hcont hlimit hempty ih e w hg _ hinr hacts
    rw [Engine.loopFollow, if_pos hcont, dif_neg hlimit]
    dsimp only
    rw [if_pos hempty]
    have hnone : actionsResume? pending = none := by
      cases h : actionsResume? pending with
      | none => rfl
      | some r => exact absurd (List.isEmpty_iff.1 hempty) (hacts r h).1.1.2.nodes_ne_nil
    exact ih e w hg (fun _ => hinr _ rfl hnone) (fun _ h => by cases h) (fun _ h => by cases h)
  · intro loopId controller actions controllerBase actionsBase path iteration pending
      controllerOutput edge hcont hlimit hempty ihNext ihChild e w hg _ hinr hacts
    rw [Engine.loopFollow, if_pos hcont, dif_neg hlimit]
    dsimp only
    rw [if_neg hempty]
    have hcur : Standing e loopId (actionsResume? pending) fun e fs =>
        Frame.Below e loopId fs ∧ Frame.FitsBlock actions fs :=
      ⟨hinr _ rfl, fun r h => ⟨(hacts r h).1.1, (hacts r h).2⟩⟩
    refine Ensures.bind (Ensures.lift fun _ w₁ _ => ?_)
    refine Ensures.next ((ihChild e w₁ hg hcur).and (runChild_unwinds hgrow e w₁ fun r h =>
      (hacts r h).1.1.1)) fun o e₁ w₂ hpost => ?_
    obtain ⟨h₁, hg₁, _⟩ := hpost
    split
    · exact (ihNext e₁ w₂ (hg.grows hg₁) (fun _ => h₁.2) (fun _ h => by cases h)
        (fun _ h => by cases h)).mono fun _ _ _ h => h.of_kept h₁.1
    · exact Ensures.pure h₁
    · exact Ensures.pure h₁
  · intro loopId controller actions controllerBase actionsBase path iteration pending
      controllerOutput edge hcont hexit e w _ _ hinr hacts
    rw [Engine.loopFollow, if_neg hcont, if_pos hexit]
    exact Ensures.pure ⟨.refl e, hinr _ rfl (no_actions_cursor hacts hcont)⟩
  · intro loopId controller actions controllerBase actionsBase path iteration pending
      controllerOutput edge hcont hexit e w _ _ hinr hacts
    rw [Engine.loopFollow, if_neg hcont, if_neg hexit]
    exact Ensures.bind (Ensures.lift fun _ _ _ =>
      Ensures.pure ⟨.refl e, hinr _ rfl (no_actions_cursor hacts hcont)⟩)
  -- `runChild`: the block runs in the child, which is finished after it.
  · intro parentId candidate branchType iteration nodes base entry r hr e w _ _
    rw [Engine.runChild, hr]
    exact Ensures.throw
  · intro parentId candidate branchType iteration nodes base entry r frame tail hr ih e w hg hst
    rw [Engine.runChild, hr]
    obtain ⟨⟨hb, hfits⟩, y, hends, hy⟩ := hst.2 r rfl
    rw [hr] at hb hfits
    obtain ⟨-, hatop⟩ := hb.atop hfits
    refine Ensures.next ((ih e w hg (.along (by rw [hr]; exact ⟨hatop, hfits⟩) hends hy)).and
      (runBlock_unwinds hgrow e w fun r' h => by
        cases h
        rw [hr]
        exact hatop.descends)) fun o e₁ w₁ hpost => ?_
    obtain ⟨h₁, hg₁, _⟩ := hpost
    refine Ensures.next (finishInstance_settles eng (hg.grows hg₁).linked (hg₁.isChild hb.1) h₁.2 w₁)
      fun _ e₂ _ h₂ => ?_
    exact Ensures.pure (h₂.of_kept h₁.1)
  · intro parentId candidate branchType iteration nodes base entry ih e w hg hst
    rw [Engine.runChild]
    have hx := hst.1 rfl
    refine Ensures.bind (Ensures.get ?_)
    split
    · exact Ensures.pure ⟨.refl e, hx⟩
    refine Ensures.bind (Ensures.get ?_)
    refine Ensures.next (openInstance_spec eng _ _ _ _ e w) fun _ e₁ w₁ hpost => ?_
    obtain ⟨t, _, hspawn⟩ := hpost
    have hg₁ : e₁.Grown := .spawn hg hspawn
    refine Ensures.next ((ih e e₁ w₁ hg₁ (.fresh (hx.spawn hspawn))).and
      (runBlock_unwinds hgrow e₁ w₁ fun _ h => by cases h)) fun o e₂ w₂ hpost => ?_
    obtain ⟨h₂, hg₂, _⟩ := hpost
    refine Ensures.next (finishInstance_settles eng (hg₁.grows hg₂).linked
      (hg₂.isChild (isChild_spawn hspawn)) h₂.2 w₂) fun _ e₃ _ h₃ => ?_
    exact Ensures.pure ((h₃.of_kept h₂.1).of_kept (.spawn hspawn))

end Walk

/-- Finishing the root the walk stands in leaves every instance terminal. -/
theorem finishInstance_root {o : Outcome} {e : Execution} (hl : e.Linked)
    (h : e.ActiveAt .running e.rootId) (hns : ∀ fs pause, o = .suspended fs pause → False)
    (w : World) :
    Ensures (eng.finishInstance e.rootId o) e w fun _ e' _ => e.TerminalKept e' ∧ e.Grows e' ∧
      ∀ x X, e'.get? x = some X → X.status.isTerminal = true := by
  -- Standing in the root alone, every other instance is terminal already.
  obtain ⟨ids, hlin, hall⟩ := h
  obtain ⟨r, hr, -⟩ := hl.root
  obtain rfl := hlin.unique hl (.root (by simp [hr]))
  have hfinish : ∀ g : FlowInstance → FlowInstance, KeepsPlace g →
      (∀ i, (g i).status.isTerminal = true) →
      e.TerminalKept (e.modify e.rootId g) ∧ e.Grows (e.modify e.rootId g) ∧
        ∀ x X, (e.modify e.rootId g).get? x = some X → X.status.isTerminal = true := by
    intro g hg hterm
    refine ⟨.modify (fun i => (hg i).1) fun C hC => ?_, .of_modify e _ hg, fun x X hX => ?_⟩
    · rw [(hall _ C hC).1 (List.mem_singleton_self _)]
      rfl
    rw [get?_modify fun i => (hg i).1] at hX
    split at hX
    · obtain ⟨_, -, rfl⟩ := Option.map_eq_some_iff.1 hX
      exact hterm _
    · rename_i hx
      exact (hall x X hX).2 (by simpa using hx)
  refine (finishInstance_spec eng e.rootId o e w).mono fun _ e' _ hfin => ?_
  cases o with
  | done output =>
    obtain ⟨t, rfl⟩ := hfin
    exact hfinish _ (fun _ => ⟨rfl, rfl, rfl⟩) fun _ => rfl
  | failed failure =>
    obtain ⟨t, rfl⟩ := hfin
    exact hfinish _ (fun _ => ⟨rfl, rfl, rfl⟩) fun _ => rfl
  | cancelled =>
    obtain ⟨t, rfl⟩ := hfin
    exact hfinish _ (fun _ => ⟨rfl, rfl, rfl⟩) fun _ => rfl
  | suspended fs pause => exact (hns fs pause rfl).elim

end Engine

/-! ## Tickets and reports -/

/-- A ticket waiting for its resume: the cursor's instances, each once, are
the chain from the root down to the instance whose step suspended; they are
exactly the paused instances; the cursor ends at a block frame of that
instance; and every other instance is terminal. -/
structure PausedExecution.Waiting (p : PausedExecution) : Prop where
  lineage : p.execution.Lineage p.ticket.instanceId p.cursor.instanceIds
  ends : Frame.EndsAt p.cursor.frames p.ticket.instanceId
  paused : ∀ i ∈ p.execution.instances, i.status = .paused ↔ i.id ∈ p.cursor.instanceIds
  terminal : ∀ i ∈ p.execution.instances, i.id ∉ p.cursor.instanceIds → i.status.isTerminal = true

namespace PausedExecution.Waiting

variable {p : PausedExecution}

/-- A waiting ticket holds its paused lineage. -/
theorem active (h : p.Waiting) : p.execution.ActiveAt .paused p.ticket.instanceId := by
  refine ⟨_, h.lineage, fun x X hX => ?_⟩
  obtain ⟨hm, rfl⟩ := mem_of_get? hX
  exact ⟨(h.paused X hm).2, h.terminal X hm⟩

/-- A grown execution whose paused lineage is the one the cursor records,
ending where the cursor ends, waits. -/
theorem of_active (hg : p.execution.Grown) (h : p.execution.ActiveAt .paused p.ticket.instanceId)
    (hl : p.execution.Lineage p.ticket.instanceId p.cursor.instanceIds)
    (hends : Frame.EndsAt p.cursor.frames p.ticket.instanceId) : p.Waiting := by
  obtain ⟨ids, hids, hall⟩ := h
  obtain rfl := hids.unique hg.linked hl
  have hfacts := fun i (hi : i ∈ p.execution.instances) => hall i.id i (get?_of_mem hg.nodup hi)
  refine ⟨hids, hends, fun i hi => ⟨fun hp => ?_, (hfacts i hi).1⟩, fun i hi => (hfacts i hi).2⟩
  -- An instance off the lineage is terminal, so not paused.
  by_contra hn
  have hterm := (hfacts i hi).2 hn
  rw [hp] at hterm
  cases hterm

end PausedExecution.Waiting

/-- What a report says of its instances' statuses, with the store it leaves:
paused, with its ticket waiting in the store under its identifier; or
terminal, with every instance terminal and the root's status, result and
failure. -/
def ExecutionReport.Settled (R : ExecutionReport) (store : PauseStore) : Prop :=
  (R.status = .paused ∧ ∃ p slots, store = .memory slots ∧ (p.ticket.pauseId, some p) ∈ slots ∧
    R.pause = some p.ticket ∧ R.executionId = p.execution.rootId ∧
    R.instances = p.execution.instances ∧ p.Waiting) ∨
  (R.status.isTerminal = true ∧ R.pause = none ∧ (∀ i ∈ R.instances, i.status.isTerminal = true) ∧
    ∃ root, R.root? = some root ∧ R.status = root.status ∧ R.result = root.result ∧
      R.error = root.error)

/-- A world whose tickets in memory all wait for their resume. -/
def World.Waits (w : World) : Prop :=
  ∀ slots, w.store = .memory slots → ∀ k p, (k, some p) ∈ slots → p.Waiting

theorem World.Waits.of_store {w w' : World} (h : w.Waits) (hs : w'.store = w.store) : w'.Waits :=
  fun slots h' => h slots (hs.symm.trans h')

/-- A saved ticket fills its own slot. -/
theorem mem_putSlot_self (slots : List (String × Option PausedExecution)) (p : PausedExecution) :
    (p.ticket.pauseId, some p) ∈ putSlot slots p := by
  unfold putSlot
  split
  · rename_i hany
    obtain ⟨⟨k, s⟩, hmem, hk⟩ := List.any_eq_true.1 hany
    obtain rfl : k = p.ticket.pauseId := by simpa using hk
    exact List.mem_map.2 ⟨(_, s), hmem, by simp⟩
  · exact List.mem_append_right _ (List.mem_singleton_self _)

namespace ExecutionReport

/-- With identifiers apart, a report finds the root its execution finds. -/
theorem root?_ofExecution (name : String) {e : Execution} (hn : (e.instances.map (·.id)).Nodup)
    (p : Option PauseTicket) : (ofExecution name e p).root? = e.root? := by
  show e.instances.find? (·.id == e.rootId) = e.get? e.rootId
  cases h : e.get? e.rootId with
  | none =>
    rw [List.find?_eq_none]
    intro i hi hid
    have hsome := get?_isSome_of_mem hi
    rw [show i.id = e.rootId by simpa using hid, h] at hsome
    cases hsome
  | some r =>
    obtain ⟨hm, hid⟩ := mem_of_get? h
    rw [← hid]
    exact find?_eq_of_nodup hn hm

/-- The report of a grown execution whose every instance is terminal is
settled. -/
theorem settled_of_terminal (name : String) {e : Execution} (hg : e.Grown)
    (hterm : ∀ x X, e.get? x = some X → X.status.isTerminal = true) (store : PauseStore) :
    (ofExecution name e none).Settled store := by
  obtain ⟨root, hroot, -⟩ := hg.linked.root
  have hroot' : e.root? = some root := hroot
  obtain ⟨hst, herr⟩ := ofExecution_root name none hroot'
  refine .inr ⟨hst ▸ hterm _ root hroot, rfl, fun i hi => hterm i.id i (get?_of_mem hg.nodup hi),
    root, (root?_ofExecution name hg.nodup none).trans hroot', hst, ?_, herr⟩
  simp [ofExecution, hroot']

/-- The report of a waiting ticket, saved in the store, is settled. -/
theorem settled_of_waiting (name : String) {p : PausedExecution} (hg : p.execution.Grown)
    (hw : p.Waiting) (slots : List (String × Option PausedExecution)) :
    (ofExecution name p.execution (some p.ticket)).Settled (.memory (putSlot slots p)) := by
  obtain ⟨root, hroot, -⟩ := hg.linked.root
  obtain ⟨ids, hl, hall⟩ := hw.active
  refine .inl ⟨?_, p, _, rfl, mem_putSlot_self slots p, rfl, rfl, rfl, hw⟩
  rw [(ofExecution_root name _ hroot).1]
  exact (hall _ root hroot).1 hl.root_mem

end ExecutionReport

/-- A loop over a list whose every round steps its carried value by `f` and
keeps the pause store ends with the fold of `f`. -/
theorem Run.Ensures.forIn_foldl {γ β : Type} (l : List γ) (init : β)
    {body : γ → β → Run (ForInStep β)} {w : World} (f : β → γ → β)
    (h : ∀ x b w, Run.Ensures (body x b) w fun r w' => r = .yield (f b x) ∧ w'.store = w.store) :
    Run.Ensures (ForIn.forIn l init body) w fun b w' => b = l.foldl f init ∧ w'.store = w.store := by
  induction l generalizing init w with
  | nil => exact Run.Ensures.pure ⟨rfl, rfl⟩
  | cons x rest ih =>
    simp only [List.forIn_cons]
    refine Run.Ensures.next (h x init w) fun r w' ⟨hr, hw'⟩ => ?_
    subst hr
    exact (ih (f init x)).mono fun _ _ ⟨hb, hs⟩ => ⟨hb, hs.trans hw'⟩

/-- A new execution runs its root alone. -/
theorem activeAt_create (rootId : String) (seed : Value) (now : Timestamp) :
    (Execution.create rootId seed now).ActiveAt .running rootId := by
  refine ⟨[rootId], .root (by simp [Execution.create, get?_eq_find]), fun x X hX => ?_⟩
  obtain ⟨hm, rfl⟩ := mem_of_get? hX
  simp only [Execution.create, ofInstances_instances, List.mem_singleton] at hm
  subst hm
  exact ⟨fun _ => rfl, fun hn => absurd (List.mem_singleton_self _) hn⟩

namespace Engine

variable (eng : Engine)

/-- `start` opens a new execution. -/
theorem start_creates (d : FlowDefinition) (init : Value) (w : World) :
    Run.Ensures (eng.start d init) w fun e _ => ∃ rootId seed now, e = Execution.create rootId seed now := by
  unfold start
  refine Run.Ensures.after fun report _ => ?_
  dsimp only
  split
  · exact Run.Ensures.after fun _ _ => Run.Ensures.bind Run.Ensures.throw
  · refine Run.Ensures.after fun id _ => Run.Ensures.after fun t _ => ?_
    exact Run.Ensures.after fun _ _ => Run.Ensures.after fun _ _ => Run.Ensures.pure ⟨_, _, _, rfl⟩

/-- Driving the walk from a grown execution, fresh in its running root or
along a cursor that fits the definition and ends at a running lineage,
reports settled statuses, keeps every terminal status, and keeps the tickets
in memory waiting. -/
theorem drive_settles (d : FlowDefinition) {e : Execution} {resume : Option Resume} (hg : e.Grown)
    (hst : Standing e e.rootId resume fun e fs =>
      Frame.Atop e e.rootId fs ∧ Frame.FitsBlock d.nodes fs)
    {w : World} {slots : List (String × Option PausedExecution)} (hstore : w.store = .memory slots) :
    Run.Ensures (eng.drive eng.runStep d e resume) w fun R w' =>
      R.Settled w'.store ∧ e.TerminalKept R.execution ∧ (w.Waits → w'.Waits) := by
  unfold drive
  refine Run.Ensures.next (Ensures.run
    (((walk_settles eng (runStep_grows eng) (runStep_pauses eng) (runStep_keepsStatuses eng)).1
      _ _ _ _ _ e w hg hst).and
    (((walk_suspends eng eng.runStep (runStep_pauses eng)).1 _ _ _ _ _ e w).and
      ((runBlock_unwinds (runStep_grows eng) e w fun r h => (hst.2 r h).1.1.descends).and
        ((walk_keepsStore eng eng.runStep (runStep_keepsStore eng)).1 _ _ _ _ _ e w).2))))
    fun q w₁ h₁ => ?_
  obtain ⟨outcome, e₁⟩ := q
  obtain ⟨hset, hsusp, ⟨hg₁, hatop⟩, hstore₁⟩ := h₁
  dsimp only at hset hsusp hatop ⊢
  have hgr₁ := hg.grows hg₁
  split
  · -- A suspension marks the running lineage paused and saves it with the cursor.
    rename_i frames pause
    obtain ⟨-, hends, -⟩ := hsusp frames pause rfl
    have hlin : e₁.Lineage pause.instanceId (Cursor.ofUnwound frames).instanceIds :=
      lineage_instanceIds hgr₁.linked (by rw [hg₁.rootId_eq]; exact hatop frames pause rfl) hends
    have hrun : e₁.ActiveAt .running pause.instanceId := hset.2
    refine (suspend_saves eng d e₁ _ pause (hstore₁.trans hstore)).mono
      fun R w₂ ⟨ticket, hid, hR, h₂⟩ => ?_
    have hmark := Grows.foldl_modify (g := fun i => { i with status := .paused })
      (fun _ => ⟨rfl, rfl, rfl⟩) (Cursor.ofUnwound frames).instanceIds e₁
    have hgp := hgr₁.grows hmark
    have hwait : PausedExecution.Waiting ⟨ticket, pause.resumeEdge, d,
        markAll (Cursor.ofUnwound frames).instanceIds .paused e₁, Cursor.ofUnwound frames⟩ := by
      refine .of_active hgp ?_ ?_ ?_
      · rw [hid]
        exact hrun.mark hgr₁.linked hlin .paused
      · rw [hid]
        exact hlin.grows hmark
      · rw [hid]
        exact hends
    subst hR
    refine ⟨?_, ?_, fun hw slots' h' k q hq => ?_⟩
    · rw [h₂]
      exact ExecutionReport.settled_of_waiting d.name hgp hwait slots
    · rw [ExecutionReport.execution_ofExecution]
      exact hset.1.trans (.mark hgr₁.linked hrun rfl hlin .paused)
    · rw [h₂] at h'
      cases h'
      rcases mem_putSlot hq with hq | rfl
      · exact hw slots hstore k q hq
      · exact hwait
  · -- Otherwise the root finishes, and every instance is terminal with it.
    rename_i hns
    have hroot : e₁.ActiveAt .running e₁.rootId := by
      have h := hset.2
      rwa [Outcome.activeIn_of_pauses fun fs pause h => absurd h (hns fs pause),
        ← hg₁.rootId_eq] at h
    rw [← hg₁.rootId_eq]
    refine Run.Ensures.next ((Ensures.run (finishInstance_root eng hgr₁.linked hroot hns w₁)).and
      (Tame.run (finishInstance_tame eng _ _) e₁ w₁).2) fun q w₂ h₂ => ?_
    obtain ⟨⟨⟩, e₂⟩ := q
    obtain ⟨⟨hkept, hg₂, hterm⟩, h₂⟩ := h₂
    have hsettled := ExecutionReport.settled_of_terminal d.name (hgr₁.grows hg₂) hterm
    dsimp only
    -- What is logged and recorded of the report changes neither it nor the store.
    split <;> exact Run.Ensures.after_tame (Run.log_tame _ _ _) fun _ w₃ h₃ =>
      Run.Ensures.after_tame (record_tame eng _) fun _ w₄ h₄ =>
        Run.Ensures.pure ⟨hsettled _, by rw [ExecutionReport.execution_ofExecution]; exact hset.1.trans hkept,
          fun hw => hw.of_store (h₄.trans (h₃.trans (h₂.trans hstore₁)))⟩

/-- A run from a world whose store is in memory reports settled statuses and
keeps the tickets in memory waiting. -/
theorem run_settles (d : FlowDefinition) (init : Value) {w : World}
    {slots : List (String × Option PausedExecution)} (hstore : w.store = .memory slots) :
    Run.Ensures (eng.run d init) w fun R w' => R.Settled w'.store ∧ (w.Waits → w'.Waits) := by
  unfold run
  refine Run.Ensures.next ((start_creates eng d init w).and (start_keepsStore eng d init w).2)
    fun e w₁ ⟨⟨rootId, seed, now, he⟩, h₁⟩ => ?_
  subst he
  exact (drive_settles eng d (.create _ _ _) (.fresh (activeAt_create _ _ _))
    (h₁.trans hstore)).mono fun R w' ⟨hR, _, hw⟩ => ⟨hR, fun h => hw (h.of_store h₁)⟩

/-- A resume from a world whose tickets can be followed and wait reports
settled statuses, keeps every terminal status of the execution it claimed,
and leaves the tickets waiting. -/
theorem resume_settles (pauseId : String) (value : Value) {w : World} (hres : w.Resumable)
    (hwait : w.Waits) :
    Run.Ensures (eng.resume pauseId value) w fun R w' => R.Settled w'.store ∧ w'.Waits ∧
      ∃ slots p, w.store = .memory slots ∧ (pauseId, some p) ∈ slots ∧
        p.execution.TerminalKept R.execution := by
  obtain ⟨slots, hstore, hall⟩ := hres
  unfold resume
  refine Run.Ensures.next (Run.claimTicket_memory hstore pauseId)
    fun p w₁ ⟨hk, rest, h₁, hsub⟩ => ?_
  have hp := hall pauseId p hk
  have hpw := hwait slots hstore pauseId p hk
  refine Run.Ensures.after_tame (Run.info_tame _ _) fun _ w₂ h₂ => ?_
  -- Marking the cursor's instances running puts the walk on the suspended lineage.
  refine Run.Ensures.next (Run.Ensures.forIn_foldl _ _
    (fun e id => e.modify id fun i => { i with status := .running }) fun _ _ _ =>
      Run.Ensures.after_tame (emitFor_tame eng _ _ _ _ _) fun _ _ h => Run.Ensures.pure ⟨rfl, h⟩)
    fun e w₃ ⟨he, h₃⟩ => ?_
  subst he
  have hgrows := Grows.foldl_modify (g := fun i => { i with status := .running })
    (fun _ => ⟨rfl, rfl, rfl⟩) p.cursor.instanceIds p.execution
  have hatop : Frame.Atop (markAll p.cursor.instanceIds .running p.execution)
      (markAll p.cursor.instanceIds .running p.execution).rootId p.cursor.frames := by
    rw [rootId_foldl_modify]
    exact hp.atop.grows hgrows
  have hw₃ : w₃.Waits := fun slots' h' k q hq => by
    rw [h₃, h₂, h₁] at h'
    cases h'
    exact hwait slots hstore k q (hsub k q hq)
  refine (drive_settles eng _ (hp.grown.grows hgrows)
    (.along ⟨hatop, hp.fits⟩ hpw.ends (hpw.active.mark hp.grown.linked hpw.lineage .running))
    (h₃.trans (h₂.trans h₁))).mono fun R w' ⟨hR, hkept, hw⟩ =>
      ⟨hR, hw hw₃, slots, p, hstore, hk,
        (TerminalKept.mark hp.grown.linked hpw.active rfl hpw.lineage .running).trans hkept⟩

end Engine

/-! ## Whole sessions -/

/-- Every world that runs and resumes lead to from a resumable world whose
tickets wait keeps its tickets waiting. -/
theorem World.Reaches.waits {w₀ w : World} (h₀ : w₀.Resumable) (hw₀ : w₀.Waits)
    (h : w₀.Reaches w) : w.Waits := by
  induction h with
  | refl => exact hw₀
  | @run w₁ w₂ r eng d init hreach hrun ih =>
    obtain ⟨slots, hstore, -⟩ := hreach.resumable h₀
    rcases r with err | R
    · rcases eng.run_throws d init w₁ err w₂ hrun with ⟨-, hs⟩ | ⟨-, dir, hdir⟩
      · exact ih.of_store hs
      · rw [hstore] at hdir
        cases hdir
    · exact (eng.run_settles d init hstore R w₂ hrun).2 ih
  | @resume w₁ w₂ r eng pauseId value hreach hrun ih =>
    have hres := hreach.resumable h₀
    rcases r with err | R
    · rw [(eng.resume_throws pauseId value hres err w₂ hrun).2]
      exact ih
    · exact (eng.resume_settles pauseId value hres ih R w₂ hrun).2.1

/-- A world to run sessions from: its store is in memory and holds only
tickets a resume can follow and that wait. -/
def World.Settled (w : World) : Prop := w.Resumable ∧ w.Waits

/-- In every world that runs and resumes lead to from a settled one (a fresh
world, say), every run and every resume reports settled statuses: a paused
report's ticket waits in the store, on a cursor whose instances are the chain
from the root down to the instance that suspended, exactly the paused ones,
every other instance terminal; a terminal report has every instance terminal
and reads the root's status, result and failure. A resume keeps every
terminal status of the execution it claimed. -/
theorem statuses_settle_across_sessions :
    ∀ w₀ w : World, w₀.Settled → w₀.Reaches w →
      (∀ (eng : Engine) (d : FlowDefinition) (init : Value),
        Run.Ensures (eng.run d init) w fun R w' => R.Settled w'.store) ∧
      (∀ (eng : Engine) (pauseId : String) (value : Value),
        Run.Ensures (eng.resume pauseId value) w fun R w' => R.Settled w'.store ∧
          ∃ slots p, w.store = .memory slots ∧ (pauseId, some p) ∈ slots ∧
            p.execution.TerminalKept R.execution) := by
  intro w₀ w ⟨h₀, hw₀⟩ h
  have hres := h.resumable h₀
  have hwait := h.waits h₀ hw₀
  obtain ⟨slots, hstore, -⟩ := h.resumable h₀
  refine ⟨fun eng d init => (eng.run_settles d init hstore).mono fun _ _ h => h.1,
    fun eng pauseId value => ?_⟩
  exact (eng.resume_settles pauseId value hres hwait).mono fun _ _ ⟨hR, _, hkept⟩ => ⟨hR, hkept⟩

/-- From a fresh world, the ticket a run saved inside a sub-flow is resumed;
the resume suspends again, and its report is settled: the new ticket waits in
the store on a cursor through the root and the sub-flow, both paused. -/
theorem resumed_session_statuses_settle :
    ∃ (w₁ : World) (t₁ : PauseTicket) (R₂ : ExecutionReport) (w₂ : World),
      ({} : World).Settled ∧ ({} : World).Reaches w₁ ∧ w₁.store.only?.map (·.1) = some t₁.pauseId ∧
      (askingEngine.resume t₁.pauseId (.str "v")).run.run w₁ = (.ok R₂, w₂) ∧
      R₂.status = .paused ∧ R₂.Settled w₂.store ∧
      ∃ slots p, w₁.store = .memory slots ∧ (t₁.pauseId, some p) ∈ slots ∧
        p.execution.TerminalKept R₂.execution := by
  obtain ⟨R₁, w₁, t₁, p₁, R₂, w₂, -, hR₁, -, -, hstore, hR₂, hpaused, -⟩ := askTwice_session
  have h₀ : ({} : World).Settled :=
    ⟨⟨[], rfl, fun _ _ h => absurd h List.not_mem_nil⟩, fun _ h _ _ hm => by
      cases h
      exact absurd hm List.not_mem_nil⟩
  have hreach : ({} : World).Reaches w₁ := .run _ _ _ .refl hR₁
  have hsettled := (statuses_settle_across_sessions {} w₁ h₀ hreach).2 askingEngine t₁.pauseId
    (.str "v") R₂ w₂ hR₂
  exact ⟨w₁, t₁, R₂, w₂, h₀, hreach, by rw [hstore]; rfl, hR₂, hpaused, hsettled⟩

end Flowline
