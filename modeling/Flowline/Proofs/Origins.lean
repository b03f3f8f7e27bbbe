import Flowline.Proofs.Parameters
import Flowline.Proofs.Coverage
set_option autoImplicit false

/-!
# Where a failure through an unhandled edge comes from

Two calls of the walk raise a failure through an unhandled edge: a branch
handed an output whose edge none of its arms takes, and a loop's controller
that gives an edge other than `continue` and `exit` (`WalkCall.Raises`). A
step never does: resolution refuses a step only as unknown, ambiguous or for
its parameters, and a resolved step fails only by timing out, returning an
error or exiting through an undeclared edge (`Engine.runStep_not_unhandled`).

Every failure through an unhandled edge that a function of the walk ends with
was raised at a call that `Engine.Calls` reaches from the call the function
stands for (`Engine.walk_raises`): the walk's own calls are calls of the
relation. So the failure a run or a resume reports was raised at a call
reached from the root of the walk (`Engine.run_raises`,
`Engine.resume_raises`), where, on a valid definition, validation foresees it
(`WalkCall.Raises.foreseen`, `valid_definitions_foresee_branch_edges`).
-/

namespace Flowline

/-- A step node fails to resolve only for its reference or its parameters. -/
theorem Registry.resolveNode_error_code {r : Registry} {node : FlowNode} {err : FlowError}
    (h : r.resolveNode node = .error err) :
    err.code = .unknownStep ∨ err.code = .ambiguousAlias ∨ err.code = .missingRequiredInput ∨
      err.code = .invalidParams := by
  unfold Registry.resolveNode at h
  cases hs : r.resolve (node.stepId?.getD "") with
  | error e =>
    rw [hs] at h
    cases h
    rcases Registry.resolve_error_code hs with h | h
    · exact .inl h
    · exact .inr (.inl h)
  | ok step =>
    rw [hs] at h
    replace h : (step.resolve (node.params?.getD .null) >>= fun params => pure (step, params)) =
      .error err := h
    cases hp : step.resolve (node.params?.getD .null) with
    | error e =>
      rw [hp] at h
      cases h
      exact .inr (.inr (StepDefinition.resolve_error_code hp))
    | ok params =>
      rw [hp] at h
      cases h

namespace Engine

variable (eng : Engine)

/-- The engine's steps never fail through an unhandled edge. -/
theorem runStep_not_unhandled (id : String) (node : FlowNode) (path : String)
    (previous : Option StepOutput) (e : Execution) (w : World) :
    Ensures (eng.runStep id node path previous) e w fun o _ _ =>
      ∀ f, o = .failed f → f.code ≠ .unhandledEdge := by
  refine (eng.runStep_spec id node path previous e w).mono fun o _ _ h => ?_
  obtain ⟨e₁, r, -, -, -, -, -, hend⟩ := h
  intro f hf
  cases hend with
  | unresolved hres =>
    cases hf
    rcases Registry.resolveNode_error_code hres with h | h | h | h <;>
      exact fun hc => by simp only [FlowError.toFailure] at hc; rw [h] at hc; cases hc
  | failed _ hfault =>
    cases hf
    rcases hfault with ⟨l, rfl⟩ | ⟨se, rfl⟩ | ⟨edge, rfl⟩
    · exact fun hc => by cases hc
    · cases se <;> exact fun hc => by cases hc
    · exact fun hc => by cases hc
  | exited => cases hf
  | suspended => cases hf

/-- A child that would nest too deep fails for the structure. -/
theorem depthExceeded_code {e : Execution} {parentId path : String} {failure : Failure}
    (h : eng.depthExceeded e parentId path = some failure) : failure.code = .invalidStructure := by
  unfold depthExceeded at h
  dsimp only at h
  split at h
  · cases h
    rfl
  · cases h

end Engine

/-! ## Where a failure through an unhandled edge is raised -/

/-- The calls of the walk that raise a failure through an unhandled edge: a
branch with no arm for the edge it is handed fails in the instance it runs in,
and a loop's controller that gives an edge other than `continue` and `exit`
fails the loop's instance. -/
inductive WalkCall.Raises : WalkCall → Failure → Prop where
  | branch {arms : List (String × FlowNode)} {path : String} {previous : Option StepOutput}
      {resuming : Option Resume} (id : String)
      (hnone : arms.find? (·.1 == (previous.map StepOutput.edge).getD "") = none) :
      Raises (.node (.branch arms) path previous resuming)
        ((FlowError.unhandledEdge ((previous.map StepOutput.edge).getD "")).toFailure (some path)
          (some id))
  | controller {controller : FlowNode} {actions : List FlowNode}
      {controllerBase actionsBase path : String} {iteration : Nat}
      {pending : Option (LoopPhase × Resume)} {controllerOutput : Option StepOutput} (loopId : String)
      (hcont : (controllerOutput.map StepOutput.edge).getD "" ≠ "continue")
      (hexit : (controllerOutput.map StepOutput.edge).getD "" ≠ "exit") :
      Raises (.follow controller actions controllerBase actionsBase path iteration pending
          (.inr controllerOutput))
        ((FlowError.unhandledEdge ((controllerOutput.map StepOutput.edge).getD "")).toFailure
          (some controllerBase) (some loopId))

namespace Engine

/-- Every failure through an unhandled edge that `o` is was raised at a call
the walk reaches from `c`. -/
def Sourced (eng : Engine) (c : WalkCall) (o : Outcome) : Prop :=
  ∀ f, o = .failed f → f.code = .unhandledEdge →
    ∃ c', Relation.ReflTransGen (Calls eng) c c' ∧ c'.Raises f

namespace Sourced

variable {eng : Engine} {c c' : WalkCall} {o : Outcome}

/-- What a call's callee raised, the call reaches. -/
theorem up (h : Calls eng c c') (ht : eng.Sourced c' o) : eng.Sourced c o := by
  intro f hf hc
  obtain ⟨c'', hreach, hraise⟩ := ht f hf hc
  exact ⟨c'', .head h hreach, hraise⟩

/-- An outcome that is no failure has nothing to trace. -/
theorem of_ne (h : ∀ f, o ≠ .failed f) : eng.Sourced c o :=
  fun f hf => absurd hf (h f)

/-- A failure of another code has nothing to trace. -/
theorem of_code {f : Failure} (h : f.code ≠ .unhandledEdge) : eng.Sourced c (.failed f) := by
  intro f' hf hc
  cases hf
  exact absurd hc h

/-- A call's own raise is traced to the call. -/
theorem of_raises {f : Failure} (h : c.Raises f) : eng.Sourced c (.failed f) := by
  intro f' hf _
  cases hf
  exact ⟨c, .refl, h⟩

end Sourced

variable (eng : Engine)

/-- Every failure through an unhandled edge that a function of the walk ends
with was raised at a call the walk reaches from the call the function stands
for: the walk's own calls are calls of `Engine.Calls`. A loop's rounds answer
for the round that decided, since the controller's block hangs off it. -/
theorem walk_raises :
    (∀ id nodes base entry resume e w, Ensures (eng.runBlock eng.runStep id nodes base entry resume) e w
      fun o _ _ => eng.Sourced (.block nodes base entry resume) o) ∧
    (∀ id nodes base index previous nested e w,
      Ensures (eng.blockFrom eng.runStep id nodes base index previous nested) e w
        fun o _ _ => eng.Sourced (.blockFrom nodes base index previous nested) o) ∧
    (∀ id node index path previous resuming e w,
      Ensures (eng.runNode eng.runStep id node index path previous resuming) e w
        fun o _ _ => eng.Sourced (.node node path previous resuming) o) ∧
    (∀ parentId index path parts resume previous e w,
      Ensures (eng.runLoop eng.runStep parentId index path parts resume) e w
        fun o _ _ => eng.Sourced (.node (.loop parts) path previous resume) o) ∧
    (∀ loopId controller actions controllerBase actionsBase path iteration controllerOutput pending e w,
      Ensures (eng.loopRound eng.runStep loopId controller actions controllerBase actionsBase path
        iteration controllerOutput pending) e w fun o _ _ => eng.Sourced
          (.round controller actions controllerBase actionsBase path iteration controllerOutput pending) o) ∧
    (∀ loopId controller actions controllerBase actionsBase path iteration pending decided
      controllerOutput, (∀ o, decided = .inl o → eng.Sourced
          (.round controller actions controllerBase actionsBase path iteration controllerOutput pending) o) →
      ∀ e w, Ensures (eng.loopFollow eng.runStep loopId controller actions controllerBase actionsBase
        path iteration pending decided) e w fun o _ _ => eng.Sourced
          (.round controller actions controllerBase actionsBase path iteration controllerOutput pending) o) ∧
    (∀ parentId candidate branchType iteration nodes base entry resume e w,
      Ensures (eng.runChild eng.runStep parentId candidate branchType iteration nodes base entry resume)
        e w fun o _ _ => eng.Sourced (.block nodes base entry resume) o) := by
  -- The instances a child or a loop opens and ends leave its outcome as it is.
  have finished : ∀ (id : String) (o : Outcome) (e : Execution) (w : World),
      Ensures (eng.finishInstance id o) e w fun _ _ _ => True :=
    fun id o e w => (finishInstance_spec eng id o e w).mono fun _ _ _ _ => trivial
  apply Engine.runBlock.mutual_induct eng eng.runStep
    (fun id nodes base entry resume => ∀ e w,
      Ensures (eng.runBlock eng.runStep id nodes base entry resume) e w
        fun o _ _ => eng.Sourced (.block nodes base entry resume) o)
    (fun id nodes base index previous nested => ∀ e w,
      Ensures (eng.blockFrom eng.runStep id nodes base index previous nested) e w
        fun o _ _ => eng.Sourced (.blockFrom nodes base index previous nested) o)
    (fun id node index path previous resuming => ∀ e w,
      Ensures (eng.runNode eng.runStep id node index path previous resuming) e w
        fun o _ _ => eng.Sourced (.node node path previous resuming) o)
    (fun parentId index path parts resume => ∀ previous e w,
      Ensures (eng.runLoop eng.runStep parentId index path parts resume) e w
        fun o _ _ => eng.Sourced (.node (.loop parts) path previous resume) o)
    (fun loopId controller actions controllerBase actionsBase path iteration controllerOutput
      pending => ∀ e w,
      Ensures (eng.loopRound eng.runStep loopId controller actions controllerBase actionsBase path
        iteration controllerOutput pending) e w fun o _ _ => eng.Sourced
          (.round controller actions controllerBase actionsBase path iteration controllerOutput pending) o)
    (fun loopId controller actions controllerBase actionsBase path iteration pending decided =>
      ∀ controllerOutput, (∀ o, decided = .inl o → eng.Sourced
          (.round controller actions controllerBase actionsBase path iteration controllerOutput pending) o) →
      ∀ e w, Ensures (eng.loopFollow eng.runStep loopId controller actions controllerBase actionsBase
        path iteration pending decided) e w fun o _ _ => eng.Sourced
          (.round controller actions controllerBase actionsBase path iteration controllerOutput pending) o)
    (fun parentId candidate branchType iteration nodes base entry resume => ∀ e w,
      Ensures (eng.runChild eng.runStep parentId candidate branchType iteration nodes base entry resume)
        e w fun o _ _ => eng.Sourced (.block nodes base entry resume) o)
  -- `runBlock`: fresh, on a cursor, at the suspended step, on the way down.
  · intro id nodes base entry ih e w
    rw [Engine.runBlock]
    exact (ih e w).mono fun o _ _ h => h.up .enter
  · intro id nodes base entry r hr e w
    rw [Engine.runBlock, hr]
    exact Ensures.throw
  · intro id nodes base entry r frameId index before rest hr hid hempty ih e w
    rw [Engine.runBlock, hr]
    simp only [hid, hempty, if_true]
    have hnil : rest = [] := List.isEmpty_iff.mp hempty
    subst hnil
    refine Ensures.next ((completePausedStep_spec eng id r.value e w).mono fun _ _ _ _ => trivial)
      fun _ e₁ w₁ _ => (ih e₁ w₁).mono fun o _ _ h => h.up (.resumeStep hr)
  · intro id nodes base entry r frameId index before rest hr hid hempty ih e w
    rw [Engine.runBlock, hr]
    simp only [hid, hempty, if_true]
    have hrest : rest ≠ [] := fun h => by simp [h] at hempty
    exact (ih e w).mono fun o _ _ h => h.up (.resumeDown hr hrest)
  · intro id nodes base entry r frameId index before rest hr hid e w
    rw [Engine.runBlock, hr]
    simp only [hid]
    exact Ensures.throw
  · intro id nodes base entry r other tail hother hr e w
    rw [Engine.runBlock_not_block hother hr]
    exact Ensures.throw
  -- `blockFrom`: the node's failure ends the block, or goes on to an error branch.
  · intro id nodes base index previous nested hnone e w
    rw [Engine.blockFrom_past hnone]
    exact Ensures.pure (Sourced.of_ne fun _ h => by cases h)
  · intro id nodes base index previous nested node hnode path ihNode ihDone ihAbsorb e w
    rw [Engine.blockFrom]
    split
    · rename_i h
      rw [hnode] at h
      cases h
    rename_i node' h
    rw [hnode] at h
    cases h
    refine Ensures.bind (Ensures.lift fun cancelled w₁ _ => ?_)
    refine Ensures.ite (fun _ => ?_) (fun _ => ?_)
    · exact Ensures.bind (Ensures.lift fun _ _ _ => Ensures.pure (Sourced.of_ne fun _ h => by cases h))
    refine Ensures.next ((ihNode e w₁).and (Ensures.self _ e w₁)) fun o e₁ w₂ h₁ => ?_
    obtain ⟨ht, hexec⟩ := h₁
    split
    · -- the block goes on with the node's output
      rename_i output
      refine (ihDone _ e₁ w₂).mono fun o _ _ h => ?_
      cases output <;> exact h.up (.next hnode ⟨id, e, w₁, e₁, w₂, hexec⟩)
    · exact Ensures.pure (Sourced.of_ne fun _ h => by cases h)
    · rename_i failure
      refine Ensures.ite (fun habsorbs => ?_) (fun _ => Ensures.pure (ht.up (.run hnode)))
      exact Ensures.bind (Ensures.lift fun _ w₃ _ =>
        (ihAbsorb _ e₁ w₃).mono fun o _ _ h => h.up (.absorb failure habsorbs))
    · exact Ensures.pure (Sourced.of_ne fun _ h => by cases h)
  -- `runNode`: a step never fails through an unhandled edge; a branch without
  -- an arm for its edge raises one.
  · intro id index path previous resuming stepId h e w
    rw [Engine.runNode, if_pos h]
    exact Ensures.throw
  · intro id index path previous resuming stepId h e w
    rw [Engine.runNode, if_neg h]
    exact (runStep_not_unhandled eng id _ path previous e w).mono fun o _ _ h f hf hc =>
      absurd hc (h f hf)
  · intro id index path previous resuming stepId params h e w
    rw [Engine.runNode, if_pos h]
    exact Ensures.throw
  · intro id index path previous resuming stepId params h e w
    rw [Engine.runNode, if_neg h]
    exact (runStep_not_unhandled eng id _ path previous e w).mono fun o _ _ h f hf hc =>
      absurd hc (h f hf)
  · intro id index path previous resuming children ih e w
    rw [Engine.runNode]
    exact (ih e w).mono fun o _ _ h => h.up .sequence
  · intro id index path previous resuming parts ih e w
    rw [Engine.runNode]
    exact ih previous e w
  · intro id index path previous resuming arms edge arm target hfound ih e w
    rw [Engine.runNode_branch_found rfl hfound]
    exact (ih e w).mono fun o _ _ h => h.up (.arm rfl hfound)
  · intro id index path previous resuming arms edge hnone e w
    rw [Engine.runNode_branch_none rfl hnone]
    exact Ensures.bind (Ensures.lift fun _ _ _ => Ensures.pure (Sourced.of_raises (.branch id hnone)))
  -- `runLoop`: a loop raises only what its rounds do.
  · intro parentId index path resume previous e w
    rw [Engine.runLoop]
    exact Ensures.pure (Sourced.of_code fun h => by cases h)
  · intro parentId index path controller actions r hr previous e w
    rw [Engine.runLoop, hr]
    exact Ensures.throw
  · intro parentId index path controller actions controllerBase actionsBase r loopId iteration output
      phase rest hr ih previous e w
    rw [Engine.runLoop, hr]
    refine Ensures.next (ih e w) fun o e₁ _ h₁ => ?_
    exact Ensures.next (finished loopId o e₁ _) fun _ _ _ _ => Ensures.pure (h₁.up (.resumeLoop hr))
  · intro parentId index path controller actions r other tail hother hr previous e w
    rw [Engine.runLoop_not_loop hother hr]
    exact Ensures.throw
  · intro parentId index path controller actions controllerBase actionsBase ih previous e w
    rw [Engine.runLoop]
    refine Ensures.bind (Ensures.get ?_)
    split
    · rename_i failure hdepth
      exact Ensures.pure (Sourced.of_code fun h => by rw [depthExceeded_code eng hdepth] at h; cases h)
    refine Ensures.bind (Ensures.get ?_)
    refine Ensures.next ((openInstance_spec eng _ _ _ _ e w).mono fun _ _ _ _ => trivial)
      fun _ e₁ _ _ => ?_
    refine Ensures.next (ih e e₁ _) fun o e₂ _ h₂ => ?_
    exact Ensures.next (finished _ o e₂ _) fun _ _ _ _ => Ensures.pure (h₂.up .loop)
  -- `loopRound`: what the controller's block ends with is the decision.
  · intro loopId controller actions controllerBase actionsBase path iteration controllerOutput
      pending ihFollow ihCtrl e w
    rw [Engine.loopRound]
    refine Ensures.bind (Ensures.lift fun cancelled w₁ _ => ?_)
    dsimp only
    refine Ensures.ite (fun _ => ?_) (fun _ => Ensures.ite (fun _ => ?_) (fun _ => ?_))
    · exact ihFollow _ controllerOutput (fun _ h => by cases h) e w₁
    · exact Ensures.bind (Ensures.lift fun _ w₂ _ => ihFollow _ controllerOutput (fun o h => by
        cases h
        exact Sourced.of_ne fun _ h => by cases h) e w₂)
    · refine Ensures.next (ihCtrl e w₁) fun o e₁ w₂ h₁ => ?_
      split
      · exact ihFollow _ controllerOutput (fun _ h => by cases h) e₁ w₂
      · exact ihFollow _ controllerOutput (fun o h => by
          cases h
          exact Sourced.of_ne fun _ h => by cases h) e₁ w₂
      · exact ihFollow _ controllerOutput (fun o h => by
          cases h
          exact h₁.up .controller) e₁ w₂
  -- `loopFollow`: the loop goes on in rounds reached from the one that decided.
  · intro loopId controller actions controllerBase actionsBase path iteration pending outcome
      controllerOutput₀ hd e w
    rw [Engine.loopFollow]
    exact Ensures.pure (hd outcome rfl)
  · intro loopId controller actions controllerBase actionsBase path iteration pending
      controllerOutput edge hcont hlimit controllerOutput₀ _ e w
    rw [Engine.loopFollow, if_pos hcont, dif_pos hlimit]
    exact Ensures.pure (Sourced.of_code fun h => by cases h)
  · intro loopId controller actions controllerBase actionsBase path iteration pending
      controllerOutput edge hcont hlimit hempty ih controllerOutput₀ _ e w
    rw [Engine.loopFollow, if_pos hcont, dif_neg hlimit]
    dsimp only
    rw [if_pos hempty]
    exact (ih e w).mono fun o _ _ h => (h.up .again).up (.decides _)
  · intro loopId controller actions controllerBase actionsBase path iteration pending
      controllerOutput edge hcont hlimit hempty ihNext ihChild controllerOutput₀ _ e w
    rw [Engine.loopFollow, if_pos hcont, dif_neg hlimit]
    dsimp only
    rw [if_neg hempty]
    have hcont' : (controllerOutput.map StepOutput.edge).getD "" = "continue" := by simpa using hcont
    refine Ensures.bind (Ensures.lift fun _ _ _ => ?_)
    refine Ensures.next (ihChild e _) fun o e₁ w₁ h₁ => ?_
    split
    · exact (ihNext e₁ w₁).mono fun o _ _ h => (h.up .again).up (.decides _)
    · exact Ensures.pure (Sourced.of_ne fun _ h => by cases h)
    · exact Ensures.pure ((h₁.up (.actions hcont')).up (.decides _))
  · intro loopId controller actions controllerBase actionsBase path iteration pending
      controllerOutput edge hcont hexit controllerOutput₀ _ e w
    rw [Engine.loopFollow, if_neg hcont, if_pos hexit]
    exact Ensures.pure (Sourced.of_ne fun _ h => by cases h)
  · intro loopId controller actions controllerBase actionsBase path iteration pending
      controllerOutput edge hcont hexit controllerOutput₀ _ e w
    rw [Engine.loopFollow, if_neg hcont, if_neg hexit]
    have hraise := @WalkCall.Raises.controller controller actions controllerBase actionsBase path
      iteration pending _ loopId (by simpa using hcont) (by simpa using hexit)
    exact Ensures.bind (Ensures.lift fun _ _ _ =>
      Ensures.pure ((Sourced.of_raises hraise).up (.decides _)))
  -- `runChild`: the child's block is the call itself.
  · intro parentId candidate branchType iteration nodes base entry r hr e w
    rw [Engine.runChild, hr]
    exact Ensures.throw
  · intro parentId candidate branchType iteration nodes base entry r frame tail hr ih e w
    rw [Engine.runChild, hr]
    refine Ensures.next (ih e w) fun o e₁ _ h₁ => ?_
    exact Ensures.next (finished _ o e₁ _) fun _ _ _ _ => Ensures.pure h₁
  · intro parentId candidate branchType iteration nodes base entry ih e w
    rw [Engine.runChild]
    refine Ensures.bind (Ensures.get ?_)
    split
    · rename_i failure hdepth
      exact Ensures.pure (Sourced.of_code fun h => by rw [depthExceeded_code eng hdepth] at h; cases h)
    refine Ensures.bind (Ensures.get ?_)
    refine Ensures.next ((openInstance_spec eng _ _ _ _ e w).mono fun _ _ _ _ => trivial)
      fun _ e₁ _ _ => ?_
    refine Ensures.next (ih e e₁ _) fun o e₂ _ h₂ => ?_
    exact Ensures.next (finished _ o e₂ _) fun _ _ _ _ => Ensures.pure h₂

variable {eng}

/-- A run's failure through an unhandled edge was raised at a call the walk
of the definition's nodes reaches. -/
theorem run_raises (d : FlowDefinition) (init : Value) (w : World) :
    Run.Ensures (eng.run d init) w fun R _ => ∀ f, R.status = .failed → R.error = some f →
      f.code = .unhandledEdge →
        ∃ c, Relation.ReflTransGen (Calls eng) (.block d.nodes "" none none) c ∧ c.Raises f := by
  unfold run
  refine Run.Ensures.next (start_grown eng d init w) fun e w₁ hg => ?_
  refine (drive_reports_outcome eng eng.runStep (runStep_grows eng) d hg (fun _ h => by cases h)
    w₁).mono fun R _ h f hs he hc => ?_
  obtain ⟨o, e₁, w₂, hexec, hiff⟩ := h
  exact (walk_raises eng).1 e.rootId d.nodes "" none none e w₁ o e₁ w₂ hexec f ((hiff f).1 ⟨hs, he⟩) hc

/-- A resume's failure through an unhandled edge was raised at a call the
walk along the claimed ticket's cursor reaches. -/
theorem resume_raises (pauseId : String) (value : Value) {w : World}
    {slots : List (String × Option PausedExecution)} (hstore : w.store = .memory slots)
    (hall : ∀ k p, (k, some p) ∈ slots → p.Honest) :
    Run.Ensures (eng.resume pauseId value) w fun R _ => ∃ p, (pauseId, some p) ∈ slots ∧
      ∀ f, R.status = .failed → R.error = some f → f.code = .unhandledEdge →
        ∃ c, Relation.ReflTransGen (Calls eng)
          (.block p.definition.nodes "" none (some ⟨p.cursor.frames, StepOutput.make p.resumeEdge value⟩))
          c ∧ c.Raises f := by
  unfold resume
  refine Run.Ensures.next (Run.claimTicket_memory hstore pauseId) fun p w₁ ⟨hk, _⟩ => ?_
  obtain ⟨hg, hdesc⟩ := hall pauseId p hk
  refine Run.Ensures.after fun _ _ => ?_
  refine Run.Ensures.next (Run.Ensures.forIn _ _ (fun e => p.execution.Grows e) ?_ (.refl _))
    fun e w₂ hge => ?_
  · intro id e' w' hge'
    exact Run.Ensures.after fun _ _ =>
      Run.Ensures.pure (hge'.trans (.of_modify _ id fun _ => ⟨rfl, rfl, rfl⟩))
  refine (drive_reports_outcome eng eng.runStep (runStep_grows eng) _ (hg.grows hge)
    (fun r h => by cases h; exact hdesc.grows hge) w₂).mono fun R _ h => ⟨p, hk, fun f hs he hc => ?_⟩
  obtain ⟨o, e₁, w₃, hexec, hiff⟩ := h
  exact (walk_raises eng).1 e.rootId _ "" none _ e w₂ o e₁ w₃ hexec f ((hiff f).1 ⟨hs, he⟩) hc

end Engine

/-! ## What validation foresees of a failure -/

/-- What validation's report foresees of a failure through an unhandled
edge, on a walk from `root`: a branch validation walks raised it, for an edge
none of its arms takes, and the branch's entry is unknown or the report warns
of the branch or of the edge; or a loop's controller gave an edge other than
`continue` and `exit`. -/
def ValidationReport.ForeseesFailure (report : ValidationReport) (reg : Registry) (root : Block)
    (f : Failure) : Prop :=
  (∃ arms path E edge, f = (FlowError.unhandledEdge edge).toFailure (some path) f.instanceId ∧
    root.Places reg (.branch arms) path E ∧ arms.find? (·.1 == edge) = none ∧
    (E = .unknown ∨ .branchWithoutSource path ∈ report.warnings ∨
      ∃ source, .uncoveredEdge path source edge ∈ report.warnings)) ∨
  ∃ parts path E edge,
    f = (FlowError.unhandledEdge edge).toFailure (some s!"{path}.controller") f.instanceId ∧
    root.Places reg (.loop parts) path E ∧ edge ≠ "continue" ∧ edge ≠ "exit"

/-- On the walk of a valid definition's nodes, fresh or along a cursor
admitted from their start, validation foresees every failure through an
unhandled edge a reached call raises. -/
theorem WalkCall.Raises.foreseen {eng : Engine} {reg : Registry} {d : FlowDefinition}
    {config : EngineConfig} (hvalid : (Logged.collect (validateFlow d reg config)).1.valid = true)
    (heng : eng.registry = reg) (hsize : sizeOf d.nodes < Nat.pow 2 64) {resume : Option Resume}
    (hres : ∀ r, resume = some r → Frame.Admitted reg r.value.edge ⟨d.nodes, "", .start⟩ r.frames)
    {c : WalkCall} (h : Relation.ReflTransGen (Engine.Calls eng) (.block d.nodes "" none resume) c)
    {f : Failure} (hraise : c.Raises f) :
    (Logged.collect (validateFlow d reg config)).1.ForeseesFailure reg ⟨d.nodes, "", .start⟩ f := by
  cases hraise with
  | branch id hnone =>
    obtain ⟨E, hplace, -, hwarn⟩ := Engine.calls_foreseen hvalid heng hsize hres h
    exact .inl ⟨_, _, E, _, rfl, hplace, hnone, hwarn hnone⟩
  | controller loopId hcont hexit =>
    -- the controller's block sits under the loop validation walks
    obtain ⟨E, hplace, hcb, -, -⟩ := Engine.Calls.placed_of_root heng hsize hres h
    subst hcb
    exact .inr ⟨_, _, E, _, rfl, hplace, hcont, hexit⟩

/-- The calls the walk of `d` starts with in world `w`: fresh, or along the
cursor of one of `d`'s tickets in the store, resumed with any value. -/
def World.WalkRoot (w : World) (d : FlowDefinition) (resume : Option Resume) : Prop :=
  resume = none ∨ ∃ slots k p value, w.store = .memory slots ∧ (k, some p) ∈ slots ∧
    p.definition = d ∧ resume = some ⟨p.cursor.frames, StepOutput.make p.resumeEdge value⟩

/-- In the worlds sessions of one registry lead to from admitted tickets, the
walk of a definition starts from its start or along an admitted cursor. -/
theorem World.WalkRoot.admitted {reg : Registry} {w₀ w : World} (h₀ : w₀.Resumable)
    (ha₀ : w₀.AdmitsResumes reg) (hreach : w₀.ReachesWith reg w) {d : FlowDefinition}
    (hsize : sizeOf d.nodes < Nat.pow 2 64) {resume : Option Resume} (h : w.WalkRoot d resume) :
    ∀ r, resume = some r → Frame.Admitted reg r.value.edge ⟨d.nodes, "", .start⟩ r.frames := by
  rcases h with rfl | ⟨slots, k, p, value, hstore, hk, rfl, rfl⟩
  · exact fun _ h => by cases h
  · intro r h
    cases h
    -- the ticket's cursor is admitted from the definition's start
    obtain ⟨slots', hstore', hall⟩ := hreach.admits h₀ ha₀
    rw [hstore] at hstore'
    cases hstore'
    exact hall k p hk hsize

/-- In every world that runs and resumes by engines with registry `reg` lead
to from one whose store is in memory and holds only tickets a resume can
follow and that are admitted (a fresh world, say), on the walk of a definition
valid for `reg`, fresh or along the cursor of one of its tickets:

* every branch called is handed an output its entry admits, or a failure it
  takes, and when no arm takes the output's edge, the entry is unknown or the
  report warns of the branch or of that edge;
* every failure through an unhandled edge that a node called ends with,
  whether a later error branch takes it or not, was raised where validation
  foresees it: at such a branch, or by a loop's controller;
* a run, or a resume of one of its tickets, that reports such a failure
  raised it there. -/
theorem valid_definitions_foresee_branch_edges (reg : Registry) (w₀ w : World)
    (h₀ : w₀.Resumable) (ha₀ : w₀.AdmitsResumes reg) (hreach : w₀.ReachesWith reg w)
    (eng : Engine) (heng : eng.registry = reg) (d : FlowDefinition) (config : EngineConfig)
    (hvalid : (Logged.collect (validateFlow d reg config)).1.valid = true)
    (hsize : sizeOf d.nodes < Nat.pow 2 64) :
    (∀ resume, w.WalkRoot d resume → ∀ arms path previous resuming,
      Relation.ReflTransGen (Engine.Calls eng) (.block d.nodes "" none resume)
        (.node (.branch arms) path previous resuming) →
      (Logged.collect (validateFlow d reg config)).1.Foresees reg ⟨d.nodes, "", .start⟩ arms path
        previous) ∧
    (∀ resume, w.WalkRoot d resume → ∀ node path previous resuming,
      Relation.ReflTransGen (Engine.Calls eng) (.block d.nodes "" none resume)
        (.node node path previous resuming) →
      ∀ id index e w', Ensures (eng.runNode eng.runStep id node index path previous resuming) e w'
        fun o _ _ => ∀ f, o = .failed f → f.code = .unhandledEdge →
          (Logged.collect (validateFlow d reg config)).1.ForeseesFailure reg ⟨d.nodes, "", .start⟩ f) ∧
    (∀ init, Run.Ensures (eng.run d init) w fun R _ => ∀ f, R.status = .failed → R.error = some f →
      f.code = .unhandledEdge →
        (Logged.collect (validateFlow d reg config)).1.ForeseesFailure reg ⟨d.nodes, "", .start⟩ f) ∧
    (∀ pauseId value, (∀ slots p, w.store = .memory slots → (pauseId, some p) ∈ slots →
        p.definition = d) →
      Run.Ensures (eng.resume pauseId value) w fun R _ => ∀ f, R.status = .failed →
        R.error = some f → f.code = .unhandledEdge →
          (Logged.collect (validateFlow d reg config)).1.ForeseesFailure reg ⟨d.nodes, "", .start⟩ f) := by
  have hadmitted := fun resume (h : w.WalkRoot d resume) => h.admitted h₀ ha₀ hreach hsize
  refine ⟨fun resume hroot arms path previous resuming h =>
      Engine.calls_foreseen hvalid heng hsize (hadmitted resume hroot) h,
    fun resume hroot node path previous resuming h id index e w' =>
      ((Engine.walk_raises eng).2.2.1 id node index path previous resuming e w').mono
        fun o _ _ ht f hf hc => ?_,
    fun init => (Engine.run_raises d init w).mono fun R _ h f hs he hc => ?_,
    fun pauseId value hdef => ?_⟩
  · obtain ⟨c, hc', hraise⟩ := ht f hf hc
    exact hraise.foreseen hvalid heng hsize (hadmitted resume hroot) (h.trans hc')
  · obtain ⟨c, hc', hraise⟩ := h f hs he hc
    exact hraise.foreseen hvalid heng hsize (fun _ h => by cases h) hc'
  · -- the ticket a resume claims is one of the definition's, admitted
    obtain ⟨slots, hstore, hall⟩ := (hreach.reaches.resumable h₀).honest
    refine (Engine.resume_raises pauseId value hstore hall).mono fun R _ h f hs he hc => ?_
    obtain ⟨p, hk, hp⟩ := h
    obtain ⟨c, hc', hraise⟩ := hp f hs he hc
    have hp_def := hdef slots p hstore hk
    have hroot : w.WalkRoot d (some ⟨p.cursor.frames, StepOutput.make p.resumeEdge value⟩) :=
      .inr ⟨slots, pauseId, p, value, hstore, hk, hp_def, rfl⟩
    rw [hp_def] at hc'
    exact hraise.foreseen hvalid heng hsize (hadmitted _ hroot) hc'

/-- A definition that opens with a branch, of one arm. -/
def openingBranchFlow : FlowDefinition := ⟨"flow", [.branch [("a", .sequence [])]], none⟩

/-- A fresh world starts such sessions; the definition that opens with a
branch validates, with a warning that nothing comes before the branch; its
run fails there, the branch having no arm for the empty edge, and validation
foresaw the failure. -/
theorem opening_branch_failure_foreseen :
    ({} : World).Resumable ∧ ({} : World).AdmitsResumes {} ∧
      (Logged.collect (validateFlow openingBranchFlow {} {})).1.valid = true ∧
      ∃ R w f, (({ registry := {} } : Engine).run openingBranchFlow .null).run.run {} = (.ok R, w) ∧
        R.status = .failed ∧ R.error = some f ∧ f.code = .unhandledEdge ∧
        (Logged.collect (validateFlow openingBranchFlow {} {})).1.ForeseesFailure {}
          ⟨openingBranchFlow.nodes, "", .start⟩ f := by
  have h₀ : ({} : World).Resumable := ⟨[], rfl, fun _ _ h => absurd h List.not_mem_nil⟩
  have ha₀ : ({} : World).AdmitsResumes {} := ⟨[], rfl, fun _ _ h => absurd h List.not_mem_nil⟩
  have hsize : sizeOf openingBranchFlow.nodes < Nat.pow 2 64 := by decide
  have hvalid : (Logged.collect (validateFlow openingBranchFlow {} {})).1.valid = true := by
    decide +kernel
  -- the walk stops at the branch, so unfolding each function once runs it
  obtain ⟨R, w, hR, hfacts⟩ := Run.exists_ok_of_any
    (x := (({ registry := {} } : Engine).run openingBranchFlow .null).run.run {})
    (p := fun (R : ExecutionReport) _ => decide (R.status = .failed) &&
      R.error.any fun (f : Failure) => decide (f.code = .unhandledEdge)) (by
    unfold Engine.run Engine.drive Engine.runBlock Engine.blockFrom Engine.runNode
    decide +kernel)
  simp only [Bool.and_eq_true, decide_eq_true_eq] at hfacts
  obtain ⟨hs, hany⟩ := hfacts
  obtain ⟨f, he, hc⟩ := (Option.any_eq_true _ _).1 hany
  rw [decide_eq_true_eq] at hc
  exact ⟨h₀, ha₀, hvalid, R, w, f, hR, hs, he, hc,
    (valid_definitions_foresee_branch_edges {} {} {} h₀ ha₀ .refl { registry := {} } rfl
      openingBranchFlow {} hvalid hsize).2.2.1 .null R w hR f hs he hc⟩

end Flowline
