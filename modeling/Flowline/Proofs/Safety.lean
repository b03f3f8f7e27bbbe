import Flowline.Proofs.Soundness
set_option autoImplicit false

/-!
# What a valid definition can fail with

A run fails for one of two kinds of reason. Either the definition does not
fit the engine: a step does not resolve, or its parameters do not, a loop
has no controller, an instance would nest deeper than the limit. Or the run
itself goes wrong: a step times out, returns an error or exits through an
edge it does not declare, a branch or a loop controller gets an edge it has
no arm for, a loop runs past its iteration limit, the run is cancelled. The
second kind is `FlowError.Allowed`.

Each function of the walk, run on nodes that fit where they stand
(`FlowNode.Fits`), from an execution whose failures are all allowed, keeps
them so and ends with an allowed failure, if any (`Engine.walk_safe`). The
depth the nodes fit at bounds the depth of the instance they run in, which
is what the engine's depth checks read.

Validation establishes the fit, except for empty sub-flows
(`validateFlow_fits`). So a run of a definition that validates, whose empty
sub-flows lie within the depth limit, and a resume of a ticket of such a
definition, report only allowed failures (`Engine.run_safe`,
`Engine.resume_safe`). Without the condition on empty sub-flows this is
false: a definition whose only node is an empty sub-flow validates with a
depth limit of 0 and fails for its depth (`Engine.emptySubFlow_fails_too_deep`).
-/

namespace Flowline

/-! ## Allowed failures -/

/-- The errors a run of nodes that fit can still end with. -/
inductive FlowError.Allowed : FlowError → Prop where
  | timeout (step : String) (ms : Nat) : Allowed (.executionTimeout step ms)
  | stepFailure (step : String) (se : StepError) : Allowed (Engine.stepFailure step se)
  | undeclaredEdge (step edge : String) : Allowed (.undeclaredEdge step edge)
  | unhandledEdge (edge : String) : Allowed (.unhandledEdge edge)
  | iterationLimit (limit : Nat) : Allowed (.iterationLimitExceeded limit)
  | cancelled : Allowed .cancelled

/-- A stored failure made from an allowed error. -/
def Failure.Allowed (f : Failure) : Prop :=
  ∃ (err : FlowError) (node inst : Option String), err.Allowed ∧ f = err.toFailure node inst

theorem FlowError.Allowed.toFailure {err : FlowError} (h : err.Allowed)
    (node inst : Option String) : (err.toFailure node inst).Allowed :=
  ⟨err, node, inst, h, rfl⟩

/-- An allowed failure never says that a step or its parameters did not
resolve or that the structure is wrong, and one about parameters is a step
rejecting its input. -/
theorem Failure.Allowed.code {f : Failure} (h : f.Allowed) :
    f.code ≠ .unknownStep ∧ f.code ≠ .ambiguousAlias ∧ f.code ≠ .missingRequiredInput ∧
      f.code ≠ .invalidStructure ∧
      (f.code = .invalidParams → ∃ step name message,
        f.message = (Engine.stepFailure step (.invalidInput name message)).message) := by
  obtain ⟨err, node, inst, herr, rfl⟩ := h
  cases herr with
  | stepFailure step se =>
    cases se with
    | invalidInput name message =>
      refine ⟨nofun, nofun, nofun, nofun, fun _ => ⟨step, name, message, rfl⟩⟩
    | failed message =>
      refine ⟨nofun, nofun, nofun, nofun, nofun⟩
  | _ => exact ⟨nofun, nofun, nofun, nofun, nofun⟩

/-- What a resolved step can end with is allowed. -/
theorem StepDefinition.Fault.allowed {step : StepDefinition} {err : FlowError}
    (h : step.Fault err) : err.Allowed := by
  rcases h with ⟨l, rfl⟩ | ⟨se, rfl⟩ | ⟨edge, rfl⟩
  · exact .timeout _ l
  · exact .stepFailure _ se
  · exact .undeclaredEdge _ edge

/-- An outcome that, if it is a failure, fails with an allowed one. -/
def Outcome.Allowed (o : Outcome) : Prop :=
  ∀ f, o = .failed f → f.Allowed

theorem Outcome.allowed_done (output : Option StepOutput) : (Outcome.done output).Allowed :=
  fun _ h => by cases h

theorem Outcome.allowed_suspended (frames : List Frame) (pause : PendingPause) :
    (Outcome.suspended frames pause).Allowed :=
  fun _ h => by cases h

theorem Outcome.allowed_cancelled : Outcome.cancelled.Allowed :=
  fun _ h => by cases h

/-- The failure an allowed outcome leaves its instance with is allowed. -/
theorem Outcome.Allowed.final {o : Outcome} (h : o.Allowed) {id : String}
    {status : InstanceStatus} {result : Option Value} {error : Option Failure}
    (hfinal : o.final id = some (status, result, error)) : ∀ f, error = some f → f.Allowed := by
  intro f hf
  subst hf
  cases o with
  | failed f' =>
    simp only [Outcome.final, Option.some.injEq, Prod.mk.injEq] at hfinal
    obtain ⟨-, -, rfl⟩ := hfinal
    exact h f' rfl
  | cancelled =>
    simp only [Outcome.final, Option.some.injEq, Prod.mk.injEq] at hfinal
    obtain ⟨-, -, rfl⟩ := hfinal
    exact FlowError.Allowed.cancelled.toFailure _ _
  | done output => simp [Outcome.final] at hfinal
  | suspended => simp [Outcome.final] at hfinal

/-! ## Executions whose failures are allowed -/

/-- Every failure an instance holds, its own and its step records', is
allowed. -/
def FlowInstance.FailuresAllowed (i : FlowInstance) : Prop :=
  (∀ f, i.error = some f → f.Allowed) ∧ ∀ r ∈ i.steps, ∀ f, r.error = some f → f.Allowed

/-- Every failure an execution holds is allowed. -/
def Execution.FailuresAllowed (e : Execution) : Prop :=
  ∀ i ∈ e.instances, i.FailuresAllowed

namespace Execution.FailuresAllowed

variable {e : Execution}

/-- A change to one instance that keeps its failures allowed. -/
theorem modify (h : e.FailuresAllowed) (id : String) {g : FlowInstance → FlowInstance}
    (hg : ∀ i, i.FailuresAllowed → (g i).FailuresAllowed) : (e.modify id g).FailuresAllowed := by
  intro j hj
  rcases mem_modify hj with hold | ⟨i, hi, rfl⟩
  · exact h j hold
  · exact hg i (h i hi)

/-- Writing states leaves failures alone. -/
theorem edits (h : e.FailuresAllowed) {e' : Execution} (he : e.Edits e') : e'.FailuresAllowed := by
  induction he with
  | refl => exact h
  | state id v _ ih => exact ih.modify id fun _ hi => hi

/-- A new instance holds no failure. -/
theorem spawn (h : e.FailuresAllowed) {e' : Execution} {parentId id : String}
    {branchType : BranchType} {iteration : Option Nat} {now : Timestamp} {child : FlowInstance}
    (hs : e.spawn parentId id branchType iteration now = .ok child e') : e'.FailuresAllowed := by
  obtain ⟨_, _, _, rfl, rfl⟩ := spawn_eq_ok hs
  intro i hi
  rcases List.mem_append.1 hi with hi | hi
  · exact h i hi
  · simp only [List.mem_singleton] at hi
    subst hi
    exact ⟨fun _ hf => by simp at hf, fun _ hr => by simp at hr⟩

/-- A record with an allowed failure, if any. -/
theorem record (h : e.FailuresAllowed) (id : String) {r : StepRecord}
    (hr : ∀ f, r.error = some f → f.Allowed) : (e.record id r).FailuresAllowed := by
  refine h.modify id fun i hi => ⟨hi.1, fun r' hr' => ?_⟩
  rcases List.mem_append.1 hr' with hr' | hr'
  · exact hi.2 r' hr'
  · simp only [List.mem_singleton] at hr'
    subst hr'
    exact hr

/-- Ending an instance with an allowed failure, if any. -/
theorem finish (h : e.FailuresAllowed) (id : String) (status : InstanceStatus)
    (result : Option Value) {error : Option Failure} (herr : ∀ f, error = some f → f.Allowed)
    (t : Timestamp) : (e.finish id status result error t).FailuresAllowed :=
  h.modify id fun _ hi => ⟨herr, hi.2⟩

/-- Changing statuses leaves failures alone. -/
theorem foldl_status (h : e.FailuresAllowed) (status : InstanceStatus) (ids : List String) :
    (ids.foldl (fun e id => e.modify id fun i => { i with status := status }) e).FailuresAllowed := by
  induction ids generalizing e with
  | nil => exact h
  | cons id rest ih => exact ih (h.modify id fun _ hi => hi)

end Execution.FailuresAllowed

/-! ## Depth -/

/-- Instance `id` is there, at most `D` levels below the root. -/
def Execution.DepthAtMost (e : Execution) (id : String) (D : Nat) : Prop :=
  ∃ X, e.get? id = some X ∧ X.depth ≤ D

namespace Execution.DepthAtMost

variable {e : Execution} {x : String} {D : Nat}

theorem grows (h : e.DepthAtMost x D) {e' : Execution} (hg : e.Grows e') : e'.DepthAtMost x D := by
  obtain ⟨X, hX, hd⟩ := h
  obtain ⟨X', hX', -, hd'⟩ := hg.get?_some hX
  exact ⟨X', hX', by omega⟩

/-- A child lies one level below its parent. -/
theorem child (hl : e.Linked) (h : e.DepthAtMost x D) {y : String} (hc : e.IsChild y x) :
    e.DepthAtMost y (D + 1) := by
  obtain ⟨X, hX, hd⟩ := h
  obtain ⟨Y, hY, hp⟩ := hc
  obtain ⟨P, hP, hdepth⟩ := hl.parent Y (mem_of_get? hY).1 x hp
  rw [hX] at hP
  cases hP
  exact ⟨Y, hY, by omega⟩

/-- A spawned instance lies one level below its parent. -/
theorem spawn (h : e.DepthAtMost x D) {e' : Execution} {id : String} {branchType : BranchType}
    {iteration : Option Nat} {now : Timestamp} {child : FlowInstance}
    (hs : e.spawn x id branchType iteration now = .ok child e') : e'.DepthAtMost id (D + 1) := by
  obtain ⟨X, hX, hd⟩ := h
  obtain ⟨P, hP, _, rfl, rfl⟩ := spawn_eq_ok hs
  rw [hX] at hP
  cases hP
  exact ⟨_, by rw [get?_push, if_pos rfl], by simp only; omega⟩

end Execution.DepthAtMost

/-- A child of an instance within the limit's reach is not too deep. -/
theorem Engine.depthExceeded_eq_none (eng : Engine) {e : Execution} {parentId : String} {D : Nat}
    (h : e.DepthAtMost parentId D) (hlimit : D + 1 ≤ eng.config.maxDepth) (path : String) :
    eng.depthExceeded e parentId path = none := by
  obtain ⟨X, hX, hd⟩ := h
  unfold Engine.depthExceeded
  simp only [hX, Option.map_some, Option.getD_some]
  rw [if_neg (by omega)]

/-- An allowed error makes an allowed failure of its node. -/
theorem Outcome.allowed_failed {err : FlowError} (h : err.Allowed) (node inst : Option String) :
    (Outcome.failed (err.toFailure node inst)).Allowed := by
  intro f hf
  cases hf
  exact h.toFailure node inst

/-- A new execution holds no failure. -/
theorem Execution.failuresAllowed_create (rootId : String) (seed : Value) (now : Timestamp) :
    (Execution.create rootId seed now).FailuresAllowed := by
  intro i hi
  simp only [Execution.create, Execution.ofInstances_instances, List.mem_singleton] at hi
  subst hi
  exact ⟨fun _ hf => by simp at hf, fun _ hr => by simp at hr⟩

/-! ## The walk's primitives keep failures allowed -/

/-- A step runner that keeps the failures of an execution allowed, and fails
with an allowed failure on a node whose step resolves. -/
def StepRunner.Safe (registry : Registry) (step : StepRunner) : Prop :=
  ∀ id node path previous e w, (∃ r, registry.resolveNode node = .ok r) → e.FailuresAllowed →
    Ensures (step id node path previous) e w fun o e' _ => e'.FailuresAllowed ∧ o.Allowed

namespace Engine

variable (eng : Engine)

/-- The engine's steps, once resolved, fail only as a step can. -/
theorem runStep_safe : StepRunner.Safe eng.registry eng.runStep := by
  intro id node path previous e w ⟨_, hres⟩ hfa
  refine (eng.runStep_spec id node path previous e w).mono fun o e' _ h => ?_
  obtain ⟨e₁, r, hedits, -, rfl, -, -, hend⟩ := h
  have hfa₁ := hfa.edits hedits
  cases hend with
  | unresolved hres' =>
    rw [hres] at hres'
    cases hres'
  | failed _ hfault _ herr =>
    have hallowed := hfault.allowed
    refine ⟨hfa₁.record id fun f hf => ?_, Outcome.allowed_failed hallowed _ _⟩
    rw [herr] at hf
    cases hf
    exact hallowed.toFailure _ _
  | exited _ _ herr _ =>
    exact ⟨hfa₁.record id (fun f hf => by rw [herr] at hf; cases hf), Outcome.allowed_done _⟩
  | suspended _ _ herr _ =>
    exact ⟨hfa₁.record id (fun f hf => by rw [herr] at hf; cases hf), Outcome.allowed_suspended _ _⟩

variable {eng}

/-- Ending an instance with an allowed outcome. -/
theorem finishInstance_allowed {id : String} {o : Outcome} {e : Execution} {w : World}
    (hfa : e.FailuresAllowed) (ho : o.Allowed) :
    Ensures (eng.finishInstance id o) e w fun _ e' _ => e'.FailuresAllowed := by
  refine (finishInstance_spec eng id o e w).mono fun _ e' _ h => ?_
  split at h
  · rw [h]
    exact hfa
  · rename_i status result error hfinal
    obtain ⟨t, rfl⟩ := h
    exact hfa.finish id status result (ho.final hfinal) t

/-- Completing a paused record keeps its failure, which is allowed. -/
theorem completePausedStep_allowed {id : String} {output : StepOutput} {e : Execution} {w : World}
    (hfa : e.FailuresAllowed) :
    Ensures (eng.completePausedStep id output) e w fun _ e' _ => e'.FailuresAllowed := by
  refine (completePausedStep_spec eng id output e w).mono fun _ e' _ h => ?_
  obtain ⟨i, r, t, hi, hr, rfl⟩ := h
  have hr' : ∀ f, r.error = some f → f.Allowed :=
    (hfa i (Execution.mem_of_get? hi).1).2 r (List.mem_reverse.1 (List.mem_of_find?_eq_some hr))
  refine hfa.modify id fun j hj => ⟨hj.1, fun r' hmem => ?_⟩
  simp only [modifyLast, List.mem_reverse] at hmem
  rcases mem_modifyLast_go _ hmem with hold | ⟨_, -, rfl⟩
  · exact hj.2 r' (List.mem_reverse.1 hold)
  · exact hr'

/-- Opening an instance adds one without failures. -/
theorem openInstance_allowed {parentId id : String} {branchType : BranchType}
    {iteration : Option Nat} {e : Execution} {w : World} (hfa : e.FailuresAllowed) :
    Ensures (eng.openInstance parentId id branchType iteration) e w fun _ e' _ =>
      e'.FailuresAllowed ∧ ∃ t child, e.spawn parentId id branchType iteration t = .ok child e' :=
  (openInstance_spec eng parentId id branchType iteration e w).mono fun _ _ _ ⟨t, child, hs⟩ =>
    ⟨hfa.spawn hs, t, child, hs⟩

variable (eng) (step : StepRunner)

/-! ## What each walk function keeps

Each function of the walk, from a grown execution whose failures are
allowed, along a resume cursor that goes down as it expects, in an instance
at most `D` levels down, on nodes that fit at depth `D`, keeps the failures
allowed and ends with an allowed failure, if any. -/

/-- A block's walk. -/
abbrev BlockSafe (id : String) (nodes : List FlowNode) (base : String)
    (entry : Option StepOutput) (resume : Option Resume) : Prop :=
  ∀ D e w, e.Grown → (∀ r, resume = some r → Frame.Descends e r.frames) → e.FailuresAllowed →
    e.DepthAtMost id D → (∀ n ∈ nodes, n.Fits eng.registry eng.config.maxDepth D) →
    Ensures (eng.runBlock step id nodes base entry resume) e w fun o e' _ =>
      e'.FailuresAllowed ∧ o.Allowed

/-- A block's walk from a position on. -/
abbrev FromSafe (id : String) (nodes : List FlowNode) (base : String) (index : Nat)
    (previous : Option StepOutput) (nested : Option Resume) : Prop :=
  ∀ D e w, e.Grown → (∀ r, nested = some r → Frame.Below e id r.frames) → e.FailuresAllowed →
    e.DepthAtMost id D → (∀ n ∈ nodes, n.Fits eng.registry eng.config.maxDepth D) →
    Ensures (eng.blockFrom step id nodes base index previous nested) e w fun o e' _ =>
      e'.FailuresAllowed ∧ o.Allowed

/-- One node of a block. -/
abbrev NodeSafe (id : String) (node : FlowNode) (index : Nat) (path : String)
    (previous : Option StepOutput) (resuming : Option Resume) : Prop :=
  ∀ D e w, e.Grown → (∀ r, resuming = some r → Frame.Below e id r.frames) → e.FailuresAllowed →
    e.DepthAtMost id D → node.Fits eng.registry eng.config.maxDepth D →
    Ensures (eng.runNode step id node index path previous resuming) e w fun o e' _ =>
      e'.FailuresAllowed ∧ o.Allowed

/-- A loop node. -/
abbrev LoopSafe (parentId : String) (index : Nat) (path : String) (parts : List FlowNode)
    (resume : Option Resume) : Prop :=
  ∀ D e w, e.Grown → (∀ r, resume = some r → Frame.Below e parentId r.frames) →
    e.FailuresAllowed → e.DepthAtMost parentId D →
    (FlowNode.loop parts).Fits eng.registry eng.config.maxDepth D →
    Ensures (eng.runLoop step parentId index path parts resume) e w fun o e' _ =>
      e'.FailuresAllowed ∧ o.Allowed

/-- A loop's rounds, in the loop's instance at most `D` levels down. -/
abbrev RoundSafe (loopId : String) (controller : FlowNode) (actions : List FlowNode)
    (controllerBase actionsBase path : String) (iteration : Nat)
    (controllerOutput : Option StepOutput) (pending : Option (LoopPhase × Resume)) : Prop :=
  ∀ D e w, e.Grown → (∀ r, controllerResume? pending = some r → Frame.Descends e r.frames) →
    (∀ r, actionsResume? pending = some r → Frame.Below e loopId r.frames) →
    e.FailuresAllowed → e.DepthAtMost loopId D →
    controller.Fits eng.registry eng.config.maxDepth D →
    (actions ≠ [] → D + 1 ≤ eng.config.maxDepth) →
    (∀ a ∈ actions, a.Fits eng.registry eng.config.maxDepth (D + 1)) →
    Ensures (eng.loopRound step loopId controller actions controllerBase actionsBase path iteration
      controllerOutput pending) e w fun o e' _ => e'.FailuresAllowed ∧ o.Allowed

/-- What a loop does on its controller's decision. -/
abbrev FollowSafe (loopId : String) (controller : FlowNode) (actions : List FlowNode)
    (controllerBase actionsBase path : String) (iteration : Nat)
    (pending : Option (LoopPhase × Resume)) (decided : Sum Outcome (Option StepOutput)) : Prop :=
  ∀ D e w, e.Grown → (∀ r, actionsResume? pending = some r → Frame.Below e loopId r.frames) →
    (∀ o, decided = .inl o → o.Allowed) → e.FailuresAllowed → e.DepthAtMost loopId D →
    controller.Fits eng.registry eng.config.maxDepth D →
    (actions ≠ [] → D + 1 ≤ eng.config.maxDepth) →
    (∀ a ∈ actions, a.Fits eng.registry eng.config.maxDepth (D + 1)) →
    Ensures (eng.loopFollow step loopId controller actions controllerBase actionsBase path iteration
      pending decided) e w fun o e' _ => e'.FailuresAllowed ∧ o.Allowed

/-- A block in a child of an instance at most `D` levels down. -/
abbrev ChildSafe (parentId candidate : String) (branchType : BranchType)
    (iteration : Option Nat) (nodes : List FlowNode) (base : String) (entry : Option StepOutput)
    (resume : Option Resume) : Prop :=
  ∀ D e w, e.Grown → (∀ r, resume = some r → Frame.Below e parentId r.frames) →
    e.FailuresAllowed → e.DepthAtMost parentId D → D + 1 ≤ eng.config.maxDepth →
    (∀ n ∈ nodes, n.Fits eng.registry eng.config.maxDepth (D + 1)) →
    Ensures (eng.runChild step parentId candidate branchType iteration nodes base entry resume) e w
      fun o e' _ => e'.FailuresAllowed ∧ o.Allowed

/-- Every walk function on nodes that fit keeps failures allowed and fails
only with an allowed failure. -/
theorem walk_safe (hstep : StepRunner.Grows step) (hsafe : StepRunner.Safe eng.registry step) :
    (∀ id nodes base entry resume, BlockSafe eng step id nodes base entry resume) ∧
    (∀ id nodes base index previous nested, FromSafe eng step id nodes base index previous nested) ∧
    (∀ id node index path previous resuming,
      NodeSafe eng step id node index path previous resuming) ∧
    (∀ parentId index path parts resume, LoopSafe eng step parentId index path parts resume) ∧
    (∀ loopId controller actions controllerBase actionsBase path iteration controllerOutput pending,
      RoundSafe eng step loopId controller actions controllerBase actionsBase path iteration
        controllerOutput pending) ∧
    (∀ loopId controller actions controllerBase actionsBase path iteration pending decided,
      FollowSafe eng step loopId controller actions controllerBase actionsBase path iteration
        pending decided) ∧
    (∀ parentId candidate branchType iteration nodes base entry resume,
      ChildSafe eng step parentId candidate branchType iteration nodes base entry resume) := by
  apply Engine.runBlock.mutual_induct eng step (BlockSafe eng step) (FromSafe eng step)
    (NodeSafe eng step) (LoopSafe eng step) (RoundSafe eng step) (FollowSafe eng step)
    (ChildSafe eng step)
  -- `runBlock`: fresh, on a cursor, at the suspended step, on the way down.
  · intro id nodes base entry ih D e w hg _ hfa hd hfits
    rw [Engine.runBlock]
    exact ih D e w hg (fun _ h => by cases h) hfa hd hfits
  · intro id nodes base entry r hr D e w _ _ _ _ _
    rw [Engine.runBlock, hr]
    exact Ensures.throw
  · intro id nodes base entry r frameId index before rest hr hid hempty ih D e w hg _ hfa hd hfits
    rw [Engine.runBlock, hr]
    simp only [hid, hempty, if_true]
    refine Ensures.next ((completePausedStep_allowed hfa).and
      (completePausedStep_grows eng id r.value e w)) fun _ e₁ _ h₁ => ?_
    exact ih D e₁ _ (hg.grows h₁.2) (fun _ h => by cases h) h₁.1 (hd.grows h₁.2) hfits
  · intro id nodes base entry r frameId index before rest hr hid hempty ih D e w hg hres hfa hd
      hfits
    rw [Engine.runBlock, hr]
    simp only [hid, hempty, if_true]
    have hfid : frameId = id := by simpa using hid
    subst hfid
    have hdesc := hres r rfl
    rw [hr] at hdesc
    exact ih D e w hg (fun r' h => by cases h; exact Frame.descends_block.1 hdesc) hfa hd hfits
  · intro id nodes base entry r frameId index before rest hr hid D e w _ _ _ _ _
    rw [Engine.runBlock, hr]
    simp only [hid]
    exact Ensures.throw
  · intro id nodes base entry r other tail hother hr D e w _ _ _ _ _
    rw [Engine.runBlock_not_block hother hr]
    exact Ensures.throw
  -- `blockFrom`: the node fits, being one of the block's.
  · intro id nodes base index previous nested hnone D e w _ _ hfa _ _
    rw [Engine.blockFrom_past hnone]
    exact Ensures.pure ⟨hfa, Outcome.allowed_done _⟩
  · intro id nodes base index previous nested node hnode path ihNode ihDone ihAbsorb D e w hg hn
      hfa hd hfits
    rw [Engine.blockFrom]
    split
    · rename_i h
      rw [hnode] at h
      cases h
    rename_i node' h
    rw [hnode] at h
    cases h
    have hfit := hfits node (List.mem_of_getElem? hnode)
    refine Ensures.bind (Ensures.lift fun cancelled _ _ => ?_)
    refine Ensures.ite (fun _ => ?_) (fun _ => ?_)
    · exact Ensures.bind (Ensures.lift fun _ _ _ =>
        Ensures.pure ⟨hfa, Outcome.allowed_cancelled⟩)
    refine Ensures.next ((ihNode D e _ hg hn hfa hd hfit).and (runNode_unwinds hstep e _ hn))
      fun o e₁ _ h₁ => ?_
    obtain ⟨⟨hfa₁, ho₁⟩, hg₁, -⟩ := h₁
    have hgrown := hg.grows hg₁
    have hd₁ := hd.grows hg₁
    split
    · exact ihDone _ D e₁ _ hgrown (fun _ h => by cases h) hfa₁ hd₁ hfits
    · exact Ensures.pure ⟨hfa₁, Outcome.allowed_suspended _ _⟩
    · refine Ensures.ite (fun _ => ?_) (fun _ => ?_)
      · exact Ensures.bind (Ensures.lift fun _ _ _ =>
          ihAbsorb _ D e₁ _ hgrown (fun _ h => by cases h) hfa₁ hd₁ hfits)
      · exact Ensures.pure ⟨hfa₁, ho₁⟩
    · exact Ensures.pure ⟨hfa₁, Outcome.allowed_cancelled⟩
  -- `runNode`: a step that fits resolves and fails only as a step can; a branch
  -- runs one of its arms, so it has arms and their child lies within the limit.
  · intro id index path previous resuming stepId h D e w _ _ _ _ _
    rw [Engine.runNode, if_pos h]
    exact Ensures.throw
  · intro id index path previous resuming stepId h D e w _ _ hfa _ hfit
    rw [Engine.runNode, if_neg h]
    cases hfit with
    | step hr => exact hsafe id _ path previous e w ⟨_, hr⟩ hfa
  · intro id index path previous resuming stepId params h D e w _ _ _ _ _
    rw [Engine.runNode, if_pos h]
    exact Ensures.throw
  · intro id index path previous resuming stepId params h D e w _ _ hfa _ hfit
    rw [Engine.runNode, if_neg h]
    cases hfit with
    | call hr => exact hsafe id _ path previous e w ⟨_, hr⟩ hfa
  · intro id index path previous resuming children ih D e w hg hres hfa hd hfit
    rw [Engine.runNode]
    cases hfit with
    | sequence hlimit hchildren => exact ih D e w hg hres hfa hd hlimit hchildren
  · intro id index path previous resuming parts ih D e w hg hres hfa hd hfit
    rw [Engine.runNode]
    exact ih D e w hg hres hfa hd hfit
  · intro id index path previous resuming arms edge arm target hfound ih D e w hg hres hfa hd hfit
    rw [Engine.runNode_branch_found rfl hfound]
    have hmem := List.mem_of_find?_eq_some hfound
    cases hfit with
    | branch hlimit harms =>
      exact ih D e w hg hres hfa hd (hlimit (List.ne_nil_of_mem hmem)) (harms _ hmem)
  · intro id index path previous resuming arms edge hnone D e w _ _ hfa _ _
    rw [Engine.runNode_branch_none rfl hnone]
    exact Ensures.bind (Ensures.lift fun _ _ _ =>
      Ensures.pure ⟨hfa, Outcome.allowed_failed (.unhandledEdge _) _ _⟩)
  -- `runLoop`: a loop that fits has a controller and is not too deep; its
  -- instance, re-entered or opened, is a child.
  · intro parentId index path resume D e w _ _ _ _ hfit
    cases hfit
  · intro parentId index path controller actions r hr D e w _ _ _ _ _
    rw [Engine.runLoop, hr]
    exact Ensures.throw
  · intro parentId index path controller actions controllerBase actionsBase r loopId iteration output
      phase rest hr ih D e w hg hres hfa hd hfit
    rw [Engine.runLoop, hr]
    have hbelow := hres r rfl
    rw [hr] at hbelow
    obtain ⟨hchild, hdesc⟩ := hbelow
    have hctrl : ∀ r', controllerResume? (some (phase, ⟨rest, r.value⟩)) = some r' →
        Frame.Descends e r'.frames := by
      intro r' h
      cases phase with
      | controller => cases h; exact Frame.descends_controller hdesc
      | actions => cases h
    have hacts : ∀ r', actionsResume? (some (phase, ⟨rest, r.value⟩)) = some r' →
        Frame.Below e loopId r'.frames := by
      intro r' h
      cases phase with
      | controller => cases h
      | actions => cases h; exact Frame.descends_actions hdesc
    cases hfit with
    | loop _ hc hlimit hall =>
      refine Ensures.next ((ih (D + 1) e w hg hctrl hacts hfa (hd.child hg.linked hchild) hc hlimit
        hall).and (loopRound_unwinds hstep e w hctrl hacts)) fun o e₁ _ h₁ => ?_
      obtain ⟨⟨hfa₁, ho₁⟩, -, -⟩ := h₁
      exact Ensures.next (finishInstance_allowed hfa₁ ho₁) fun _ _ _ h₂ => Ensures.pure ⟨h₂, ho₁⟩
  · intro parentId index path controller actions r other tail hother hr D e w _ _ _ _ _
    rw [Engine.runLoop_not_loop hother hr]
    exact Ensures.throw
  · intro parentId index path controller actions controllerBase actionsBase ih D e w hg _ hfa hd hfit
    rw [Engine.runLoop]
    cases hfit with
    | loop hdepth hc hlimit hall =>
      refine Ensures.bind (Ensures.get ?_)
      split
      · rename_i failure hexceeded
        rw [depthExceeded_eq_none eng hd hdepth] at hexceeded
        cases hexceeded
      refine Ensures.bind (Ensures.get ?_)
      refine Ensures.next (openInstance_allowed hfa) fun _ e₁ _ h₁ => ?_
      obtain ⟨hfa₁, t, _, hspawn⟩ := h₁
      have hgrown₁ := Execution.Grown.spawn hg hspawn
      refine Ensures.next ((ih e (D + 1) e₁ _ hgrown₁ (fun _ h => by cases h) (fun _ h => by cases h)
        hfa₁ (hd.spawn hspawn) hc hlimit hall).and
        (loopRound_unwinds hstep e₁ _ (fun _ h => by cases h) (fun _ h => by cases h)))
        fun o e₂ _ h₂ => ?_
      obtain ⟨⟨hfa₂, ho₂⟩, -, -⟩ := h₂
      exact Ensures.next (finishInstance_allowed hfa₂ ho₂) fun _ _ _ h₃ => Ensures.pure ⟨h₃, ho₂⟩
  -- `loopRound`: the controller runs as a block of its own in the loop's instance.
  · intro loopId controller actions controllerBase actionsBase path iteration controllerOutput
      pending ihFollow ihCtrl D e w hg hc ha hfa hd hcfit hlimit hall
    rw [Engine.loopRound]
    refine Ensures.bind (Ensures.lift fun cancelled w₁ _ => ?_)
    dsimp only
    refine Ensures.ite (fun _ => ?_) (fun _ => Ensures.ite (fun _ => ?_) (fun _ => ?_))
    · exact ihFollow _ D e w₁ hg ha (fun _ h => by cases h) hfa hd hcfit hlimit hall
    · exact Ensures.bind (Ensures.lift fun _ w₂ _ => ihFollow _ D e w₂ hg ha
        (fun _ h => by cases h; exact Outcome.allowed_cancelled) hfa hd hcfit hlimit hall)
    · refine Ensures.next ((ihCtrl D e w₁ hg hc hfa hd (List.forall_mem_singleton.mpr hcfit)).and
        (runBlock_unwinds hstep e w₁ hc)) fun o e₁ w₂ h₁ => ?_
      obtain ⟨⟨hfa₁, ho₁⟩, hg₁, -⟩ := h₁
      have ha₁ : ∀ r, actionsResume? pending = some r → Frame.Below e₁ loopId r.frames :=
        fun r h => (ha r h).grows hg₁
      have hd₁ := hd.grows hg₁
      split
      · exact ihFollow _ D e₁ w₂ (hg.grows hg₁) ha₁ (fun _ h => by cases h) hfa₁ hd₁ hcfit hlimit
          hall
      · exact ihFollow _ D e₁ w₂ (hg.grows hg₁) ha₁
          (fun _ h => by cases h; exact Outcome.allowed_suspended _ _) hfa₁ hd₁ hcfit hlimit hall
      · exact ihFollow _ D e₁ w₂ (hg.grows hg₁) ha₁ (fun _ h => by cases h; exact ho₁) hfa₁ hd₁
          hcfit hlimit hall
  -- `loopFollow`: the iteration's instance lies one level below the loop's.
  · intro loopId controller actions controllerBase actionsBase path iteration pending outcome D e w _
      _ hdecided hfa _ _ _ _
    rw [Engine.loopFollow]
    exact Ensures.pure ⟨hfa, hdecided outcome rfl⟩
  · intro loopId controller actions controllerBase actionsBase path iteration pending
      controllerOutput edge hcont hlimit D e w _ _ _ hfa _ _ _ _
    rw [Engine.loopFollow, if_pos hcont, dif_pos hlimit]
    exact Ensures.pure ⟨hfa, Outcome.allowed_failed (.iterationLimit _) _ _⟩
  · intro loopId controller actions controllerBase actionsBase path iteration pending
      controllerOutput edge hcont hlimit hempty ih D e w hg _ _ hfa hd hcfit hlimit' hall
    rw [Engine.loopFollow, if_pos hcont, dif_neg hlimit]
    dsimp only
    rw [if_pos hempty]
    exact ih D e w hg (fun _ h => by cases h) (fun _ h => by cases h) hfa hd hcfit hlimit' hall
  · intro loopId controller actions controllerBase actionsBase path iteration pending
      controllerOutput edge hcont hlimit hempty ihNext ihChild D e w hg ha _ hfa hd hcfit hlimit'
      hall
    rw [Engine.loopFollow, if_pos hcont, dif_neg hlimit]
    dsimp only
    rw [if_neg hempty]
    have hne : actions ≠ [] := fun h => hempty (by rw [h]; rfl)
    refine Ensures.bind (Ensures.lift fun _ _ _ => ?_)
    refine Ensures.next ((ihChild D e _ hg ha hfa hd (hlimit' hne) hall).and
      (runChild_unwinds hstep e _ ha)) fun o e₁ w₁ h₁ => ?_
    obtain ⟨⟨hfa₁, ho₁⟩, hg₁, -⟩ := h₁
    split
    · exact ihNext D e₁ w₁ (hg.grows hg₁) (fun _ h => by cases h) (fun _ h => by cases h) hfa₁
        (hd.grows hg₁) hcfit hlimit' hall
    · exact Ensures.pure ⟨hfa₁, Outcome.allowed_suspended _ _⟩
    · exact Ensures.pure ⟨hfa₁, ho₁⟩
  · intro loopId controller actions controllerBase actionsBase path iteration pending
      controllerOutput edge hcont hexit D e w _ _ _ hfa _ _ _ _
    rw [Engine.loopFollow, if_neg hcont, if_pos hexit]
    exact Ensures.pure ⟨hfa, Outcome.allowed_done _⟩
  · intro loopId controller actions controllerBase actionsBase path iteration pending
      controllerOutput edge hcont hexit D e w _ _ _ hfa _ _ _ _
    rw [Engine.loopFollow, if_neg hcont, if_neg hexit]
    exact Ensures.bind (Ensures.lift fun _ _ _ =>
      Ensures.pure ⟨hfa, Outcome.allowed_failed (.unhandledEdge _) _ _⟩)
  -- `runChild`: the child, re-entered or opened, lies one level below its parent.
  · intro parentId candidate branchType iteration nodes base entry r hr D e w _ _ _ _ _ _
    rw [Engine.runChild, hr]
    exact Ensures.throw
  · intro parentId candidate branchType iteration nodes base entry r frame tail hr ih D e w hg hres
      hfa hd _ hfits
    rw [Engine.runChild, hr]
    have hbelow := hres r rfl
    rw [hr] at hbelow
    obtain ⟨hchild, hdesc⟩ := hbelow
    have hdown : ∀ r', some r = some r' → Frame.Descends e r'.frames := by
      intro r' h
      cases h
      rw [hr]
      exact hdesc
    refine Ensures.next ((ih (D + 1) e w hg hdown hfa (hd.child hg.linked hchild) hfits).and
      (runBlock_unwinds hstep e w hdown)) fun o e₁ _ h₁ => ?_
    obtain ⟨⟨hfa₁, ho₁⟩, -, -⟩ := h₁
    exact Ensures.next (finishInstance_allowed hfa₁ ho₁) fun _ _ _ h₂ => Ensures.pure ⟨h₂, ho₁⟩
  · intro parentId candidate branchType iteration nodes base entry ih D e w hg _ hfa hd hlimit hfits
    rw [Engine.runChild]
    refine Ensures.bind (Ensures.get ?_)
    split
    · rename_i failure hexceeded
      rw [depthExceeded_eq_none eng hd hlimit] at hexceeded
      cases hexceeded
    refine Ensures.bind (Ensures.get ?_)
    refine Ensures.next (openInstance_allowed hfa) fun _ e₁ _ h₁ => ?_
    obtain ⟨hfa₁, t, _, hspawn⟩ := h₁
    refine Ensures.next ((ih e (D + 1) e₁ _ (Execution.Grown.spawn hg hspawn) (fun _ h => by cases h)
      hfa₁ (hd.spawn hspawn) hfits).and (runBlock_unwinds hstep e₁ _ fun _ h => by cases h))
      fun o e₂ _ h₂ => ?_
    obtain ⟨⟨hfa₂, ho₂⟩, -, -⟩ := h₂
    exact Ensures.next (finishInstance_allowed hfa₂ ho₂) fun _ _ _ h₃ => Ensures.pure ⟨h₃, ho₂⟩

end Engine

/-! ## Reports of runs and resumes -/

/-- Every failure a report shows, on its root or any of its instances, is
allowed. -/
def ExecutionReport.FailuresAllowed (R : ExecutionReport) : Prop :=
  (∀ f, R.error = some f → f.Allowed) ∧ ∀ i ∈ R.instances, i.FailuresAllowed

/-- A report shows the failures of its execution. -/
theorem ExecutionReport.failuresAllowed_ofExecution {e : Execution} (h : e.FailuresAllowed)
    (name : String) (p : Option PauseTicket) : (ofExecution name e p).FailuresAllowed := by
  refine ⟨fun f hf => ?_, h⟩
  cases hroot : e.root? with
  | none => simp [ofExecution, hroot] at hf
  | some root =>
    simp only [ofExecution, hroot] at hf
    exact (h root (Execution.mem_of_get? hroot).1).1 f hf

/-- A valid report is what `intoResult` lets through. -/
theorem ValidationReport.valid_of_intoResult {r r' : ValidationReport} (h : r.intoResult = .ok r') :
    r.valid = true := by
  unfold ValidationReport.intoResult at h
  split at h
  · assumption
  · cases h

/-- What a logging computation gives is what it gives when collected. -/
theorem Run.Ensures.logged {α : Type} (m : Logged α) (w : World) :
    Run.Ensures (Run.logged m) w fun a _ => a = (Logged.collect m).1 := by
  unfold Run.logged
  exact Run.Ensures.after fun _ _ => Run.Ensures.pure rfl

/-- Every ticket of the store can be resumed by `eng` on nodes that fit: it
can be followed, its failures are allowed, and its definition validates with
its empty sub-flows within the depth limit. -/
def World.TicketsFit (w : World) (eng : Engine) : Prop :=
  ∃ slots, w.store = .memory slots ∧ ∀ k p, (k, some p) ∈ slots →
    p.Honest ∧ p.execution.FailuresAllowed ∧
    (Logged.collect (validateFlow p.definition eng.registry eng.config)).1.valid = true ∧
    ∀ n ∈ p.definition.nodes, n.EmptyWithin eng.config.maxDepth 0

namespace Engine

variable (eng : Engine)

/-- A definition that validates fits at the top, once its empty sub-flows
do. -/
theorem fits_of_valid {d : FlowDefinition}
    (hvalid : (Logged.collect (validateFlow d eng.registry eng.config)).1.valid = true)
    (hempty : ∀ n ∈ d.nodes, n.EmptyWithin eng.config.maxDepth 0) :
    ∀ n ∈ d.nodes, n.Fits eng.registry eng.config.maxDepth 0 :=
  fun n hn => (validateFlow_fits d eng.registry eng.config).collect hvalid n hn (hempty n hn)

/-- `start` opens a new execution, and only for a definition that
validates. -/
theorem start_valid (d : FlowDefinition) (init : Value) (w : World) :
    Run.Ensures (eng.start d init) w fun e _ => e.Grown ∧ e.FailuresAllowed ∧
      (Logged.collect (validateFlow d eng.registry eng.config)).1.valid = true := by
  unfold start
  refine Run.Ensures.next (Run.Ensures.logged _ w) fun report _ hreport => ?_
  subst hreport
  dsimp only
  split
  · exact Run.Ensures.after fun _ _ => Run.Ensures.bind Run.Ensures.throw
  · rename_i r hok
    refine Run.Ensures.after fun id _ => Run.Ensures.after fun t _ => ?_
    refine Run.Ensures.after fun _ _ => Run.Ensures.after fun _ _ => Run.Ensures.pure ?_
    exact ⟨.create _ _ _, Execution.failuresAllowed_create _ _ _,
      ValidationReport.valid_of_intoResult hok⟩

variable (step : StepRunner)

/-- Driving the walk over a definition that fits, from an execution whose
failures are allowed: the report shows allowed failures only. -/
theorem drive_safe (hstep : StepRunner.Grows step) (hsafe : StepRunner.Safe eng.registry step)
    (d : FlowDefinition) {e : Execution} {resume : Option Resume} (hg : e.Grown)
    (hres : ∀ r, resume = some r → Frame.Descends e r.frames) (hfa : e.FailuresAllowed)
    (hfits : ∀ n ∈ d.nodes, n.Fits eng.registry eng.config.maxDepth 0) (w : World) :
    Run.Ensures (eng.drive step d e resume) w fun R _ => R.FailuresAllowed := by
  unfold drive
  have hroot : e.DepthAtMost e.rootId 0 := by
    obtain ⟨r, hr, -, hdepth⟩ := hg.linked.root
    exact ⟨r, hr, by omega⟩
  refine Run.Ensures.next (Ensures.run ((walk_safe eng step hstep hsafe).1 _ _ _ _ _ 0 e w hg
    hres hfa hroot hfits)) fun p w₁ h₁ => ?_
  obtain ⟨outcome, e₁⟩ := p
  obtain ⟨hfa₁, ho₁⟩ := h₁
  dsimp only at hfa₁ ho₁ ⊢
  split
  · -- A suspension only marks instances paused.
    refine (suspend_report eng d e₁ _ _ w₁).mono fun R _ hR => ?_
    obtain ⟨ticket, rfl⟩ := hR
    exact ExecutionReport.failuresAllowed_ofExecution (hfa₁.foldl_status .paused _) _ _
  · refine Run.Ensures.next (Ensures.run (finishInstance_allowed hfa₁ ho₁)) fun p w₂ h₂ => ?_
    have hreport := ExecutionReport.failuresAllowed_ofExecution h₂ d.name none
    -- What is logged about the report changes nothing of it.
    split <;> exact Run.Ensures.after fun _ _ => Run.Ensures.after fun _ _ => Run.Ensures.pure hreport

/-- Every run of a definition whose empty sub-flows lie within the depth
limit reports allowed failures only; `start` checks that it validates. -/
theorem run_safe (d : FlowDefinition) (init : Value)
    (hempty : ∀ n ∈ d.nodes, n.EmptyWithin eng.config.maxDepth 0) (w : World) :
    Run.Ensures (eng.run d init) w fun R _ => R.FailuresAllowed := by
  unfold run
  refine Run.Ensures.next (start_valid eng d init w) fun e w₁ ⟨hg, hfa, hvalid⟩ => ?_
  exact drive_safe eng eng.runStep (runStep_grows eng) (runStep_safe eng) d hg
    (fun _ h => by cases h) hfa (fits_of_valid eng hvalid hempty) w₁

/-- Every resume of a ticket from a store whose tickets fit reports allowed
failures only. -/
theorem resume_safe (pauseId : String) (value : Value) {w : World} (hw : w.TicketsFit eng) :
    Run.Ensures (eng.resume pauseId value) w fun R _ => R.FailuresAllowed := by
  obtain ⟨slots, hstore, hslots⟩ := hw
  unfold resume
  refine Run.Ensures.next (claimTicket_kept hstore pauseId) fun paused w₁ ⟨k, hk⟩ => ?_
  obtain ⟨⟨hg, hdesc⟩, hfa, hvalid, hempty⟩ := hslots k paused hk
  refine Run.Ensures.after fun _ _ => ?_
  refine Run.Ensures.next (Run.Ensures.forIn _ _
    (fun e => paused.execution.Grows e ∧ e.FailuresAllowed) ?_ ⟨.refl _, hfa⟩)
    fun e w₂ ⟨hge, hfa₂⟩ => ?_
  · intro id e' w' ⟨hge', hfa'⟩
    exact Run.Ensures.after fun _ _ => Run.Ensures.pure
      ⟨hge'.trans (.of_modify _ id fun _ => ⟨rfl, rfl, rfl⟩), hfa'.modify id fun _ hi => hi⟩
  exact drive_safe eng eng.runStep (runStep_grows eng) (runStep_safe eng) _ (hg.grows hge)
    (fun r h => by cases h; exact hdesc.grows hge) hfa₂ (fits_of_valid eng hvalid hempty) w₂

end Engine

end Flowline
