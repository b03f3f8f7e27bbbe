import Flowline.Proofs.Sessions
set_option autoImplicit false

/-!
# A failure is absorbed or reaches the root

When a node of a block fails, the block looks at the node after it. A branch
with an `error` arm takes the failure: the block goes on at the branch with
the failure as the output it is handed, `{edges: ["error"], value: f}`, and
the branch runs that arm (`Engine.blockFrom_absorbs`,
`Engine.runNode_error_arm`). Any other next node, or none, ends the block
with the failure, as the failing node left everything
(`Engine.blockFrom_stops`). A block in a child instance hands its failure up
unchanged (`Engine.walk_fails_up`), and the report is failed with `f` exactly
when the walk of the root's block ended with `f`
(`Engine.drive_reports_outcome`).

Tickets a resume can follow to the end can be followed
(`World.Resumable.honest`, in the sessions module), so what
`Engine.resume_failsToRoot` asks of a store holds in every world sessions lead
to from an empty one.
-/

namespace Flowline

namespace Engine

variable (eng : Engine) (step : StepRunner) {id base : String} {nodes : List FlowNode} {index : Nat}
  {previous : Option StepOutput} {nested : Option Resume} {node : FlowNode} {e : Execution} {w : World}

/-- A block at a node it does not stop before runs the node and acts on its
outcome. -/
theorem blockFrom_at (hnode : nodes[index]? = some node)
    (hgo : (nested.isNone && w.cancelled) = false) :
    execIn (eng.blockFrom step id nodes base index previous nested) e w =
      execIn (eng.runNode step id node index (nodePath base index) previous nested >>= fun o =>
        match o with
        | .done output => eng.blockFrom step id nodes base (index + 1)
            (match output with | some o => some o | none => previous) none
        | .suspended frames pause => pure (.suspended (frames ++ [.block id index previous]) pause)
        | .failed failure =>
          if absorbsErrors nodes[index + 1]? then do
            Run.warn .engine s!"Failure at {nodePath base index} handed to its error branch: {failure.display}"
            eng.blockFrom step id nodes base (index + 1) (some (StepOutput.ofFailure failure)) none
          else pure (.failed failure)
        | .cancelled => pure .cancelled) e w := by
  rw [blockFrom]
  split
  · rename_i h
    rw [hnode] at h
    cases h
  rename_i node' h
  rw [hnode] at h
  cases h
  have hcancel : execIn (liftM Run.isCancelled : Drive Bool) e w = (.ok (w.cancelled, e), w) := by
    rw [execIn_lift]
    rfl
  rw [execIn_bind, hcancel]
  dsimp only
  -- the statement's match is its own matcher here, the definition's one in a
  -- build that shares them, so close by unfolding rather than by rewriting
  rw [hgo]
  refine congrArg (fun x => execIn x e w) ?_
  exact if_neg Bool.false_ne_true

/-- A failure handed to an error branch after it: the block goes on at the
branch with the failure as the output it is handed, and says so in a warning. -/
theorem blockFrom_absorbs {f : Failure} {e₁ : Execution} {w₁ : World} (hnode : nodes[index]? = some node)
    (hgo : (nested.isNone && w.cancelled) = false)
    (hrun : execIn (eng.runNode step id node index (nodePath base index) previous nested) e w =
      (.ok (.failed f, e₁), w₁))
    (habs : absorbsErrors nodes[index + 1]? = true) :
    execIn (eng.blockFrom step id nodes base index previous nested) e w =
      execIn (eng.blockFrom step id nodes base (index + 1) (some (StepOutput.ofFailure f)) none) e₁
        { w₁ with logs := w₁.logs.push ⟨.warn, .engine,
          s!"Failure at {nodePath base index} handed to its error branch: {f.display}"⟩ } := by
  rw [blockFrom_at eng step hnode hgo, execIn_bind, hrun]
  dsimp only
  rw [if_pos habs, execIn_bind, execIn_lift]
  rfl

/-- A failure with no error branch after it ends the block: nothing after the
node runs, and the block leaves what the node left. -/
theorem blockFrom_stops {f : Failure} {e₁ : Execution} {w₁ : World} (hnode : nodes[index]? = some node)
    (hgo : (nested.isNone && w.cancelled) = false)
    (hrun : execIn (eng.runNode step id node index (nodePath base index) previous nested) e w =
      (.ok (.failed f, e₁), w₁))
    (habs : absorbsErrors nodes[index + 1]? = false) :
    execIn (eng.blockFrom step id nodes base index previous nested) e w = (.ok (.failed f, e₁), w₁) := by
  rw [blockFrom_at eng step hnode hgo, execIn_bind, hrun]
  dsimp only
  rw [habs, if_neg Bool.false_ne_true, execIn_pure]

/-- A branch handed a failure runs its `error` arm. -/
theorem runNode_error_arm {arms : List (String × FlowNode)} {arm : String} {target : FlowNode}
    (hfound : arms.find? (·.1 == "error") = some (arm, target)) (f : Failure) (path : String)
    (resuming : Option Resume) :
    eng.runNode step id (.branch arms) index path (some (StepOutput.ofFailure f)) resuming =
      eng.runChild step id s!"{id}-{index}-branch-error" (.edge "error") none (armNodes target)
        s!"{path}.error" (some (StepOutput.ofFailure f)) resuming := by
  have hedge : ((some (StepOutput.ofFailure f)).map StepOutput.edge).getD "" = "error" := rfl
  rw [runNode_branch_found hedge hfound]
  simp only [String.append_assoc]
  rfl

end Engine

/-- A branch takes failures exactly when one of its arms is `error`. -/
theorem absorbsErrors_branch {arms : List (String × FlowNode)} :
    absorbsErrors (some (.branch arms)) = true ↔ ∃ arm target, arms.find? (·.1 == "error") = some (arm, target) := by
  simp only [absorbsErrors, List.any_eq_true]
  constructor
  · intro h
    obtain ⟨⟨arm, target⟩, hfound⟩ := Option.isSome_iff_exists.1 (List.find?_isSome.2 h)
    exact ⟨arm, target, hfound⟩
  · intro ⟨arm, target, hfound⟩
    exact ⟨(arm, target), List.mem_of_find?_eq_some hfound, by simpa using List.find?_some hfound⟩

namespace Engine

/-- How a failure travels through the blocks of a run or a resume. A node
that fails, before a branch with an `error` arm, hands the failure to that
arm: the block goes on at the branch, which runs the arm with the output
`{edges: ["error"], value: f}`; before anything else, the block stops with
the failure, leaving what the node left, and nothing after the node runs. A
block in a child instance hands its failure up unchanged, every instance from
the one the failure names up to the child having ended failed with it. So the
report is failed with `f` exactly when the walk of the root's block ended
with `f`, absorbed at no level; it then carries `f`, and every instance on
the chain of parent links from the one `f` names up to the root ended failed
with it. This holds of every run, and of every resume in the worlds that runs
and resumes lead to from a store of tickets a resume can follow. -/
theorem failures_are_absorbed_or_reach_the_root (eng : Engine) :
    (∀ (id base : String) (nodes : List FlowNode) (index : Nat) (previous : Option StepOutput)
        (nested : Option Resume) (node : FlowNode) (arms : List (String × FlowNode)) (arm : String)
        (target : FlowNode) (e : Execution) (w : World) (f : Failure) (e₁ : Execution) (w₁ : World),
      nodes[index]? = some node → (nested.isNone && w.cancelled) = false →
      execIn (eng.runNode eng.runStep id node index (nodePath base index) previous nested) e w =
        (.ok (.failed f, e₁), w₁) →
      nodes[index + 1]? = some (.branch arms) → arms.find? (·.1 == "error") = some (arm, target) →
      execIn (eng.blockFrom eng.runStep id nodes base index previous nested) e w =
        execIn (eng.blockFrom eng.runStep id nodes base (index + 1) (some ⟨["error"], f.toValue⟩) none)
          e₁ { w₁ with logs := w₁.logs.push ⟨.warn, .engine,
            s!"Failure at {nodePath base index} handed to its error branch: {f.display}"⟩ } ∧
      eng.runNode eng.runStep id (.branch arms) (index + 1) (nodePath base (index + 1))
          (some ⟨["error"], f.toValue⟩) none =
        eng.runChild eng.runStep id s!"{id}-{index + 1}-branch-error" (.edge "error") none
          (armNodes target) s!"{nodePath base (index + 1)}.error" (some ⟨["error"], f.toValue⟩) none) ∧
    (∀ (id base : String) (nodes : List FlowNode) (index : Nat) (previous : Option StepOutput)
        (nested : Option Resume) (node : FlowNode) (e : Execution) (w : World) (f : Failure)
        (e₁ : Execution) (w₁ : World),
      nodes[index]? = some node → (nested.isNone && w.cancelled) = false →
      execIn (eng.runNode eng.runStep id node index (nodePath base index) previous nested) e w =
        (.ok (.failed f, e₁), w₁) →
      absorbsErrors nodes[index + 1]? = false →
      execIn (eng.blockFrom eng.runStep id nodes base index previous nested) e w =
        (.ok (.failed f, e₁), w₁)) ∧
    (∀ parentId candidate branchType iteration nodes base entry resume,
      ChildFailsUp eng eng.runStep parentId candidate branchType iteration nodes base entry resume) ∧
    (∀ (d : FlowDefinition) (e : Execution) (resume : Option Resume) (w : World), e.Grown →
      (∀ r, resume = some r → Frame.Descends e r.frames) →
      Run.Ensures (eng.drive eng.runStep d e resume) w fun R _ => ∃ o e₁ w₁,
        execIn (eng.runBlock eng.runStep e.rootId d.nodes "" none resume) e w = (.ok (o, e₁), w₁) ∧
        ∀ f, R.status = .failed ∧ R.error = some f ↔ o = .failed f) ∧
    (∀ d init w, Run.Ensures (eng.run d init) w fun R _ => R.FailsToRoot) ∧
    (∀ (w₀ w : World) (pauseId : String) (value : Value), w₀.Resumable → w₀.Reaches w →
      Run.Ensures (eng.resume pauseId value) w fun R _ => R.FailsToRoot) := by
  refine ⟨fun id base nodes index previous nested node arms arm target e w f e₁ w₁ hnode hgo hrun
      hnext hfound => ⟨?_, runNode_error_arm eng eng.runStep hfound f _ none⟩,
    fun id base nodes index previous nested node e w f e₁ w₁ hnode hgo hrun habs =>
      blockFrom_stops eng eng.runStep hnode hgo hrun habs,
    (walk_fails_up eng eng.runStep (runStep_grows eng) (runStep_failsHere eng)).2.2.2.2.2.2,
    fun d e resume w hg hres => drive_reports_outcome eng eng.runStep (runStep_grows eng) d hg hres w,
    run_failsToRoot eng,
    fun w₀ w pauseId value h₀ h => resume_failsToRoot eng pauseId value (h.resumable h₀).honest⟩
  -- the branch after the node takes failures
  have habs : absorbsErrors nodes[index + 1]? = true := by
    rw [hnext]
    exact absorbsErrors_branch.2 ⟨arm, target, hfound⟩
  exact blockFrom_absorbs eng eng.runStep hnode hgo hrun habs

/-- The failure of a loop without a controller, at the first node of the
root. -/
def missingController : Failure :=
  (FlowError.invalidStructure "loop has no controller").toFailure (some "0") (some "r")

/-- A loop without a controller fails at once, changing nothing; an `error`
branch after it takes the failure, and without one the block stops with it.
A fresh store starts sessions, and every resume there reports its failure up
to the root. -/
theorem missing_controller_is_absorbed_or_stops :
    execIn (({ registry := {} } : Engine).runNode ({ registry := {} } : Engine).runStep "r" (.loop []) 0
        (nodePath "" 0) none none) (Execution.create "r" .null (Timestamp.ofNanos 0)) {} =
      (.ok (.failed missingController, Execution.create "r" .null (Timestamp.ofNanos 0)), {}) ∧
    (∃ w₁ : World, execIn (({ registry := {} } : Engine).blockFrom ({ registry := {} } : Engine).runStep
        "r" [.loop [], .branch [("error", .sequence [])]] "" 0 none none)
        (Execution.create "r" .null (Timestamp.ofNanos 0)) {} =
      execIn (({ registry := {} } : Engine).blockFrom ({ registry := {} } : Engine).runStep "r"
        [.loop [], .branch [("error", .sequence [])]] "" 1 (some ⟨["error"], missingController.toValue⟩)
        none) (Execution.create "r" .null (Timestamp.ofNanos 0)) w₁) ∧
    execIn (({ registry := {} } : Engine).blockFrom ({ registry := {} } : Engine).runStep "r" [.loop []] ""
        0 none none) (Execution.create "r" .null (Timestamp.ofNanos 0)) {} =
      (.ok (.failed missingController, Execution.create "r" .null (Timestamp.ofNanos 0)), {}) ∧
    ({} : World).Resumable ∧
    Run.Ensures (({ registry := {} } : Engine).resume "p" .null) {} fun R _ => R.FailsToRoot := by
  have hrun : execIn (({ registry := {} } : Engine).runNode ({ registry := {} } : Engine).runStep "r"
      (.loop []) 0 (nodePath "" 0) none none) (Execution.create "r" .null (Timestamp.ofNanos 0)) {} =
      (.ok (.failed missingController, Execution.create "r" .null (Timestamp.ofNanos 0)), {}) := by
    rw [Engine.runNode, Engine.runLoop]
    rfl
  have h₀ : ({} : World).Resumable := ⟨[], rfl, fun _ _ h => absurd h List.not_mem_nil⟩
  have hlaws := failures_are_absorbed_or_reach_the_root { registry := {} }
  exact ⟨hrun, ⟨_, (hlaws.1 "r" "" _ 0 none none _ _ "error" _ _ {} _ _ _ rfl rfl hrun rfl rfl).1⟩,
    hlaws.2.1 "r" "" [.loop []] 0 none none _ _ {} _ _ _ rfl rfl hrun rfl, h₀,
    hlaws.2.2.2.2.2 {} {} "p" .null h₀ .refl⟩

end Engine

end Flowline

