import Flowline.Proofs.Iterations
import Flowline.Proofs.Lineage
import Flowline.Proofs.LoopIndex
import Flowline.Proofs.Paths
import Flowline.Proofs.Resumption
set_option autoImplicit false

/-!
# The built-in loop controller counts

In `count` mode, and in `forEach` mode over a list of items, the built-in loop
controller counts through a bound its parameters fix (`Counting`): a pass
handed the output of the pass before continues with the next index and its
item, writing them into its instance as `loop.index` and `loop.item`, until
the index reaches the bound, and then exits with the number of iterations
(`controlLoop_counts`). The engine hands each round's controller the output
of the controller in the round before, so the rounds of a loop whose
controller is that step run with indices `0, 1, 2, …`.

Main statements:

* `Engine.control_counts`: a fresh round's controller block passes at the
  round's index and records the pass in the loop's instance, after the loop
  variables the pass wrote there;
* `Engine.act_keeps_loop`: a round's actions, fresh or re-entered along a
  cursor that names the loop's instance nowhere, leave that instance as they
  found it;
* `LoopSite.RoundNext.counts` and `LoopSite.Rounds.counts`: one round carries
  the loop's ledger (`LoopSite.CountedTo`) to the next, so from any round a
  counting loop enters where its ledger says, its rounds end as
  `LoopSite.CountEnd` lists: through `exit` after as many iterations as the
  bound, when the bound is within the iteration limit; with
  `iterationLimitExceeded` after exactly the limit's iterations, when it is
  beyond; suspended in a round's actions with the ledger to enter that round
  again; or stopped by actions that do not complete, or by a run that was
  cancelled;
* `Counting.Holds.lookup_of_chain`: an instance reads the loop variables
  through its lineage when the loop's instance lies within the part of its
  chain of parent links that the lineage keeps, unless a nearer instance
  holds them;
* `counting_loops_count` puts these together (`LoopSite.Counts`).

Reads go through `Execution.lineage`, which from depth 3 on keeps only part of
an instance's chain of ancestors, so an instance deep enough below the loop
does not see the loop's instance at all (`deep_action_misses_index`).
-/

namespace Flowline

/-! ## Counting through a bound -/

/-- What a loop controller counts through: how many rounds go on (`bound`),
and the item each index hands on. -/
structure Counting where
  bound : Nat
  item : Nat → Value

namespace Counting

/-- The counting a controller's resolved parameters set up, read as the
controller reads them: in `count` mode up to `maxIterations`, each index its
own item; in `forEach` mode over `items`, up to `maxIterations` or the number
of items, whichever is smaller. A `while` loop reads the state instead and
counts through nothing fixed. -/
def ofParams (params : Fields) : Option Counting :=
  match ((param? params "mode").bind Value.str?).getD "count" with
  | "count" => some ⟨loopBound params, Value.ofNat⟩
  | "forEach" => ((param? params "items").bind Value.arr?).map fun items =>
      ⟨min (loopBound params) items.length, fun i => items.getD i .null⟩
  | _ => none

/-- The edge of a pass at index `i`. -/
def edgeAt (c : Counting) (i : Nat) : String := if i < c.bound then "continue" else "exit"

/-- The value of a pass at index `i`: the index and its item, or the number
of iterations. -/
def valueAt (c : Counting) (i : Nat) : Value :=
  if i < c.bound then Value.object [("index", .ofNat i), ("item", c.item i)]
  else Value.object [("iterations", .ofNat i)]

/-- The output of a pass at index `i`. -/
def pass (c : Counting) (i : Nat) : StepOutput := StepOutput.make (c.edgeAt i) (c.valueAt i)

/-- The outputs of the passes at `0, …, n - 1`, as the loop's instance records
them. -/
def passes (c : Counting) (n : Nat) : List (Option StepOutput) :=
  (List.range n).map fun j => some (c.pass j)

/-- What a fresh round is handed: the pass of the round before, nothing in
round `0`. -/
def handed (c : Counting) : Nat → Option StepOutput
  | 0 => none
  | i + 1 => some (c.pass i)

/-- The loop variables a pass at index `i` writes into instance `id`: none
from the bound on. -/
def mark (c : Counting) (id : String) (i : Nat) (e : Execution) : Execution :=
  if i < c.bound then (e.setState id "loop.index" (.ofNat i)).setState id "loop.item" (c.item i)
  else e

/-- Instance `loopId` holds the loop variables of index `i`. -/
def Holds (c : Counting) (loopId : String) (i : Nat) (e : Execution) : Prop :=
  ∃ L, e.get? loopId = some L ∧ getPath L.state "loop.index" = some (.ofNat i) ∧
    getPath L.state "loop.item" = some (c.item i)

variable (c : Counting)

theorem declares {S : StepDefinition} (hcont : S.declares "continue" = true)
    (hexit : S.declares "exit" = true) (i : Nat) : S.declares (c.edgeAt i) = true := by
  unfold edgeAt
  split
  · exact hcont
  · exact hexit

theorem edgeOf_pass (i : Nat) : edgeOf (some (c.pass i)) = c.edgeAt i := by
  simp [edgeOf, pass, StepOutput.make, StepOutput.edge]

theorem lt_of_edgeAt {i : Nat} (h : c.edgeAt i = "continue") : i < c.bound := by
  unfold edgeAt at h
  split at h
  · assumption
  · exact absurd h (by decide)

theorem le_of_edgeAt {i : Nat} (h : c.edgeAt i = "exit") : c.bound ≤ i := by
  unfold edgeAt at h
  split at h
  · exact absurd h (by decide)
  · omega

theorem edgeAt_cases (i : Nat) : c.edgeAt i = "continue" ∨ c.edgeAt i = "exit" := by
  unfold edgeAt
  split
  · exact Or.inl rfl
  · exact Or.inr rfl

theorem passes_succ (n : Nat) : c.passes (n + 1) = c.passes n ++ [some (c.pass n)] := by
  simp [passes, List.range_succ]

/-- Below the bound a pass hands its index on. -/
theorem continueIndex_pass {i : Nat} (h : i < c.bound) : (c.pass i).continueIndex? = some i := by
  simp [pass, StepOutput.continueIndex?, StepOutput.make, StepOutput.edge, edgeAt, valueAt, h]
  rfl

/-- A fresh round within the bound works out its own index from what it is
handed, the bound being a 64-bit word. -/
theorem nextIndex_handed (hfit : c.bound < Nat.pow 2 64) {i : Nat} (h : i ≤ c.bound) :
    nextIndex (c.handed i) = i := by
  cases i with
  | zero => rfl
  | succ j => exact nextIndex_of_below (c.continueIndex_pass (by omega)) (by omega)

end Counting

/-! ## The loop variables' paths

Splitting on a one-byte separator steps through the string a character at a
time; with that step the segments of the two loop variables' paths are worked
out position by position. -/

/-- One step of splitting on `.`: stop at the end, cut at a dot, or move on. -/
theorem splitOnAux_dot (s : String) (b i : String.Pos.Raw) (r : List String) :
    String.splitOnAux s "." b i 0 r =
      if i.atEnd s then (b.extract s i :: r).reverse
      else if i.get s = '.' then
        String.splitOnAux s "." (i.next s) (i.next s) 0 (b.extract s i :: r)
      else String.splitOnAux s "." b (i.next s) 0 r := by
  rw [String.splitOnAux]
  split
  · rfl
  · have h0 : (0 : String.Pos.Raw).get "." = '.' := by decide
    have h1 : (0 : String.Pos.Raw).next "." = ⟨1⟩ := by decide
    have h2 : String.Pos.Raw.atEnd "." ⟨1⟩ = true := by decide
    simp only [h0, h1, h2, if_true, beq_iff_eq, String.Pos.Raw.unoffsetBy_zero]
    split
    · -- A dot is one byte, so the cut falls right before it.
      rename_i hc
      have hdot : '.'.utf8Size = 1 := by decide
      have hback : (i.next s).unoffsetBy ⟨1⟩ = i := by
        ext
        simp [String.Pos.Raw.byteIdx_unoffsetBy, String.Pos.Raw.next, hc, hdot]
      rw [hback]
    · rfl

theorem splitOnAux_dot_end {s : String} {b i : String.Pos.Raw} {r : List String}
    (h : i.atEnd s = true) : String.splitOnAux s "." b i 0 r = (b.extract s i :: r).reverse := by
  rw [splitOnAux_dot, if_pos h]

theorem splitOnAux_dot_cut {s : String} {b i : String.Pos.Raw} {r : List String}
    (h : i.atEnd s = false) (hc : i.get s = '.') :
    String.splitOnAux s "." b i 0 r =
      String.splitOnAux s "." (i.next s) (i.next s) 0 (b.extract s i :: r) := by
  rw [splitOnAux_dot, if_neg (by simp [h]), if_pos hc]

theorem splitOnAux_dot_skip {s : String} {b i : String.Pos.Raw} {r : List String}
    (h : i.atEnd s = false) (hc : i.get s ≠ '.') :
    String.splitOnAux s "." b i 0 r = String.splitOnAux s "." b (i.next s) 0 r := by
  rw [splitOnAux_dot, if_neg (by simp [h]), if_neg hc]

theorem segments_loop_index : Path.segments "loop.index" = ["loop", "index"] := by
  simp (disch := decide) only [Path.segments, String.splitOn, splitOnAux_dot_end,
    splitOnAux_dot_cut, splitOnAux_dot_skip]
  decide +kernel

theorem segments_loop_item : Path.segments "loop.item" = ["loop", "item"] := by
  simp (disch := decide) only [Path.segments, String.splitOn, splitOnAux_dot_end,
    splitOnAux_dot_cut, splitOnAux_dot_skip]
  decide +kernel

/-- The two loop variables read back after they were written, whatever the
state held before. -/
theorem getPath_loop_vars (s a b : Value) :
    getPath (setPath (setPath s "loop.index" a) "loop.item" b) "loop.index" = some a ∧
      getPath (setPath (setPath s "loop.index" a) "loop.item" b) "loop.item" = some b := by
  simp only [getPath, setPath, segments_loop_index, segments_loop_item]
  refine ⟨?_, Path.getAt_setAt_self _ _ _⟩
  -- The two paths part below `loop`, which the first write made an object.
  have hidx : Path.index? "index" = none := by decide +kernel
  have hobj : ∀ v, ∃ fs, Path.setAt ["index"] v a = .obj fs := by
    intro v
    cases v <;> simp [Path.setAt, hidx]
  obtain ⟨fs, hfs⟩ := hobj ((Path.child? s "loop").getD .null)
  have hchild : Path.child? (Path.setAt ["loop", "index"] s a) "loop" = some (.obj fs) := by
    rw [Path.child?_setAt_self, hfs]
  refine Path.getAt_setAt_of_fork b (w := .obj fs) (s := "item") (t := "index") ?_ rfl
    (Path.getAt_setAt_self _ _ _)
  simp [Path.fork?, hchild, Path.sameChild, Value.isArray]

namespace Counting

variable (c : Counting)

/-- A continuing pass leaves its instance holding the loop variables of its
index. -/
theorem holds_mark {e : Execution} {id : String} (hid : e.has id = true) {i : Nat}
    (h : i < c.bound) : c.Holds id i (c.mark id i e) := by
  obtain ⟨L, hL⟩ := Option.isSome_iff_exists.1 (Execution.get?_isSome_of_has hid)
  refine ⟨{ L with state := setPath (setPath L.state "loop.index" (.ofNat i)) "loop.item" (c.item i) },
    ?_, (getPath_loop_vars L.state _ _).1, (getPath_loop_vars L.state _ _).2⟩
  simp [mark, h, Execution.setState, Execution.get?_modify, hL]

end Counting

/-! ## One pass -/

/-- In `count` and `forEach` mode a controller pass at index `i`, worked out
from its previous output, exits through the edge of `Counting.pass` with its
value, writes the loop variables into its instance when it continues, and
leaves the token alone. -/
theorem controlLoop_counts {params : Fields} {c : Counting} (hc : Counting.ofParams params = some c)
    (ctx : StepContext) (s : StepScope) (w : World) :
    ∃ s' w', execIn (controlLoop ctx params) s w =
        (.ok (.ok (.exit (c.edgeAt (nextIndex ctx.previous)) (c.valueAt (nextIndex ctx.previous))), s'),
          w') ∧
      s'.execution = c.mark ctx.instanceId (nextIndex ctx.previous) s.execution ∧
      w'.cancelled = w.cancelled := by
  unfold Counting.ofParams at hc
  unfold controlLoop
  generalize nextIndex ctx.previous = i
  have hmax : ((param? params "maxIterations").bind Value.nat?).getD defaultMaxIterations =
    loopBound params := rfl
  -- Each mode finds its item, or none from the bound on; the pass then writes
  -- the variables and continues, or logs and exits.
  split at hc
  · rename_i hmode
    cases hc
    by_cases hi : i < loopBound params
    · simp only [hmode, hmax, Counting.edgeAt, Counting.valueAt, Counting.mark, hi, if_true,
        ge_iff_le, Nat.not_le.2 hi, if_false, pure_bind]
      exact ⟨_, _, rfl, rfl, rfl⟩
    · simp only [hmode, hmax, Counting.edgeAt, Counting.valueAt, Counting.mark, hi, if_false,
        ge_iff_le, Nat.not_lt.1 hi, if_true, pure_bind]
      exact ⟨_, _, rfl, rfl, rfl⟩
  · rename_i hmode
    obtain ⟨items, hitems, rfl⟩ := Option.map_eq_some_iff.1 hc
    by_cases hi : i < min (loopBound params) items.length
    · have hlt : i < loopBound params := lt_of_lt_of_le hi (Nat.min_le_left _ _)
      have hget : items[i]? = some (items.getD i .null) := by
        simp [List.getD_eq_getElem?_getD,
          List.getElem?_eq_getElem (lt_of_lt_of_le hi (Nat.min_le_right _ _))]
      simp only [hmode, hmax, Counting.edgeAt, Counting.valueAt, Counting.mark, hi, if_true,
        ge_iff_le, Nat.not_le.2 hlt, if_false, pure_bind, hitems, hget]
      exact ⟨_, _, rfl, rfl, rfl⟩
    · by_cases hlt : i < loopBound params
      · have hget : items[i]? = none := by
          simp only [List.getElem?_eq_none_iff]
          omega
        simp only [hmode, hmax, Counting.edgeAt, Counting.valueAt, Counting.mark, hi, if_false,
          ge_iff_le, Nat.not_le.2 hlt, pure_bind, hitems, hget]
        exact ⟨_, _, rfl, rfl, rfl⟩
      · simp only [hmode, hmax, Counting.edgeAt, Counting.valueAt, Counting.mark, hi, if_false,
          ge_iff_le, Nat.not_lt.1 hlt, if_true, pure_bind]
        exact ⟨_, _, rfl, rfl, rfl⟩
  · cases hc

/-- A computation blind to the token leaves it as it found it. -/
theorem Blind.keeps_token {α : Type} {m : Drive α} (h : Blind m) (e : Execution) (w : World) :
    Ensures m e w fun _ _ w' => w'.cancelled = w.cancelled := by
  intro a e' w' hrun
  have hw := h e w w.cancelled
  rw [hrun] at hw
  have := congrArg (fun x => x.2.cancelled) hw
  simpa using this

theorem Registry.resolveNode_eq_ok {r : Registry} {node : FlowNode} {S : StepDefinition}
    {P : Fields} (h : r.resolveNode node = .ok (S, P)) :
    r.resolve (node.stepId?.getD "") = .ok S ∧ S.resolve (node.params?.getD .null) = .ok P := by
  unfold Registry.resolveNode at h
  rcases hs : r.resolve (node.stepId?.getD "") with err | S'
  · simp only [hs, bind, Except.bind] at h
    cases h
  · rcases hp : S'.resolve (node.params?.getD .null) with err | P'
    · simp only [hs, hp, bind, Except.bind] at h
      cases h
    · simp only [hs, hp, bind, Except.bind, pure, Except.pure, Except.ok.injEq, Prod.mk.injEq] at h
      obtain ⟨rfl, rfl⟩ := h
      exact ⟨rfl, hp⟩

/-- A controller node that runs the loop controller counting through `c`: a
step node whose step has the loop controller's behaviour and may exit through
`continue` and `exit`, with parameters that resolve to a counting. The
built-in `logic.control.loop` is such a step. -/
structure CountingController (eng : Engine) (node : FlowNode) (c : Counting) : Prop where
  isStep : node.isStep = true
  resolves : ∃ S P, eng.registry.resolveNode node = .ok (S, P) ∧ S.behaviour = .loopController ∧
    S.declares "continue" = true ∧ S.declares "exit" = true ∧ Counting.ofParams P = some c

namespace Engine

variable (eng : Engine)

theorem pushRecord_blind (id : String) (r : StepRecord) : Blind (eng.pushRecord id r) := by
  unfold Engine.pushRecord
  refine Blind.bind Blind.get fun e => ?_
  dsimp only
  split
  · exact Blind.bind (Blind.set _) fun _ => Blind.lift (eng.emitFor_blind _ _ _ _ _)
  · exact Blind.throw _

/-- The engine runs a counting controller node as one pass: it records the
pass in its instance, after the loop variables the pass wrote there. -/
theorem runStep_counts {node : FlowNode} {c : Counting} (hc : CountingController eng node c)
    (id path : String) (previous : Option StepOutput) (e : Execution) (w : World) :
    Ensures (eng.runStep id node path previous) e w fun o e' w' =>
      o = .done (some (c.pass (nextIndex previous))) ∧
      (∃ r, e' = (c.mark id (nextIndex previous) e).record id r ∧
        r.output = some (c.pass (nextIndex previous)) ∧ r.status = .completed) ∧
      w'.cancelled = w.cancelled := by
  obtain ⟨S, P, hnode, hbeh, hcont, hexit, hP⟩ := hc.resolves
  obtain ⟨hres, hpar⟩ := Registry.resolveNode_eq_ok hnode
  unfold Engine.runStep Engine.runStepWith
  refine Ensures.bind (Ensures.lift fun t w₁ h₁ => ?_)
  have hw₁ : w₁.cancelled = w.cancelled := by cases h₁; rfl
  simp only [hres, hpar]
  refine Ensures.bind (Ensures.lift fun _ w₂ h₂ => ?_)
  have hw₂ : w₂.cancelled = w₁.cancelled := by cases h₂; rfl
  refine Ensures.bind (Ensures.get ?_)
  refine Ensures.bind (Ensures.lift fun ran w₃ h₃ => ?_)
  -- The step's behaviour is one controller pass.
  change execIn (perform _ _ P S.behaviour) { execution := e } _ = _ at h₃
  rw [hbeh] at h₃
  obtain ⟨s', w', hrun, hs', hw'⟩ := controlLoop_counts hP
    ⟨e.rootId, id, path, S.id, previous⟩ { execution := e } w₂
  simp only [perform, execIn_bind, hrun, execIn_pure, Prod.mk.injEq, Except.ok.injEq] at h₃
  obtain ⟨rfl, rfl⟩ := h₃
  refine Ensures.bind (Ensures.set ?_)
  -- The pass exits through an edge the step declares, so it is recorded as done.
  simp only [id_eq, Engine.settle, Counting.declares c hcont hexit, Bool.not_true,
    Bool.false_eq_true, if_false]
  refine Ensures.bind (Ensures.lift fun t' w₄ h₄ => ?_)
  have hw₄ : w₄.cancelled = w'.cancelled := by cases h₄; rfl
  refine Ensures.bind ((pushRecord_spec eng id _ _ w₄).and
    ((pushRecord_blind eng id _).keeps_token _ w₄) |>.mono fun _ e₅ w₅ h₅ => ?_)
  obtain ⟨⟨-, rfl⟩, hw₅⟩ := h₅
  refine Ensures.pure ⟨rfl, ⟨_, by rw [hs'], rfl, rfl⟩, ?_⟩
  rw [hw₅, hw₄, hw', hw₂, hw₁]

theorem runNode_of_isStep (step : StepRunner) {node : FlowNode} (h : node.isStep = true)
    (id : String) (index : Nat) (path : String) (previous : Option StepOutput) :
    eng.runNode step id node index path previous none = step id node path previous := by
  cases node <;> simp [FlowNode.isStep, FlowNode.stepId?] at h <;> simp [Engine.runNode]

/-- A fresh round of a loop whose controller counts through `c`, in a run
not cancelled, runs the controller's block as one pass at the index the
round works out from what it is handed, recorded in the loop's instance. -/
theorem control_counts (l : LoopSite) {c : Counting} (hc : CountingController eng l.controller c)
    (out : Option StepOutput) (e : Execution) {w : World} (hw : w.cancelled = false) :
    Ensures (l.control eng eng.runStep out none) e w fun o e' _ =>
      o = .done (some (c.pass (nextIndex out))) ∧
      ∃ r, e' = (c.mark l.loopId (nextIndex out) e).record l.loopId r ∧
        r.output = some (c.pass (nextIndex out)) := by
  unfold LoopSite.control
  rw [Engine.runBlock, Engine.blockFrom]
  split
  · rename_i h
    cases h
  rename_i node h
  cases h
  refine Ensures.bind (Ensures.lift fun b w₁ h₁ => ?_)
  cases h₁
  simp only [Option.isNone_none, hw, Bool.and_false, Bool.false_eq_true, if_false]
  rw [runNode_of_isStep eng _ hc.isStep]
  refine Ensures.bind ((runStep_counts eng hc _ _ out e w).mono fun o e₁ w₁ h₁ => ?_)
  obtain ⟨rfl, hrec, -⟩ := h₁
  dsimp only
  rw [blockFrom_past rfl]
  obtain ⟨r, rfl, hr, -⟩ := hrec
  exact Ensures.pure ⟨rfl, r, rfl, hr⟩

end Engine

/-! ## A round's actions leave the loop's instance alone -/

namespace Execution

/-- Instance `x` stands as `X` and is not the root, where shared writes go. -/
def Pinned (e : Execution) (x : String) (X : FlowInstance) : Prop :=
  e.get? x = some X ∧ e.rootId ≠ x

namespace Pinned

variable {e : Execution} {x : String} {X : FlowInstance}

theorem modify (h : e.Pinned x X) {id : String} (hid : id ≠ x) {f : FlowInstance → FlowInstance}
    (hf : ∀ i, (f i).id = i.id) : (e.modify id f).Pinned x X := by
  refine ⟨?_, h.2⟩
  rw [get?_modify hf, if_neg (Ne.symm hid), h.1]

/-- A step running anywhere but at `x` cannot reach it: its own writes stay in
its instance and its shared writes go to the root. -/
theorem stable {id : String} (hid : id ≠ x) : StepRun.Stable id fun e => e.Pinned x X where
  set _ _ _ h := h.modify hid fun _ => rfl
  shared _ _ _ h := h.modify h.2 fun _ => rfl
  remove e path h := by
    unfold removeState
    split
    · exact h
    · dsimp only
      split
      · exact h
      · exact h.modify hid fun _ => rfl

theorem spawn (h : e.Pinned x X) {e' : Execution} {parentId id : String} {branchType : BranchType}
    {iteration : Option Nat} {now : Timestamp} {child : FlowInstance}
    (hs : e.spawn parentId id branchType iteration now = .ok child e') : e'.Pinned x X := by
  obtain ⟨parent, -, hfree, rfl, rfl⟩ := spawn_eq_ok hs
  refine ⟨?_, h.2⟩
  rw [get?_push, if_neg, h.1]
  -- The new instance's identifier was free, and `x` is taken.
  rintro rfl
  obtain ⟨hmem, hX⟩ := mem_of_get? h.1
  have htaken := has_of_mem hmem
  rw [hX, hfree] at htaken
  cases htaken

end Pinned

end Execution

namespace Engine

variable (eng : Engine) {x : String} {X : FlowInstance}

theorem runStep_pins (id : String) (hid : id ≠ x) (node : FlowNode) (path : String)
    (previous : Option StepOutput) :
    Maintains (fun e _ => e.Pinned x X) (eng.runStep id node path previous) := by
  intro e w h
  refine (runStepWith_stable eng _ id node path previous e w (Execution.Pinned.stable hid) h).mono
    fun _ e' _ hs => ?_
  obtain ⟨e₁, r, h₁, -, rfl, -⟩ := hs
  exact h₁.modify hid fun _ => rfl

theorem completePausedStep_pins (id : String) (hid : id ≠ x) (output : StepOutput) :
    Maintains (fun e _ => e.Pinned x X) (eng.completePausedStep id output) := by
  intro e w h
  refine (completePausedStep_spec eng id output e w).mono fun _ e' _ hs => ?_
  obtain ⟨_, _, _, _, _, rfl⟩ := hs
  exact h.modify hid fun _ => rfl

theorem openInstance_pins (parentId id : String) (branchType : BranchType)
    (iteration : Option Nat) : Maintains (fun e _ => e.Pinned x X)
      (eng.openInstance parentId id branchType iteration) := by
  intro e w h
  refine (openInstance_spec eng parentId id branchType iteration e w).mono fun _ e' _ hs => ?_
  obtain ⟨_, _, hs⟩ := hs
  exact h.spawn hs

theorem finishInstance_pins (id : String) (hid : id ≠ x) (outcome : Outcome) :
    Maintains (fun e _ => e.Pinned x X) (eng.finishInstance id outcome) := by
  intro e w h
  refine (finishInstance_spec eng id outcome e w).mono fun _ e' _ hs => ?_
  split at hs
  · rw [hs]
    exact h
  · obtain ⟨t, rfl⟩ := hs
    exact h.modify hid fun _ => rfl

/-- A round's actions, fresh or re-entered along a cursor that names the
loop's instance nowhere, leave that instance as they found it: the walk acts
only at instances it opens below the loop and at those the cursor names. -/
theorem act_keeps_loop (l : LoopSite) (iteration : Nat) (out : Option StepOutput)
    (resume : Option Resume) (hcur : Frame.CursorWithin (· ≠ l.loopId) (fun _ => True) resume) :
    Maintains (fun e _ => e.Pinned l.loopId X) (l.act eng eng.runStep iteration out resume) := by
  have hwalk := walk_maintains_within eng eng.runStep (fun e _ => e.Pinned l.loopId X)
    (· ≠ l.loopId) (fun _ => True) (fun _ _ _ h _ => h) ?_ (runStep_pins eng)
    (completePausedStep_pins eng) (fun parentId id branchType iteration _ _ =>
      openInstance_pins eng parentId id branchType iteration) (finishInstance_pins eng)
  · unfold LoopSite.act
    exact Maintains.bind (Maintains.quiet (fun _ _ _ h _ => h) (Run.debug_quiet _ _)) fun _ =>
      hwalk.2.2.2.2.2.2 _ _ _ _ _ _ _ _ (fun _ => trivial) hcur
  -- Every instance the walk opens is new, so it is not the loop's.
  intro e w candidate h
  refine ⟨fun heq => ?_, trivial⟩
  have hfree := Execution.has_freshId e candidate
  obtain ⟨hmem, hX⟩ := Execution.mem_of_get? h.1
  have htaken := Execution.has_of_mem hmem
  rw [hX, ← heq, hfree] at htaken
  cases htaken

end Engine

/-! ## The ledger of a counting loop -/

namespace Execution

/-- The outputs of the step records of instance `id`, in order. -/
def outputs (e : Execution) (id : String) : List (Option StepOutput) :=
  ((e.get? id).map fun i => i.steps.map (·.output)).getD []

theorem outputs_record {e : Execution} {id : String} (h : e.has id = true) (r : StepRecord) :
    (e.record id r).outputs id = e.outputs id ++ [r.output] := by
  obtain ⟨I, hI⟩ := Option.isSome_iff_exists.1 (get?_isSome_of_has h)
  simp [outputs, record, get?_modify, hI]

theorem Pinned.outputs_eq {e e' : Execution} {x : String} {X : FlowInstance} (h : e.Pinned x X)
    (h' : e'.Pinned x X) : e'.outputs x = e.outputs x := by
  rw [outputs, outputs, h.1, h'.1]

end Execution

namespace Counting

variable (c : Counting) {x : String} {i : Nat} {e : Execution}

theorem outputs_mark (id : String) (e : Execution) (x : String) :
    (c.mark id i e).outputs x = e.outputs x := by
  unfold mark
  split
  · by_cases hx : x = id
    · subst hx
      cases h : e.get? x <;>
        simp [Execution.outputs, Execution.setState, Execution.get?_modify, h]
    · simp [Execution.outputs, Execution.setState, Execution.get?_modify, hx]
  · rfl

theorem has_mark (id : String) (h : e.has x = true) : (c.mark id i e).has x = true := by
  unfold mark
  split
  · exact ((Execution.Grows.setState _ _ _ _).trans (Execution.Grows.setState _ _ _ _)).has h
  · exact h

theorem grown_mark (id : String) (i : Nat) (h : e.Grown) : (c.mark id i e).Grown := by
  unfold mark
  split
  · exact (h.setState _ _ _).setState _ _ _
  · exact h

theorem rootId_mark (id : String) (e : Execution) : (c.mark id i e).rootId = e.rootId := by
  unfold mark
  split <;> rfl

variable {c}

/-- Recording a step leaves every instance's state, and so the loop variables. -/
theorem Holds.record (h : c.Holds x i e) (id : String) (r : StepRecord) :
    c.Holds x i (e.record id r) := by
  obtain ⟨L, hL, hindex, hitem⟩ := h
  by_cases hx : x = id
  · subst hx
    exact ⟨{ L with steps := L.steps ++ [{ r with sequence := e.stepCount }] },
      by simp [Execution.record, Execution.get?_modify, hL], hindex, hitem⟩
  · exact ⟨L, by simp [Execution.record, Execution.get?_modify, hx, hL], hindex, hitem⟩

theorem Holds.of_pinned {e' : Execution} {X : FlowInstance} (h : c.Holds x i e) (hp : e.Pinned x X)
    (hp' : e'.Pinned x X) : c.Holds x i e' := by
  obtain ⟨L, hL, hindex, hitem⟩ := h
  rw [hp.1] at hL
  cases hL
  exact ⟨X, hp'.1, hindex, hitem⟩

/-- An instance whose lineage reaches the loop's instance, with no nearer
instance of the lineage holding a loop variable, reads the loop variables
there. -/
theorem Holds.lookup (h : c.Holds x i e) {y : String} {nearer rest : List FlowInstance}
    {X : FlowInstance} (hX : e.get? x = some X) (hline : e.lineage y = nearer ++ X :: rest)
    (hindex : ∀ n ∈ nearer, getPath n.state "loop.index" = none)
    (hitem : ∀ n ∈ nearer, getPath n.state "loop.item" = none) :
    e.lookup y "loop.index" = some (.ofNat i) ∧ e.lookup y "loop.item" = some (c.item i) := by
  obtain ⟨L, hL, hi, hit⟩ := h
  rw [hX] at hL
  cases hL
  have hnear : ∀ p, (∀ n ∈ nearer, getPath n.state p = none) →
      nearer.findSome? (fun n => getPath n.state p) = none :=
    fun p hp => List.findSome?_eq_none_iff.2 hp
  simp only [Execution.lookup, hline, List.findSome?_append, hnear _ hindex, hnear _ hitem,
    Option.none_or, List.findSome?_cons, hi, hit, and_self]

/-- In a grown execution, an instance `y` reads the loop variables of the
loop's instance when the loop's instance lies on `y`'s chain of parent links
within the part of it `lineage` keeps, `lineageLength` of `y`'s depth, and no
nearer instance of the chain holds them. -/
theorem Holds.lookup_of_chain (h : c.Holds x i e) (he : e.Grown) {y : String} {Y X : FlowInstance}
    {nearer rest : List FlowInstance} (hY : e.get? y = some Y) (hX : e.get? x = some X)
    (hchain : e.Chain Y (nearer ++ X :: rest)) (hreach : nearer.length < lineageLength Y.depth)
    (hindex : ∀ n ∈ nearer, getPath n.state "loop.index" = none)
    (hitem : ∀ n ∈ nearer, getPath n.state "loop.item" = none) :
    e.lookup y "loop.index" = some (.ofNat i) ∧ e.lookup y "loop.item" = some (c.item i) := by
  have hline := Execution.lineage_eq_take he.linked hY hchain
  -- The lineage keeps the chain up to and past the loop's instance.
  obtain ⟨k, hk⟩ : ∃ k, lineageLength Y.depth = nearer.length + 1 + k :=
    ⟨lineageLength Y.depth - nearer.length - 1, by omega⟩
  rw [hk, List.take_append, List.take_of_length_le (by omega),
    show nearer.length + 1 + k - nearer.length = k + 1 by omega, List.take_succ_cons] at hline
  exact h.lookup hX hline hindex hitem

end Counting

namespace LoopSite

/-- Where a counting loop stands when it enters round `j` handed `out`,
re-entering where `pending` says. Its instance is there and is not the root.
The controller's passes `0, 1, …` are recorded there, one for each round that
decided. The iteration instances of those rounds are opened below it. A fresh
round is handed the pass of the round before, within the bound and the limit.
Re-entered in its actions, the round has passed below both, and its instance
holds the round's loop variables. A counting controller never suspends, so no
round is re-entered in its controller. -/
def CountedTo (l : LoopSite) (eng : Engine) (c : Counting) (j : Nat) (out : Option StepOutput) :
    Option (LoopPhase × Resume) → Execution → Prop
  | none, e => l.loopId ≠ e.rootId ∧ out = c.handed j ∧ j ≤ c.bound ∧
      j ≤ eng.config.maxIterations ∧ e.outputs l.loopId = c.passes j ∧
      e.IteratesAs l.loopId ((List.range j).map some)
  | some (.actions, _), e => l.loopId ≠ e.rootId ∧ out = some (c.pass j) ∧ j < c.bound ∧
      j < eng.config.maxIterations ∧ e.outputs l.loopId = c.passes (j + 1) ∧
      e.IteratesAs l.loopId ((List.range (j + 1)).map some) ∧ c.Holds l.loopId j e
  | some (.controller, _), _ => False

/-- What round `j` leaves once it decided: the pass at `j` recorded after
those before it, within the bound, and below the bound the loop variables of
`j` in the loop's instance. -/
def Passed (l : LoopSite) (c : Counting) (j : Nat) (e : Execution) : Prop :=
  l.loopId ≠ e.rootId ∧ e.outputs l.loopId = c.passes (j + 1) ∧ j ≤ c.bound ∧
    (j < c.bound → c.Holds l.loopId j e)

variable {eng : Engine} {c : Counting} {l : LoopSite}

theorem CountedTo.admits {j : Nat} {out : Option StepOutput} {pending : Option (LoopPhase × Resume)}
    {e : Execution} (h : l.CountedTo eng c j out pending e) :
    Admits eng.config.maxIterations j pending := by
  rcases pending with _ | ⟨_ | _, ρ⟩
  · exact ⟨h.2.2.2.1, fun h' => by simp [actionsResume?] at h'⟩
  · exact h.elim
  · exact ⟨Nat.le_of_lt h.2.2.2.1, fun _ => h.2.2.2.1⟩

/-- A round the ledger admits decides through the pass at its own index: a
fresh round runs the controller, which works the index out from the pass it
is handed; a round re-entered in its actions keeps the pass it made. -/
theorem Decided.counts (hctl : CountingController eng l.controller c)
    (hfit : c.bound < Nat.pow 2 64) {j : Nat} {out out' : Option StepOutput}
    {pending : Option (LoopPhase × Resume)} {e e₁ : Execution} {w w₁ : World}
    (h : l.Decided eng eng.runStep j out pending e w out' e₁ w₁)
    (hled : l.CountedTo eng c j out pending e) : out' = some (c.pass j) ∧ l.Passed c j e₁ := by
  cases h with
  | ran hruns hctl' =>
    rcases pending with _ | ⟨_ | _, ρ⟩
    · obtain ⟨hroot, rfl, hj, -, hout, hnum⟩ := hled
      obtain ⟨ho, r, rfl, hr⟩ :=
        Engine.control_counts eng l hctl (c.handed j) e (hruns.2 rfl) _ _ _ hctl'
      rw [c.nextIndex_handed hfit hj] at ho hr ⊢
      cases ho
      refine ⟨rfl, by simpa only [Execution.record, Execution.modify_rootId, c.rootId_mark] using hroot,
        ?_, hj, fun hlt => ?_⟩
      · rw [Execution.outputs_record (c.has_mark _ hnum.1), c.outputs_mark, hout, hr,
          c.passes_succ]
      · exact (c.holds_mark hnum.1 hlt).record _ _
    · exact hled.elim
    · simp [ControllerRuns, actionsResume?] at hruns
  | reentered hs =>
    rcases pending with _ | ⟨_ | _, ρ⟩
    · simp [actionsResume?] at hs
    · exact hled.elim
    · obtain ⟨hroot, rfl, hj, -, hout, -, hholds⟩ := hled
      exact ⟨rfl, hroot, hout, Nat.le_of_lt hj, fun _ => hholds⟩

/-- The frames of a cursor that name no instance `x` lie where a walk that
keeps away from `x` may act. -/
theorem within_of_clear {x : String} {pending : Option (LoopPhase × Resume)}
    (h : ∀ phase ρ, pending = some (phase, ρ) → ∀ f ∈ ρ.frames, f.instanceId ≠ x) :
    Frame.PendingWithin (fun _ => True) (· ≠ x) pending ∧
      Frame.CursorWithin (· ≠ x) (fun _ => True) (actionsResume? pending) := by
  have hwithin : ∀ f : Frame, f.instanceId ≠ x →
      f.Within (fun _ => True) (· ≠ x) ∧ f.Within (· ≠ x) (fun _ => True) := by
    intro f hf
    cases f with
    | block id index previous => exact ⟨trivial, hf⟩
    | loop id iteration output phase => exact ⟨⟨trivial, hf⟩, ⟨hf, trivial⟩⟩
  refine ⟨fun phase ρ hp f hf => (hwithin f (h phase ρ hp f hf)).1, fun ρ hp f hf => ?_⟩
  rcases pending with _ | ⟨_ | _, ρ'⟩ <;> simp only [actionsResume?, reduceCtorEq] at hp
  cases hp
  exact (hwithin f (h _ _ rfl f hf)).2

/-- The ledger numbers the iteration instances as the rounds opened them. -/
theorem CountedTo.numbered (hne : l.actions ≠ []) {j : Nat} {out : Option StepOutput}
    {pending : Option (LoopPhase × Resume)} {e : Execution} (h : l.CountedTo eng c j out pending e) :
    e.IteratesAs l.loopId ((List.range (l.opened j pending)).map some) := by
  rw [opened_of_actions hne]
  rcases pending with _ | ⟨_ | _, ρ⟩
  · exact h.2.2.2.2.2
  · exact h.elim
  · exact h.2.2.2.2.2.1

/-- A round the ledger admits that goes on to its actions does so with the
pass at its index, below the bound and the limit. Whatever the actions then
end with, the loop's instance still records the passes up to the round's and
holds its loop variables, and the round's iteration instance is opened unless
the actions failed at once. -/
theorem Continues.acts (hctl : CountingController eng l.controller c)
    (hfit : c.bound < Nat.pow 2 64) (hne : l.actions ≠ []) {j : Nat} {out out' : Option StepOutput}
    {pending : Option (LoopPhase × Resume)} {e e₁ e' : Execution} {w w₁ w' : World} {o : Outcome}
    (hc : l.Continues eng eng.runStep j out pending e w out' e₁ w₁)
    (hact : execIn (l.act eng eng.runStep j out' (actionsResume? pending)) e₁ w₁ = (.ok (o, e'), w'))
    (hled : l.CountedTo eng c j out pending e)
    (hclear : ∀ phase ρ, pending = some (phase, ρ) → ∀ f ∈ ρ.frames, f.instanceId ≠ l.loopId) :
    out' = some (c.pass j) ∧ j < c.bound ∧ j < eng.config.maxIterations ∧ l.loopId ≠ e'.rootId ∧
      e'.outputs l.loopId = c.passes (j + 1) ∧ c.Holds l.loopId j e' ∧
      (e'.IteratesAs l.loopId ((List.range (j + 1)).map some) ∨ ∃ f, o = .failed f) := by
  obtain ⟨rfl, hroot, houts, -, hholds⟩ := hc.1.counts hctl hfit hled
  have hj : j < c.bound := c.lt_of_edgeAt (by rw [← c.edgeOf_pass]; exact hc.2.1)
  obtain ⟨hwithin, hcur⟩ := within_of_clear hclear
  -- The actions keep the loop's instance as the decision left it.
  obtain ⟨X, hX, -, -⟩ := hholds hj
  have hpin : e₁.Pinned l.loopId X := ⟨hX, Ne.symm hroot⟩
  have hpin' : e'.Pinned l.loopId X := Engine.act_keeps_loop eng l j _ _ hcur e₁ w₁ hpin _ _ _ hact
  refine ⟨rfl, hj, hc.below hled.admits, Ne.symm hpin'.2, by rw [hpin.outputs_eq hpin', houts],
    (hholds hj).of_pinned hpin hpin', ?_⟩
  rcases hc.act_numbering hne hact hwithin (hled.numbered hne) with hnum | ⟨-, hf⟩
  · exact Or.inl hnum
  · exact Or.inr hf

/-- A round that hands on to the next one leaves the ledger of the next
round. -/
theorem RoundNext.counts (hctl : CountingController eng l.controller c)
    (hfit : c.bound < Nat.pow 2 64) (hne : l.actions ≠ []) {j : Nat} {out out' : Option StepOutput}
    {pending : Option (LoopPhase × Resume)} {e e' : Execution} {w w' : World}
    (hn : l.RoundNext eng eng.runStep j out pending e w out' e' w')
    (hled : l.CountedTo eng c j out pending e)
    (hclear : ∀ phase ρ, pending = some (phase, ρ) → ∀ f ∈ ρ.frames, f.instanceId ≠ l.loopId) :
    l.CountedTo eng c (j + 1) out' none e' := by
  cases hn with
  | empty _ hemp => exact absurd hemp hne
  | done hc _ hact =>
    obtain ⟨rfl, hj, hjM, hroot, houts, -, hnum⟩ := hc.acts hctl hfit hne hact hled hclear
    rcases hnum with hnum | ⟨f, hf⟩
    · exact ⟨hroot, rfl, hj, hjM, houts, hnum⟩
    · cases hf

/-- How a counting loop's rounds end. -/
inductive CountEnd (l : LoopSite) (eng : Engine) (c : Counting) : Outcome → Execution → Prop where
  /-- Within the limit, the controller exits after as many rounds as the
  bound, each with its iteration instance. -/
  | exit {e : Execution} : c.bound ≤ eng.config.maxIterations →
      e.outputs l.loopId = c.passes (c.bound + 1) →
      e.IteratesAs l.loopId ((List.range c.bound).map some) →
      CountEnd l eng c (.done (some (c.pass c.bound))) e
  /-- Beyond the limit, the round at the limit asks to go on. -/
  | limit {e : Execution} : eng.config.maxIterations < c.bound →
      e.outputs l.loopId = c.passes (eng.config.maxIterations + 1) →
      e.IteratesAs l.loopId ((List.range eng.config.maxIterations).map some) →
      CountEnd l eng c (.failed (l.limitFailure eng)) e
  /-- Round `j`'s actions suspend, and the ledger lets the loop be entered
  there again. -/
  | suspended {e : Execution} {j : Nat} {frames : List Frame} {pause : PendingPause} :
      (∀ ρ, l.CountedTo eng c j (some (c.pass j)) (some (.actions, ρ)) e) →
      CountEnd l eng c (.suspended (frames ++ [.loop l.loopId j (some (c.pass j)) .actions]) pause) e
  /-- Round `j`'s actions fail or are cancelled. -/
  | actions {e : Execution} {j : Nat} {o : Outcome} : (o = .cancelled ∨ ∃ f, o = .failed f) →
      j < c.bound → j < eng.config.maxIterations → e.outputs l.loopId = c.passes (j + 1) →
      CountEnd l eng c o e
  /-- A fresh round finds the run cancelled. -/
  | cancelled {e : Execution} {j : Nat} : j ≤ c.bound → e.outputs l.loopId = c.passes j →
      CountEnd l eng c .cancelled e

/-- Along the rounds of a counting loop, entered where its ledger says along a
cursor that names the loop's instance nowhere, the loop ends as `CountEnd`
says. The induction follows the rounds, carrying the ledger from each round
to the next (`RoundNext.counts`). -/
theorem Rounds.counts (hctl : CountingController eng l.controller c)
    (hfit : c.bound < Nat.pow 2 64) (hne : l.actions ≠ []) {j : Nat} {out : Option StepOutput}
    {pending : Option (LoopPhase × Resume)} {e : Execution} {w : World}
    {r : Except FlowError (Outcome × Execution) × World} {calls : Nat}
    (h : l.Rounds eng eng.runStep j out pending e w r calls)
    (hled : l.CountedTo eng c j out pending e)
    (hclear : ∀ phase ρ, pending = some (phase, ρ) → ∀ f ∈ ρ.frames, f.instanceId ≠ l.loopId)
    {o : Outcome} {e' : Execution} {w' : World} (hr : r = (.ok (o, e'), w')) :
    l.CountEnd eng c o e' := by
  induction h with
  | @stop j out pending e e₁ w w₁ o₁ hs =>
    simp only [Prod.mk.injEq, Except.ok.injEq] at hr
    obtain ⟨⟨rfl, rfl⟩, rfl⟩ := hr
    have hwithin := (within_of_clear hclear).1
    cases hs with
    | cancelled =>
      exact .cancelled hled.2.2.1 hled.2.2.2.2.1
    | controller hruns hctl' hnd =>
      -- A counting controller's block always completes.
      rcases pending with _ | ⟨_ | _, ρ⟩
      · obtain ⟨ho, -⟩ := Engine.control_counts eng l hctl out e (hruns.2 rfl) _ _ _ hctl'
        exact absurd ho (hnd _)
      · exact hled.elim
      · simp [ControllerRuns, actionsResume?] at hruns
    | exit hdec hedge =>
      obtain ⟨rfl, -, houts, hj, -⟩ := hdec.counts hctl hfit hled
      have hle := c.le_of_edgeAt (by rw [← c.edgeOf_pass]; exact hedge)
      rcases pending with _ | ⟨_ | _, ρ⟩
      · obtain ⟨-, -, -, hjM, -, hnum⟩ := hled
        obtain rfl : j = c.bound := by omega
        exact .exit hjM houts (hdec.iteratesAs hwithin hnum)
      · exact hled.elim
      · exact absurd hled.2.2.1 (by omega)
    | stray hdec hcont hexit =>
      obtain ⟨rfl, -⟩ := hdec.counts hctl hfit hled
      rw [c.edgeOf_pass] at hcont hexit
      rcases c.edgeAt_cases j with h | h
      · exact absurd h hcont
      · exact absurd h hexit
    | limit hdec hedge hfresh hM =>
      obtain ⟨rfl, -, houts, -, -⟩ := hdec.counts hctl hfit hled
      have hj := c.lt_of_edgeAt (by rw [← c.edgeOf_pass]; exact hedge)
      rcases pending with _ | ⟨_ | _, ρ⟩
      · obtain ⟨-, -, -, hjM, -, hnum⟩ := hled
        obtain rfl : j = eng.config.maxIterations := by omega
        exact .limit hj houts (hdec.iteratesAs hwithin hnum)
      · exact hled.elim
      · simp [actionsResume?] at hfresh
    | actions hc _ hact hnd =>
      obtain ⟨rfl, hj, hjM, hroot, houts, hholds, hnum⟩ := hc.acts hctl hfit hne hact hled hclear
      -- The loop ends as its actions did; a suspension adds the round's frame.
      rename_i o₁ _
      cases o₁ with
      | done d => exact absurd rfl (hnd d)
      | suspended frames pause =>
        rcases hnum with hnum | ⟨f, hf⟩
        · exact .suspended fun _ => ⟨hroot, rfl, hj, hjM, houts, hnum, hholds⟩
        · cases hf
      | failed f => exact .actions (Or.inr ⟨f, rfl⟩) hj hjM houts
      | cancelled => exact .actions (Or.inl rfl) hj hjM houts
  | throw => cases hr
  | next hn _ ih =>
    rw [succ64_below (hn.below hled.admits)] at ih
    exact ih (hn.counts hctl hfit hne hled hclear) (fun _ _ h => by cases h) hr

theorem CountedTo.has {j : Nat} {out : Option StepOutput} {pending : Option (LoopPhase × Resume)}
    {e : Execution} (h : l.CountedTo eng c j out pending e) : e.has l.loopId = true := by
  rcases pending with _ | ⟨_ | _, ρ⟩
  · exact h.2.2.2.2.2.1
  · exact h.elim
  · exact h.2.2.2.2.2.1.1

end LoopSite

/-! ## Counting loops count -/

namespace Engine

variable (eng : Engine)

/-- A round's actions keep the loop variables in the loop's instance. -/
theorem act_keeps_vars (l : LoopSite) (c : Counting) (j : Nat) (out : Option StepOutput)
    (resume : Option Resume) (hcur : Frame.CursorWithin (· ≠ l.loopId) (fun _ => True) resume) :
    Maintains (fun e _ => c.Holds l.loopId j e ∧ l.loopId ≠ e.rootId)
      (l.act eng eng.runStep j out resume) := by
  rintro e w ⟨⟨X, hX, hindex, hitem⟩, hroot⟩ o e' w' hact
  have hpin' : e'.Pinned l.loopId X :=
    act_keeps_loop eng l j out resume hcur e w ⟨hX, Ne.symm hroot⟩ o e' w' hact
  exact ⟨⟨X, hpin'.1, hindex, hitem⟩, Ne.symm hpin'.2⟩

/-- Entered where its ledger says, along a cursor the engine could have saved,
a counting loop's rounds never fail: they return, and end as `CountEnd` says. -/
theorem rounds_count (l : LoopSite) {c : Counting} (hctl : CountingController eng l.controller c)
    (hfit : c.bound < Nat.pow 2 64) (hne : l.actions ≠ []) {j : Nat} {out : Option StepOutput}
    {pending : Option (LoopPhase × Resume)} {e : Execution} (w : World) (hlinked : e.Linked)
    (hled : l.CountedTo eng c j out pending e)
    (hcur : ∀ phase ρ, pending = some (phase, ρ) →
      (Frame.Below e l.loopId ρ.frames ∧ Frame.FitsBlock l.actions ρ.frames) ∧ e.PausedAt ρ.frames) :
    ∃ o e' w', execIn (l.rounds eng eng.runStep j out pending) e w = (.ok (o, e'), w') ∧
      l.CountEnd eng c o e' := by
  obtain ⟨calls, hrounds⟩ := l.rounds_run eng eng.runStep j out pending e w
  have hclear : ∀ phase ρ, pending = some (phase, ρ) → ∀ f ∈ ρ.frames, f.instanceId ≠ l.loopId :=
    fun phase ρ hp => Frame.Below.ne hlinked (hcur phase ρ hp).1.1
  -- The walk fails only on a cursor it could not have saved.
  have hthrows := (walk_total eng (runStep_grows eng) (runStep_total eng)).2.2.2.2.1 l.loopId
    l.controller l.actions l.controllerBase l.actionsBase l.path j out pending e w
    (Execution.get?_isSome_of_has hled.has) (fun r hr => ?_) (fun r hr => ?_)
  · rcases hrun : execIn (l.rounds eng eng.runStep j out pending) e w with ⟨x | ⟨o, e'⟩, w'⟩
    · exact (hthrows x w' hrun).elim
    · exact ⟨o, e', w', rfl, hrounds.counts hctl hfit hne hled hclear hrun⟩
  · -- A counting loop is never re-entered in its controller.
    rcases pending with _ | ⟨_ | _, ρ⟩
    · cases hr
    · exact hled.elim
    · cases hr
  · rcases pending with _ | ⟨_ | _, ρ⟩
    · cases hr
    · cases hr
    · cases hr
      exact hcur _ _ rfl

end Engine

namespace LoopSite

variable {eng : Engine} {c : Counting} {l : LoopSite}

/-- A round the ledger admits that goes on to its actions does so with the
pass at its index and hands them the loop variables of that index in the
loop's instance. -/
theorem Continues.counts (hctl : CountingController eng l.controller c)
    (hfit : c.bound < Nat.pow 2 64) {j : Nat} {out out' : Option StepOutput}
    {pending : Option (LoopPhase × Resume)} {e e₁ : Execution} {w w₁ : World}
    (hc : l.Continues eng eng.runStep j out pending e w out' e₁ w₁)
    (hled : l.CountedTo eng c j out pending e) :
    out' = some (c.pass j) ∧ c.Holds l.loopId j e₁ ∧ l.loopId ≠ e₁.rootId := by
  obtain ⟨rfl, hroot, -, -, hholds⟩ := hc.1.counts hctl hfit hled
  have hj := c.lt_of_edgeAt (by rw [← c.edgeOf_pass]; exact hc.2.1)
  exact ⟨rfl, hholds hj, hroot⟩

/-- What a loop whose controller counts through `c` guarantees, round by
round and over its whole run. -/
structure Counts (l : LoopSite) (eng : Engine) (c : Counting) : Prop where
  /-- A round the ledger admits that goes on to its actions does so with the
  pass at its index, and hands them the loop variables of that index in the
  loop's instance. -/
  passes : ∀ j out pending e w out' e₁ w₁, l.CountedTo eng c j out pending e →
    l.Continues eng eng.runStep j out pending e w out' e₁ w₁ →
    out' = some (c.pass j) ∧ c.Holds l.loopId j e₁ ∧ l.loopId ≠ e₁.rootId
  /-- The actions keep the loop variables there, fresh or re-entered along a
  cursor that names the loop's instance nowhere. -/
  keeps : ∀ j out resume, Frame.CursorWithin (· ≠ l.loopId) (fun _ => True) resume →
    Maintains (fun e _ => c.Holds l.loopId j e ∧ l.loopId ≠ e.rootId)
      (l.act eng eng.runStep j out resume)
  /-- A round that hands on to the next one leaves the next round's ledger. -/
  next : ∀ j out pending e w out' e' w', l.CountedTo eng c j out pending e →
    (∀ phase ρ, pending = some (phase, ρ) → ∀ f ∈ ρ.frames, f.instanceId ≠ l.loopId) →
    l.RoundNext eng eng.runStep j out pending e w out' e' w' →
    l.CountedTo eng c (j + 1) out' none e'
  /-- Entered where the ledger says, along a cursor the engine could have
  saved, the rounds return and end as `CountEnd` says. -/
  ends : ∀ j out pending e w, e.Linked → l.CountedTo eng c j out pending e →
    (∀ phase ρ, pending = some (phase, ρ) →
      (Frame.Below e l.loopId ρ.frames ∧ Frame.FitsBlock l.actions ρ.frames) ∧
        e.PausedAt ρ.frames) →
    ∃ o e' w', execIn (l.rounds eng eng.runStep j out pending) e w = (.ok (o, e'), w') ∧
      l.CountEnd eng c o e'
  /-- An instance of a grown execution reads the loop variables the loop's
  instance holds when that instance lies within the part of its chain of
  parent links that `lineage` keeps, and no nearer instance holds them. -/
  reads : ∀ i e, c.Holds l.loopId i e → e.Grown → ∀ y Y X nearer rest,
    e.get? y = some Y → e.get? l.loopId = some X → e.Chain Y (nearer ++ X :: rest) →
    nearer.length < lineageLength Y.depth →
    (∀ n ∈ nearer, getPath n.state "loop.index" = none) →
    (∀ n ∈ nearer, getPath n.state "loop.item" = none) →
    e.lookup y "loop.index" = some (.ofNat i) ∧ e.lookup y "loop.item" = some (c.item i)

end LoopSite

/-- A loop whose controller counts through `c`, as the built-in
`logic.control.loop` does in `count` and `forEach` mode, and that has actions,
counts. Every round it enters goes on with the pass at its own index and
hands its actions that index and its item in the loop's instance, where the
actions keep them. Entered where its ledger says, the loop returns: through
`exit` after as many iterations as the bound when the bound is within the
limit, with `iterationLimitExceeded` after exactly the limit's iterations when
it is beyond, suspended in a round's actions with the ledger to go on, or
stopped by actions that do not complete or by a cancelled run. The actions
read the loop variables only from where the lineage reaches the loop's
instance. -/
theorem counting_loops_count (eng : Engine) (l : LoopSite) (c : Counting)
    (hctl : CountingController eng l.controller c) (hfit : c.bound < Nat.pow 2 64)
    (hne : l.actions ≠ []) : l.Counts eng c where
  passes _ _ _ _ _ _ _ _ hled hc := hc.counts hctl hfit hled
  keeps j out resume hcur := Engine.act_keeps_vars eng l c j out resume hcur
  next _ _ _ _ _ _ _ _ hled hclear hn := hn.counts hctl hfit hne hled hclear
  ends _ _ _ _ w hlinked hled hcur := Engine.rounds_count eng l hctl hfit hne w hlinked hled hcur
  reads _ _ h he _ _ _ _ _ hY hX hchain hreach hindex hitem :=
    h.lookup_of_chain he hY hX hchain hreach hindex hitem

/-- The engine with the built-in steps, looked up by identifier. -/
def builtinEngine : Engine := { registry := { steps := builtinSteps } }

/-- The built-in loop controller counting to two. -/
def countToTwo : FlowNode :=
  .call "logic.control.loop" (Value.object [("maxIterations", Value.ofNat 2)])

/-- A loop of that controller and one action. -/
def countToTwoLoop : LoopSite :=
  ⟨"r-0-loop", countToTwo, [.step "step.echo"], "0.controller", "0.actions", "0"⟩

/-- The built-in loop controller with `maxIterations` two counts to two, and
the loop's instance in `countingStart` is where the ledger lets it start. -/
theorem countToTwo_counts :
    CountingController builtinEngine countToTwoLoop.controller ⟨2, Value.ofNat⟩ ∧
      2 < Nat.pow 2 64 ∧ countToTwoLoop.actions ≠ [] ∧
      countToTwoLoop.Counts builtinEngine ⟨2, Value.ofNat⟩ ∧ countingStart.Linked ∧
      countToTwoLoop.CountedTo builtinEngine ⟨2, Value.ofNat⟩ 0 none none countingStart := by
  have hctl : CountingController builtinEngine countToTwoLoop.controller ⟨2, Value.ofNat⟩ :=
    ⟨rfl, _, _, rfl, rfl, rfl, rfl, rfl⟩
  have hfit : 2 < Nat.pow 2 64 := by decide
  have hne : countToTwoLoop.actions ≠ [] := by simp [countToTwoLoop]
  have hlinked : countingStart.Linked :=
    (@Execution.Grown.spawn _ _ "r" "r-0-loop" .loop none (Timestamp.ofNanos 0) _
      (.create "r" .null (Timestamp.ofNanos 0)) rfl).linked
  exact ⟨hctl, hfit, hne, counting_loops_count _ _ _ hctl hfit hne, hlinked,
    by decide, rfl, by decide, by decide, rfl, rfl, rfl⟩

/-- A root, a loop's instance holding the loop variables of round `0`, its
iteration instance and three levels of sub-flows below that: an action at
depth 5 of a loop at depth 1. -/
def deepAction : EStateM.Result FlowError Execution Unit :=
  let t := Timestamp.ofNanos 0
  (do
    discard <| Execution.spawn.go "r" "l" .loop none t
    set ((⟨1, Value.ofNat⟩ : Counting).mark "l" 0 (← get))
    discard <| Execution.spawn.go "l" "i" .loopActions (some 0) t
    discard <| Execution.spawn.go "i" "s1" .sequence none t
    discard <| Execution.spawn.go "s1" "s2" .sequence none t
    discard <| Execution.spawn.go "s2" "s3" .sequence none t).run
    (Execution.create "r" .null t)

/-- The lineage of the action at depth 5 stops short of the loop's instance,
so the action does not read the round's index that its iteration instance,
two levels up, reads. -/
theorem deep_action_misses_index :
    ∃ e, deepAction = .ok () e ∧ e.Grown ∧ (⟨1, Value.ofNat⟩ : Counting).Holds "l" 0 e ∧
      (e.lineage "s3").map (·.id) = ["s3", "s2", "s1", "i"] ∧
      e.lookup "i" "loop.index" = some (.ofNat 0) ∧ e.lookup "s3" "loop.index" = none := by
  have hrun : ∀ e, deepAction = .ok () e → e.Grown ∧ (⟨1, Value.ofNat⟩ : Counting).Holds "l" 0 e ∧
      (e.lineage "s3").map (·.id) = ["s3", "s2", "s1", "i"] ∧
      e.lookup "i" "loop.index" = some (.ofNat 0) ∧ e.lookup "s3" "loop.index" = none := by
    intro e he
    injection he with _ he
    have g₁ := @Execution.Grown.spawn _ _ "r" "l" .loop none (Timestamp.ofNanos 0) _
      (.create "r" .null (Timestamp.ofNanos 0)) rfl
    have g₂ := (⟨1, Value.ofNat⟩ : Counting).grown_mark "l" 0 g₁
    have g₃ := @Execution.Grown.spawn _ _ "l" "i" .loopActions (some 0) (Timestamp.ofNanos 0) _ g₂ rfl
    have g₄ := @Execution.Grown.spawn _ _ "i" "s1" .sequence none (Timestamp.ofNanos 0) _ g₃ rfl
    have g₅ := @Execution.Grown.spawn _ _ "s1" "s2" .sequence none (Timestamp.ofNanos 0) _ g₄ rfl
    have hgrown : e.Grown := by
      subst he
      exact @Execution.Grown.spawn _ _ "s2" "s3" .sequence none (Timestamp.ofNanos 0) _ g₅ rfl
    have hholds : (⟨1, Value.ofNat⟩ : Counting).Holds "l" 0 e := by
      subst he
      exact ⟨_, rfl, by exact (getPath_loop_vars _ _ _).1, by exact (getPath_loop_vars _ _ _).2⟩
    -- The iteration instance's lineage reaches the loop's instance, past its
    -- own empty state; the action's stops short of it.
    obtain ⟨I, L, R, hline, hL, hindex, hitem⟩ : ∃ I L R, e.lineage "i" = [I] ++ L :: [R] ∧
        e.get? "l" = some L ∧ getPath I.state "loop.index" = none ∧
        getPath I.state "loop.item" = none := by
      subst he
      exact ⟨_, _, _, rfl, rfl, by simp only [getPath, segments_loop_index]; rfl,
        by simp only [getPath, segments_loop_item]; rfl⟩
    refine ⟨hgrown, hholds, by subst he; decide, ?_, ?_⟩
    · exact (hholds.lookup hL hline (by simpa using hindex) (by simpa using hitem)).1
    · subst he
      simp only [Execution.lookup, getPath, segments_loop_index]
      rfl
  obtain ⟨e, he⟩ : ∃ e, deepAction = .ok () e := ⟨_, rfl⟩
  exact ⟨e, he, hrun e he⟩

end Flowline
