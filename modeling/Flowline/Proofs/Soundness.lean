import Mathlib
import Flowline.Proofs.Propagation
set_option autoImplicit false

/-!
# What validation guarantees

`FlowNode.Fits registry limit depth node` says what running `node` in an
instance at depth `depth` needs so that it cannot fail for its structure:
every step it names resolves with its parameters, every loop has a
controller, and every instance it opens lies within `limit`.

Validation walks the nodes the way the engine runs them and reports an error
for each of these that does not hold, with one exception: an empty sub-flow
is only a warning, and its depth is never checked, although running it still
opens an instance. So a definition that validates fits the engine once its
empty sub-flows lie within the limit (`FlowNode.EmptyWithin`), and then
exactly (`validateFlow_fits`).

The proof follows the validation walk: `Walk.Sound` says that a walk adds
issues after those found before it and that, if none of those it adds is an
error, its result has a property. Each walk function is sound for `Fits`, by
structural recursion on the nodes that follows the walk's own (`node_sound`,
`arms_sound`, `block_sound`).
-/

namespace Flowline

/-- What running a node in an instance at depth `depth` needs so that it
cannot fail for its structure. -/
inductive FlowNode.Fits (registry : Registry) (limit : Nat) : Nat → FlowNode → Prop where
  | step {depth : Nat} {id : String} {r : StepDefinition × Fields} :
      registry.resolveNode (.step id) = .ok r → Fits registry limit depth (.step id)
  | call {depth : Nat} {id : String} {params : Value} {r : StepDefinition × Fields} :
      registry.resolveNode (.call id params) = .ok r → Fits registry limit depth (.call id params)
  | sequence {depth : Nat} {children : List FlowNode} : depth + 1 ≤ limit →
      (∀ c ∈ children, Fits registry limit (depth + 1) c) → Fits registry limit depth (.sequence children)
  | loop {depth : Nat} {controller : FlowNode} {actions : List FlowNode} : depth + 1 ≤ limit →
      Fits registry limit (depth + 1) controller → (actions ≠ [] → depth + 2 ≤ limit) →
      (∀ a ∈ actions, Fits registry limit (depth + 2) a) → Fits registry limit depth (.loop (controller :: actions))
  | branch {depth : Nat} {arms : List (String × FlowNode)} : (arms ≠ [] → depth + 1 ≤ limit) →
      (∀ a ∈ arms, ∀ n ∈ armNodes a.2, Fits registry limit (depth + 1) n) → Fits registry limit depth (.branch arms)

/-- Every empty sub-flow in a node run at depth `depth` opens its instance
within `limit`. -/
inductive FlowNode.EmptyWithin (limit : Nat) : Nat → FlowNode → Prop where
  | step {depth : Nat} {id : String} : EmptyWithin limit depth (.step id)
  | call {depth : Nat} {id : String} {params : Value} : EmptyWithin limit depth (.call id params)
  | sequence {depth : Nat} {children : List FlowNode} : (children = [] → depth + 1 ≤ limit) →
      (∀ c ∈ children, EmptyWithin limit (depth + 1) c) → EmptyWithin limit depth (.sequence children)
  | loopEmpty {depth : Nat} : EmptyWithin limit depth (.loop [])
  | loop {depth : Nat} {controller : FlowNode} {actions : List FlowNode} :
      EmptyWithin limit (depth + 1) controller → (∀ a ∈ actions, EmptyWithin limit (depth + 2) a) →
      EmptyWithin limit depth (.loop (controller :: actions))
  | branch {depth : Nat} {arms : List (String × FlowNode)} :
      (∀ a ∈ arms, ∀ n ∈ armNodes a.2, EmptyWithin limit (depth + 1) n) → EmptyWithin limit depth (.branch arms)

/-- The nodes of an arm that is not a sequence are the arm itself. -/
theorem armNodes_of_ne {node : FlowNode} (h : ∀ nodes, node = .sequence nodes → False) :
    armNodes node = [node] := by
  cases node with
  | sequence nodes => exact absurd rfl (h nodes)
  | _ => rfl

/-! ## A calculus for the validation walk -/

namespace Walk

/-- Runs a walk in context `ctx` from state `s`. -/
def exec {α : Type} (m : Walk α) (ctx : Registry × Nat) (s : WalkState) : α × WalkState :=
  (m.run ctx).run s

/-- Run from any state, `m` adds issues after those found before it, and if
none it adds is an error, its result satisfies `P`. -/
def Sound {α : Type} (ctx : Registry × Nat) (m : Walk α) (P : α → Prop) : Prop :=
  ∀ s, ∃ added : List Issue, (exec m ctx s).2.issues.toList = s.issues.toList ++ added ∧
    ((∀ i ∈ added, i.isError = false) → P (exec m ctx s).1)

namespace Sound

variable {α β : Type} {ctx : Registry × Nat}

theorem pure {a : α} {P : α → Prop} (h : P a) : Sound ctx (Pure.pure a) P :=
  fun _ => ⟨[], (List.append_nil _).symm, fun _ => h⟩

/-- Sequencing: what the first walk gives may be assumed by the rest. -/
theorem bind {m : Walk α} {f : α → Walk β} {P : α → Prop} {Q : β → Prop} (hm : Sound ctx m P)
    (hf : ∀ a, Sound ctx (f a) fun b => P a → Q b) : Sound ctx (m >>= f) Q := by
  intro s
  obtain ⟨added₁, h₁, hp₁⟩ := hm s
  obtain ⟨added₂, h₂, hp₂⟩ := hf (exec m ctx s).1 (exec m ctx s).2
  refine ⟨added₁ ++ added₂, ?_, fun hclean => ?_⟩
  · change (exec (f (exec m ctx s).1) ctx (exec m ctx s).2).2.issues.toList = _
    rw [h₂, h₁, List.append_assoc]
  · have hp := hp₁ fun i hi => hclean i (List.mem_append_left _ hi)
    exact hp₂ (fun i hi => hclean i (List.mem_append_right _ hi)) hp

theorem mono {m : Walk α} {P Q : α → Prop} (h : Sound ctx m P) (hq : ∀ a, P a → Q a) :
    Sound ctx m Q := fun s =>
  let ⟨added, hs, hp⟩ := h s
  ⟨added, hs, fun hc => hq _ (hp hc)⟩

/-- A walk whose result is not looked at. -/
theorem after {m : Walk α} {f : α → Walk β} {P : α → Prop} {Q : β → Prop} (hm : Sound ctx m P)
    (hf : ∀ a, Sound ctx (f a) Q) : Sound ctx (m >>= f) Q :=
  bind hm fun a => (hf a).mono fun _ hq _ => hq

theorem ite {c : Prop} [Decidable c] {m₁ m₂ : Walk α} {P : α → Prop} (h₁ : c → Sound ctx m₁ P)
    (h₂ : ¬c → Sound ctx m₂ P) : Sound ctx (if c then m₁ else m₂) P := by
  split
  · exact h₁ ‹_›
  · exact h₂ ‹_›

/-- Reading the context gives the context. -/
theorem read_bind {f : Registry × Nat → Walk β} {Q : β → Prop} (h : Sound ctx (f ctx) Q) :
    Sound ctx (MonadReader.read >>= f) Q := h

/-- Reporting an issue adds it. -/
theorem report (i : Issue) : Sound ctx (Walk.report i) fun _ => i.isError = false := by
  intro s
  refine ⟨[i], ?_, fun h => h i (List.mem_singleton_self i)⟩
  change (s.issues.push i).toList = _
  simp

theorem countReference (step : String) : Sound ctx (Walk.countReference step) fun _ => True :=
  fun _ => ⟨[], (List.append_nil _).symm, fun _ => trivial⟩

/-- A loop of reports adds what its rounds add. -/
theorem forIn {γ : Type} (l : List γ) (init : α) {body : γ → α → Walk (ForInStep α)}
    (h : ∀ x b, Sound ctx (body x b) fun _ => True) :
    Sound ctx (ForIn.forIn l init body) fun _ => True := by
  induction l generalizing init with
  | nil => exact pure trivial
  | cons x rest ih =>
    simp only [List.forIn_cons]
    refine after (h x init) fun step => ?_
    cases step with
    | done b => exact pure trivial
    | yield b => exact ih b

/-- Two walks in a row: the first one's result is not looked at. -/
theorem both {m : Walk α} {f : α → Walk β} {P Q : Prop} (hm : Sound ctx m fun _ => P)
    (hf : ∀ a, Sound ctx (f a) fun _ => Q) : Sound ctx (m >>= f) fun _ => P ∧ Q :=
  bind hm fun a => (hf a).mono fun _ hq hp => ⟨hp, hq⟩

/-- Reporting an error: nothing is promised after it. -/
theorem reportError {i : Issue} (h : i.isError = true) (a : α) {P : α → Prop} :
    Sound ctx (Walk.report i >>= fun _ => Pure.pure a) P :=
  bind (report i) fun _ => pure fun hw => absurd hw (by simp [h])

/-- The depth check passes only within the limit. -/
theorem withinDepth {reg : Registry} {limit : Nat} (path : String) (depth : Nat) :
    Sound (reg, limit) (Walk.withinDepth path depth) fun ok => ok = true ∧ depth ≤ limit := by
  unfold Walk.withinDepth
  refine read_bind ?_
  dsimp only
  exact ite (fun _ => reportError rfl _) (fun _ => pure ⟨rfl, by omega⟩)

/-- A walk guarded by the depth check. -/
theorem guarded {reg : Registry} {limit : Nat} {path : String} {depth : Nat} {m : Walk Unit}
    {P : Prop} (h : Sound (reg, limit) m fun _ => P) :
    Sound (reg, limit) (do if ← Walk.withinDepth path depth then m) fun _ => depth ≤ limit ∧ P :=
  bind (withinDepth path depth) fun _ =>
    ite (fun _ => h.mono fun _ hp hd => ⟨hd.2, hp⟩) (fun hok => pure fun hd => absurd hd.1 hok)

end Sound

end Walk

/-! ## The walk is sound for `Fits` -/

section WalkSound

variable {reg : Registry} {limit : Nat}

/-- A step that validation accepts resolves with its parameters. -/
theorem walkStep_sound (node : FlowNode) (path : String) :
    Walk.Sound (reg, limit) (walkStep node path) fun _ => ∃ r, reg.resolveNode node = .ok r := by
  unfold walkStep
  dsimp only
  -- a plain step is counted first; then every node is resolved the same way
  split
  case' h_1 => refine Walk.Sound.after (Walk.Sound.countReference _) fun _ => ?_
  all_goals
    refine Walk.Sound.read_bind ?_
    dsimp only
    split
    · exact Walk.Sound.reportError rfl _
    · exact Walk.Sound.reportError rfl _
    · rename_i step hres
      refine Walk.Sound.ite (fun _ => Walk.Sound.reportError rfl _) (fun _ => ?_)
      split
      · exact Walk.Sound.reportError rfl _
      · exact Walk.Sound.reportError rfl _
      · rename_i params hparams
        exact Walk.Sound.pure ⟨(step, params), by
          simp only [Registry.resolveNode, hres, hparams, bind, Except.bind]; rfl⟩

/-- What the walk of a node establishes: the node fits once its empty
sub-flows do. -/
abbrev NodeSound (reg : Registry) (limit : Nat) (node : FlowNode) (path : String) (depth : Nat)
    (previous : Entry) : Prop :=
  Walk.Sound (reg, limit) (walkNode node path depth previous) fun _ =>
    node.EmptyWithin limit depth → node.Fits reg limit depth

/-- What the walk of a branch's arms establishes, node by node. -/
abbrev ArmsSound (reg : Registry) (limit : Nat) (arms : List (String × FlowNode)) (path : String)
    (depth : Nat) : Prop :=
  Walk.Sound (reg, limit) (walkArms arms path depth) fun _ =>
    ∀ a ∈ arms, ∀ n ∈ armNodes a.2, n.EmptyWithin limit depth → n.Fits reg limit depth

/-- What the walk of a block establishes, node by node. -/
abbrev BlockSound (reg : Registry) (limit : Nat) (nodes : List FlowNode) (base : String)
    (depth index : Nat) (previous : Entry) : Prop :=
  Walk.Sound (reg, limit) (walkBlock nodes base depth index previous) fun _ =>
    ∀ n ∈ nodes, n.EmptyWithin limit depth → n.Fits reg limit depth

/-- A sequence fits once its nodes do as a block one level down; an empty one
is only a warning, and its depth is not checked. -/
theorem sequence_sound {children : List FlowNode} (path : String) (depth : Nat) (previous : Entry)
    (ih : BlockSound reg limit children path (depth + 1) 0 previous) :
    NodeSound reg limit (.sequence children) path depth previous := by
  rw [NodeSound, walkNode]
  refine Walk.Sound.ite (fun hempty => ?_) fun _ => ?_
  · refine Walk.Sound.after (Walk.Sound.report _) fun _ => Walk.Sound.pure fun hE => ?_
    have hnil : children = [] := List.isEmpty_iff.mp hempty
    subst hnil
    cases hE with
    | sequence hd _ => exact .sequence (hd rfl) fun _ h => absurd h List.not_mem_nil
  · refine Walk.Sound.bind (Walk.Sound.withinDepth path (depth + 1)) fun ok => ?_
    refine Walk.Sound.ite (fun _ => ?_) fun hno => Walk.Sound.pure fun h => absurd h.1 hno
    refine Walk.Sound.bind ih fun _ => Walk.Sound.pure ?_
    intro hchildren hd hE
    cases hE with
    | sequence _ hEc => exact .sequence hd.2 fun c hc => hchildren c hc (hEc c hc)

/-- A loop with a controller fits once its controller does one level down and
its actions two. -/
theorem loop_sound {controller : FlowNode} {actions : List FlowNode} (path : String) (depth : Nat)
    (previous : Entry)
    (ihc : NodeSound reg limit controller (nodePath s!"{path}.controller" 0) (depth + 1) .unknown)
    (iha : BlockSound reg limit actions s!"{path}.actions" (depth + 2) 0
      (.edges s!"loop {path}" ["continue"])) :
    NodeSound reg limit (.loop (controller :: actions)) path depth previous := by
  rw [NodeSound, walkNode]
  dsimp only
  refine Walk.Sound.bind (Walk.Sound.withinDepth path (depth + 1)) fun ok => ?_
  refine Walk.Sound.ite (fun _ => ?_) fun hno => Walk.Sound.pure fun h => absurd h.1 hno
  refine Walk.Sound.bind ihc fun _ => ?_
  -- the check of the controller's edges reports at most; the actions come after it
  split
  case' h_1 =>
    refine Walk.Sound.read_bind ?_
    dsimp only
    split
    case' h_1 =>
      refine Walk.Sound.ite (fun _ => Walk.Sound.after (Walk.Sound.report _) fun _ => ?_)
        fun _ => ?_
  all_goals
    refine Walk.Sound.ite (fun _ => ?_) fun hempty => Walk.Sound.pure fun hc hd hE => ?_
    · refine Walk.Sound.bind (Walk.Sound.withinDepth _ (depth + 2)) fun ok' => ?_
      refine Walk.Sound.ite (fun _ => ?_) fun hno => Walk.Sound.pure fun h => absurd h.1 hno
      refine Walk.Sound.bind iha fun _ => Walk.Sound.pure ?_
      intro hactions hd' hc hd hE
      cases hE with
      | loop hEc hEa =>
        exact .loop hd.2 (hc hEc) (fun _ => hd'.2) fun a ha => hactions a ha (hEa a ha)
    · have hnil : actions = [] := by simpa using hempty
      subst hnil
      cases hE with
      | loop hEc _ => exact .loop hd.2 (hc hEc) (fun h => absurd rfl h) fun _ h => absurd h List.not_mem_nil

/-- A branch fits once its arms do one level down, whichever node runs before
it; with no arms it is an error, but fits anyway. -/
theorem branch_sound {arms : List (String × FlowNode)} (path : String) (depth : Nat)
    (previous : Entry) (ih : ArmsSound reg limit arms path (depth + 1)) :
    NodeSound reg limit (.branch arms) path depth previous := by
  rw [NodeSound, walkNode]
  dsimp only
  refine Walk.Sound.ite (fun hempty => ?_) fun _ => ?_
  · have hnil : arms = [] := List.isEmpty_iff.mp hempty
    subst hnil
    exact Walk.Sound.after (Walk.Sound.report _) fun _ =>
      Walk.Sound.pure fun _ => .branch (fun h => absurd rfl h) fun _ h => absurd h List.not_mem_nil
  -- a single arm is only a warning; the uncovered edges are warnings too
  split
  case' h_1 => refine Walk.Sound.after (Walk.Sound.report _) fun _ => ?_
  all_goals
    refine Walk.Sound.after (Walk.Sound.forIn _ _ fun i _ =>
      Walk.Sound.after (Walk.Sound.report i) fun _ => Walk.Sound.pure trivial) fun _ => ?_
    refine Walk.Sound.bind (Walk.Sound.withinDepth path (depth + 1)) fun ok => ?_
    refine Walk.Sound.ite (fun _ => ?_) fun hno => Walk.Sound.pure fun h => absurd h.1 hno
    refine Walk.Sound.bind ih fun _ => Walk.Sound.pure ?_
    intro harms hd hE
    cases hE with
    | branch hEa => exact .branch (fun _ => hd.2) fun a ha n hn => harms a ha n hn (hEa a ha n hn)

/-- An arm that is not a sequence is a block of one node. -/
theorem arm_sound {edge : String} {target : FlowNode} {rest : List (String × FlowNode)}
    (path : String) (depth : Nat) (hother : ∀ nodes, target = .sequence nodes → False)
    (ihn : NodeSound reg limit target (nodePath s!"{path}.{edge}" 0) depth
      (.edges s!"branch {path}" [edge]))
    (ihr : ArmsSound reg limit rest path depth) :
    ArmsSound reg limit ((edge, target) :: rest) path depth := by
  rw [ArmsSound, walkArms.eq_3 _ _ _ _ _ hother]
  refine Walk.Sound.bind ihn fun _ => ihr.mono fun _ hrest htarget => ?_
  refine List.forall_mem_cons.mpr ⟨?_, hrest⟩
  rw [armNodes_of_ne hother]
  exact List.forall_mem_singleton.mpr htarget

/- Each walk function is sound for `Fits`, by structural recursion on the
nodes, following the walk's own recursion. -/
mutual

/-- Walking a node is sound for `Fits`. -/
theorem node_sound : ∀ (node : FlowNode) (path : String) (depth : Nat) (previous : Entry),
    NodeSound reg limit node path depth previous
  | .step _, path, _, _ => by
    rw [NodeSound, walkNode]
    exact (walkStep_sound _ path).mono fun _ ⟨_, hr⟩ _ => .step hr
  | .call .., path, _, _ => by
    rw [NodeSound, walkNode]
    exact (walkStep_sound _ path).mono fun _ ⟨_, hr⟩ _ => .call hr
  | .sequence children, path, depth, previous =>
    sequence_sound path depth previous (block_sound children path (depth + 1) 0 previous)
  -- an empty loop is an error
  | .loop [], path, depth, previous => by
    rw [NodeSound, walkNode]
    exact Walk.Sound.reportError rfl _
  | .loop (controller :: actions), path, depth, previous =>
    loop_sound path depth previous (node_sound controller _ _ _) (block_sound actions _ _ _ _)
  | .branch arms, path, depth, previous =>
    branch_sound path depth previous (arms_sound arms path (depth + 1))

/-- Walking the arms of a branch is sound for `Fits`. -/
theorem arms_sound : ∀ (arms : List (String × FlowNode)) (path : String) (depth : Nat),
    ArmsSound reg limit arms path depth
  | [], path, depth => by
    rw [ArmsSound, walkArms]
    exact Walk.Sound.pure fun _ h => absurd h List.not_mem_nil
  -- an arm that is a sequence: its nodes are a block
  | (edge, .sequence nodes) :: rest, path, depth => by
    rw [ArmsSound, walkArms]
    refine Walk.Sound.bind (block_sound nodes _ depth 0 _) fun _ =>
      (arms_sound rest path depth).mono fun _ hrest hnodes => ?_
    exact List.forall_mem_cons.mpr ⟨hnodes, hrest⟩
  | (_, .step _) :: rest, path, depth =>
    arm_sound path depth (fun _ h => by cases h) (node_sound _ _ _ _) (arms_sound rest path depth)
  | (_, .call ..) :: rest, path, depth =>
    arm_sound path depth (fun _ h => by cases h) (node_sound _ _ _ _) (arms_sound rest path depth)
  | (_, .loop _) :: rest, path, depth =>
    arm_sound path depth (fun _ h => by cases h) (node_sound _ _ _ _) (arms_sound rest path depth)
  | (_, .branch _) :: rest, path, depth =>
    arm_sound path depth (fun _ h => by cases h) (node_sound _ _ _ _) (arms_sound rest path depth)

/-- Walking a block is sound for `Fits`. -/
theorem block_sound : ∀ (nodes : List FlowNode) (base : String) (depth index : Nat)
    (previous : Entry), BlockSound reg limit nodes base depth index previous
  | [], base, depth, index, previous => by
    rw [BlockSound, walkBlock]
    exact Walk.Sound.pure fun _ h => absurd h List.not_mem_nil
  | node :: rest, base, depth, index, previous => by
    rw [BlockSound, walkBlock]
    refine Walk.Sound.bind (node_sound node _ _ _) fun next =>
      (block_sound rest base depth (index + 1) next).mono fun _ hrest hnode => ?_
    exact List.forall_mem_cons.mpr ⟨hnode, hrest⟩

end

end WalkSound

/-! ## Valid definitions fit -/

/-- Every result of a logging computation satisfies `Q`, whatever was logged
before it. -/
def Logged.Ensures {α : Type} (m : Logged α) (Q : α → Prop) : Prop :=
  ∀ rs, Q (m.run rs).1

namespace Logged.Ensures

variable {α β : Type}

theorem pure {a : α} {Q : α → Prop} (h : Q a) : Logged.Ensures (Pure.pure a) Q := fun _ => h

/-- What is logged first does not matter to the result. -/
theorem after {m : Logged α} {f : α → Logged β} {Q : β → Prop} (h : ∀ a, Logged.Ensures (f a) Q) :
    Logged.Ensures (m >>= f) Q := fun _ => h _ _

theorem ite {c : Prop} [Decidable c] {m₁ m₂ : Logged α} {Q : α → Prop} (h₁ : Logged.Ensures m₁ Q)
    (h₂ : Logged.Ensures m₂ Q) : Logged.Ensures (if c then m₁ else m₂) Q := by
  split
  · exact h₁
  · exact h₂

theorem collect {m : Logged α} {Q : α → Prop} (h : Logged.Ensures m Q) : Q (Logged.collect m).1 :=
  h #[]

end Logged.Ensures

/-- A report is valid exactly when none of its issues is an error. -/
theorem ValidationReport.valid_ofIssues {issues : List Issue} :
    (ValidationReport.ofIssues issues).valid = true ↔ ∀ i ∈ issues, i.isError = false := by
  simp [ValidationReport.ofIssues, List.filter_eq_nil_iff]

/-- Every node of a definition that validates fits the engine at the top
level, once its empty sub-flows do. -/
theorem validateFlow_fits (d : FlowDefinition) (reg : Registry) (config : EngineConfig) :
    Logged.Ensures (validateFlow d reg config) fun report => report.valid = true →
      ∀ n ∈ d.nodes, n.EmptyWithin config.maxDepth 0 → n.Fits reg config.maxDepth 0 := by
  have hwalk : Walk.Sound (reg, config.maxDepth) (walkDefinition d)
      fun _ => ∀ n ∈ d.nodes, n.EmptyWithin config.maxDepth 0 → n.Fits reg config.maxDepth 0 := by
    unfold walkDefinition
    dsimp only
    exact Walk.Sound.ite (fun _ => Walk.Sound.after (Walk.Sound.report _) fun _ =>
      block_sound _ _ _ _ _) fun _ => block_sound _ _ _ _ _
  obtain ⟨added, hissues, hfits⟩ := hwalk {}
  unfold validateFlow
  refine Logged.Ensures.after fun _ => ?_
  rw [Walk.exec] at hissues hfits
  generalize (ReaderT.run (walkDefinition d) (reg, config.maxDepth)).run {} = r at hissues hfits ⊢
  obtain ⟨⟨⟩, state⟩ := r
  -- the report holds the walk's issues, then the warnings found after it
  have key : ∀ repeated large,
      (ValidationReport.ofIssues (state.issues.toList ++ repeated ++ large)).valid = true →
      ∀ n ∈ d.nodes, n.EmptyWithin config.maxDepth 0 → n.Fits reg config.maxDepth 0 := by
    intro repeated large hvalid
    refine hfits fun i hi => ValidationReport.valid_ofIssues.mp hvalid i ?_
    change state.issues.toList = [] ++ added at hissues
    rw [hissues]
    exact List.mem_append_left _ (List.mem_append_left _ (List.mem_append_right _ hi))
  -- what is logged after the walk does not change the report
  refine Logged.Ensures.after fun _ => ?_
  dsimp only
  exact Logged.Ensures.ite (Logged.Ensures.after fun _ => Logged.Ensures.pure (key _ _))
    (Logged.Ensures.after fun _ => Logged.Ensures.pure (key _ _))

end Flowline

