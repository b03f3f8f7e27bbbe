import Flowline.Proofs.Soundness
set_option autoImplicit false

/-!
# What validation knows of a node's input

Validation threads an `Entry` through every block: what the node in front of
a position can hand it. The first node of a block gets what the block is
entered with; every later node gets what its predecessor exits through, which
the walk finds from the predecessor alone (`Entry.after`): the edges a
resolved step declares, `exit` after a loop, nothing known after a sub-flow,
a branch or a step that does not resolve.

* A `Block` is a block as the walk meets it: its nodes, the path they sit
  below and its entry. `Block.entryAt` is the entry of its node at an index,
  `FlowNode.Opens` the blocks a node makes the walk go down into, and
  `Block.Inside` every block the walk reaches from one.
* A branch is checked against its entry (`uncovered`). When a definition
  validates, the walk reached every block inside it, and every issue that
  `uncovered` names for one of their branches is among the report's
  warnings (`validateFlow_warns`).

The proof follows the walk once more, with `Walk.Finds`: a walk adds issues
after those found before it and, if none of them is an error, adds every
issue a predicate names.
-/

namespace Flowline

namespace Entry

/-- What a node at `path` hands the node after it, as validation finds it. -/
def after (reg : Registry) (node : FlowNode) (path : String) : Entry :=
  match node with
  | .step _ | .call .. =>
    match reg.resolve (node.stepId?.getD "") with
    | .ok step => .edges step.id step.declaredEdges
    | .error _ => .unknown
  | .loop _ => .edges s!"loop {path}" ["exit"]
  | .sequence _ | .branch _ => .unknown

/-- Whether, after an entry, a node may exit through `edge`. -/
def Passes : Entry → String → Prop
  | .start, _ => False
  | .unknown, _ => True
  | .edges _ names, edge => edge ∈ names

/-- Whether an entry allows the output a node is handed: none at the start of
a run, one whose edge is listed after known edges. -/
def Admits : Entry → Option StepOutput → Prop
  | .start, previous => previous = none
  | .unknown, _ => True
  | .edges _ names, previous => (previous.map StepOutput.edge).getD "" ∈ names

/-- Whether a node's output is one that the entry after the node allows: an
output through a listed edge, and no output only where nothing is known. -/
def Yields : Entry → Option StepOutput → Prop
  | .unknown, _ => True
  | .edges _ names, some o => o.edge ∈ names
  | _, _ => False

/-- What a block hands its next node after one that gave `out` is allowed by
the entry after it: the output itself, or the output before it when the node
gave none. -/
theorem Yields.admits {E : Entry} {out : Option StepOutput} (h : E.Yields out)
    (previous : Option StepOutput) :
    E.Admits (match out with
      | some o => some o
      | none => previous) := by
  cases E with
  | start => cases out <;> exact absurd h id
  | unknown => trivial
  | edges source names =>
    cases out with
    | none => exact absurd h id
    | some o => exact h

end Entry

/-- A block as the validation walk meets it: its nodes, the path they sit
below, and what it is entered with. -/
structure Block where
  nodes : List FlowNode
  base : String
  entry : Entry

/-- The blocks a node at `path`, entered with `entry`, makes the walk go down
into: a sub-flow's nodes, entered as the sub-flow is; a loop's controller,
with nothing known, and its actions, through `continue`; every arm, through
its edge. -/
inductive FlowNode.Opens (path : String) (entry : Entry) : FlowNode → Block → Prop where
  | sequence {children : List FlowNode} :
      FlowNode.Opens path entry (.sequence children) ⟨children, path, entry⟩
  | controller {controller : FlowNode} {actions : List FlowNode} :
      FlowNode.Opens path entry (.loop (controller :: actions))
        ⟨[controller], s!"{path}.controller", .unknown⟩
  | actions {controller : FlowNode} {actions : List FlowNode} :
      FlowNode.Opens path entry (.loop (controller :: actions))
        ⟨actions, s!"{path}.actions", .edges s!"loop {path}" ["continue"]⟩
  | arm {arms : List (String × FlowNode)} {edge : String} {target : FlowNode} :
      (edge, target) ∈ arms →
      FlowNode.Opens path entry (.branch arms)
        ⟨armNodes target, s!"{path}.{edge}", .edges s!"branch {path}" [edge]⟩

namespace Block

variable (reg : Registry)

/-- What the node at an index of a block is entered with. -/
def entryAt (b : Block) : Nat → Entry
  | 0 => b.entry
  | index + 1 =>
    match b.nodes[index]? with
    | some node => Entry.after reg node (nodePath b.base index)
    | none => .unknown

/-- A block one of `b`'s nodes makes the walk go down into. -/
def Child (b c : Block) : Prop :=
  ∃ (index : Nat) (node : FlowNode), b.nodes[index]? = some node ∧
    node.Opens (nodePath b.base index) (b.entryAt reg index) c

/-- The blocks the walk of `b` reaches: `b`, and the blocks inside those its
nodes open. -/
abbrev Inside : Block → Block → Prop := Relation.ReflTransGen (Child reg)

/-- The issues validation raises for the branches of block `b` itself. -/
def Flags (b : Block) (i : Issue) : Prop :=
  ∃ index arms, b.nodes[index]? = some (.branch arms) ∧
    i ∈ uncovered arms (nodePath b.base index) (b.entryAt reg index)

end Block

/-- The issues validation raises for a node at `path` entered with `entry`:
its own, if it is a branch, and those of the branches of every block it
opens. -/
def FlowNode.Flags (reg : Registry) (node : FlowNode) (path : String) (entry : Entry)
    (i : Issue) : Prop :=
  (∃ arms, node = .branch arms ∧ i ∈ uncovered arms path entry) ∨
    ∃ c c' : Block, node.Opens path entry c ∧ Block.Inside reg c c' ∧ c'.Flags reg i

namespace Block

variable (reg : Registry)

/-- The issues validation raises for the nodes of `b` from index `k` on. -/
def FlagsFrom (b : Block) (k : Nat) (i : Issue) : Prop :=
  ∃ (index : Nat) (node : FlowNode), k ≤ index ∧ b.nodes[index]? = some node ∧
    node.Flags reg (nodePath b.base index) (b.entryAt reg index) i

variable {reg}

/-- Every issue raised inside a block is raised for one of its nodes. -/
theorem flagsFrom_of_inside {b c : Block} (h : Inside reg b c) {i : Issue} (hi : c.Flags reg i) :
    b.FlagsFrom reg 0 i := by
  induction h using Relation.ReflTransGen.head_induction_on with
  | refl =>
    obtain ⟨index, arms, hnode, hmem⟩ := hi
    exact ⟨index, _, Nat.zero_le _, hnode, .inl ⟨arms, rfl, hmem⟩⟩
  | head hchild hinside _ =>
    obtain ⟨index, node, hnode, hopens⟩ := hchild
    exact ⟨index, node, Nat.zero_le _, hnode, .inr ⟨_, _, hopens, hinside, hi⟩⟩

end Block

/-! ## A calculus for the issues a walk finds -/

namespace Walk

variable {α β : Type} {ctx : Registry × Nat}

/-- Run from any state, `m` adds issues after those found before it, and if
none it adds is an error, it adds every issue that `need` holds of. -/
def Finds (ctx : Registry × Nat) (m : Walk α) (need : Issue → Prop) : Prop :=
  ∀ s, ∃ added : List Issue, (exec m ctx s).2.issues.toList = s.issues.toList ++ added ∧
    ((∀ i ∈ added, i.isError = false) → ∀ i, need i → i ∈ added)

namespace Finds

theorem pure (a : α) : Finds ctx (Pure.pure a) fun _ => False :=
  fun _ => ⟨[], (List.append_nil _).symm, fun _ _ h => h.elim⟩

theorem mono {m : Walk α} {need need' : Issue → Prop} (h : Finds ctx m need)
    (hn : ∀ i, need' i → need i) : Finds ctx m need' := fun s =>
  let ⟨added, hs, hf⟩ := h s
  ⟨added, hs, fun hc i hi => hf hc i (hn i hi)⟩

/-- Sequencing: the rest may be asked for more only where the first walk's
result, as `Sound` describes it, lets it. -/
theorem bind {m : Walk α} {f : α → Walk β} {P : α → Prop} {need₁ need₂ : Issue → Prop}
    (hm : Finds ctx m need₁) (hr : Sound ctx m P)
    (hf : ∀ a, Finds ctx (f a) fun i => P a ∧ need₂ i) :
    Finds ctx (m >>= f) fun i => need₁ i ∨ need₂ i := by
  intro s
  obtain ⟨added₁, h₁, hf₁⟩ := hm s
  obtain ⟨added₁', h₁', hp₁⟩ := hr s
  obtain ⟨added₂, h₂, hf₂⟩ := hf (exec m ctx s).1 (exec m ctx s).2
  have hsame : added₁' = added₁ := List.append_cancel_left (h₁'.symm.trans h₁)
  subst hsame
  refine ⟨added₁' ++ added₂, ?_, fun hclean i hi => ?_⟩
  · change (exec (f (exec m ctx s).1) ctx (exec m ctx s).2).2.issues.toList = _
    rw [h₂, h₁, List.append_assoc]
  · have hclean₁ : ∀ i ∈ added₁', i.isError = false :=
      fun i hi => hclean i (List.mem_append_left _ hi)
    have hclean₂ : ∀ i ∈ added₂, i.isError = false :=
      fun i hi => hclean i (List.mem_append_right _ hi)
    rcases hi with hi | hi
    · exact List.mem_append_left _ (hf₁ hclean₁ i hi)
    · exact List.mem_append_right _ (hf₂ hclean₂ i ⟨hp₁ hclean₁, hi⟩)

/-- Sequencing, when the first walk's result is not looked at. -/
theorem after {m : Walk α} {f : α → Walk β} {need₁ need₂ : Issue → Prop}
    (hm : Finds ctx m need₁) (hf : ∀ a, Finds ctx (f a) need₂) :
    Finds ctx (m >>= f) fun i => need₁ i ∨ need₂ i := by
  intro s
  obtain ⟨added₁, h₁, hf₁⟩ := hm s
  obtain ⟨added₂, h₂, hf₂⟩ := hf (exec m ctx s).1 (exec m ctx s).2
  refine ⟨added₁ ++ added₂, ?_, fun hclean i hi => ?_⟩
  · change (exec (f (exec m ctx s).1) ctx (exec m ctx s).2).2.issues.toList = _
    rw [h₂, h₁, List.append_assoc]
  · rcases hi with hi | hi
    · exact List.mem_append_left _
        (hf₁ (fun i hi => hclean i (List.mem_append_left _ hi)) i hi)
    · exact List.mem_append_right _
        (hf₂ (fun i hi => hclean i (List.mem_append_right _ hi)) i hi)

theorem ite {c : Prop} [Decidable c] {m₁ m₂ : Walk α} {need : Issue → Prop}
    (h₁ : c → Finds ctx m₁ need) (h₂ : ¬c → Finds ctx m₂ need) :
    Finds ctx (if c then m₁ else m₂) need := by
  split
  · exact h₁ ‹_›
  · exact h₂ ‹_›

/-- Reading the context gives the context. -/
theorem read_bind {f : Registry × Nat → Walk β} {need : Issue → Prop} (h : Finds ctx (f ctx) need) :
    Finds ctx (MonadReader.read >>= f) need := h

/-- Reporting an issue finds it. -/
theorem report (i : Issue) : Finds ctx (Walk.report i) (· = i) := by
  intro s
  refine ⟨[i], ?_, fun _ j hj => hj ▸ List.mem_singleton_self i⟩
  change (s.issues.push i).toList = _
  simp

theorem countReference (step : String) : Finds ctx (Walk.countReference step) fun _ => False :=
  fun _ => ⟨[], (List.append_nil _).symm, fun _ _ h => h.elim⟩

/-- A loop whose rounds always go on finds what each round finds. -/
theorem forIn {γ : Type} (l : List γ) (init : α) {body : γ → α → Walk (ForInStep α)}
    {need : γ → Issue → Prop} (h : ∀ x b, Finds ctx (body x b) (need x))
    (hgo : ∀ x b, Sound ctx (body x b) fun r => ∃ b', r = .yield b') :
    Finds ctx (ForIn.forIn l init body) fun i => ∃ x ∈ l, need x i := by
  induction l generalizing init with
  | nil => exact (pure init).mono fun _ ⟨_, hx, _⟩ => absurd hx List.not_mem_nil
  | cons x rest ih =>
    simp only [List.forIn_cons]
    -- a round that stops the loop cannot happen; one that goes on hands over
    have hrest : ∀ r : ForInStep α, Finds ctx (match r with
        | .done b => Pure.pure b
        | .yield b => ForIn.forIn rest b body)
        fun i => (∃ b', r = .yield b') ∧ ∃ y ∈ rest, need y i := by
      intro r
      cases r with
      | done b => exact (pure b).mono fun _ ⟨⟨_, hr⟩, _⟩ => by cases hr
      | yield b => exact (ih b).mono fun _ hi => hi.2
    refine (bind (h x init) (hgo x init) hrest).mono fun i ⟨y, hy, hi⟩ => ?_
    rcases List.mem_cons.mp hy with rfl | hy
    · exact .inl hi
    · exact .inr ⟨y, hy, hi⟩

/-- Reporting an error: nothing is asked of the walk after it. -/
theorem reportError {i : Issue} (h : i.isError = true) (a : α) (need : Issue → Prop) :
    Finds ctx (Walk.report i >>= fun _ => Pure.pure a) need := by
  intro s
  refine ⟨[i], ?_, fun hclean => absurd (hclean i (List.mem_singleton_self i)) (by simp [h])⟩
  change (s.issues.push i).toList = _
  simp

/-- A walk behind the depth check finds what it finds: past the limit the
check reports an error. -/
theorem within {reg : Registry} {limit : Nat} {path : String} {depth : Nat} {k k' : Walk β}
    {need : Issue → Prop} (h : Finds (reg, limit) k need) (h' : Finds (reg, limit) k' fun _ => False) :
    Finds (reg, limit) (Walk.withinDepth path depth >>= fun ok => if ok = true then k else k') need := by
  have hcheck : Finds (reg, limit) (Walk.withinDepth path depth) fun _ => False := by
    unfold Walk.withinDepth
    refine read_bind ?_
    dsimp only
    exact ite (fun _ => reportError rfl _ _) fun _ => pure _
  refine (bind hcheck (Sound.withinDepth path depth) fun ok => ?_).mono fun i hi => .inr hi
  exact ite (fun _ => h.mono fun _ hi => hi.2) fun hno => h'.mono fun _ hi => hno hi.1.1

/-- A walk behind the depth check, then a result. -/
theorem guarded {reg : Registry} {limit : Nat} {path : String} {depth : Nat} {m : Walk Unit}
    {x : β} {need : Issue → Prop} (h : Finds (reg, limit) m need) :
    Finds (reg, limit) (Walk.withinDepth path depth >>= fun ok =>
      if ok = true then m >>= fun _ => Pure.pure x else Pure.pure x) need :=
  within ((after h fun _ => pure x).mono fun _ hi => .inl hi) (pure x)

/-- A walk sound for anything adds issues after those before it. -/
theorem of_sound {m : Walk α} {P : α → Prop} (h : Sound ctx m P) : Finds ctx m fun _ => False :=
  fun s => let ⟨added, hs, _⟩ := h s; ⟨added, hs, fun _ _ h => h.elim⟩

end Finds

end Walk

namespace Block

variable {reg : Registry}

/-- A block with no nodes raises nothing. -/
theorem not_flagsFrom_nil {base : String} {E : Entry} {k : Nat} {i : Issue} :
    ¬(⟨[], base, E⟩ : Block).FlagsFrom reg k i := by
  rintro ⟨index, node, -, hnode, -⟩
  simp at hnode

/-- The issues of a block of one node are that node's. -/
theorem flags_singleton {node : FlowNode} {base : String} {E : Entry} {i : Issue}
    (h : (⟨[node], base, E⟩ : Block).FlagsFrom reg 0 i) : node.Flags reg (nodePath base 0) E i := by
  obtain ⟨index, n, -, hn, hflags⟩ := h
  cases index with
  | zero =>
    simp only [List.getElem?_cons_zero, Option.some.injEq] at hn
    subst hn
    exact hflags
  | succ index => simp at hn

end Block

/-! ## The walk finds the issues of every branch it reaches -/

section WalkFinds

variable {reg : Registry} {limit : Nat}

/-- The issues `uncovered` names are warnings. -/
theorem uncovered_not_error (arms : List (String × FlowNode)) (path : String) (E : Entry) :
    ∀ i ∈ uncovered arms path E, i.isError = false := by
  intro i hi
  cases E with
  | start =>
    rw [uncovered, List.mem_singleton] at hi
    subst hi
    rfl
  | unknown => simp [uncovered] at hi
  | edges source names =>
    rw [uncovered, List.mem_map] at hi
    obtain ⟨e, -, rfl⟩ := hi
    rfl

/-- The entry a step node hands on, once validation accepts it. -/
theorem walkStep_after (node : FlowNode) (path : String) :
    Walk.Sound (reg, limit) (walkStep node path) fun next =>
      next = match reg.resolve (node.stepId?.getD "") with
        | .ok step => .edges step.id step.declaredEdges
        | .error _ => .unknown := by
  unfold walkStep
  dsimp only
  split
  case' h_1 => refine Walk.Sound.after (Walk.Sound.countReference _) fun _ => ?_
  all_goals
    refine Walk.Sound.read_bind ?_
    dsimp only
    split
    · exact Walk.Sound.reportError rfl _
    · exact Walk.Sound.reportError rfl _
    · rename_i step hres
      refine Walk.Sound.ite (fun _ => Walk.Sound.reportError rfl _) (fun _ => ?_)
      split
      · exact Walk.Sound.reportError rfl _
      · exact Walk.Sound.reportError rfl _
      · exact Walk.Sound.pure (by rw [hres])

/-- Every walk of a node hands on `Entry.after`, once validation accepts it. -/
theorem walkNode_after (node : FlowNode) (path : String) (depth : Nat) (previous : Entry) :
    Walk.Sound (reg, limit) (walkNode node path depth previous) (· = Entry.after reg node path) := by
  -- a guarded walk of the nodes below, whatever it finds, then the entry
  have hbelow : ∀ (m : Walk Unit) (p : String) (d : Nat) (x : Entry), Walk.Sound (reg, limit) m
      (fun _ => True) → Walk.Sound (reg, limit) (Walk.withinDepth p d >>= fun ok =>
        if ok = true then m >>= fun _ => Pure.pure x else Pure.pure x) (· = x) :=
    fun m p d x hm => Walk.Sound.after (Walk.Sound.withinDepth p d) fun _ =>
      Walk.Sound.ite (fun _ => Walk.Sound.after hm fun _ => Walk.Sound.pure rfl) fun _ => Walk.Sound.pure rfl
  cases node with
  | step id => exact walkStep_after _ path
  | call id params => exact walkStep_after _ path
  | sequence children =>
    rw [walkNode]
    dsimp only
    exact Walk.Sound.ite (fun _ => Walk.Sound.after (Walk.Sound.report _) fun _ => Walk.Sound.pure rfl)
      fun _ => hbelow _ _ _ _ ((block_sound _ _ _ _ _).mono fun _ _ => trivial)
  | loop parts =>
    cases parts with
    | nil =>
      rw [walkNode]
      exact Walk.Sound.after (Walk.Sound.report _) fun _ => Walk.Sound.pure rfl
    | cons controller actions =>
      rw [walkNode]
      dsimp only
      refine Walk.Sound.after (Walk.Sound.withinDepth path (depth + 1)) fun _ =>
        Walk.Sound.ite (fun _ => ?_) fun _ => Walk.Sound.pure rfl
      refine Walk.Sound.after (node_sound _ _ _ _) fun _ => ?_
      -- the actions come after the controller's check, whichever way it went
      split
      case' h_1 =>
        refine Walk.Sound.read_bind ?_
        dsimp only
        split
        case' h_1 =>
          refine Walk.Sound.ite (fun _ => Walk.Sound.after (Walk.Sound.report _) fun _ => ?_) fun _ => ?_
      all_goals
        exact Walk.Sound.ite (fun _ => hbelow _ _ _ _ ((block_sound _ _ _ _ _).mono fun _ _ => trivial))
          fun _ => Walk.Sound.pure rfl
  | branch arms =>
    rw [walkNode]
    dsimp only
    refine Walk.Sound.ite (fun _ => Walk.Sound.after (Walk.Sound.report _) fun _ => Walk.Sound.pure rfl)
      fun _ => ?_
    -- a single arm is reported first; then the uncovered edges, then the arms
    split
    case' h_1 => refine Walk.Sound.after (Walk.Sound.report _) fun _ => ?_
    all_goals
      exact Walk.Sound.after (Walk.Sound.forIn _ _ fun i _ =>
        Walk.Sound.after (Walk.Sound.report i) fun _ => Walk.Sound.pure trivial)
        fun _ => hbelow _ _ _ _ ((arms_sound _ _ _).mono fun _ _ => trivial)

/-- What the walk of a node finds: the issues of its own branch and of the
branches of every block it opens. -/
abbrev NodeFinds (reg : Registry) (limit : Nat) (node : FlowNode) (path : String) (depth : Nat)
    (previous : Entry) : Prop :=
  Walk.Finds (reg, limit) (walkNode node path depth previous) (node.Flags reg path previous)

/-- What the walk of a branch's arms finds: the issues inside each arm. -/
abbrev ArmsFinds (reg : Registry) (limit : Nat) (arms : List (String × FlowNode)) (path : String)
    (depth : Nat) : Prop :=
  Walk.Finds (reg, limit) (walkArms arms path depth) fun i => ∃ edge target c,
    (edge, target) ∈ arms ∧
      Block.Inside reg ⟨armNodes target, s!"{path}.{edge}", .edges s!"branch {path}" [edge]⟩ c ∧
      c.Flags reg i

/-- What the walk of block `b` from index `k` on finds. -/
abbrev BlockFinds (reg : Registry) (limit : Nat) (b : Block) (depth k : Nat) : Prop :=
  Walk.Finds (reg, limit) (walkBlock (b.nodes.drop k) b.base depth k (b.entryAt reg k))
    (b.FlagsFrom reg k)

/-- A node that opens no block and is no branch raises nothing. -/
theorem not_flags_of_step {node : FlowNode} (hstep : node.stepId?.isSome = true) {path : String}
    {E : Entry} {i : Issue} : ¬node.Flags reg path E i := by
  rintro (⟨arms, rfl, -⟩ | ⟨c, c', hopens, -⟩)
  · simp [FlowNode.stepId?] at hstep
  · cases hopens <;> simp [FlowNode.stepId?] at hstep

/-- An arm that is not a sequence is a block of one node. -/
theorem arm_finds {edge : String} {target : FlowNode} {rest : List (String × FlowNode)}
    (path : String) (depth : Nat) (hother : ∀ nodes, target = .sequence nodes → False)
    (ihn : NodeFinds reg limit target (nodePath s!"{path}.{edge}" 0) depth
      (.edges s!"branch {path}" [edge]))
    (ihr : ArmsFinds reg limit rest path depth) :
    ArmsFinds reg limit ((edge, target) :: rest) path depth := by
  rw [ArmsFinds, walkArms.eq_3 _ _ _ _ _ hother]
  refine (Walk.Finds.after ihn fun _ => ihr).mono ?_
  rintro i ⟨e, t, c, hmem, hinside, hflags⟩
  rcases List.mem_cons.mp hmem with heq | hmem
  · cases heq
    rw [armNodes_of_ne hother] at hinside
    exact .inl (Block.flags_singleton (Block.flagsFrom_of_inside hinside hflags))
  · exact .inr ⟨e, t, c, hmem, hinside, hflags⟩

/- Each walk function finds the issues of the branches it reaches, by
structural recursion on the nodes, following the walk's own recursion. -/
mutual

/-- The walk of a node finds the issues of its branches. -/
theorem node_finds : ∀ (node : FlowNode) (path : String) (depth : Nat) (previous : Entry),
    NodeFinds reg limit node path depth previous
  | .step _, path, _, _ => by
    rw [NodeFinds, walkNode]
    exact (Walk.Finds.of_sound (walkStep_sound _ path)).mono fun _ h =>
      not_flags_of_step (by rfl) h
  | .call .., path, _, _ => by
    rw [NodeFinds, walkNode]
    exact (Walk.Finds.of_sound (walkStep_sound _ path)).mono fun _ h =>
      not_flags_of_step (by rfl) h
  | .sequence children, path, depth, previous => by
    rw [NodeFinds, walkNode]
    dsimp only
    refine Walk.Finds.ite (fun hempty => ?_) fun _ => ?_
    · -- an empty sub-flow opens a block with nothing in it
      have hnil : children = [] := List.isEmpty_iff.mp hempty
      subst hnil
      refine (Walk.Finds.after (Walk.Finds.report _) fun _ => Walk.Finds.pure _).mono ?_
      rintro i (⟨arms, h, -⟩ | ⟨c, c', hopens, hinside, hflags⟩)
      · cases h
      · cases hopens
        exact absurd (Block.flagsFrom_of_inside hinside hflags) Block.not_flagsFrom_nil
    · refine (Walk.Finds.guarded (block_finds children ⟨children, path, previous⟩ (depth + 1) 0
        rfl)).mono ?_
      rintro i (⟨arms, h, -⟩ | ⟨c, c', hopens, hinside, hflags⟩)
      · cases h
      · cases hopens
        exact Block.flagsFrom_of_inside hinside hflags
  | .loop [], path, _, _ => by
    rw [NodeFinds, walkNode]
    exact Walk.Finds.reportError rfl _ _
  | .loop (controller :: actions), path, depth, previous => by
    rw [NodeFinds, walkNode]
    dsimp only
    refine (Walk.Finds.within (Walk.Finds.after (node_finds controller _ _ _) fun _ =>
      (?_ : Walk.Finds _ _ (Block.FlagsFrom reg ⟨actions, s!"{path}.actions",
        .edges s!"loop {path}" ["continue"]⟩ 0))) (Walk.Finds.pure _)).mono ?_
    · -- the actions come after the controller's check, whichever way it went
      split
      case' h_1 =>
        refine Walk.Finds.read_bind ?_
        dsimp only
        split
        case' h_1 =>
          refine Walk.Finds.ite (fun _ => (Walk.Finds.after (Walk.Finds.report _) fun _ => ?_).mono
            fun _ hi => .inr hi) fun _ => ?_
      all_goals
        refine Walk.Finds.ite (fun _ => Walk.Finds.guarded (block_finds actions
          ⟨actions, s!"{path}.actions", .edges s!"loop {path}" ["continue"]⟩ (depth + 2) 0 rfl))
          fun hempty => (Walk.Finds.pure _).mono fun _ hi => ?_
        have hnil : actions = [] := by simpa using hempty
        subst hnil
        exact Block.not_flagsFrom_nil hi
    · rintro i (⟨arms, h, -⟩ | ⟨c, c', hopens, hinside, hflags⟩)
      · cases h
      · cases hopens with
        | controller =>
          exact .inl (Block.flags_singleton (Block.flagsFrom_of_inside hinside hflags))
        | actions => exact .inr (Block.flagsFrom_of_inside hinside hflags)
  | .branch arms, path, depth, previous => by
    rw [NodeFinds, walkNode]
    dsimp only
    refine Walk.Finds.ite (fun hempty => Walk.Finds.reportError rfl _ _) fun _ => ?_
    have hflags : ∀ i, (FlowNode.branch arms).Flags reg path previous i →
        (∃ x ∈ uncovered arms path previous, i = x ∨ False) ∨
          ∃ edge target c, (edge, target) ∈ arms ∧ Block.Inside reg
            ⟨armNodes target, s!"{path}.{edge}", .edges s!"branch {path}" [edge]⟩ c ∧ c.Flags reg i := by
      rintro i (⟨arms', h, hi⟩ | ⟨c, c', hopens, hinside, hflags⟩)
      · cases h
        exact .inl ⟨i, hi, .inl rfl⟩
      · cases hopens with
        | arm hmem => exact .inr ⟨_, _, c', hmem, hinside, hflags⟩
    -- the uncovered edges are reported, then the arms are walked
    have hrest : Walk.Finds (reg, limit) (do
        for i in uncovered arms path previous do
          Walk.report i
        if ← Walk.withinDepth path (depth + 1) then
          walkArms arms path (depth + 1)
        pure Entry.unknown) ((FlowNode.branch arms).Flags reg path previous) :=
      (Walk.Finds.after (Walk.Finds.forIn _ _
        (fun i _ => Walk.Finds.after (Walk.Finds.report i) fun _ => Walk.Finds.pure _)
        fun i _ => Walk.Sound.after (Walk.Sound.report i) fun _ => Walk.Sound.pure ⟨_, rfl⟩)
        fun _ => Walk.Finds.guarded (arms_finds arms path (depth + 1))).mono hflags
    -- a single arm is reported before them
    split
    · exact (Walk.Finds.after (Walk.Finds.report _) fun _ => hrest).mono fun i hi => .inr hi
    · exact hrest

/-- The walk of a branch's arms finds the issues of the branches inside them. -/
theorem arms_finds : ∀ (arms : List (String × FlowNode)) (path : String) (depth : Nat),
    ArmsFinds reg limit arms path depth
  | [], path, depth => by
    rw [ArmsFinds, walkArms]
    exact (Walk.Finds.pure _).mono fun _ ⟨_, _, _, hmem, _⟩ => absurd hmem List.not_mem_nil
  -- an arm that is a sequence: its nodes are a block
  | (edge, .sequence nodes) :: rest, path, depth => by
    rw [ArmsFinds, walkArms]
    refine (Walk.Finds.after (block_finds nodes ⟨nodes, s!"{path}.{edge}",
      .edges s!"branch {path}" [edge]⟩ depth 0 rfl) fun _ => arms_finds rest path depth).mono ?_
    rintro i ⟨e, t, c, hmem, hinside, hflags⟩
    rcases List.mem_cons.mp hmem with heq | hmem
    · cases heq
      exact .inl (Block.flagsFrom_of_inside hinside hflags)
    · exact .inr ⟨e, t, c, hmem, hinside, hflags⟩
  | (_, .step _) :: rest, path, depth =>
    arm_finds path depth (fun _ h => by cases h) (node_finds _ _ _ _) (arms_finds rest path depth)
  | (_, .call ..) :: rest, path, depth =>
    arm_finds path depth (fun _ h => by cases h) (node_finds _ _ _ _) (arms_finds rest path depth)
  | (_, .loop _) :: rest, path, depth =>
    arm_finds path depth (fun _ h => by cases h) (node_finds _ _ _ _) (arms_finds rest path depth)
  | (_, .branch _) :: rest, path, depth =>
    arm_finds path depth (fun _ h => by cases h) (node_finds _ _ _ _) (arms_finds rest path depth)

/-- The walk of a block from index `k` on finds the issues of its nodes from
there. -/
theorem block_finds : ∀ (nodes : List FlowNode) (b : Block) (depth k : Nat),
    b.nodes.drop k = nodes → BlockFinds reg limit b depth k
  | [], b, depth, k, hdrop => by
    rw [BlockFinds, hdrop, walkBlock]
    refine (Walk.Finds.pure _).mono fun _ ⟨index, node, hk, hnode, _⟩ => ?_
    have hnil : b.nodes.drop k = [] := hdrop
    rw [List.drop_eq_nil_iff] at hnil
    have := (List.getElem?_eq_some_iff.mp hnode).1
    omega
  | node :: rest, b, depth, k, hdrop => by
    have hnode : b.nodes[k]? = some node := by
      rw [← List.head?_drop, hdrop]
      rfl
    have hrest : b.nodes.drop (k + 1) = rest := by
      rw [← List.tail_drop, hdrop]
      rfl
    have hentry : b.entryAt reg (k + 1) = Entry.after reg node (nodePath b.base k) := by
      simp [Block.entryAt, hnode]
    -- the rest is entered with what the node hands on
    have hnext : ∀ next, Walk.Finds (reg, limit) (walkBlock rest b.base depth (k + 1) next)
        fun i => next = Entry.after reg node (nodePath b.base k) ∧ b.FlagsFrom reg (k + 1) i := by
      intro next
      by_cases hafter : next = Entry.after reg node (nodePath b.base k)
      · subst hafter
        have h := block_finds rest b depth (k + 1) hrest
        rw [BlockFinds, hrest, hentry] at h
        exact h.mono fun _ hi => hi.2
      · exact (Walk.Finds.of_sound (block_sound _ _ _ _ _)).mono fun _ hi => hafter hi.1
    rw [BlockFinds, hdrop, walkBlock]
    refine (Walk.Finds.bind (node_finds node _ depth _) (walkNode_after node _ depth _) hnext).mono ?_
    rintro i ⟨index, n, hk, hn, hflags⟩
    rcases Nat.eq_or_lt_of_le hk with rfl | hlt
    · rw [hnode] at hn
      cases hn
      exact .inl hflags
    · exact .inr ⟨index, n, hlt, hn, hflags⟩

end

end WalkFinds

/-! ## A definition that validates is warned of every uncovered edge -/

/-- When a definition validates, its report warns of every issue that
`uncovered` names for a branch of a block the validation walk reaches. -/
theorem validateFlow_warns (d : FlowDefinition) (reg : Registry) (config : EngineConfig) :
    Logged.Ensures (validateFlow d reg config) fun report => report.valid = true →
      ∀ b, Block.Inside reg ⟨d.nodes, "", .start⟩ b → ∀ i, b.Flags reg i → i ∈ report.warnings := by
  have hwalk : Walk.Finds (reg, config.maxDepth) (walkDefinition d)
      (Block.FlagsFrom reg ⟨d.nodes, "", .start⟩ 0) := by
    unfold walkDefinition
    dsimp only
    exact Walk.Finds.ite (fun _ => (Walk.Finds.after (Walk.Finds.report _) fun _ =>
      block_finds d.nodes ⟨d.nodes, "", .start⟩ 0 0 rfl).mono fun _ hi => .inr hi)
      fun _ => block_finds d.nodes ⟨d.nodes, "", .start⟩ 0 0 rfl
  obtain ⟨added, hissues, hfound⟩ := hwalk {}
  unfold validateFlow
  refine Logged.Ensures.after fun _ => ?_
  rw [Walk.exec] at hissues
  generalize (ReaderT.run (walkDefinition d) (reg, config.maxDepth)).run {} = r at hissues ⊢
  obtain ⟨⟨⟩, state⟩ := r
  change state.issues.toList = [] ++ added at hissues
  -- the report holds the walk's issues, then the warnings found after it
  have key : ∀ repeated large,
      (ValidationReport.ofIssues (state.issues.toList ++ repeated ++ large)).valid = true →
      ∀ b, Block.Inside reg ⟨d.nodes, "", .start⟩ b → ∀ i, b.Flags reg i →
        i ∈ (ValidationReport.ofIssues (state.issues.toList ++ repeated ++ large)).warnings := by
    intro repeated large hvalid b hb i hi
    have hclean := ValidationReport.valid_ofIssues.mp hvalid
    have hmem : i ∈ added := hfound (fun j hj => hclean j (by simp [hissues, hj]))
      i (Block.flagsFrom_of_inside hb hi)
    obtain ⟨index, arms, -, hin⟩ := hi
    have hwarn : i.isError = false := uncovered_not_error _ _ _ i hin
    simp [ValidationReport.ofIssues, hwarn, hissues, hmem]
  -- what is logged after the walk does not change the report
  refine Logged.Ensures.after fun _ => ?_
  dsimp only
  exact Logged.Ensures.ite (Logged.Ensures.after fun _ => Logged.Ensures.pure (key _ _))
    (Logged.Ensures.after fun _ => Logged.Ensures.pure (key _ _))

end Flowline
