import Flowline.Proofs.Rounds
set_option autoImplicit false

/-!
# A loop stays within its iteration limit

A loop numbers the iteration instances it opens below its own instance: round
`i` opens one with iteration `i` when its actions start afresh. This module
follows that numbering and the count of controller runs across the rounds of
`LoopSite.Rounds`:

* `Engine.walk_maintains_within` gives `Engine.walk_keeps_iterations`: a walk
  whose cursor names a loop in no loop frame opens no iteration instance below
  it, since every loop it runs is another one;
* `Frame.descends_loop_clear`: below a loop's frame, a cursor that goes down
  from the loop names it in no loop frame, since every frame below an
  instance lies deeper in the tree;
* `LoopSite.Rounds.numbered` carries the numbering round by round;
* `loop_rounds_within_limit` puts it together (`LoopSite.WithinLimit`): over
  all the runs and resumes of a loop, its controller's block runs afresh at
  most `maxIterations + 1` times, its iteration instances carry `0, 1, …, k - 1`
  in the order they were opened with `k ≤ maxIterations`, and a suspended loop
  can be entered again where its frame says with the count and the numbering it
  left.

A loop also stops, beside the endings its controller and blocks choose, when
a fresh round finds the run cancelled (`cancelling_action_ends_loop`).
-/

namespace Flowline

/-- Whether an instance runs one iteration of a loop's actions. -/
def BranchType.isIteration : BranchType → Bool
  | .loopActions => true
  | _ => false

namespace Execution

/-- The iteration numbers of the iteration instances below `loopId`, in the
order they were opened. -/
def iterations (e : Execution) (loopId : String) : List (Option Nat) :=
  ((e.children loopId).filter (·.branchType.isIteration)).map (·.iteration)

/-- The numbering read through each instance's parent, branch type and
iteration only. -/
theorem iterations_eq_map (e : Execution) (loopId : String) :
    e.iterations loopId =
      (((e.instances.map fun i => (i.parentId, i.branchType, i.iteration)).filter
        (·.1 == some loopId)).filter (·.2.1.isIteration)).map (·.2.2) := by
  simp only [iterations, children, List.filter_map, List.map_map]
  rfl

/-- A change that keeps every instance's parent, branch type and iteration
keeps every loop's numbering. -/
theorem iterations_modify (e : Execution) (id : String) {f : FlowInstance → FlowInstance}
    (hf : ∀ i, (f i).parentId = i.parentId ∧ (f i).branchType = i.branchType ∧
      (f i).iteration = i.iteration) (loopId : String) :
    (e.modify id f).iterations loopId = e.iterations loopId := by
  rw [iterations_eq_map, iterations_eq_map]
  have hkeys := map_modifyLast (p := (·.id == id)) (fun i => { f i with id := i.id })
    (fun i : FlowInstance => (i.parentId, i.branchType, i.iteration))
    (fun i => by simp only [(hf i).1, (hf i).2.1, (hf i).2.2]) e.instances
  simp only [Execution.modify]
  rw [hkeys]

/-- A new instance adds its iteration to its parent's numbering if it runs an
iteration. -/
theorem iterations_spawn {e e' : Execution} {parentId id : String} {branchType : BranchType}
    {iteration : Option Nat} {now : Timestamp} {child : FlowInstance}
    (hs : e.spawn parentId id branchType iteration now = .ok child e') (loopId : String) :
    e'.iterations loopId = e.iterations loopId ++
      if parentId = loopId ∧ branchType.isIteration then [iteration] else [] := by
  obtain ⟨parent, -, -, rfl, rfl⟩ := spawn_eq_ok hs
  by_cases hp : parentId = loopId
  · subst hp
    cases hb : branchType.isIteration <;> simp [iterations, children, List.filter_append, hb]
  · simp [iterations, children, List.filter_append, hp]

theorem Edits.iterations {e e' : Execution} (h : e.Edits e') (loopId : String) :
    e'.iterations loopId = e.iterations loopId := by
  induction h with
  | refl => rfl
  | state id v _ ih => exact (iterations_modify _ _ (fun _ => by exact ⟨rfl, rfl, rfl⟩) loopId).trans ih

theorem iterations_record (e : Execution) (id : String) (r : StepRecord) (loopId : String) :
    (e.record id r).iterations loopId = e.iterations loopId :=
  iterations_modify _ _ (fun _ => by exact ⟨rfl, rfl, rfl⟩) loopId

theorem iterations_finish (e : Execution) (id : String) (status : InstanceStatus)
    (result : Option Value) (error : Option Failure) (t : Timestamp) (loopId : String) :
    (e.finish id status result error t).iterations loopId = e.iterations loopId :=
  iterations_modify _ _ (fun _ => by exact ⟨rfl, rfl, rfl⟩) loopId


/-! ## Instances below an instance -/

theorem Grows.has {e e' : Execution} (h : e.Grows e') {x : String} (hx : e.has x = true) :
    e'.has x = true :=
  has_of_get?_isSome (h.isSome (get?_isSome_of_has hx))

/-- Instance `loopId` is there, and its iteration instances carry `numbers`. -/
def IteratesAs (e : Execution) (loopId : String) (numbers : List (Option Nat)) : Prop :=
  e.has loopId = true ∧ e.iterations loopId = numbers

/-- `y` lies deeper in the tree than `x`. -/
def Deeper (e : Execution) (x y : String) : Prop :=
  ∃ X Y, e.get? x = some X ∧ e.get? y = some Y ∧ X.depth < Y.depth

theorem Deeper.trans {e : Execution} {x y z : String} (h₁ : e.Deeper x y) (h₂ : e.Deeper y z) :
    e.Deeper x z := by
  obtain ⟨X, Y, hX, hY, hXY⟩ := h₁
  obtain ⟨Y', Z, hY', hZ, hYZ⟩ := h₂
  rw [hY] at hY'
  cases hY'
  exact ⟨X, Z, hX, hZ, by omega⟩

theorem Deeper.ne {e : Execution} {x y : String} (h : e.Deeper x y) : y ≠ x := by
  rintro rfl
  obtain ⟨X, Y, hX, hY, hlt⟩ := h
  rw [hX] at hY
  cases hY
  omega

theorem Linked.deeper_of_isChild {e : Execution} (hl : e.Linked) {x y : String}
    (h : e.IsChild y x) : e.Deeper x y := by
  obtain ⟨Y, hY, hp⟩ := h
  obtain ⟨X, hX, hdepth⟩ := hl.parent Y (mem_of_get? hY).1 x hp
  exact ⟨X, Y, hX, hY, by omega⟩

end Execution

/-! ## Cursors below a loop -/

namespace Frame

/-- In a linked execution, every frame below `x` lies deeper than `x`. -/
theorem Below.deeper {e : Execution} (hl : e.Linked) :
    ∀ {fs : List Frame} {x : String}, Below e x fs → ∀ f ∈ fs, e.Deeper x f.instanceId := by
  intro fs
  induction fs with
  | nil => intro x _ f hf; cases hf
  | cons f rest ih =>
    intro x hb g hg
    obtain ⟨hchild, hdesc⟩ := hb
    have hfx := hl.deeper_of_isChild hchild
    rcases List.mem_cons.1 hg with rfl | hrest
    · exact hfx
    clear hg
    cases rest with
    | nil => cases hrest
    | cons g' rest' =>
      obtain ⟨hlead, hdesc'⟩ := hdesc
      cases f with
      | block y index previous =>
        exact hfx.trans (ih ⟨hlead, hdesc'⟩ g hrest)
      | loop l iteration output phase =>
        cases g' with
        | loop l' iteration' output' phase' => cases phase <;> exact hlead.elim
        | block y index previous =>
          cases phase with
          | controller =>
            change y = l at hlead
            subst hlead
            exact ih ⟨hchild, hdesc'⟩ g hrest
          | actions => exact hfx.trans (ih ⟨hlead, hdesc'⟩ g hrest)

/-- No frame below `x` names `x`. -/
theorem Below.ne {e : Execution} (hl : e.Linked) {fs : List Frame} {x : String}
    (hb : Below e x fs) : ∀ f ∈ fs, f.instanceId ≠ x :=
  fun f hf => (hb.deeper hl f hf).ne

/-- Under a frame of loop `loopId`, no loop frame names the loop again. -/
theorem descends_loop_clear {e : Execution} (hl : e.Linked) {loopId : String} {iteration : Nat}
    {out : Option StepOutput} {phase : LoopPhase} {fs : List Frame}
    (h : Descends e (.loop loopId iteration out phase :: fs)) :
    ∀ f ∈ fs, f.Within (fun _ => True) (· ≠ loopId) := by
  have hne : ∀ {x : String} {gs : List Frame}, Below e x gs → x = loopId →
      ∀ g ∈ gs, g.Within (fun _ => True) (· ≠ loopId) := by
    intro x gs hb hx g hg
    subst hx
    cases g with
    | block y index previous => trivial
    | loop l iteration output phase => exact ⟨trivial, hb.ne hl _ hg⟩
  cases phase with
  | actions => exact hne (descends_actions h) rfl
  | controller =>
    cases fs with
    | nil => intro f hf; cases hf
    | cons g rest =>
      obtain ⟨hlead, hdesc⟩ := h
      cases g with
      | loop l iteration' output' phase' => exact hlead.elim
      | block y index previous =>
        change y = loopId at hlead
        subst hlead
        intro f hf
        rcases List.mem_cons.1 hf with rfl | hf
        · trivial
        · exact hne (descends_block.1 hdesc) rfl f hf

end Frame

namespace Engine

variable (eng : Engine) {loopId : String} {numbers : List (Option Nat)}

/-! ## What the primitives do to a loop's numbering -/

theorem runStep_iteratesAs (id : String) (node : FlowNode) (path : String)
    (previous : Option StepOutput) :
    Maintains (fun e _ => e.IteratesAs loopId numbers) (eng.runStep id node path previous) := by
  intro e w h
  refine (runStep_spec eng id node path previous e w).mono fun o e' _ hs => ?_
  obtain ⟨e₁, r, hedits, -, rfl, -⟩ := hs
  refine ⟨(hedits.grows.trans (Execution.Grows.record e₁ id r)).has h.1, ?_⟩
  rw [Execution.iterations_record, hedits.iterations, h.2]

theorem completePausedStep_iteratesAs (id : String) (output : StepOutput) :
    Maintains (fun e _ => e.IteratesAs loopId numbers) (eng.completePausedStep id output) := by
  intro e w h
  refine (completePausedStep_spec eng id output e w).mono fun _ e' _ hs => ?_
  obtain ⟨_, _, _, _, _, rfl⟩ := hs
  exact ⟨(Execution.Grows.of_modify e id fun _ => by exact ⟨rfl, rfl, rfl⟩).has h.1,
    (Execution.iterations_modify _ _ (fun _ => by exact ⟨rfl, rfl, rfl⟩) _).trans h.2⟩

theorem finishInstance_iteratesAs (id : String) (outcome : Outcome) :
    Maintains (fun e _ => e.IteratesAs loopId numbers) (eng.finishInstance id outcome) := by
  intro e w h
  refine (finishInstance_spec eng id outcome e w).mono fun _ e' _ hs => ?_
  split at hs
  · rw [hs]
    exact h
  · obtain ⟨t, rfl⟩ := hs
    exact ⟨(Execution.Grows.finish e id _ _ _ t).has h.1,
      (Execution.iterations_finish _ _ _ _ _ _ _).trans h.2⟩

/-- Opening an instance adds `iteration` to the numbering of loop `loopId`
when it opens an iteration instance below it, and leaves it alone otherwise. -/
theorem openInstance_iterations (parentId id : String) (branchType : BranchType)
    (iteration : Option Nat) (e : Execution) (w : World) (h : e.has loopId = true) :
    Ensures (eng.openInstance parentId id branchType iteration) e w fun _ e' _ =>
      e'.IteratesAs loopId (e.iterations loopId ++
        if parentId = loopId ∧ branchType.isIteration then [iteration] else []) := by
  refine (openInstance_spec eng parentId id branchType iteration e w).mono fun _ e' _ hs => ?_
  obtain ⟨t, _, hspawn⟩ := hs
  exact ⟨(Execution.Grows.of_spawn hspawn).has h, Execution.iterations_spawn hspawn loopId⟩

theorem openInstance_iteratesAs (parentId id : String) (branchType : BranchType)
    (iteration : Option Nat) (hb : branchType = .loopActions → parentId ≠ loopId) :
    Maintains (fun e _ => e.IteratesAs loopId numbers)
      (eng.openInstance parentId id branchType iteration) := by
  intro e w h
  refine (openInstance_iterations eng parentId id branchType iteration e w h.1).mono
    fun _ e' _ hs => ?_
  have hnot : ¬(parentId = loopId ∧ branchType.isIteration = true) := by
    rintro ⟨hp, hi⟩
    cases branchType <;> first | exact hb rfl hp | cases hi
  rw [if_neg hnot, List.append_nil, h.2] at hs
  exact hs

/-- A walk whose cursor names loop `loopId` in no loop frame opens no
iteration instance below it: every loop it runs is another one. -/
theorem walk_keeps_iterations :
    ∀ id nodes base entry resume,
      Frame.CursorWithin (fun _ => True) (· ≠ loopId) resume →
      Maintains (fun e _ => e.IteratesAs loopId numbers)
        (eng.runBlock eng.runStep id nodes base entry resume) := by
  intro id nodes base entry resume hcur
  refine (walk_maintains_within eng eng.runStep (fun e _ => e.IteratesAs loopId numbers)
    (fun _ => True) (· ≠ loopId) (fun _ _ _ h _ => h) ?_ (fun id _ => runStep_iteratesAs eng id)
    (fun id _ => completePausedStep_iteratesAs eng id)
    (fun parentId id branchType iteration _ hb =>
      openInstance_iteratesAs eng parentId id branchType iteration fun h => (hb h))
    (fun id _ => finishInstance_iteratesAs eng id)).1 id nodes base entry resume trivial hcur
  intro e w candidate h
  refine ⟨trivial, fun heq => ?_⟩
  have hfree := Execution.has_freshId e candidate
  rw [heq, h.1] at hfree
  cases hfree

/-! ## A round's blocks -/

/-- A fresh round's actions open the round's iteration instance below the
loop and leave the numbering of the loop otherwise alone, unless the
instance would lie too deep and the actions fail at once. -/
theorem act_opens_iteration (l : LoopSite) (iteration : Nat) (out : Option StepOutput)
    (e : Execution) (w : World) (h : e.IteratesAs l.loopId numbers) :
    Ensures (l.act eng eng.runStep iteration out none) e w fun o e' _ =>
      e'.IteratesAs l.loopId (numbers ++ [some iteration]) ∨
        (e'.IteratesAs l.loopId numbers ∧ ∃ f, o = .failed f) := by
  unfold LoopSite.act
  refine Ensures.bind (Ensures.lift fun _ w₁ _ => ?_)
  rw [Engine.runChild]
  refine Ensures.bind (Ensures.get ?_)
  split
  · exact Ensures.pure (Or.inr ⟨h, _, rfl⟩)
  refine Ensures.bind (Ensures.get ?_)
  refine Ensures.next (openInstance_iterations eng _ _ _ _ e w₁ h.1) fun _ e₁ w₂ h₁ => ?_
  rw [if_pos ⟨rfl, rfl⟩, h.2] at h₁
  refine Ensures.next (walk_keeps_iterations eng _ _ _ _ none Frame.cursorWithin_none e₁ w₂ h₁)
    fun o e₂ w₃ h₂ => ?_
  refine Ensures.next (finishInstance_iteratesAs eng _ o e₂ w₃ h₂) fun _ e₃ _ h₃ => ?_
  exact Ensures.pure (Or.inl h₃)

/-- Re-entered along a cursor that names the loop in no loop frame, a
round's actions leave the loop's numbering alone. -/
theorem act_resumed_keeps (l : LoopSite) (iteration : Nat) (out : Option StepOutput) (r : Resume)
    (hcur : Frame.CursorWithin (fun _ => True) (· ≠ l.loopId) (some r)) :
    Maintains (fun e _ => e.IteratesAs l.loopId numbers) (l.act eng eng.runStep iteration out (some r)) := by
  unfold LoopSite.act
  refine Maintains.bind (Maintains.quiet (fun _ _ _ h _ => h) (Run.debug_quiet _ _)) fun _ => ?_
  rw [Engine.runChild]
  rcases hr : r.frames with _ | ⟨frame, tail⟩
  · exact Maintains.throw _
  · exact Maintains.bind (walk_keeps_iterations eng _ _ _ _ _ hcur) fun o =>
      Maintains.bind (finishInstance_iteratesAs eng _ o) fun _ => Maintains.pure _

end Engine

/-! ## Round by round -/

/-- The iteration instances a loop has opened when it enters round
`iteration` where `pending` says: one for each round before it, and one for
this round too when a resume re-enters its actions; none for a loop without
actions. -/
def LoopSite.opened (l : LoopSite) (iteration : Nat) (pending : Option (LoopPhase × Resume)) :
    Nat :=
  if l.actions.isEmpty then 0 else iteration + if (actionsResume? pending).isSome then 1 else 0

namespace LoopSite

variable {eng : Engine} {l : LoopSite}

theorem opened_le {iteration : Nat} {pending : Option (LoopPhase × Resume)}
    (h : Admits eng.config.maxIterations iteration pending) :
    l.opened iteration pending ≤ eng.config.maxIterations := by
  unfold opened
  split
  · exact Nat.zero_le _
  · split
    · have := h.2 ‹_›
      omega
    · have := h.1
      omega

/-- A round decides without opening an iteration instance of its loop. -/
theorem Decided.iteratesAs {iteration : Nat} {out out' : Option StepOutput}
    {pending : Option (LoopPhase × Resume)} {e e' : Execution} {w w' : World}
    {numbers : List (Option Nat)} (h : l.Decided eng eng.runStep iteration out pending e w out' e' w')
    (hclear : Frame.PendingWithin (fun _ => True) (· ≠ l.loopId) pending)
    (hnum : e.IteratesAs l.loopId numbers) : e'.IteratesAs l.loopId numbers := by
  cases h with
  | ran _ hctl =>
    exact Engine.walk_keeps_iterations eng _ _ _ _ _ hclear.controller e w hnum _ _ _ hctl
  | reentered _ => exact hnum

/-- Two frame lists that end in a frame of one loop end in the same round and
phase. -/
theorem loop_frame_eq {fs gs : List Frame} {loopId : String} {j j' : Nat}
    {out out' : Option StepOutput} {phase phase' : LoopPhase}
    (h : fs ++ [.loop loopId j out phase] = gs ++ [.loop loopId j' out' phase']) :
    j = j' ∧ phase = phase' := by
  obtain ⟨-, hlast⟩ := List.append_inj' h rfl
  simp only [List.cons.injEq, Frame.loop.injEq, and_true] at hlast
  exact ⟨hlast.2.1, hlast.2.2.2⟩

theorem opened_of_actions {iteration : Nat} {pending : Option (LoopPhase × Resume)}
    (hne : l.actions ≠ []) :
    l.opened iteration pending = iteration + if (actionsResume? pending).isSome then 1 else 0 := by
  have hempty : l.actions.isEmpty = false := by simpa using hne
  simp only [opened, hempty, Bool.false_eq_true, if_false]

/-- A round that goes on to its actions leaves its loop with one iteration
instance for every round up to this one, unless the actions fail at once for
want of depth. -/
theorem Continues.act_numbering {iteration : Nat} {out out' : Option StepOutput}
    {pending : Option (LoopPhase × Resume)} {e e₁ e' : Execution} {w w₁ w' : World} {o : Outcome}
    (hc : l.Continues eng eng.runStep iteration out pending e w out' e₁ w₁) (hne : l.actions ≠ [])
    (hact : execIn (l.act eng eng.runStep iteration out' (actionsResume? pending)) e₁ w₁ =
      (.ok (o, e'), w'))
    (hclear : Frame.PendingWithin (fun _ => True) (· ≠ l.loopId) pending)
    (hnum : e.IteratesAs l.loopId ((List.range (l.opened iteration pending)).map some)) :
    e'.IteratesAs l.loopId ((List.range (iteration + 1)).map some) ∨
      (e'.IteratesAs l.loopId ((List.range iteration).map some) ∧ ∃ f, o = .failed f) := by
  have h₁ := hc.1.iteratesAs hclear hnum
  rw [opened_of_actions hne] at h₁
  rcases hp : actionsResume? pending with _ | ρ
  · rw [hp] at hact h₁
    simp only [Option.isSome_none, Bool.false_eq_true, if_false, Nat.add_zero] at h₁
    rcases Engine.act_opens_iteration eng l iteration out' e₁ w₁ h₁ o e' w' hact with h | h
    · left
      rwa [List.range_succ, List.map_append]
    · exact Or.inr h
  · rw [hp] at hact h₁
    have hcur : Frame.CursorWithin (fun _ => True) (· ≠ l.loopId) (some ρ) := by
      rw [← hp]
      exact hclear.actions
    exact Or.inl (Engine.act_resumed_keeps eng l iteration out' ρ hcur e₁ w₁ h₁ o e' w' hact)

/-- Along the rounds of a loop, entered where it admits, along a cursor that
names the loop in no loop frame, and with one iteration instance for each
round that ran its actions: when the loop stops, its iteration instances are
numbered `0, 1, …, k - 1` in the order they were opened, with `k` at most the
limit, and a suspended loop has as many as it will have when entered again
where its frame says. -/
theorem Rounds.numbered {iteration : Nat} {out : Option StepOutput}
    {pending : Option (LoopPhase × Resume)} {e : Execution} {w : World}
    {r : Except FlowError (Outcome × Execution) × World} {calls : Nat}
    (h : l.Rounds eng eng.runStep iteration out pending e w r calls)
    (hadm : Admits eng.config.maxIterations iteration pending)
    (hclear : Frame.PendingWithin (fun _ => True) (· ≠ l.loopId) pending)
    (hnum : e.IteratesAs l.loopId ((List.range (l.opened iteration pending)).map some))
    {o : Outcome} {e' : Execution} {w' : World} (hr : r = (.ok (o, e'), w')) :
    ∃ k ≤ eng.config.maxIterations, e'.IteratesAs l.loopId ((List.range k).map some) ∧
      ∀ frames pause j out' phase fs, o = .suspended frames pause →
        frames = fs ++ [.loop l.loopId j out' phase] → ∀ ρ, k = l.opened j (some (phase, ρ)) := by
  induction h with
  | @stop iteration out pending e e₁ w w₁ o₁ hs =>
    simp only [Prod.mk.injEq, Except.ok.injEq] at hr
    obtain ⟨⟨rfl, rfl⟩, rfl⟩ := hr
    cases hs with
    | cancelled =>
      exact ⟨_, opened_le hadm, hnum, fun _ _ _ _ _ _ ho => by cases ho⟩
    | controller hruns hctl _ =>
      refine ⟨_, opened_le hadm,
        Engine.walk_keeps_iterations eng _ _ _ _ _ hclear.controller e w hnum _ _ _ hctl, ?_⟩
      intro frames pause j out' phase fs ho hfs ρ
      obtain ⟨fs₀, -, rfl⟩ := Outcome.withLoopFrame_eq_suspended ho
      obtain ⟨rfl, rfl⟩ := loop_frame_eq hfs
      have hs : (actionsResume? pending).isSome = false := by
        cases hp : actionsResume? pending <;> simp_all [ControllerRuns]
      unfold opened
      rw [hs]
      rfl
    | exit hdec _ =>
      exact ⟨_, opened_le hadm, hdec.iteratesAs hclear hnum, fun _ _ _ _ _ _ ho => by cases ho⟩
    | stray hdec _ _ _ =>
      exact ⟨_, opened_le hadm, hdec.iteratesAs hclear hnum, fun _ _ _ _ _ _ ho => by cases ho⟩
    | limit hdec _ _ _ =>
      exact ⟨_, opened_le hadm, hdec.iteratesAs hclear hnum, fun _ _ _ _ _ _ ho => by cases ho⟩
    | actions hc hne hact _ =>
      rcases hc.act_numbering hne hact hclear hnum with hnum' | ⟨hnum', f, rfl⟩
      · refine ⟨_, hc.below hadm, hnum', ?_⟩
        intro frames pause j out' phase fs ho hfs ρ
        obtain ⟨fs₀, -, rfl⟩ := Outcome.withLoopFrame_eq_suspended ho
        obtain ⟨rfl, rfl⟩ := loop_frame_eq hfs
        rw [opened_of_actions hne]
        rfl
      · exact ⟨_, Nat.le_of_lt (hc.below hadm), hnum', fun _ _ _ _ _ _ ho => by cases ho⟩
  | throw => cases hr
  | @next iteration out out' pending e e₁ w w₁ r calls hn _ ih =>
    have hsucc := succ64_below (hn.below hadm)
    rw [hsucc] at ih
    refine ih ⟨hn.below hadm, fun h => by cases h⟩ Frame.pendingWithin_none ?_ hr
    cases hn with
    | empty hc hemp =>
      have hzero : ∀ i p, l.opened i p = 0 := fun _ _ => by simp [opened, hemp]
      have h₁ := hc.1.iteratesAs hclear hnum
      rwa [hzero] at h₁ ⊢
    | done hc hne hact =>
      rcases hc.act_numbering hne hact hclear hnum with hnum' | ⟨-, f, hf⟩
      · rwa [opened_of_actions hne]
      · cases hf

end LoopSite

/-! ## Within the limit -/

/-- What a loop's rounds guarantee when entered at round `iteration`, with the
controller's last output `out`, re-entering where `pending` says. -/
structure LoopSite.WithinLimit (eng : Engine) (l : LoopSite) (iteration : Nat)
    (out : Option StepOutput) (pending : Option (LoopPhase × Resume)) (e : Execution) (w : World)
    (calls : Nat) : Prop where
  /-- The run goes round by round, and `calls` rounds run the controller's block afresh. -/
  rounds : l.Rounds eng eng.runStep iteration out pending e w
    (execIn (l.rounds eng eng.runStep iteration out pending) e w) calls
  /-- With the rounds begun before, at most one round more than the limit
  runs the controller's block. -/
  begun_le : begun iteration pending + calls ≤ eng.config.maxIterations + 1
  /-- When the loop stops, its iteration instances are numbered `0, …, k - 1`
  in the order they were opened, `k` at most the limit. A suspended loop
  leaves a frame of the round it stopped in, under a cursor that goes down
  from it, where it admits being entered again with the rounds it began and
  the iteration instances it opened. -/
  numbered : ∀ o e' w', execIn (l.rounds eng eng.runStep iteration out pending) e w =
      (.ok (o, e'), w') →
    ∃ k ≤ eng.config.maxIterations, e'.IteratesAs l.loopId ((List.range k).map some) ∧
      ∀ frames pause, o = .suspended frames pause →
        ∃ j out' phase fs, frames = fs ++ [.loop l.loopId j out' phase] ∧
          Frame.Descends e' (.loop l.loopId j out' phase :: fs.reverse) ∧
          ∀ ρ, Admits eng.config.maxIterations j (some (phase, ρ)) ∧
            begun iteration pending + calls = begun j (some (phase, ρ)) ∧
            k = l.opened j (some (phase, ρ))

/-- A loop's rounds stay within the engine's iteration limit, whatever its
controller and actions do, over any number of suspensions and resumes: entered
fresh at round 0 or again where a frame of it says, with the iteration
instances it opened so far, its controller's block runs afresh at most
`maxIterations + 1` times in all, its iteration instances carry `0, 1, …` in
the order they were opened, at most `maxIterations` of them, and it stops only
as `RoundStop` says: through `exit`, another edge, the limit, a controller or
actions block that does not complete, or a fresh round that finds the run
cancelled. -/
theorem loop_rounds_within_limit (eng : Engine) (l : LoopSite) (iteration : Nat)
    (out : Option StepOutput) (pending : Option (LoopPhase × Resume)) (e : Execution) (w : World)
    (hlinked : e.Linked) (hadm : Admits eng.config.maxIterations iteration pending)
    (hcur : ∀ phase ρ, pending = some (phase, ρ) →
      Frame.Descends e (.loop l.loopId iteration out phase :: ρ.frames))
    (hnum : e.IteratesAs l.loopId ((List.range (l.opened iteration pending)).map some)) :
    ∃ calls, l.WithinLimit eng iteration out pending e w calls := by
  obtain ⟨calls, hr⟩ := l.rounds_run eng eng.runStep iteration out pending e w
  have hclear : Frame.PendingWithin (fun _ => True) (· ≠ l.loopId) pending :=
    fun phase ρ hp => Frame.descends_loop_clear hlinked (hcur phase ρ hp)
  have hctrl : ∀ r, controllerResume? pending = some r → Frame.Descends e r.frames := by
    intro r hp
    rcases pending with _ | ⟨_ | _, ρ⟩ <;> cases hp
    exact Frame.descends_controller (hcur _ _ rfl)
  have hacts : ∀ r, actionsResume? pending = some r → Frame.Below e l.loopId r.frames := by
    intro r hp
    rcases pending with _ | ⟨_ | _, ρ⟩ <;> cases hp
    exact Frame.descends_actions (hcur _ _ rfl)
  refine ⟨calls, hr, hr.begun_add_le hadm, fun o e' w' hrun => ?_⟩
  obtain ⟨k, hk, hnum', hsusp⟩ := hr.numbered hadm hclear hnum hrun
  refine ⟨k, hk, hnum', fun frames pause ho => ?_⟩
  subst ho
  obtain ⟨j, out', phase, fs, hfs, hj⟩ := hr.suspended hadm hrun
  have hunwound := Engine.loopRound_unwinds (Engine.runStep_grows eng) e w hctrl hacts _ e' w' hrun
  obtain ⟨-, -, -, -, -, hdesc⟩ := hunwound.2 frames pause rfl
  rw [hfs, List.reverse_append, List.reverse_singleton, List.singleton_append] at hdesc
  exact ⟨j, out', phase, fs, hfs, hdesc, fun ρ => ⟨(hj ρ).1, (hj ρ).2,
    hsusp frames pause j out' phase fs rfl hfs ρ⟩⟩

/-- A loop of one controller step and one action in an execution of the root
and the loop's instance, entered fresh. -/
def countingLoop : LoopSite :=
  ⟨"r-0-loop", .step "c", [.step "a"], "0.controller", "0.actions", "0"⟩

/-- The root and the instance of `countingLoop`. -/
def countingStart : Execution :=
  .ofInstances "r" [{ id := "r", branchType := .main, startedAt := Timestamp.ofNanos 0 },
    { id := "r-0-loop", parentId := some "r", depth := 1, branchType := .loop,
      startedAt := Timestamp.ofNanos 0 }]

theorem countingLoop_within_limit :
    countingStart.Linked ∧ Admits 1000 0 none ∧ countingStart.IteratesAs "r-0-loop" [] ∧
      ∃ calls, countingLoop.WithinLimit { registry := {} } 0 none none countingStart {} calls := by
  have hspawn : (Execution.create "r" .null (Timestamp.ofNanos 0)).spawn "r" "r-0-loop" .loop none
      (Timestamp.ofNanos 0) = .ok _ countingStart := rfl
  have hgrown : countingStart.Grown := .spawn (.create "r" .null (Timestamp.ofNanos 0)) hspawn
  have hadm : Admits 1000 0 none := ⟨Nat.zero_le _, fun h => by cases h⟩
  have hnum : countingStart.IteratesAs "r-0-loop" [] := ⟨rfl, rfl⟩
  exact ⟨hgrown.linked, hadm, hnum, loop_rounds_within_limit { registry := {} } countingLoop 0 none
    none countingStart {} hgrown.linked hadm (fun _ _ h => by cases h) hnum⟩

/-- A controller that always goes on, with a limit of two rounds, and an action
that cancels the run. -/
def cancellingEngine : Engine :=
  { registry := { steps := [
      { id := "ctl", name := "ctl", edges := ["continue", "exit"],
        behaviour := .script { ending := .exit "continue" (.value .null) } },
      { id := "stop", name := "stop", behaviour := .script { cancel := true } }] },
    config := { maxIterations := 2 } }

/-- A loop of that controller and that action. -/
def cancellingLoop : FlowDefinition := ⟨"", [.loop [.step "ctl", .step "stop"]], none⟩

/-- A loop whose action cancels the run ends cancelled after one round, below
its limit: the controller ran once and went on, the action completed, no step
failed, and the next round found the run cancelled before its controller. -/
theorem cancelling_action_ends_loop :
    ∃ R w, (cancellingEngine.run cancellingLoop .null).run.run {} = (.ok R, w) ∧
      R.status = .cancelled ∧ (R.instances.flatMap (·.steps)).map (·.stepId) = ["ctl", "stop"] ∧
      (∀ r ∈ R.instances.flatMap (·.steps), r.status = .completed) ∧
      (R.instances.filter (·.branchType.isIteration)).map (·.iteration) = [some 0] := by
  -- The walk enters each function at most twice, so unfolding along its path runs it.
  have hrun := Run.exists_ok_of_any (x := (cancellingEngine.run cancellingLoop .null).run.run {})
    (p := fun R _ => decide (R.status = .cancelled ∧ (R.instances.flatMap (·.steps)).map (·.stepId) = ["ctl", "stop"] ∧
      (∀ r ∈ R.instances.flatMap (·.steps), r.status = .completed) ∧
      (R.instances.filter (·.branchType.isIteration)).map (·.iteration) = [some 0])) (by
    unfold Engine.run Engine.drive Engine.runBlock Engine.blockFrom Engine.runNode Engine.runLoop
      Engine.loopRound Engine.loopFollow Engine.runChild Engine.runBlock Engine.blockFrom
      Engine.runNode Engine.blockFrom Engine.loopRound Engine.loopFollow
    decide +kernel)
  obtain ⟨R, w, hR, hcheck⟩ := hrun
  exact ⟨R, w, hR, of_decide_eq_true hcheck⟩

end Flowline
