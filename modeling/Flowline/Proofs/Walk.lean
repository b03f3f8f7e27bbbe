import Flowline.Run.Engine
import Flowline.Proofs.Arena
set_option autoImplicit false

/-!
# Reasoning about the walk's computations

The walk and the steps it runs are computations over a state (the walk's
execution, a running step's scope) in a world that may fail. This module
gives them a weakest-precondition calculus and the specifications of the
walk's primitives, so that the walk's own proofs never unfold a primitive:

* `Ensures m s w Q`: whatever `m` gives when it succeeds from state `s` in
  world `w` satisfies `Q`, with the state and world it leaves; its rules
  follow `pure`, `bind`, `get`, `set` and lifted world computations;
* `Keeps I m`: `m` keeps the state invariant `I`;
* `Execution.Grows e e'`: `e'` is reached from `e` by spawns and by
  changes that keep every instance's place (`Execution.KeepsPlace`). Every
  primitive of the walk grows its execution (`Engine.runStep_grows`,
  `Engine.openInstance_spec`, `Engine.finishInstance_spec`, …), and growing
  keeps every instance found with its parent and depth
  (`Execution.Grows.get?_some`);
* the cases where the walk stops at once, read off the definitions once
  (`Engine.runBlock_not_block`, `Engine.blockFrom_past`,
  `Engine.runNode_branch_none`, …).
-/

namespace Flowline

/-! ## Running from a state -/

/-- Runs a computation over a state from `s` in world `w`. -/
def execIn {σ α : Type} (m : StateT σ Run α) (s : σ) (w : World) :
    Except FlowError (α × σ) × World :=
  ((m.run s).run).run w

section Exec

variable {σ α β : Type}

@[simp] theorem execIn_pure (a : α) (s : σ) (w : World) :
    execIn (pure a : StateT σ Run α) s w = (.ok (a, s), w) := rfl

@[simp] theorem execIn_get (s : σ) (w : World) :
    execIn (get : StateT σ Run σ) s w = (.ok (s, s), w) := rfl

@[simp] theorem execIn_set (s s' : σ) (w : World) :
    execIn (set s' : StateT σ Run PUnit) s w = (.ok (⟨⟩, s'), w) := rfl

@[simp] theorem execIn_throw (x : FlowError) (s : σ) (w : World) :
    execIn (throw x : StateT σ Run α) s w = (.error x, w) := rfl

theorem execIn_bind (m : StateT σ Run α) (f : α → StateT σ Run β) (s : σ) (w : World) :
    execIn (m >>= f) s w = match execIn m s w with
      | (.ok (a, s'), w') => execIn (f a) s' w'
      | (.error x, w') => (.error x, w') := by
  unfold execIn
  simp only [StateT.run_bind, ExceptT.run_bind]
  rcases ((m.run s).run).run w with ⟨r, w'⟩
  rcases r with x | ⟨a, s'⟩ <;> rfl

theorem execIn_lift (r : Run α) (s : σ) (w : World) :
    execIn (liftM r : StateT σ Run α) s w = match r.run.run w with
      | (.ok a, w') => (.ok (a, s), w')
      | (.error x, w') => (.error x, w') := by
  unfold execIn
  simp only [liftM, monadLift, MonadLift.monadLift, StateT.run_lift, ExceptT.run_bind]
  rcases h : r.run.run w with ⟨x, w'⟩
  rcases x with x | a <;> simp only [StateT.run_bind, h] <;> rfl

end Exec

/-! ## Weakest preconditions -/

/-- Whatever `m` gives when it succeeds from state `s` in world `w`
satisfies `Q`, with the state and world it leaves. -/
def Ensures {σ α : Type} (m : StateT σ Run α) (s : σ) (w : World)
    (Q : α → σ → World → Prop) : Prop :=
  ∀ a s' w', execIn m s w = (.ok (a, s'), w') → Q a s' w'

/-- Whatever a world computation gives when it succeeds in world `w`
satisfies `Q`, with the world it leaves. -/
def Run.Ensures {α : Type} (m : Run α) (w : World) (Q : α → World → Prop) : Prop :=
  ∀ a w', m.run.run w = (.ok a, w') → Q a w'

namespace Ensures

variable {σ α β : Type} {s : σ} {w : World} {Q : α → σ → World → Prop}

theorem pure {a : α} (h : Q a s w) : Ensures (pure a) s w Q := by
  intro a' s' w' hrun
  simp only [execIn_pure, Prod.mk.injEq, Except.ok.injEq] at hrun
  obtain ⟨⟨rfl, rfl⟩, rfl⟩ := hrun
  exact h

theorem bind {m : StateT σ Run α} {f : α → StateT σ Run β} {Q : β → σ → World → Prop}
    (h : Ensures m s w fun a s' w' => Ensures (f a) s' w' Q) : Ensures (m >>= f) s w Q := by
  intro b s'' w'' hrun
  rw [execIn_bind] at hrun
  rcases hm : execIn m s w with ⟨r, w'⟩
  rcases r with x | ⟨a, s'⟩
  · rw [hm] at hrun
    simp at hrun
  · rw [hm] at hrun
    exact h a s' w' hm b s'' w'' hrun

theorem throw {x : FlowError} : Ensures (throw x : StateT σ Run α) s w Q := by
  intro a s' w' hrun
  simp at hrun

theorem get {Q : σ → σ → World → Prop} (h : Q s s w) : Ensures get s w Q := by
  intro a s' w' hrun
  simp only [execIn_get, Prod.mk.injEq, Except.ok.injEq] at hrun
  obtain ⟨⟨rfl, rfl⟩, rfl⟩ := hrun
  exact h

theorem set {s' : σ} {Q : PUnit → σ → World → Prop} (h : Q ⟨⟩ s' w) :
    Ensures (set s' : StateT σ Run PUnit) s w Q := by
  intro a s'' w' hrun
  simp only [execIn_set, Prod.mk.injEq, Except.ok.injEq] at hrun
  obtain ⟨⟨-, rfl⟩, rfl⟩ := hrun
  exact h

theorem modify {f : σ → σ} {Q : PUnit → σ → World → Prop} (h : Q ⟨⟩ (f s) w) :
    Ensures (modify f : StateT σ Run PUnit) s w Q := by
  intro a s' w' hrun
  change ((.ok (⟨⟩, f s), w) : Except FlowError (PUnit × σ) × World) = _ at hrun
  simp only [Prod.mk.injEq, Except.ok.injEq] at hrun
  obtain ⟨⟨-, rfl⟩, rfl⟩ := hrun
  exact h

/-- A world computation leaves the state as it is. -/
theorem lift {r : Run α} (h : Run.Ensures r w fun a w' => Q a s w') :
    Ensures (liftM r : StateT σ Run α) s w Q := by
  intro a s' w' hrun
  rw [execIn_lift] at hrun
  rcases hr : r.run.run w with ⟨x, w1⟩
  rw [hr] at hrun
  rcases x with x | a'
  · simp at hrun
  · simp only [Prod.mk.injEq, Except.ok.injEq] at hrun
    obtain ⟨⟨rfl, rfl⟩, rfl⟩ := hrun
    exact h a' w1 hr

theorem mono {m : StateT σ Run α} {Q' : α → σ → World → Prop} (h : Ensures m s w Q)
    (hq : ∀ a s' w', Q a s' w' → Q' a s' w') : Ensures m s w Q' :=
  fun a s' w' hrun => hq a s' w' (h a s' w' hrun)

/-- Sequencing: what the first computation ensures lets the rest go on. -/
theorem next {m : StateT σ Run α} {f : α → StateT σ Run β} {R : α → σ → World → Prop}
    {Q : β → σ → World → Prop} (hm : Ensures m s w R)
    (hf : ∀ a s' w', R a s' w' → Ensures (f a) s' w' Q) : Ensures (m >>= f) s w Q :=
  bind (hm.mono hf)

theorem ite {c : Prop} [Decidable c] {m₁ m₂ : StateT σ Run α} (h₁ : c → Ensures m₁ s w Q)
    (h₂ : ¬c → Ensures m₂ s w Q) : Ensures (if c then m₁ else m₂) s w Q := by
  split
  · exact h₁ ‹_›
  · exact h₂ ‹_›

/-- Two things a computation ensures hold together. -/
theorem and {m : StateT σ Run α} {Q' : α → σ → World → Prop} (h : Ensures m s w Q)
    (h' : Ensures m s w Q') : Ensures m s w fun a s' w' => Q a s' w' ∧ Q' a s' w' :=
  fun a s' w' hrun => ⟨h a s' w' hrun, h' a s' w' hrun⟩

/-- What a computation ensures under a side condition, it ensures with the
condition as a premise. -/
theorem imp {p : Prop} {m : StateT σ Run α} (h : p → Ensures m s w Q) :
    Ensures m s w fun a s' w' => p → Q a s' w' :=
  fun a s' w' hrun hp => h hp a s' w' hrun

/-- Every success of a computation is one of its runs. -/
theorem self (m : StateT σ Run α) (s : σ) (w : World) :
    Ensures m s w fun a s' w' => execIn m s w = (.ok (a, s'), w') :=
  fun _ _ _ hrun => hrun

/-- Run from a state, a computation is a world computation. -/
theorem run {m : StateT σ Run α} (h : Ensures m s w Q) :
    Run.Ensures (m.run s) w fun p w' => Q p.1 p.2 w' :=
  fun p w' hrun => h p.1 p.2 w' hrun

end Ensures

/-! ## Weakest preconditions of world computations -/

namespace Run.Ensures

variable {α β : Type} {w : World} {Q : α → World → Prop}

theorem pure {a : α} (h : Q a w) : Run.Ensures (pure a) w Q := by
  intro a' w' hrun
  change ((.ok a, w) : Except FlowError α × World) = _ at hrun
  simp only [Prod.mk.injEq, Except.ok.injEq] at hrun
  obtain ⟨rfl, rfl⟩ := hrun
  exact h

theorem bind {m : Run α} {f : α → Run β} {Q : β → World → Prop}
    (h : Run.Ensures m w fun a w' => Run.Ensures (f a) w' Q) : Run.Ensures (m >>= f) w Q := by
  intro b w'' hrun
  rcases hm : m.run.run w with ⟨x | a, w'⟩
  · simp only [ExceptT.run_bind, StateT.run_bind, hm] at hrun
    cases hrun
  · simp only [ExceptT.run_bind, StateT.run_bind, hm] at hrun
    exact h a w' hm b w'' hrun

theorem throw {x : FlowError} : Run.Ensures (throw x : Run α) w Q := by
  intro a w' hrun
  cases hrun

theorem mono {m : Run α} {Q' : α → World → Prop} (h : Run.Ensures m w Q)
    (hq : ∀ a w', Q a w' → Q' a w') : Run.Ensures m w Q' :=
  fun a w' hrun => hq a w' (h a w' hrun)

theorem next {m : Run α} {f : α → Run β} {R : α → World → Prop} {Q : β → World → Prop}
    (hm : Run.Ensures m w R) (hf : ∀ a w', R a w' → Run.Ensures (f a) w' Q) :
    Run.Ensures (m >>= f) w Q :=
  bind (hm.mono hf)

/-- An effect whose result the rest does not look at. -/
theorem after {m : Run α} {f : α → Run β} {Q : β → World → Prop}
    (hf : ∀ a w', Run.Ensures (f a) w' Q) : Run.Ensures (m >>= f) w Q :=
  bind fun a w' _ => hf a w'

theorem modify {f : World → World} {Q : PUnit → World → Prop} (h : Q ⟨⟩ (f w)) :
    Run.Ensures (modify f : Run PUnit) w Q := by
  intro a w' hrun
  change ((.ok ⟨⟩, f w) : Except FlowError PUnit × World) = _ at hrun
  simp only [Prod.mk.injEq] at hrun
  obtain ⟨-, rfl⟩ := hrun
  exact h

theorem get {Q : World → World → Prop} (h : Q w w) : Run.Ensures (get : Run World) w Q := by
  intro a w' hrun
  change ((.ok w, w) : Except FlowError World × World) = _ at hrun
  simp only [Prod.mk.injEq, Except.ok.injEq] at hrun
  obtain ⟨rfl, rfl⟩ := hrun
  exact h

/-- A loop over a list keeps what each round keeps of its carried value. -/
theorem forIn {γ : Type} (l : List γ) (init : β) {body : γ → β → Run (ForInStep β)}
    (I : β → Prop) (h : ∀ x b w, I b → Run.Ensures (body x b) w fun r _ => I r.value)
    (hinit : I init) : Run.Ensures (ForIn.forIn l init body) w fun b _ => I b := by
  induction l generalizing init w with
  | nil => exact pure hinit
  | cons x rest ih =>
    simp only [List.forIn_cons]
    refine next (h x init w hinit) fun r w' hr => ?_
    cases r with
    | done b => exact pure hr
    | yield b => exact ih b hr

end Run.Ensures

/-! ## Invariants of a state -/

/-- `m` keeps the state invariant `I`, in every world. -/
def Keeps {σ α : Type} (I : σ → Prop) (m : StateT σ Run α) : Prop :=
  ∀ s w, I s → Ensures m s w fun _ s' _ => I s'

namespace Keeps

variable {σ α β : Type} {I : σ → Prop}

theorem pure (a : α) : Keeps I (pure a : StateT σ Run α) :=
  fun _ _ hs => Ensures.pure hs

theorem bind {m : StateT σ Run α} {f : α → StateT σ Run β} (hm : Keeps I m)
    (hf : ∀ a, Keeps I (f a)) : Keeps I (m >>= f) :=
  fun s w hs => Ensures.bind ((hm s w hs).mono fun a _ _ h => hf a _ _ h)

theorem lift (r : Run α) : Keeps I (liftM r : StateT σ Run α) :=
  fun _ _ hs => Ensures.lift fun _ _ _ => hs

theorem throw (x : FlowError) : Keeps I (throw x : StateT σ Run α) :=
  fun _ _ _ => Ensures.throw

theorem get : Keeps I (get : StateT σ Run σ) :=
  fun _ _ hs => Ensures.get hs

theorem set {s' : σ} (h : I s') : Keeps I (set s' : StateT σ Run PUnit) :=
  fun _ _ _ => Ensures.set h

theorem modify {f : σ → σ} (h : ∀ s, I s → I (f s)) : Keeps I (modify f : StateT σ Run PUnit) :=
  fun s _ hs => Ensures.modify (h s hs)

/-- A loop over a list keeps what each round keeps. -/
theorem forIn {γ : Type} (l : List γ) (init : α)
    {body : γ → α → StateT σ Run (ForInStep α)} (h : ∀ x b, Keeps I (body x b)) :
    Keeps I (ForIn.forIn l init body) := by
  induction l generalizing init with
  | nil => exact pure init
  | cons x rest ih =>
    simp only [List.forIn_cons]
    refine bind (h x init) fun step => ?_
    cases step with
    | done b => exact pure b
    | yield b => exact ih b

theorem ite {c : Prop} [Decidable c] {m₁ m₂ : StateT σ Run α} (h₁ : Keeps I m₁)
    (h₂ : Keeps I m₂) : Keeps I (if c then m₁ else m₂) := by
  split
  · exact h₁
  · exact h₂

theorem getThe : Keeps I (getThe σ : StateT σ Run σ) := get

theorem modifyThe {f : σ → σ} (h : ∀ s, I s → I (f s)) :
    Keeps I (modifyThe σ f : StateT σ Run PUnit) := modify h

end Keeps

/-! ## What a step does to the execution -/

namespace Execution

/-- `e'` differs from `e` in the states of its instances only: what a
running step may change. -/
inductive Edits (e : Execution) : Execution → Prop where
  | refl : Edits e e
  | state {e₁ : Execution} (id : String) (v : FlowInstance → Value) :
      Edits e e₁ → Edits e (e₁.modify id fun i => { i with state := v i })

namespace Edits

theorem trans {e₁ e₂ e₃ : Execution} (h₁ : e₁.Edits e₂) (h₂ : e₂.Edits e₃) : e₁.Edits e₃ := by
  induction h₂ with
  | refl => exact h₁
  | state id v _ ih => exact .state id v ih

theorem setState (e : Execution) (id path : String) (v : Value) : e.Edits (e.setState id path v) :=
  .state id (fun i => setPath i.state path v) .refl

theorem setShared (e : Execution) (path : String) (v : Value) : e.Edits (e.setShared path v) :=
  setState e e.rootId path v

theorem removeState (e : Execution) (id path : String) : e.Edits (e.removeState id path).1 := by
  unfold Execution.removeState
  split
  · exact .refl
  · split
    split
    · exact .refl
    · exact .state id (fun _ => _) .refl

/-- Editing states grows an execution. -/
theorem grows {e e' : Execution} (h : e.Edits e') : e.Grows e' := by
  induction h with
  | refl => exact .refl e
  | state id v _ ih => exact .modify id ih (keepsPlace_state v)

end Edits

end Execution

/-- A running step's scope holds an execution that differs from `e` in
states only. -/
def EditsFrom (e : Execution) (scope : StepScope) : Prop := e.Edits scope.execution

/-- What survives every state change a step running in instance `id` can
make: a write or a removal in its instance, and a shared write in the root. -/
structure StepRun.Stable (id : String) (I : Execution → Prop) : Prop where
  set : ∀ e path v, I e → I (e.setState id path v)
  shared : ∀ e path v, I e → I (e.setShared path v)
  remove : ∀ e path, I e → I (e.removeState id path).1

/-- Differing from `e` in states only survives every state change. -/
theorem StepRun.Stable.edits (e : Execution) (id : String) : StepRun.Stable id e.Edits where
  set e' path v h := h.trans (.setState e' id path v)
  shared e' path v h := h.trans (.setShared e' path v)
  remove e' path h := h.trans (.removeState e' id path)

namespace StepRun

variable {I : Execution → Prop} (ctx : StepContext)

theorem log_keeps (message : String) :
    Keeps (fun s : StepScope => I s.execution) (StepRun.log ctx message) :=
  Keeps.bind (Keeps.lift _) fun _ => Keeps.modify fun _ h => h

theorem emit_keeps (v : Value) : Keeps (fun s : StepScope => I s.execution) (StepRun.emit v) :=
  Keeps.modify fun _ h => h

theorem get?_keeps (path : String) :
    Keeps (fun s : StepScope => I s.execution) (StepRun.get? ctx path) :=
  Keeps.bind Keeps.getThe fun _ => Keeps.pure _

theorem set_keeps (hI : Stable ctx.instanceId I) (path : String) (v : Value) :
    Keeps (fun s : StepScope => I s.execution) (StepRun.set ctx path v) :=
  Keeps.modify fun s h => hI.set s.execution path v h

theorem setShared_keeps (hI : Stable ctx.instanceId I) (path : String) (v : Value) :
    Keeps (fun s : StepScope => I s.execution) (StepRun.setShared path v) :=
  Keeps.modify fun s h => hI.shared s.execution path v h

theorem remove_keeps (hI : Stable ctx.instanceId I) (path : String) :
    Keeps (fun s : StepScope => I s.execution) (StepRun.remove ctx path) := by
  intro s w hs
  refine Ensures.bind (Ensures.get ?_)
  -- The scope takes the execution left by the removal.
  refine Ensures.bind (Ensures.modify (Ensures.pure ?_))
  exact hI.remove s.execution path hs

theorem snapshot_keeps : Keeps (fun s : StepScope => I s.execution) (StepRun.snapshot ctx) :=
  Keeps.bind Keeps.getThe fun _ => Keeps.pure _

theorem sleepWithin_keeps (limit : Option Nat) (ms : Nat) :
    Keeps (fun s : StepScope => I s.execution) (StepRun.sleepWithin limit ms) := by
  unfold StepRun.sleepWithin
  split
  · split
    · exact Keeps.pure _
    · exact Keeps.bind (Keeps.lift _) fun _ => Keeps.pure _
  · exact Keeps.bind (Keeps.lift _) fun _ => Keeps.pure _

/-- A loop controller only writes the loop variables of its instance. -/
theorem controlLoop_keeps (hI : Stable ctx.instanceId I) (params : Fields) :
    Keeps (fun s : StepScope => I s.execution) (controlLoop ctx params) := by
  unfold controlLoop
  dsimp only
  -- However the item is found (`while` mode reads the state first), the round
  -- ends in a failure, a write of the loop variables or a log line.
  repeat' split
  all_goals try refine Keeps.bind (get?_keeps ctx _) fun _ => ?_
  all_goals refine Keeps.bind (Keeps.pure _) fun item => ?_
  all_goals rcases item with _ | _ | it
  all_goals first
    | exact Keeps.pure _
    | exact Keeps.bind (log_keeps ctx _) fun _ => Keeps.pure _
    | exact Keeps.bind (set_keeps ctx hI _ _) fun _ =>
        Keeps.bind (set_keeps ctx hI _ _) fun _ => Keeps.pure _

theorem scriptResult_keeps (hI : Stable ctx.instanceId I) (params : Fields)
    (result : ScriptResult) :
    Keeps (fun s : StepScope => I s.execution) (scriptResult ctx params result) := by
  cases result with
  | read path => exact Keeps.bind (get?_keeps ctx path) fun _ => Keeps.pure _
  | removed path => exact Keeps.bind (remove_keeps ctx hI path) fun _ => Keeps.pure _
  | snapshot => exact snapshot_keeps ctx
  | context contains =>
    dsimp only [scriptResult]
    cases contains with
    | none => exact Keeps.bind (Keeps.pure _) fun _ => Keeps.pure _
    | some path =>
      exact Keeps.bind (get?_keeps ctx path) fun _ => Keeps.bind (Keeps.pure _) fun _ => Keeps.pure _
  | _ => exact Keeps.pure _

/-- A script writes state through its instance, or shared through the root. -/
theorem runScript_keeps (hI : Stable ctx.instanceId I) (limit : Option Nat) (params : Fields)
    (script : Script) :
    Keeps (fun s : StepScope => I s.execution) (runScript ctx limit params script) := by
  unfold runScript
  refine Keeps.bind (Keeps.forIn _ _ fun _ _ => Keeps.bind (log_keeps ctx _) fun _ => Keeps.pure _)
    fun _ => ?_
  refine Keeps.bind (Keeps.forIn _ _ fun _ _ => Keeps.bind (emit_keeps _) fun _ => Keeps.pure _)
    fun _ => ?_
  refine Keeps.bind (Keeps.forIn _ _ fun w _ => ?_) fun _ => ?_
  · split
    · exact Keeps.bind (setShared_keeps ctx hI _ _) fun _ => Keeps.pure _
    · exact Keeps.bind (set_keeps ctx hI _ _) fun _ => Keeps.pure _
  -- With or without the cancel request (a change of the world only), the
  -- script sleeps and ends.
  dsimp only
  refine Keeps.ite (Keeps.bind (Keeps.lift _) fun _ => ?_) ?_
  all_goals
    refine Keeps.bind (sleepWithin_keeps _ _) fun _ => ?_
    refine Keeps.ite (Keeps.pure _) ?_
    split
    · exact Keeps.pure _
    · exact Keeps.pure _
    · exact Keeps.pure _
    · exact Keeps.bind (scriptResult_keeps ctx hI params _) fun _ => Keeps.pure _

/-- Whatever a step does, what survives every state change it can make holds
of its scope's execution throughout. -/
theorem perform_stable (hI : Stable ctx.instanceId I) (limit : Option Nat) (params : Fields)
    (behaviour : Behaviour) :
    Keeps (fun s : StepScope => I s.execution) (perform ctx limit params behaviour) := by
  cases behaviour with
  | loopController => exact Keeps.bind (controlLoop_keeps ctx hI params) fun _ => Keeps.pure _
  | stateSet =>
    dsimp only [perform]
    split
    · exact Keeps.pure _
    · exact Keeps.pure _
    · exact Keeps.ite (Keeps.bind (setShared_keeps ctx hI _ _) fun _ => Keeps.pure _)
        (Keeps.bind (set_keeps ctx hI _ _) fun _ => Keeps.pure _)
  | stateGet =>
    dsimp only [perform]
    split
    · exact Keeps.pure _
    · refine Keeps.bind (get?_keeps ctx _) fun v => ?_
      split
      · exact Keeps.pure _
      · exact Keeps.pure _
  | humanInput => exact Keeps.bind (log_keeps ctx _) fun _ => Keeps.pure _
  | delay =>
    dsimp only [perform]
    refine Keeps.bind (sleepWithin_keeps _ _) fun _ => ?_
    split
    · exact Keeps.pure _
    · exact Keeps.bind (log_keeps ctx _) fun _ => Keeps.pure _
  | script s => exact runScript_keeps ctx hI limit params s
  | _ => exact Keeps.pure _

/-- Whatever a step does, its scope's execution grows from the one it
started with. -/
theorem perform_keeps {e : Execution} (limit : Option Nat) (params : Fields)
    (behaviour : Behaviour) : Keeps (EditsFrom e) (perform ctx limit params behaviour) :=
  perform_stable ctx (Stable.edits e ctx.instanceId) limit params behaviour

end StepRun

/-! ## The walk's primitives -/

namespace Execution

/-- An execution with a step record added last to instance `id`, numbered by
the records already there. -/
def record (e : Execution) (id : String) (r : StepRecord) : Execution :=
  e.modify id fun i => { i with steps := i.steps ++ [{ r with sequence := e.stepCount }] }

/-- An execution with instance `id` ended: its status, result and failure,
and when. -/
def finish (e : Execution) (id : String) (status : InstanceStatus) (result : Option Value)
    (error : Option Failure) (t : Timestamp) : Execution :=
  e.modify id fun i => { i with status := status, result := result, error := error, finishedAt := some t }

theorem Grows.record (e : Execution) (id : String) (r : StepRecord) : e.Grows (e.record id r) :=
  Grows.of_modify e id fun _ => ⟨rfl, rfl, rfl⟩

theorem Grows.finish (e : Execution) (id : String) (status : InstanceStatus)
    (result : Option Value) (error : Option Failure) (t : Timestamp) :
    e.Grows (e.finish id status result error t) :=
  Grows.of_modify e id fun _ => ⟨rfl, rfl, rfl⟩

end Execution

namespace Engine

variable (eng : Engine)

/-- `pushRecord` adds the record to an instance that exists. -/
theorem pushRecord_spec (id : String) (r : StepRecord) (e : Execution) (w : World) :
    Ensures (eng.pushRecord id r) e w fun _ e' _ => e.has id = true ∧ e' = e.record id r := by
  unfold pushRecord
  refine Ensures.bind (Ensures.get ?_)
  dsimp only
  split
  · rename_i e' hreq
    unfold Execution.require at hreq
    split at hreq
    · injection hreq with hreq
      exact Ensures.bind (Ensures.set (Ensures.lift fun _ _ _ => ⟨‹_›, hreq.symm⟩))
    · contradiction
  · exact Ensures.throw

/-- `failStep` records the attempt as failed and fails with the error, placed
at the attempt's path in instance `id`. -/
theorem failStep_spec (id : String) (attempt : StepRecord) (err : FlowError) (e : Execution)
    (w : World) :
    Ensures (eng.failStep id attempt err) e w fun o e' _ =>
      o = .failed (err.toFailure (some attempt.path) (some id)) ∧ e.has id = true ∧
      ∃ t, e' = e.record id
        { attempt with
          status := .failed
          error := some (err.toFailure (some attempt.path) (some id))
          finishedAt := some t } := by
  unfold failStep
  refine Ensures.bind (Ensures.lift fun _ _ _ => ?_)
  refine Ensures.bind (Ensures.lift fun t _ _ => ?_)
  refine Ensures.bind ((pushRecord_spec eng id _ e _).mono fun _ e' _ h => ?_)
  obtain ⟨hid, rfl⟩ := h
  exact Ensures.pure ⟨rfl, hid, t, rfl⟩

/-- `finishInstance` writes the final status its outcome gives, if any. -/
theorem finishInstance_spec (id : String) (outcome : Outcome) (e : Execution) (w : World) :
    Ensures (eng.finishInstance id outcome) e w fun _ e' _ =>
      match outcome.final id with
      | none => e' = e
      | some (status, result, error) => ∃ t, e' = e.finish id status result error t := by
  unfold finishInstance
  rcases outcome.final id with _ | ⟨status, result, error⟩
  · exact Ensures.pure rfl
  · refine Ensures.bind (Ensures.lift fun t _ _ => ?_)
    refine Ensures.bind (Ensures.get ?_)
    exact Ensures.bind (Ensures.set (Ensures.lift fun _ _ _ => ⟨t, rfl⟩))

theorem finishInstance_grows (id : String) (outcome : Outcome) (e : Execution) (w : World) :
    Ensures (eng.finishInstance id outcome) e w fun _ e' _ => e.Grows e' := by
  refine (finishInstance_spec eng id outcome e w).mono fun _ e' _ h => ?_
  split at h
  · rw [h]
    exact .refl e
  · obtain ⟨t, rfl⟩ := h
    exact .finish e id _ _ _ t

/-- `openInstance` spawns the instance below its parent. -/
theorem openInstance_spec (parentId id : String) (branchType : BranchType)
    (iteration : Option Nat) (e : Execution) (w : World) :
    Ensures (eng.openInstance parentId id branchType iteration) e w fun _ e' _ =>
      ∃ t child, e.spawn parentId id branchType iteration t = .ok child e' := by
  unfold openInstance
  refine Ensures.bind (Ensures.lift fun t _ _ => ?_)
  refine Ensures.bind (Ensures.get ?_)
  split
  · rename_i e' hspawn
    exact Ensures.bind (Ensures.set (Ensures.bind (Ensures.lift fun _ _ _ =>
      Ensures.lift fun _ _ _ => ⟨t, _, hspawn⟩)))
  · exact Ensures.throw

/-- `completePausedStep` completes the last paused record of an instance with
the output given. -/
theorem completePausedStep_spec (id : String) (output : StepOutput) (e : Execution) (w : World) :
    Ensures (eng.completePausedStep id output) e w fun _ e' _ =>
      ∃ i r t, e.get? id = some i ∧ i.steps.reverse.find? (·.status == .paused) = some r ∧
        e' = e.modify id fun j =>
          { j with
            steps := modifyLast (·.status == .paused)
              (fun _ => { r with status := .completed, output := some output, finishedAt := some t })
              j.steps } := by
  unfold completePausedStep
  refine Ensures.bind (Ensures.get ?_)
  split
  · exact Ensures.throw
  · rename_i i hi
    split
    · exact Ensures.throw
    · rename_i r hr
      refine Ensures.bind (Ensures.lift fun t _ _ => ?_)
      exact Ensures.bind (Ensures.set (Ensures.bind (Ensures.lift fun _ _ _ =>
        Ensures.lift fun _ _ _ => ⟨i, r, t, hi, hr, rfl⟩)))

theorem completePausedStep_grows (id : String) (output : StepOutput) (e : Execution) (w : World) :
    Ensures (eng.completePausedStep id output) e w fun _ e' _ => e.Grows e' := by
  refine (completePausedStep_spec eng id output e w).mono fun _ e' _ h => ?_
  obtain ⟨_, _, _, _, _, rfl⟩ := h
  exact .of_modify e id fun _ => ⟨rfl, rfl, rfl⟩

end Engine

/-! ## Running a step node -/

/-- The step a node runs and the parameters it runs with, as the engine
resolves them before running it. -/
def Registry.resolveNode (r : Registry) (node : FlowNode) :
    Except FlowError (StepDefinition × Fields) := do
  let step ← r.resolve (node.stepId?.getD "")
  let params ← step.resolve (node.params?.getD .null)
  pure (step, params)

/-- The errors a resolved step can end with: it timed out, returned an
error, or exited through an edge it does not declare. -/
def StepDefinition.Fault (step : StepDefinition) (err : FlowError) : Prop :=
  (∃ l, err = .executionTimeout step.id l) ∨ (∃ se, err = Engine.stepFailure step.id se) ∨
    ∃ edge, err = .undeclaredEdge step.id edge

/-- How running step node `node` of instance `id` at `path` can end: the
outcome, and the status, output and failure of the record it leaves. -/
inductive Engine.StepEnd (eng : Engine) (id path : String) (node : FlowNode) :
    Outcome → StepRecord → Prop where
  /-- The step or its parameters do not resolve. -/
  | unresolved {err : FlowError} {r : StepRecord} :
      eng.registry.resolveNode node = .error err → r.status = .failed →
      r.error = some (err.toFailure (some path) (some id)) →
      StepEnd eng id path node (.failed (err.toFailure (some path) (some id))) r
  /-- The resolved step ran and failed. -/
  | failed {step : StepDefinition} {params : Fields} {err : FlowError} {r : StepRecord} :
      eng.registry.resolveNode node = .ok (step, params) → step.Fault err → r.status = .failed →
      r.error = some (err.toFailure (some path) (some id)) →
      StepEnd eng id path node (.failed (err.toFailure (some path) (some id))) r
  /-- The resolved step exited through one of its edges. -/
  | exited {step : StepDefinition} {params : Fields} {r : StepRecord} {output : StepOutput} :
      eng.registry.resolveNode node = .ok (step, params) → r.status = .completed →
      r.error = none → r.output = some output → StepEnd eng id path node (.done (some output)) r
  /-- The resolved step suspended; the record waits for the resume. -/
  | suspended {step : StepDefinition} {params : Fields} {r : StepRecord} {pause : PendingPause} :
      eng.registry.resolveNode node = .ok (step, params) → r.status = .paused → r.error = none →
      pause.instanceId = id → StepEnd eng id path node (.suspended [] pause) r

namespace Engine

variable (eng : Engine)

/-- Acting on a resolved step's result leaves one record of the attempt in
its instance, and ends as `StepEnd` says. -/
theorem settle_spec (id path : String) {node : FlowNode} {step : StepDefinition} {params : Fields}
    (hnode : eng.registry.resolveNode node = .ok (step, params)) (limit : Option Nat)
    {attempt : StepRecord} (hpath : attempt.path = path) (herror : attempt.error = none)
    (result : StepResult) (e : Execution) (w : World) :
    Ensures (eng.settle id path step limit attempt result) e w fun o e' _ =>
      ∃ r, e.has id = true ∧ e' = e.record id r ∧ r.node = attempt.node ∧ r.path = path ∧
        eng.StepEnd id path node o r := by
  -- A failed attempt keeps its node and path and fails at the path.
  have hfail : ∀ err w, step.Fault err → Ensures (eng.failStep id attempt err) e w fun o e' _ =>
      ∃ r, e.has id = true ∧ e' = e.record id r ∧ r.node = attempt.node ∧ r.path = path ∧
        eng.StepEnd id path node o r := by
    intro err w hfault
    refine (failStep_spec eng id attempt err e w).mono fun o e' _ h => ?_
    obtain ⟨rfl, hid, t, rfl⟩ := h
    subst hpath
    exact ⟨_, hid, rfl, rfl, rfl, .failed hnode hfault rfl rfl⟩
  cases result with
  | timedOut =>
    rw [settle]
    exact Ensures.bind (Ensures.lift fun _ _ _ => hfail _ _ (.inl ⟨_, rfl⟩))
  | finished r =>
    rcases r with se | (⟨edge, value⟩ | ⟨details, resumeEdge⟩) <;> rw [settle]
    · exact Ensures.bind (Ensures.lift fun _ _ _ => hfail _ _ (.inr (.inl ⟨se, rfl⟩)))
    · refine Ensures.ite (fun _ => hfail _ _ (.inr (.inr ⟨edge, rfl⟩))) fun _ => ?_
      refine Ensures.bind (Ensures.lift fun t _ _ => ?_)
      refine Ensures.bind ((pushRecord_spec eng id _ _ _).mono fun _ e' _ h => ?_)
      obtain ⟨hid, rfl⟩ := h
      exact Ensures.pure ⟨_, hid, rfl, rfl, hpath, .exited hnode rfl herror rfl⟩
    · refine Ensures.ite (fun _ => hfail _ _ (.inr (.inr ⟨resumeEdge, rfl⟩))) fun _ => ?_
      refine Ensures.bind (Ensures.lift fun _ _ _ => ?_)
      refine Ensures.bind (Ensures.lift fun _ _ _ => ?_)
      refine Ensures.bind ((pushRecord_spec eng id _ _ _).mono fun _ e' _ h => ?_)
      obtain ⟨hid, rfl⟩ := h
      exact Ensures.pure ⟨_, hid, rfl, rfl, hpath, .suspended hnode rfl herror rfl⟩

/-- Running a step node changes states as steps may, then leaves one record of
the node in its instance, and ends as `StepEnd` says, however its result is
adjusted: what survives every state change a step there can make holds
before the record is added. -/
theorem runStepWith_stable (adjust : StepResult → StepResult) (id : String) (node : FlowNode)
    (path : String) (previous : Option StepOutput) (e : Execution) (w : World)
    {I : Execution → Prop} (hI : StepRun.Stable id I) (he : I e) :
    Ensures (eng.runStepWith adjust id node path previous) e w fun o e' _ =>
      ∃ e₁ r, I e₁ ∧ e₁.has id = true ∧ e' = e₁.record id r ∧ r.node = node ∧
        r.path = path ∧ eng.StepEnd id path node o r := by
  unfold runStepWith
  refine Ensures.bind (Ensures.lift fun startedAt _ _ => ?_)
  dsimp only
  split
  · -- The reference does not resolve.
    rename_i err hres
    refine (failStep_spec eng id _ err e _).mono fun o e' _ h => ?_
    obtain ⟨rfl, hid, t, rfl⟩ := h
    exact ⟨e, _, he, hid, rfl, rfl, rfl,
      .unresolved (by simp [Registry.resolveNode, hres]; rfl) rfl rfl⟩
  · rename_i step hres
    split
    · -- The parameters do not resolve.
      rename_i err hparams
      refine (failStep_spec eng id _ err e _).mono fun o e' _ h => ?_
      obtain ⟨rfl, hid, t, rfl⟩ := h
      exact ⟨e, _, he, hid, rfl, rfl, rfl,
        .unresolved (by simp [Registry.resolveNode, hres, hparams, bind, Except.bind]) rfl rfl⟩
    · rename_i params hparams
      have hnode : eng.registry.resolveNode node = .ok (step, params) := by
        simp [Registry.resolveNode, hres, hparams, bind, Except.bind]; rfl
      refine Ensures.bind (Ensures.lift fun _ _ _ => ?_)
      refine Ensures.bind (Ensures.get ?_)
      refine Ensures.bind (Ensures.lift fun ran w₁ hran => ?_)
      -- The step runs in instance `id`, so its scope's execution keeps `I`.
      have hkept : I ran.2.execution :=
        StepRun.perform_stable _ hI _ _ _ {execution := e} _ he ran.1 ran.2 w₁ hran
      obtain ⟨result, scope⟩ := ran
      refine Ensures.bind (Ensures.set ?_)
      refine (settle_spec eng id path hnode _ rfl rfl (adjust result) _ _).mono fun o e' _ h => ?_
      obtain ⟨r, hid, rfl, hn, hp, hend⟩ := h
      exact ⟨_, r, hkept, hid, rfl, hn, hp, hend⟩

/-- Running a step node edits states, then leaves one record of the node in
its instance, and ends as `StepEnd` says, however its result is adjusted. -/
theorem runStepWith_spec (adjust : StepResult → StepResult) (id : String) (node : FlowNode)
    (path : String) (previous : Option StepOutput) (e : Execution) (w : World) :
    Ensures (eng.runStepWith adjust id node path previous) e w fun o e' _ =>
      ∃ e₁ r, e.Edits e₁ ∧ e₁.has id = true ∧ e' = e₁.record id r ∧ r.node = node ∧
        r.path = path ∧ eng.StepEnd id path node o r :=
  runStepWith_stable eng adjust id node path previous e w (StepRun.Stable.edits e id) .refl

/-- Running a step node edits states, then leaves one record of the node in
its instance, and ends as `StepEnd` says. -/
theorem runStep_spec (id : String) (node : FlowNode) (path : String)
    (previous : Option StepOutput) (e : Execution) (w : World) :
    Ensures (eng.runStep id node path previous) e w fun o e' _ =>
      ∃ e₁ r, e.Edits e₁ ∧ e₁.has id = true ∧ e' = e₁.record id r ∧ r.node = node ∧
        r.path = path ∧ eng.StepEnd id path node o r :=
  runStepWith_spec eng _ id node path previous e w

end Engine


/-! ## Where the walk stops at once

A block or a loop refuses a cursor whose top frame is of the other kind, a
block past its last node is done, and a branch runs the arm its edge selects
or fails without one. Every walk induction meets these cases; they are read
off the definitions once here. -/

namespace Engine

variable {eng : Engine} {step : StepRunner}

/-- A block refuses a cursor whose top frame is a loop frame. -/
theorem runBlock_not_block {id base : String} {nodes : List FlowNode} {entry : Option StepOutput}
    {r : Resume} {other : Frame} {tail : List Frame}
    (hother : ∀ frameId index before, other ≠ .block frameId index before)
    (hr : r.frames = other :: tail) :
    eng.runBlock step id nodes base entry (some r) =
      throw (.corruptCursor s!"expected a block frame for '{id}', found {other.debugText}") := by
  rw [runBlock, hr]
  cases other with
  | block frameId index before => exact absurd rfl (hother frameId index before)
  | loop => rfl

/-- A loop refuses a cursor whose top frame is a block frame. -/
theorem runLoop_not_loop {parentId path : String} {index : Nat} {controller : FlowNode}
    {actions : List FlowNode} {r : Resume} {other : Frame} {tail : List Frame}
    (hother : ∀ loopId iteration output phase, other ≠ .loop loopId iteration output phase)
    (hr : r.frames = other :: tail) :
    eng.runLoop step parentId index path (controller :: actions) (some r) =
      throw (.corruptCursor s!"expected a loop frame at {path}, found {other.debugText}") := by
  rw [runLoop, hr]
  cases other with
  | block => rfl
  | loop loopId iteration output phase => exact absurd rfl (hother loopId iteration output phase)

/-- Past its last node a block is done, with the last output it saw. -/
theorem blockFrom_past {id base : String} {nodes : List FlowNode} {index : Nat}
    {previous : Option StepOutput} {nested : Option Resume} (hnone : nodes[index]? = none) :
    eng.blockFrom step id nodes base index previous nested = pure (.done previous) := by
  rw [blockFrom]
  split
  · rfl
  · rename_i node h
    rw [hnone] at h
    cases h

/-- A branch runs the arm its edge selects, in a child named after the edge. -/
theorem runNode_branch_found {id path edge arm : String} {index : Nat}
    {previous : Option StepOutput} {resuming : Option Resume} {arms : List (String × FlowNode)}
    {target : FlowNode} (hedge : (previous.map StepOutput.edge).getD "" = edge)
    (hfound : arms.find? (·.1 == edge) = some (arm, target)) :
    eng.runNode step id (.branch arms) index path previous resuming =
      eng.runChild step id s!"{id}-{index}-branch-{edge}" (.edge edge) none (armNodes target)
        s!"{path}.{edge}" previous resuming := by
  subst hedge
  rw [runNode]
  split
  · rename_i arm' target' h
    rw [hfound] at h
    cases h
    rfl
  · rename_i h
    rw [hfound] at h
    cases h

/-- A branch with no arm for its edge fails there, after logging why. -/
theorem runNode_branch_none {id path edge : String} {index : Nat} {previous : Option StepOutput}
    {resuming : Option Resume} {arms : List (String × FlowNode)}
    (hedge : (previous.map StepOutput.edge).getD "" = edge) (hnone : arms.find? (·.1 == edge) = none) :
    eng.runNode step id (.branch arms) index path previous resuming = (do
      Run.error .engine s!"No branch at {path} handles edge '{edge}'"
      pure (.failed ((FlowError.unhandledEdge edge).toFailure (some path) (some id)))) := by
  subst hedge
  rw [runNode]
  split
  · rename_i arm' target' h
    rw [hnone] at h
    cases h
  · rfl

end Engine

end Flowline
