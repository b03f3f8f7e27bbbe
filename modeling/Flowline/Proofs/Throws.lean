import Mathlib
import Flowline.Proofs.Safety
set_option autoImplicit false

/-!
# What the walk's computations fail with

`Ensures` says what a computation gives when it succeeds; `Throws` says what
it fails with, and the world it leaves then. The rules follow those of
`Ensures`: a failure of `m >>= f` is one of `m`, or one of `f a` once `m`
gave `a`, so the rule for `bind` takes what `m` ensures. `Tame m` says that
`m` never fails and leaves the pause store as it is, from any state in any
world.

Every primitive of the walk is tame but three, and each of those fails only
for a reason the walk can rule out where it calls it: adding a step record
needs its instance (`Engine.pushRecord_throws`), completing a suspended step
needs the instance and its paused record
(`Engine.completePausedStep_throws`), and opening an instance needs its
parent and a free identifier (`Engine.openInstance_throws`). The identifier
`Execution.freshId` picks is always free (`Execution.has_freshId`): among more
suffixed candidates than there are instances one is not taken. A step run
through the registry never fails once its instance exists
(`Engine.runStep_throws`).

Outside the walk, saving a ticket fails only as the store does
(`Run.storeTicket_throws`), never in memory, and claiming one from memory
fails only for an unknown or already claimed identifier, changing nothing
(`Run.claimTicket_throws`).
-/

namespace Flowline

/-! ## The failure calculus -/

/-- Whatever `m` fails with from state `s` in world `w` satisfies `E`, with
the world it leaves. -/
def Throws {σ α : Type} (m : StateT σ Run α) (s : σ) (w : World)
    (E : FlowError → World → Prop) : Prop :=
  ∀ err w', execIn m s w = (.error err, w') → E err w'

/-- Whatever a world computation fails with in world `w` satisfies `E`, with
the world it leaves. -/
def Run.Throws {α : Type} (m : Run α) (w : World) (E : FlowError → World → Prop) : Prop :=
  ∀ err w', m.run.run w = (.error err, w') → E err w'

/-- `m` never fails and leaves the pause store as it is, from any state in
any world: what every effect of the walk does but three. -/
def Tame {σ α : Type} (m : StateT σ Run α) : Prop :=
  ∀ s w, Throws m s w (fun _ _ => False) ∧ Ensures m s w fun _ _ w' => w'.store = w.store

/-- A world computation that never fails and leaves the pause store as it
is. -/
def Run.Tame {α : Type} (m : Run α) : Prop :=
  ∀ w, Run.Throws m w (fun _ _ => False) ∧ Run.Ensures m w fun _ w' => w'.store = w.store

namespace Run.Throws

variable {α β : Type} {w : World} {E : FlowError → World → Prop}

theorem pure (a : α) : Run.Throws (pure a) w E := by
  intro err w' hrun
  cases hrun

theorem throw {x : FlowError} (h : E x w) : Run.Throws (throw x : Run α) w E := by
  intro err w' hrun
  change ((.error x, w) : Except FlowError α × World) = _ at hrun
  simp only [Prod.mk.injEq, Except.error.injEq] at hrun
  obtain ⟨rfl, rfl⟩ := hrun
  exact h

theorem bind {m : Run α} {f : α → Run β} (hm : Run.Throws m w E)
    (hf : Run.Ensures m w fun a w' => Run.Throws (f a) w' E) : Run.Throws (m >>= f) w E := by
  intro err w'' hrun
  rcases h : m.run.run w with ⟨x | a, w'⟩
  · simp only [ExceptT.run_bind, StateT.run_bind, h] at hrun
    obtain ⟨rfl, rfl⟩ := hrun
    exact hm _ _ h
  · simp only [ExceptT.run_bind, StateT.run_bind, h] at hrun
    exact hf a w' h err w'' hrun

theorem mono {m : Run α} {E' : FlowError → World → Prop} (h : Run.Throws m w E)
    (he : ∀ err w', E err w' → E' err w') : Run.Throws m w E' :=
  fun err w' hrun => he err w' (h err w' hrun)

/-- Two things said of a computation's failures hold together. -/
theorem and {m : Run α} {E' : FlowError → World → Prop} (h : Run.Throws m w E)
    (h' : Run.Throws m w E') : Run.Throws m w fun err w' => E err w' ∧ E' err w' :=
  fun err w' hrun => ⟨h err w' hrun, h' err w' hrun⟩

theorem modify {f : World → World} : Run.Throws (modify f : Run PUnit) w E := by
  intro err w' hrun
  cases hrun

theorem get : Run.Throws (get : Run World) w E := by
  intro err w' hrun
  cases hrun

/-- What a tame computation fails with satisfies anything. -/
theorem of_tame {m : Run α} (h : Run.Tame m) : Run.Throws m w E :=
  (h w).1.mono fun _ _ h => h.elim

/-- A tame effect first: every failure is one of the rest. -/
theorem after {m : Run α} {f : α → Run β} (hm : Run.Tame m) (hf : ∀ a w', Run.Throws (f a) w' E) :
    Run.Throws (m >>= f) w E :=
  bind (of_tame hm) fun a w' _ => hf a w'

end Run.Throws

/-- Whether it fails or not, `m` leaves the pause store as it is. -/
def Run.KeepsStore {α : Type} (m : Run α) : Prop :=
  ∀ w, Run.Throws m w (fun _ w' => w'.store = w.store) ∧ Run.Ensures m w fun _ w' => w'.store = w.store

theorem Run.KeepsStore.bind {α β : Type} {m : Run α} {f : α → Run β} (hm : Run.KeepsStore m)
    (hf : ∀ a, Run.KeepsStore (f a)) : Run.KeepsStore (m >>= f) := by
  intro w
  refine ⟨Run.Throws.bind (hm w).1 ((hm w).2.mono fun a w' h => ?_), Run.Ensures.bind ?_⟩
  · exact (hf a w').1.mono fun _ _ h' => h'.trans h
  · exact (hm w).2.mono fun a w' h => (hf a w').2.mono fun _ _ h' => h'.trans h

theorem Run.KeepsStore.of_tame {α : Type} {m : Run α} (h : Run.Tame m) : Run.KeepsStore m :=
  fun w => ⟨(h w).1.mono fun _ _ h => h.elim, (h w).2⟩

theorem Run.KeepsStore.throw {α : Type} (x : FlowError) : Run.KeepsStore (throw x : Run α) :=
  fun _ => ⟨Run.Throws.throw rfl, Run.Ensures.throw⟩

/-- Two things a world computation ensures hold together. -/
theorem Run.Ensures.and {α : Type} {m : Run α} {w : World} {Q Q' : α → World → Prop}
    (h : Run.Ensures m w Q) (h' : Run.Ensures m w Q') : Run.Ensures m w fun a w' => Q a w' ∧ Q' a w' :=
  fun a w' hrun => ⟨h a w' hrun, h' a w' hrun⟩

/-- A tame effect first: the rest starts with the pause store as it was. -/
theorem Run.Ensures.after_tame {α β : Type} {m : Run α} {f : α → Run β} {w : World}
    {Q : β → World → Prop} (hm : Run.Tame m)
    (hf : ∀ a w', w'.store = w.store → Run.Ensures (f a) w' Q) : Run.Ensures (m >>= f) w Q :=
  Run.Ensures.bind ((hm w).2.mono hf)

namespace Run.Tame

variable {α β : Type}

theorem pure (a : α) : Run.Tame (pure a) := fun _ => ⟨Run.Throws.pure a, Run.Ensures.pure rfl⟩

theorem bind {m : Run α} {f : α → Run β} (hm : Run.Tame m) (hf : ∀ a, Run.Tame (f a)) :
    Run.Tame (m >>= f) := by
  intro w
  refine ⟨Run.Throws.bind (hm w).1 fun a w' _ => (hf a w').1, ?_⟩
  exact Run.Ensures.bind ((hm w).2.mono fun a w' h => (hf a w').2.mono fun _ _ h' => h'.trans h)

theorem modify {f : World → World} (hf : ∀ w, (f w).store = w.store) :
    Run.Tame (modify f : Run PUnit) :=
  fun w => ⟨Run.Throws.modify, Run.Ensures.modify (hf w)⟩

theorem get : Run.Tame (get : Run World) := fun _ => ⟨Run.Throws.get, Run.Ensures.get rfl⟩

theorem ite {c : Prop} [Decidable c] {m₁ m₂ : Run α} (h₁ : Run.Tame m₁) (h₂ : Run.Tame m₂) :
    Run.Tame (if c then m₁ else m₂) := by
  split
  · exact h₁
  · exact h₂

/-- A loop over a list whose every round is tame is tame. -/
theorem forIn {γ : Type} (l : List γ) (init : β) {body : γ → β → Run (ForInStep β)}
    (h : ∀ x b, Run.Tame (body x b)) : Run.Tame (ForIn.forIn l init body) := by
  induction l generalizing init with
  | nil => exact pure init
  | cons x rest ih =>
    simp only [List.forIn_cons]
    refine bind (h x init) fun step => ?_
    cases step with
    | done b => exact pure b
    | yield b => exact ih b

/-- Recovering from a failure is tame when the recovery is, and when the
computation keeps the store whether it fails or not. -/
theorem tryCatch {m : Run α} {handle : FlowError → Run α} (hm : Run.KeepsStore m)
    (h : ∀ err, Run.Tame (handle err)) : Run.Tame (tryCatch m handle) := by
  intro w
  rcases hrun : m.run.run w with ⟨x | a, w'⟩
  · have hw' := (hm w).1 x w' hrun
    constructor
    · intro err w'' h'
      simp only [ExceptT.run_tryCatch, StateT.run_bind, hrun] at h'
      exact (h x w').1 err w'' h'
    · intro b w'' h'
      simp only [ExceptT.run_tryCatch, StateT.run_bind, hrun] at h'
      exact ((h x w').2 b w'' h').trans hw'
  · have hw' := (hm w).2 a w' hrun
    constructor
    · intro err w'' h'
      simp only [ExceptT.run_tryCatch, StateT.run_bind, hrun] at h'
      cases h'
    · intro b w'' h'
      simp only [ExceptT.run_tryCatch, StateT.run_bind, hrun] at h'
      cases h'
      exact hw'

end Run.Tame

namespace Throws

variable {σ α β : Type} {s : σ} {w : World} {E : FlowError → World → Prop}

theorem pure (a : α) : Throws (pure a : StateT σ Run α) s w E := by
  intro err w' hrun
  simp at hrun

theorem throw {x : FlowError} (h : E x w) : Throws (throw x : StateT σ Run α) s w E := by
  intro err w' hrun
  simp only [execIn_throw, Prod.mk.injEq, Except.error.injEq] at hrun
  obtain ⟨rfl, rfl⟩ := hrun
  exact h

theorem bind {m : StateT σ Run α} {f : α → StateT σ Run β} (hm : Throws m s w E)
    (hf : Ensures m s w fun a s' w' => Throws (f a) s' w' E) : Throws (m >>= f) s w E := by
  intro err w'' hrun
  rw [execIn_bind] at hrun
  rcases h : execIn m s w with ⟨x | ⟨a, s'⟩, w'⟩
  · rw [h] at hrun
    simp only [Prod.mk.injEq, Except.error.injEq] at hrun
    obtain ⟨rfl, rfl⟩ := hrun
    exact hm x w' h
  · rw [h] at hrun
    exact hf a s' w' h err w'' hrun

theorem mono {m : StateT σ Run α} {E' : FlowError → World → Prop} (h : Throws m s w E)
    (he : ∀ err w', E err w' → E' err w') : Throws m s w E' :=
  fun err w' hrun => he err w' (h err w' hrun)

/-- Two things said of a computation's failures hold together. -/
theorem and {m : StateT σ Run α} {E' : FlowError → World → Prop} (h : Throws m s w E)
    (h' : Throws m s w E') : Throws m s w fun err w' => E err w' ∧ E' err w' :=
  fun err w' hrun => ⟨h err w' hrun, h' err w' hrun⟩

theorem get : Throws (get : StateT σ Run σ) s w E := by
  intro err w' hrun
  simp at hrun

theorem set {s' : σ} : Throws (set s' : StateT σ Run PUnit) s w E := by
  intro err w' hrun
  simp at hrun

theorem modify {f : σ → σ} : Throws (modify f : StateT σ Run PUnit) s w E := by
  intro err w' hrun
  change ((.ok (⟨⟩, f s), w) : Except FlowError (PUnit × σ) × World) = _ at hrun
  cases hrun

/-- A world computation fails as it does, leaving the state as it is. -/
theorem lift {r : Run α} (h : Run.Throws r w E) : Throws (liftM r : StateT σ Run α) s w E := by
  intro err w' hrun
  rw [execIn_lift] at hrun
  rcases hr : r.run.run w with ⟨x | a, w₁⟩
  · rw [hr] at hrun
    simp only [Prod.mk.injEq, Except.error.injEq] at hrun
    obtain ⟨rfl, rfl⟩ := hrun
    exact h x w₁ hr
  · rw [hr] at hrun
    simp at hrun

theorem ite {c : Prop} [Decidable c] {m₁ m₂ : StateT σ Run α} (h₁ : c → Throws m₁ s w E)
    (h₂ : ¬c → Throws m₂ s w E) : Throws (if c then m₁ else m₂) s w E := by
  split
  · exact h₁ ‹_›
  · exact h₂ ‹_›

/-- Run from a state, a computation is a world computation. -/
theorem run {m : StateT σ Run α} (h : Throws m s w E) : Run.Throws (m.run s) w E :=
  fun err w' hrun => h err w' hrun

/-- What a tame computation fails with satisfies anything. -/
theorem of_tame {m : StateT σ Run α} (h : Tame m) : Throws m s w E :=
  (h s w).1.mono fun _ _ h => h.elim

/-- A failure of `m >>= f` where every continuation fails as `E` allows. -/
theorem seq {m : StateT σ Run α} {f : α → StateT σ Run β} (hm : Throws m s w E)
    (hf : ∀ a s' w', Throws (f a) s' w' E) : Throws (m >>= f) s w E :=
  bind hm fun a s' w' _ => hf a s' w'

/-- A tame effect first: every failure is one of the rest. -/
theorem after {m : StateT σ Run α} {f : α → StateT σ Run β} (hm : Tame m)
    (hf : ∀ a s' w', Throws (f a) s' w' E) : Throws (m >>= f) s w E :=
  seq (of_tame hm) hf

/-- A tame world computation first: the rest starts from the same state. -/
theorem lift_after {r : Run α} {f : α → StateT σ Run β} (hr : Run.Tame r)
    (hf : ∀ a w', Throws (f a) s w' E) : Throws (liftM r >>= f) s w E :=
  bind (lift (Run.Throws.of_tame hr)) (Ensures.lift fun a w' _ => hf a w')

end Throws

namespace Tame

variable {σ α β : Type}

theorem pure (a : α) : Tame (pure a : StateT σ Run α) :=
  fun _ _ => ⟨Throws.pure a, Ensures.pure rfl⟩

theorem bind {m : StateT σ Run α} {f : α → StateT σ Run β} (hm : Tame m)
    (hf : ∀ a, Tame (f a)) : Tame (m >>= f) := by
  intro s w
  refine ⟨Throws.bind (hm s w).1 fun a s' w' _ => (hf a s' w').1, ?_⟩
  exact Ensures.bind ((hm s w).2.mono fun a s' w' h =>
    (hf a s' w').2.mono fun _ _ _ h' => h'.trans h)

theorem get : Tame (get : StateT σ Run σ) := fun _ _ => ⟨Throws.get, Ensures.get rfl⟩

theorem set {s' : σ} : Tame (set s' : StateT σ Run PUnit) := fun _ _ => ⟨Throws.set, Ensures.set rfl⟩

theorem modify {f : σ → σ} : Tame (modify f : StateT σ Run PUnit) :=
  fun _ _ => ⟨Throws.modify, Ensures.modify rfl⟩

theorem getThe : Tame (getThe σ : StateT σ Run σ) := get

theorem modifyThe {f : σ → σ} : Tame (modifyThe σ f : StateT σ Run PUnit) := modify

theorem lift {r : Run α} (h : Run.Tame r) : Tame (liftM r : StateT σ Run α) :=
  fun _ w => ⟨Throws.lift (h w).1, Ensures.lift (h w).2⟩

theorem ite {c : Prop} [Decidable c] {m₁ m₂ : StateT σ Run α} (h₁ : Tame m₁) (h₂ : Tame m₂) :
    Tame (if c then m₁ else m₂) := by
  split
  · exact h₁
  · exact h₂

/-- Run from a state, a tame computation is a tame world computation. -/
theorem run {m : StateT σ Run α} (h : Tame m) (s : σ) : Run.Tame (m.run s) :=
  fun w => ⟨Throws.run (h s w).1, Ensures.run (h s w).2⟩

/-- A loop over a list whose every round is tame is tame. -/
theorem forIn {γ : Type} (l : List γ) (init : β) {body : γ → β → StateT σ Run (ForInStep β)}
    (h : ∀ x b, Tame (body x b)) : Tame (ForIn.forIn l init body) := by
  induction l generalizing init with
  | nil => exact pure init
  | cons x rest ih =>
    simp only [List.forIn_cons]
    refine bind (h x init) fun step => ?_
    cases step with
    | done b => exact pure b
    | yield b => exact ih b

end Tame

/-- Whether it fails or not, `m` leaves the pause store as it is. -/
def KeepsStore {σ α : Type} (m : StateT σ Run α) : Prop :=
  ∀ s w, Throws m s w (fun _ w' => w'.store = w.store) ∧ Ensures m s w fun _ _ w' => w'.store = w.store

namespace KeepsStore

variable {σ α β : Type}

theorem of_tame {m : StateT σ Run α} (h : Tame m) : KeepsStore m :=
  fun s w => ⟨Throws.of_tame h, (h s w).2⟩

theorem bind {m : StateT σ Run α} {f : α → StateT σ Run β} (hm : KeepsStore m)
    (hf : ∀ a, KeepsStore (f a)) : KeepsStore (m >>= f) := by
  intro s w
  refine ⟨Throws.bind (hm s w).1 ((hm s w).2.mono fun a s' w' h => ?_), ?_⟩
  · exact (hf a s' w').1.mono fun _ _ h' => h'.trans h
  · exact Ensures.bind ((hm s w).2.mono fun a s' w' h => (hf a s' w').2.mono fun _ _ _ h' => h'.trans h)

theorem throw (x : FlowError) : KeepsStore (throw x : StateT σ Run α) :=
  fun _ _ => ⟨Throws.throw rfl, Ensures.throw⟩

theorem ite {c : Prop} [Decidable c] {m₁ m₂ : StateT σ Run α} (h₁ : KeepsStore m₁)
    (h₂ : KeepsStore m₂) : KeepsStore (if c then m₁ else m₂) := by
  split
  · exact h₁
  · exact h₂

end KeepsStore

/-! ## Tame primitives of the world -/

namespace Run

theorem log_tame (level : Level) (component : Component) (message : String) :
    Run.Tame (Run.log level component message) :=
  Run.Tame.modify fun _ => rfl

theorem error_tame (component : Component) (message : String) :
    Run.Tame (Run.error component message) :=
  log_tame _ _ _

theorem warn_tame (component : Component) (message : String) :
    Run.Tame (Run.warn component message) :=
  log_tame _ _ _

theorem info_tame (component : Component) (message : String) :
    Run.Tame (Run.info component message) :=
  log_tame _ _ _

theorem debug_tame (component : Component) (message : String) :
    Run.Tame (Run.debug component message) :=
  log_tame _ _ _

/-- Reading the clock moves it and nothing else. -/
theorem now_tame : Run.Tame Run.now := by
  intro w
  constructor
  · intro err w' h
    cases h
  · intro a w' h
    cases h
    rfl

/-- Making an identifier counts it and changes nothing else. -/
theorem freshUuid_tame : Run.Tame Run.freshUuid := by
  intro w
  constructor
  · intro err w' h
    cases h
  · intro a w' h
    cases h
    rfl

theorem isCancelled_tame : Run.Tame Run.isCancelled :=
  Run.Tame.bind Run.Tame.get fun _ => Run.Tame.pure _

theorem sleep_tame (ms : Nat) : Run.Tame (Run.sleep ms) := Run.Tame.modify fun _ => rfl

theorem cancel_tame : Run.Tame Run.cancel := Run.Tame.modify fun _ => rfl

/-- Changing the disk keeps the store, whether it fails or not. -/
theorem onDisk_keepsStore (f : Disk → Except DiskFault Disk) : Run.KeepsStore (Run.onDisk f) := by
  intro w
  unfold Run.onDisk
  constructor
  · refine Run.Throws.bind Run.Throws.get (Run.Ensures.get ?_)
    split
    · exact Run.Throws.modify
    · exact Run.Throws.throw rfl
  · refine Run.Ensures.bind (Run.Ensures.get ?_)
    split
    · exact Run.Ensures.modify rfl
    · exact Run.Ensures.throw

theorem logged_tame {α : Type} (m : Logged α) : Run.Tame (Run.logged m) :=
  Run.Tame.bind (Run.Tame.modify fun _ => rfl) fun _ => Run.Tame.pure _

end Run

namespace Engine

variable (eng : Engine)

theorem emitFor_tame (e : Execution) (id : String) (kind : EventKind) (payload : Value)
    (error : Option Failure) : Run.Tame (eng.emitFor e id kind payload error) := by
  unfold emitFor
  split
  · exact Run.Tame.pure _
  · refine Run.Tame.bind Run.Tame.get fun _ => Run.Tame.bind Run.now_tame fun _ => ?_
    refine Run.Tame.bind (Run.Tame.modify fun _ => rfl) fun _ => ?_
    exact Run.Tame.ite (Run.log_tame _ _ _) (Run.Tame.pure _)

/-- Writing a run summary never fails: a failure to write is only logged. -/
theorem record_tame (report : ExecutionReport) : Run.Tame (eng.record report) := by
  unfold record
  split
  · exact Run.Tame.pure _
  · -- Writing the summary changes the disk only, whether it fails or not.
    refine Run.Tame.tryCatch ?_ fun _ => Run.warn_tame _ _
    refine Run.KeepsStore.bind (Run.onDisk_keepsStore _) fun _ => ?_
    exact Run.KeepsStore.bind (Run.onDisk_keepsStore _) fun _ =>
      Run.KeepsStore.of_tame (Run.info_tame _ _)

end Engine

/-! ## Tame steps

Whatever a step does, it never fails and leaves the pause store alone: a
step's own failure is a result it returns, not a failure of the
computation. -/

namespace StepRun

variable (ctx : StepContext)

theorem log_tame (message : String) : Tame (StepRun.log ctx message) :=
  Tame.bind (Tame.lift (Run.debug_tame _ _)) fun _ => Tame.modify

theorem get?_tame (path : String) : Tame (StepRun.get? ctx path) :=
  Tame.bind Tame.getThe fun _ => Tame.pure _

theorem remove_tame (path : String) : Tame (StepRun.remove ctx path) :=
  Tame.bind Tame.getThe fun _ => Tame.bind Tame.modifyThe fun _ => Tame.pure _

theorem sleepWithin_tame (limit : Option Nat) (ms : Nat) :
    Tame (StepRun.sleepWithin limit ms) := by
  unfold StepRun.sleepWithin
  split
  · exact Tame.ite (Tame.pure _)
      (Tame.bind (Tame.lift (Run.sleep_tame _)) fun _ => Tame.pure _)
  · exact Tame.bind (Tame.lift (Run.sleep_tame _)) fun _ => Tame.pure _

theorem controlLoop_tame (params : Fields) : Tame (controlLoop ctx params) := by
  unfold controlLoop
  dsimp only
  -- However the item is found (`while` mode reads the state first), the round
  -- ends in a failure, a write of the loop variables or a log line.
  repeat' split
  all_goals try refine Tame.bind (get?_tame ctx _) fun _ => ?_
  all_goals refine Tame.bind (Tame.pure _) fun item => ?_
  all_goals rcases item with _ | _ | it
  all_goals first
    | exact Tame.pure _
    | exact Tame.bind (log_tame ctx _) fun _ => Tame.pure _
    | exact Tame.bind Tame.modify fun _ => Tame.bind Tame.modify fun _ => Tame.pure _

theorem scriptResult_tame (params : Fields) (result : ScriptResult) :
    Tame (scriptResult ctx params result) := by
  cases result with
  | read path => exact Tame.bind (get?_tame ctx path) fun _ => Tame.pure _
  | removed path => exact Tame.bind (remove_tame ctx path) fun _ => Tame.pure _
  | snapshot => exact Tame.bind Tame.getThe fun _ => Tame.pure _
  | context contains =>
    dsimp only [scriptResult]
    cases contains with
    | none => exact Tame.bind (Tame.pure _) fun _ => Tame.pure _
    | some path =>
      exact Tame.bind (get?_tame ctx path) fun _ => Tame.bind (Tame.pure _) fun _ => Tame.pure _
  | _ => exact Tame.pure _

theorem runScript_tame (limit : Option Nat) (params : Fields) (script : Script) :
    Tame (runScript ctx limit params script) := by
  unfold runScript
  refine Tame.bind (Tame.forIn _ _ fun _ _ => Tame.bind (log_tame ctx _) fun _ => Tame.pure _)
    fun _ => ?_
  refine Tame.bind (Tame.forIn _ _ fun _ _ => Tame.bind Tame.modify fun _ => Tame.pure _)
    fun _ => ?_
  refine Tame.bind (Tame.forIn _ _ fun _ _ => ?_) fun _ => ?_
  · split
    · exact Tame.bind Tame.modify fun _ => Tame.pure _
    · exact Tame.bind Tame.modify fun _ => Tame.pure _
  -- With or without the cancel request, the script sleeps and ends.
  dsimp only
  refine Tame.ite (Tame.bind (Tame.lift Run.cancel_tame) fun _ => ?_) ?_
  all_goals
    refine Tame.bind (sleepWithin_tame _ _) fun _ => Tame.ite (Tame.pure _) ?_
    split
    · exact Tame.pure _
    · exact Tame.pure _
    · exact Tame.pure _
    · exact Tame.bind (scriptResult_tame ctx params _) fun _ => Tame.pure _

/-- Whatever a step does, it never fails. -/
theorem perform_tame (limit : Option Nat) (params : Fields) (behaviour : Behaviour) :
    Tame (perform ctx limit params behaviour) := by
  cases behaviour with
  | loopController => exact Tame.bind (controlLoop_tame ctx params) fun _ => Tame.pure _
  | stateSet =>
    dsimp only [perform]
    split
    · exact Tame.pure _
    · exact Tame.pure _
    · exact Tame.ite (Tame.bind Tame.modify fun _ => Tame.pure _)
        (Tame.bind Tame.modify fun _ => Tame.pure _)
  | stateGet =>
    dsimp only [perform]
    split
    · exact Tame.pure _
    · refine Tame.bind (get?_tame ctx _) fun v => ?_
      split
      · exact Tame.pure _
      · exact Tame.pure _
  | humanInput => exact Tame.bind (log_tame ctx _) fun _ => Tame.pure _
  | delay =>
    dsimp only [perform]
    refine Tame.bind (sleepWithin_tame _ _) fun _ => Tame.ite (Tame.pure _) ?_
    exact Tame.bind (log_tame ctx _) fun _ => Tame.pure _
  | script s => exact runScript_tame ctx limit params s
  | _ => exact Tame.pure _

end StepRun

/-! ## Fresh identifiers -/

namespace Execution

/-- Suffixed candidates differ from each other. -/
theorem suffixed_inj {c : String} {m n : Nat} (h : s!"{c}-{m}" = s!"{c}-{n}") : m = n := by
  change c ++ "-" ++ toString m = c ++ "-" ++ toString n at h
  rw [String.append_right_inj] at h
  exact Nat.repr_inj.1 h

/-- A suffixed candidate is longer than the candidate. -/
theorem suffixed_ne (c : String) (n : Nat) : s!"{c}-{n}" ≠ c := by
  intro h
  have hlen := congrArg String.length h
  change (c ++ "-" ++ toString n).length = c.length at hlen
  simp only [String.length_append] at hlen
  have : ("-" : String).length = 1 := rfl
  omega

theorem has_iff_mem_ids {e : Execution} {x : String} :
    e.has x = true ↔ x ∈ e.instances.map (·.id) := by
  simp [has_eq_any]

theorem get?_isSome_of_has {e : Execution} {x : String} (h : e.has x = true) :
    (e.get? x).isSome := by
  obtain ⟨i, hi, hid⟩ := List.any_eq_true.1 ((has_eq_any e x).symm.trans h)
  have := get?_isSome_of_mem hi
  rwa [show i.id = x by simpa using hid] at this

theorem has_of_get?_isSome {e : Execution} {x : String} (h : (e.get? x).isSome) :
    e.has x = true := by
  obtain ⟨i, hi⟩ := Option.isSome_iff_exists.1 h
  obtain ⟨hmem, rfl⟩ := mem_of_get? hi
  exact has_of_mem hmem

/-- Among more suffixed candidates than there are instances, one is free
beside a taken candidate. -/
theorem exists_free_suffix (e : Execution) {c : String} (hc : e.has c = true) :
    ∃ k, 2 ≤ k ∧ k < 2 + e.instances.length ∧ e.has s!"{c}-{k}" = false := by
  by_contra hall
  simp only [not_exists, not_and, Bool.not_eq_false] at hall
  -- The candidate and its first suffixed forms would be more identifiers
  -- than the arena holds.
  let taken := (e.instances.map (·.id)).toFinset
  let suffixes := (Finset.range e.instances.length).image fun k => s!"{c}-{k + 2}"
  have hinj : Set.InjOn (fun k => s!"{c}-{k + 2}") (Finset.range e.instances.length) := by
    intro a _ b _ hab
    have := suffixed_inj hab
    omega
  have hcard : (insert c suffixes).card = e.instances.length + 1 := by
    rw [Finset.card_insert_of_notMem, Finset.card_image_of_injOn hinj, Finset.card_range]
    simp only [suffixes, Finset.mem_image, not_exists, not_and]
    exact fun k _ h => suffixed_ne c (k + 2) h
  have hsub : insert c suffixes ⊆ taken := by
    intro x hx
    rw [List.mem_toFinset, ← has_iff_mem_ids]
    rcases Finset.mem_insert.1 hx with rfl | hx
    · exact hc
    · obtain ⟨k, hk, rfl⟩ := Finset.mem_image.1 hx
      have hlt := Finset.mem_range.1 hk
      exact hall (k + 2) (by omega) (by omega)
  have hle := Finset.card_le_card hsub
  have htaken : taken.card ≤ e.instances.length :=
    (List.toFinset_card_le _).trans (by simp)
  omega

/-- The search through suffixes gives a free identifier when one of the
suffixes it tries is free. -/
theorem has_freshId_go (e : Execution) (c : String) :
    ∀ (budget n : Nat), (∃ k, n ≤ k ∧ k < n + budget ∧ e.has s!"{c}-{k}" = false) →
      e.has (freshId.go e c n budget) = false
  | 0, n, ⟨k, hk, hk', _⟩ => absurd hk' (by omega)
  | budget + 1, n, ⟨k, hk, hk', hfree⟩ => by
    rw [freshId.go]
    split
    · rename_i htaken
      refine has_freshId_go e c budget (n + 1) ⟨k, ?_, by omega, hfree⟩
      rcases Nat.eq_or_lt_of_le hk with rfl | hlt
      · rw [htaken] at hfree
        cases hfree
      · omega
    · rename_i hfresh
      simpa using hfresh

/-- `freshId` gives an identifier no instance has. -/
theorem has_freshId (e : Execution) (c : String) : e.has (e.freshId c) = false := by
  unfold freshId
  split
  · rename_i hc
    obtain ⟨k, hk, hk', hfree⟩ := exists_free_suffix e hc
    exact has_freshId_go e c _ 2 ⟨k, hk, by omega, hfree⟩
  · rename_i hc
    simpa using hc

end Execution

/-! ## The walk's primitives -/

namespace Engine

variable (eng : Engine)

theorem emit_tame (id : String) (kind : EventKind) (payload : Value) (error : Option Failure) :
    Tame (eng.emit id kind payload error) :=
  Tame.bind Tame.get fun e => Tame.lift (emitFor_tame eng e id kind payload error)

/-- Adding a step record fails only when its instance is missing, and then
for a corrupt cursor. -/
theorem pushRecord_throws (id : String) (r : StepRecord) (e : Execution) (w : World) :
    Throws (eng.pushRecord id r) e w fun err _ => e.has id = false ∧ err.code = .corruptCursor := by
  unfold pushRecord
  refine Throws.bind Throws.get (Ensures.get ?_)
  dsimp only
  split
  · exact Throws.after Tame.set fun _ _ _ =>
      Throws.lift (Run.Throws.of_tame (emitFor_tame eng _ _ _ _ _))
  · rename_i err hreq
    unfold Execution.require at hreq
    split at hreq
    · cases hreq
    · rename_i hmissing
      cases hreq
      exact Throws.throw ⟨by simpa using hmissing, rfl⟩

/-- Recording a failed step fails only when its instance is missing. -/
theorem failStep_throws (id : String) (attempt : StepRecord) (err : FlowError) (e : Execution)
    (w : World) : Throws (eng.failStep id attempt err) e w fun err _ =>
      e.has id = false ∧ err.code = .corruptCursor := by
  unfold failStep
  refine Throws.lift_after (Run.error_tame _ _) fun _ _ => ?_
  refine Throws.lift_after Run.now_tame fun _ _ => ?_
  exact Throws.seq (pushRecord_throws eng id _ e _) fun _ _ _ => Throws.pure _

/-- Completing a suspended step fails only when its instance holds no paused
record, and then for a corrupt cursor. -/
theorem completePausedStep_throws (id : String) (output : StepOutput) (e : Execution) (w : World) :
    Throws (eng.completePausedStep id output) e w fun err _ =>
      (¬∃ i, e.get? id = some i ∧ ∃ r ∈ i.steps, r.status = .paused) ∧
        err.code = .corruptCursor := by
  unfold completePausedStep
  refine Throws.bind Throws.get (Ensures.get ?_)
  dsimp only
  split
  · rename_i hnone
    exact Throws.throw ⟨(fun ⟨i, hi, _⟩ => by rw [hnone] at hi; cases hi), rfl⟩
  · rename_i i hi
    split
    · rename_i hfind
      refine Throws.throw ⟨fun ⟨i', hi', r, hr, hpaused⟩ => ?_, rfl⟩
      rw [hi] at hi'
      cases hi'
      have hnot := List.find?_eq_none.1 hfind r (List.mem_reverse.2 hr)
      rw [hpaused] at hnot
      exact absurd hnot (by decide)
    · refine Throws.lift_after Run.now_tame fun _ _ => Throws.after Tame.set fun _ _ _ => ?_
      exact Throws.after (Tame.lift (Run.debug_tame _ _)) fun _ _ _ =>
        Throws.lift (Run.Throws.of_tame (emitFor_tame eng _ _ _ _ _))

/-- Opening an instance fails only when its parent is missing, for a corrupt
cursor, or when its identifier is taken. -/
theorem openInstance_throws (parentId id : String) (branchType : BranchType)
    (iteration : Option Nat) (e : Execution) (w : World) :
    Throws (eng.openInstance parentId id branchType iteration) e w fun err _ =>
      (e.get? parentId = none ∧ err.code = .corruptCursor) ∨
        (e.has id = true ∧ err = .duplicateId id) := by
  unfold openInstance
  refine Throws.lift_after Run.now_tame fun t _ => ?_
  refine Throws.bind Throws.get (Ensures.get ?_)
  split
  · exact Throws.after Tame.set fun _ _ _ => Throws.after (Tame.lift (Run.debug_tame _ _))
      fun _ _ _ => Throws.lift (Run.Throws.of_tame (emitFor_tame eng _ _ _ _ _))
  · rename_i err _ hspawn
    refine Throws.throw ?_
    rcases (Execution.spawn_eq_error.1 hspawn).2 with ⟨hnone, rfl⟩ | ⟨-, htaken, rfl⟩
    · exact .inl ⟨hnone, rfl⟩
    · exact .inr ⟨htaken, rfl⟩

theorem finishInstance_tame (id : String) (outcome : Outcome) :
    Tame (eng.finishInstance id outcome) := by
  unfold finishInstance
  split
  · exact Tame.pure _
  · refine Tame.bind (Tame.lift Run.now_tame) fun _ => Tame.bind Tame.get fun _ => ?_
    exact Tame.bind Tame.set fun _ => Tame.lift (emitFor_tame eng _ _ _ _ _)

/-- Acting on a step's result fails only when its instance is missing. -/
theorem settle_throws (id path : String) (step : StepDefinition) (limit : Option Nat)
    (attempt : StepRecord) (result : StepResult) (e : Execution) (w : World) :
    Throws (eng.settle id path step limit attempt result) e w fun err _ =>
      e.has id = false ∧ err.code = .corruptCursor := by
  cases result with
  | timedOut =>
    rw [settle]
    exact Throws.lift_after (Run.warn_tame _ _) fun _ _ => failStep_throws eng id attempt _ e _
  | finished r =>
    rcases r with se | (⟨edge, value⟩ | ⟨details, resumeEdge⟩) <;> rw [settle]
    · exact Throws.lift_after (Run.debug_tame _ _) fun _ _ => failStep_throws eng id attempt _ e _
    · refine Throws.ite (fun _ => failStep_throws eng id attempt _ e _) fun _ => ?_
      refine Throws.lift_after Run.now_tame fun _ _ => ?_
      exact Throws.seq (pushRecord_throws eng id _ e _) fun _ _ _ => Throws.pure _
    · refine Throws.ite (fun _ => failStep_throws eng id attempt _ e _) fun _ => ?_
      refine Throws.lift_after Run.freshUuid_tame fun _ _ => ?_
      refine Throws.lift_after (Run.info_tame _ _) fun _ _ => ?_
      exact Throws.seq (pushRecord_throws eng id _ e _) fun _ _ _ => Throws.pure _

/-- Running a step node fails only when its instance is missing, for a
corrupt cursor: whatever the step does, it keeps the instances there. -/
theorem runStepWith_throws (adjust : StepResult → StepResult) (id : String) (node : FlowNode)
    (path : String) (previous : Option StepOutput) (e : Execution) (w : World) :
    Throws (eng.runStepWith adjust id node path previous) e w fun err _ =>
      e.has id = false ∧ err.code = .corruptCursor := by
  unfold runStepWith
  refine Throws.lift_after Run.now_tame fun startedAt _ => ?_
  dsimp only
  split
  · exact failStep_throws eng id _ _ e _
  · split
    · exact failStep_throws eng id _ _ e _
    · refine Throws.lift_after (Run.debug_tame _ _) fun _ _ => ?_
      refine Throws.bind Throws.get (Ensures.get ?_)
      refine Throws.bind (Throws.lift (Throws.run (Throws.of_tame (StepRun.perform_tame _ _ _ _))))
        (Ensures.lift fun ran w₁ hran => ?_)
      -- The step's scope ends with an execution that differs in states only,
      -- so the instance is there exactly when it was before.
      have hedits : e.Edits ran.2.execution :=
        StepRun.perform_keeps _ _ _ _ {execution := e} _ .refl ran.1 ran.2 w₁ hran
      obtain ⟨result, scope⟩ := ran
      refine Throws.bind Throws.set (Ensures.set ?_)
      refine (settle_throws eng id path _ _ _ _ scope.execution w₁).mono
        fun _ _ ⟨hmissing, hcode⟩ => ⟨?_, hcode⟩
      cases hhas : e.has id with
      | false => rfl
      | true =>
        have hsome : (scope.execution.get? id).isSome :=
          hedits.grows.isSome (Execution.get?_isSome_of_has hhas)
        rw [Execution.has_of_get?_isSome hsome] at hmissing
        cases hmissing

theorem runStep_throws (id : String) (node : FlowNode) (path : String)
    (previous : Option StepOutput) (e : Execution) (w : World) :
    Throws (eng.runStep id node path previous) e w fun err _ =>
      e.has id = false ∧ err.code = .corruptCursor :=
  runStepWith_throws eng _ id node path previous e w

/-- Starting fails only when the definition does not validate. -/
theorem pushRecord_keepsStore (id : String) (r : StepRecord) : KeepsStore (eng.pushRecord id r) := by
  unfold pushRecord
  refine KeepsStore.bind (KeepsStore.of_tame Tame.get) fun e => ?_
  dsimp only
  split
  · exact KeepsStore.of_tame (Tame.bind Tame.set fun _ => Tame.lift (emitFor_tame eng _ _ _ _ _))
  · exact KeepsStore.throw _

theorem failStep_keepsStore (id : String) (attempt : StepRecord) (err : FlowError) :
    KeepsStore (eng.failStep id attempt err) := by
  unfold failStep
  refine KeepsStore.bind (KeepsStore.of_tame (Tame.lift (Run.error_tame _ _))) fun _ => ?_
  refine KeepsStore.bind (KeepsStore.of_tame (Tame.lift Run.now_tame)) fun _ => ?_
  exact KeepsStore.bind (pushRecord_keepsStore eng id _) fun _ => KeepsStore.of_tame (Tame.pure _)

theorem completePausedStep_keepsStore (id : String) (output : StepOutput) :
    KeepsStore (eng.completePausedStep id output) := by
  unfold completePausedStep
  refine KeepsStore.bind (KeepsStore.of_tame Tame.get) fun e => ?_
  split
  · exact KeepsStore.throw _
  · split
    · exact KeepsStore.throw _
    · refine KeepsStore.of_tame (Tame.bind (Tame.lift Run.now_tame) fun _ => ?_)
      exact Tame.bind Tame.set fun _ => Tame.bind (Tame.lift (Run.debug_tame _ _)) fun _ =>
        Tame.lift (emitFor_tame eng _ _ _ _ _)

theorem openInstance_keepsStore (parentId id : String) (branchType : BranchType)
    (iteration : Option Nat) : KeepsStore (eng.openInstance parentId id branchType iteration) := by
  unfold openInstance
  refine KeepsStore.bind (KeepsStore.of_tame (Tame.lift Run.now_tame)) fun _ => ?_
  refine KeepsStore.bind (KeepsStore.of_tame Tame.get) fun _ => ?_
  split
  · exact KeepsStore.of_tame (Tame.bind Tame.set fun _ => Tame.bind (Tame.lift (Run.debug_tame _ _))
      fun _ => Tame.lift (emitFor_tame eng _ _ _ _ _))
  · exact KeepsStore.throw _

theorem settle_keepsStore (id path : String) (step : StepDefinition) (limit : Option Nat)
    (attempt : StepRecord) (result : StepResult) :
    KeepsStore (eng.settle id path step limit attempt result) := by
  have hlift : ∀ {α : Type} {r : Run α}, Run.Tame r → KeepsStore (liftM r : Drive α) :=
    fun h => KeepsStore.of_tame (Tame.lift h)
  cases result with
  | timedOut =>
    rw [settle]
    exact KeepsStore.bind (hlift (Run.warn_tame _ _)) fun _ => failStep_keepsStore eng id attempt _
  | finished r =>
    rcases r with se | (⟨edge, value⟩ | ⟨details, resumeEdge⟩) <;> rw [settle]
    · exact KeepsStore.bind (hlift (Run.debug_tame _ _)) fun _ => failStep_keepsStore eng id attempt _
    · refine KeepsStore.ite (failStep_keepsStore eng id attempt _) ?_
      refine KeepsStore.bind (hlift Run.now_tame) fun _ => ?_
      exact KeepsStore.bind (pushRecord_keepsStore eng id _) fun _ => KeepsStore.of_tame (Tame.pure _)
    · refine KeepsStore.ite (failStep_keepsStore eng id attempt _) ?_
      refine KeepsStore.bind (hlift Run.freshUuid_tame) fun _ => ?_
      refine KeepsStore.bind (hlift (Run.info_tame _ _)) fun _ => ?_
      exact KeepsStore.bind (pushRecord_keepsStore eng id _) fun _ => KeepsStore.of_tame (Tame.pure _)

theorem runStepWith_keepsStore (adjust : StepResult → StepResult) (id : String) (node : FlowNode)
    (path : String) (previous : Option StepOutput) :
    KeepsStore (eng.runStepWith adjust id node path previous) := by
  unfold runStepWith
  refine KeepsStore.bind (KeepsStore.of_tame (Tame.lift Run.now_tame)) fun _ => ?_
  dsimp only
  split
  · exact failStep_keepsStore eng id _ _
  · split
    · exact failStep_keepsStore eng id _ _
    · refine KeepsStore.bind (KeepsStore.of_tame (Tame.lift (Run.debug_tame _ _))) fun _ => ?_
      refine KeepsStore.bind (KeepsStore.of_tame Tame.get) fun e => ?_
      refine KeepsStore.bind (KeepsStore.of_tame (Tame.lift (Tame.run (StepRun.perform_tame _ _ _ _) _)))
        fun _ => ?_
      exact KeepsStore.bind (KeepsStore.of_tame Tame.set) fun _ => settle_keepsStore eng id path _ _ _ _

theorem runStep_keepsStore (id : String) (node : FlowNode) (path : String)
    (previous : Option StepOutput) : KeepsStore (eng.runStep id node path previous) :=
  runStepWith_keepsStore eng _ id node path previous

theorem start_throws (d : FlowDefinition) (init : Value) (w : World) :
    Run.Throws (eng.start d init) w fun err _ => ∃ message, err = .invalidDefinition message ∧
      (Logged.collect (validateFlow d eng.registry eng.config)).1.valid = false := by
  unfold start
  refine Run.Throws.bind (Run.Throws.of_tame (Run.logged_tame _)) ?_
  refine (Run.Ensures.logged _ w).mono fun report _ hreport => ?_
  subst hreport
  dsimp only
  split
  · rename_i err hinto
    refine Run.Throws.after (Run.error_tame _ _) fun _ _ => Run.Throws.bind (Run.Throws.throw ?_)
      fun _ _ h => by cases h
    unfold ValidationReport.intoResult at hinto
    split at hinto
    · cases hinto
    · rename_i hinvalid
      cases hinto
      exact ⟨_, rfl, by simpa using hinvalid⟩
  · refine Run.Throws.after Run.freshUuid_tame fun _ _ => Run.Throws.after Run.now_tame fun _ _ => ?_
    exact Run.Throws.after (Run.info_tame _ _) fun _ _ =>
      Run.Throws.after (emitFor_tame eng _ _ _ _ _) fun _ _ => Run.Throws.pure _

/-- Validating a definition and opening its execution leaves the pause store
as it is, whether the definition is valid or not. -/
theorem start_keepsStore (d : FlowDefinition) (init : Value) : Run.KeepsStore (eng.start d init) := by
  unfold start
  refine Run.KeepsStore.bind (Run.KeepsStore.of_tame (Run.logged_tame _)) fun report => ?_
  dsimp only
  split
  on_goal 1 => refine Run.KeepsStore.bind (Run.KeepsStore.of_tame (Run.error_tame _ _)) fun _ =>
    Run.KeepsStore.bind (Run.KeepsStore.throw _) fun _ => ?_
  -- Opening the execution is tame.
  all_goals exact Run.KeepsStore.of_tame (Run.Tame.bind Run.freshUuid_tame fun _ =>
    Run.Tame.bind Run.now_tame fun _ => Run.Tame.bind (Run.info_tame _ _) fun _ =>
      Run.Tame.bind (emitFor_tame eng _ _ _ _ _) fun _ => Run.Tame.pure _)

end Engine

/-! ## Saving and claiming tickets -/

/-- What saving a ticket can fail with: a directory store refuses an
identifier that cannot name a file, the disk fails, or the ticket's
definition has no written form. -/
inductive FlowError.SaveFault : FlowError → Prop where
  | refused (id : String) : SaveFault (.unknownPauseId id)
  | disk (message : String) : SaveFault (.io message)
  | unwritable (message : String) : SaveFault (.json (.shape message))

/-- The slots in memory refuse an identifier only as unknown or as already
given out. -/
theorem takeSlot_error {slots : List (String × Option PausedExecution)} {id : String}
    {err : FlowError} (h : takeSlot slots id = .error err) :
    err = .unknownPauseId id ∨ err = .alreadyResumed id := by
  unfold takeSlot at h
  split at h
  · cases h
    exact .inl rfl
  · cases h
    exact .inr rfl
  · cases h

namespace Run

theorem onDisk_throws (f : Disk → Except DiskFault Disk) (w : World) :
    Run.Throws (Run.onDisk f) w fun err _ => err.SaveFault := by
  unfold Run.onDisk
  refine Run.Throws.bind Run.Throws.get (Run.Ensures.get ?_)
  split
  · exact Run.Throws.modify
  · exact Run.Throws.throw (.disk _)

/-- Saving a ticket fails only in a directory store, as the store does. -/
theorem storeTicket_throws (p : PausedExecution) (w : World) :
    Run.Throws (Run.storeTicket p) w fun err _ => err.SaveFault ∧ ∃ dir, w.store = .directory dir := by
  unfold Run.storeTicket
  refine Run.Throws.bind Run.Throws.get (Run.Ensures.get ?_)
  split
  · exact Run.Throws.modify
  · rename_i dir hdir
    refine (?_ : Run.Throws _ w fun err _ => err.SaveFault).mono fun err _ h => ⟨h, dir, hdir⟩
    dsimp only
    -- The identifier is checked, the ticket written to a staging file and
    -- moved in place.
    split
    · exact Run.Throws.bind (Run.Throws.throw (.refused _)) Run.Ensures.throw
    · refine Run.Throws.bind (onDisk_throws _ w) fun _ w₁ _ => ?_
      split
      · refine Run.Throws.bind (Run.Throws.pure _) fun text w₂ _ => ?_
        refine Run.Throws.bind (onDisk_throws _ w₂) fun _ w₃ _ => ?_
        exact Run.Throws.bind (onDisk_throws _ w₃) fun _ _ _ => Run.Throws.of_tame (info_tame _ _)
      · exact Run.Throws.bind (Run.Throws.throw (.unwritable _)) Run.Ensures.throw

/-- Claiming a ticket from memory fails exactly where the slots refuse the
identifier, with the error they give, and then changes nothing. -/
theorem claimTicket_fails_at_slot {w : World} {slots : List (String × Option PausedExecution)}
    (hstore : w.store = .memory slots) (id : String) :
    Run.Throws (Run.claimTicket id) w fun err w' => takeSlot slots id = .error err ∧ w' = w := by
  unfold Run.claimTicket
  refine Run.Throws.bind Run.Throws.get (Run.Ensures.get ?_)
  rw [hstore]
  dsimp only
  split
  · exact Run.Throws.bind Run.Throws.modify fun _ _ _ => Run.Throws.pure _
  · rename_i err htake
    exact Run.Throws.throw ⟨htake, rfl⟩

/-- Claiming a ticket from memory fails only for an identifier the store never
held or already gave out, and then changes nothing. -/
theorem claimTicket_throws {w : World} {slots : List (String × Option PausedExecution)}
    (hstore : w.store = .memory slots) (id : String) :
    Run.Throws (Run.claimTicket id) w fun err w' =>
      (err = .unknownPauseId id ∨ err = .alreadyResumed id) ∧ w' = w :=
  (claimTicket_fails_at_slot hstore id).mono fun _ _ ⟨htake, hw⟩ => ⟨takeSlot_error htake, hw⟩

end Run

end Flowline
