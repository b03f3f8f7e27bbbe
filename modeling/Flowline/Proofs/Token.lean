import Flowline.Proofs.Tickets
set_option autoImplicit false

/-!
# What reads the cancellation token

A step can ask the running execution to stop, and the walk looks at the
request only at its two checks, before a node and before a loop round. Every
other effect of the walk and of what follows it, logging, the clock, events,
instances, the pause store, the disk, neither reads the token nor changes it.

`Run.Blind r` says that of a world computation: run from a world with
another token, `r` gives the same result and leaves the same world, with
that token. `Blind` says it of a walk computation from every execution.
`World.Shadows strict w₁ w₂` relates two worlds equal but for the token,
the second cancelled only when the first is, and, when `strict`, exactly
when. `Alike` says two computations ended with the same result in such
worlds; a blind computation run from shadowing worlds ends alike
(`Run.Blind.alike`), and so does anything blind run after two computations
that ended alike (`Alike.bind`).

Every primitive the walk and the drive use besides the checks and the
steps is blind: `Engine.openInstance_blind`, `Engine.finishInstance_blind`,
`Engine.completePausedStep_blind`, `Engine.suspend_blind` and
`Engine.record_blind` among them.
-/

namespace Flowline

/-! ## Worlds alike but for the token -/

/-- `w₂` is `w₁` but for the cancellation token, cancelled only when `w₁`
is; when `strict`, the two tokens agree. -/
structure World.Shadows (strict : Bool) (w₁ w₂ : World) : Prop where
  rest : w₂ = { w₁ with cancelled := w₂.cancelled }
  token : w₂.cancelled = true → w₁.cancelled = true
  exact : strict = true → w₂.cancelled = w₁.cancelled

namespace World.Shadows

variable {strict : Bool} {w₁ w₂ : World}

theorem refl (strict : Bool) (w : World) : World.Shadows strict w w :=
  ⟨rfl, id, fun _ => rfl⟩

/-- Where the token is not cancelled, a shadowing world is the same world. -/
theorem eq_of_live (h : World.Shadows strict w₁ w₂) (hl : w₁.cancelled = false) : w₂ = w₁ := by
  have h₂ : w₂.cancelled = false := by
    cases h' : w₂.cancelled with
    | false => rfl
    | true => exact absurd (h.token h') (by rw [hl]; decide)
  rw [h.rest, h₂, ← hl]

theorem eq_of_strict (h : World.Shadows true w₁ w₂) : w₂ = w₁ := by
  rw [h.rest, h.exact rfl]

end World.Shadows

/-- Two ends of computations alike: the same result, in shadowing worlds. -/
def Alike {γ : Type} (strict : Bool) (x₁ x₂ : Except FlowError γ × World) : Prop :=
  x₁.1 = x₂.1 ∧ World.Shadows strict x₁.2 x₂.2

/-! ## Computations blind to the token -/

/-- `r` neither reads nor changes the cancellation token: from a world with
another token it gives the same result and leaves the same world, with that
token. -/
def Run.Blind {α : Type} (r : Run α) : Prop :=
  ∀ w b, r.run.run { w with cancelled := b } =
    ((r.run.run w).1, { (r.run.run w).2 with cancelled := b })

namespace Run.Blind

variable {α β : Type}

theorem pure (a : α) : Run.Blind (pure a : Run α) := fun _ _ => rfl

theorem throw (x : FlowError) : Run.Blind (throw x : Run α) := fun _ _ => rfl

theorem bind {m : Run α} {f : α → Run β} (hm : Run.Blind m) (hf : ∀ a, Run.Blind (f a)) :
    Run.Blind (m >>= f) := by
  intro w b
  simp only [ExceptT.run_bind, StateT.run_bind]
  rw [hm w b]
  rcases m.run.run w with ⟨x | a, w'⟩
  · rfl
  · exact hf a w' b

theorem modify {f : World → World}
    (hf : ∀ w b, f { w with cancelled := b } = { f w with cancelled := b }) :
    Run.Blind (modify f : Run PUnit) := by
  intro w b
  show ((.ok ⟨⟩, f { w with cancelled := b }) : Except FlowError PUnit × World) = _
  rw [hf]
  rfl

/-- Reading the world, a computation that looks past the token is blind. -/
theorem read {k : World → Run β} (hk : ∀ w b, k { w with cancelled := b } = k w)
    (h : ∀ w, Run.Blind (k w)) : Run.Blind (get >>= k) := by
  intro w b
  show (k { w with cancelled := b }).run.run { w with cancelled := b } =
    (((k w).run.run w).1, { ((k w).run.run w).2 with cancelled := b })
  rw [hk]
  exact h w w b

theorem tryCatch {m : Run α} {handle : FlowError → Run α} (hm : Run.Blind m)
    (h : ∀ err, Run.Blind (handle err)) : Run.Blind (tryCatch m handle) := by
  intro w b
  simp only [ExceptT.run_tryCatch, StateT.run_bind]
  rw [hm w b]
  rcases m.run.run w with ⟨x | a, w'⟩
  · exact h x w' b
  · rfl

theorem forIn {γ : Type} (l : List γ) (init : β) {body : γ → β → Run (ForInStep β)}
    (h : ∀ x b, Run.Blind (body x b)) : Run.Blind (ForIn.forIn l init body) := by
  induction l generalizing init with
  | nil => exact pure init
  | cons x rest ih =>
    simp only [List.forIn_cons]
    refine bind (h x init) fun step => ?_
    cases step with
    | done b => exact pure b
    | yield b => exact ih b

/-- From shadowing worlds a blind computation ends alike. -/
theorem alike {r : Run α} (h : Run.Blind r) {strict : Bool} {w₁ w₂ : World}
    (hw : World.Shadows strict w₁ w₂) : Alike strict (r.run.run w₁) (r.run.run w₂) := by
  have ht : (r.run.run w₁).2.cancelled = w₁.cancelled :=
    congrArg (fun x => x.2.cancelled) (h w₁ w₁.cancelled)
  rw [hw.rest, h w₁ w₂.cancelled]
  refine ⟨rfl, ⟨rfl, ?_, ?_⟩⟩
  · rw [ht]
    exact hw.token
  · rw [ht]
    exact hw.exact

end Run.Blind

/-- What runs blind after two computations that ended alike ends alike. -/
theorem Alike.bind {α β : Type} {strict : Bool} {m₁ m₂ : Run α} {f : α → Run β} {w₁ w₂ : World}
    (h : Alike strict (m₁.run.run w₁) (m₂.run.run w₂)) (hf : ∀ a, Run.Blind (f a)) :
    Alike strict ((m₁ >>= f).run.run w₁) ((m₂ >>= f).run.run w₂) := by
  obtain ⟨hres, hw⟩ := h
  simp only [ExceptT.run_bind, StateT.run_bind]
  rcases h₁ : m₁.run.run w₁ with ⟨x | a, w₁'⟩ <;>
    rcases h₂ : m₂.run.run w₂ with ⟨y, w₂'⟩ <;> rw [h₁, h₂] at hres hw <;>
    dsimp only at hres hw <;> subst hres
  · exact ⟨rfl, hw⟩
  · exact (hf a).alike hw

namespace Run

theorem now_blind : Run.Blind Run.now := fun _ _ => rfl

theorem log_blind (level : Level) (component : Component) (message : String) :
    Run.Blind (Run.log level component message) := fun _ _ => rfl

theorem onDisk_blind (f : Disk → Except DiskFault Disk) : Run.Blind (Run.onDisk f) := by
  unfold Run.onDisk
  refine Run.Blind.read (fun _ _ => rfl) fun w => ?_
  split
  · exact Run.Blind.modify fun _ _ => rfl
  · exact Run.Blind.throw _

theorem storeTicket_blind (p : PausedExecution) : Run.Blind (Run.storeTicket p) := by
  unfold Run.storeTicket
  refine Run.Blind.read (fun _ _ => rfl) fun w => ?_
  split
  · exact Run.Blind.modify fun _ _ => rfl
  -- A store on disk writes the ticket under a staging name and renames it.
  dsimp only
  split
  · exact fun _ _ => rfl
  refine Run.Blind.bind (onDisk_blind _) fun _ => ?_
  split
  · refine Run.Blind.bind (Run.Blind.pure _) fun _ => ?_
    exact Run.Blind.bind (onDisk_blind _) fun _ => Run.Blind.bind (onDisk_blind _) fun _ =>
      log_blind _ _ _
  · exact fun _ _ => rfl

end Run

/-- `m` neither reads nor changes the token, from any execution. -/
def Blind {α : Type} (m : Drive α) : Prop :=
  ∀ e w b, execIn m e { w with cancelled := b } =
    ((execIn m e w).1, { (execIn m e w).2 with cancelled := b })

namespace Blind

variable {α β : Type}

theorem pure (a : α) : Blind (pure a : Drive α) := fun _ _ _ => rfl

theorem get : Blind (get : Drive Execution) := fun _ _ _ => rfl

theorem set (e' : Execution) : Blind (set e' : Drive PUnit) := fun _ _ _ => rfl

theorem throw (x : FlowError) : Blind (throw x : Drive α) := fun _ _ _ => rfl

theorem lift {r : Run α} (h : Run.Blind r) : Blind (liftM r : Drive α) := by
  intro e w b
  rw [execIn_lift, execIn_lift, h w b]
  rcases r.run.run w with ⟨x | a, w'⟩ <;> rfl

theorem bind {m : Drive α} {f : α → Drive β} (hm : Blind m) (hf : ∀ a, Blind (f a)) :
    Blind (m >>= f) := by
  intro e w b
  rw [execIn_bind, execIn_bind, hm e w b]
  rcases execIn m e w with ⟨x | ⟨a, e'⟩, w'⟩
  · rfl
  · exact hf a e' w' b

theorem alike {m : Drive α} (h : Blind m) {strict : Bool} (e : Execution) {w₁ w₂ : World}
    (hw : World.Shadows strict w₁ w₂) : Alike strict (execIn m e w₁) (execIn m e w₂) :=
  Run.Blind.alike (r := (m.run e)) (fun w b => h e w b) hw

end Blind

/-! ## The primitives of the walk and the drive are blind -/

namespace Engine

variable (eng : Engine)

theorem emitFor_blind (e : Execution) (id : String) (kind : EventKind) (payload : Value)
    (error : Option Failure) : Run.Blind (eng.emitFor e id kind payload error) := by
  intro w b
  unfold Engine.emitFor
  split
  · rfl
  · cases eng.logEvents <;> rfl

theorem openInstance_blind (parentId id : String) (branchType : BranchType)
    (iteration : Option Nat) : Blind (eng.openInstance parentId id branchType iteration) := by
  unfold Engine.openInstance
  refine Blind.bind (Blind.lift Run.now_blind) fun t => Blind.bind Blind.get fun e => ?_
  split
  · exact Blind.bind (Blind.set _) fun _ => Blind.bind (Blind.lift (Run.log_blind _ _ _)) fun _ =>
      Blind.lift (eng.emitFor_blind _ _ _ _ _)
  · exact Blind.throw _

theorem finishInstance_blind (id : String) (outcome : Outcome) :
    Blind (eng.finishInstance id outcome) := by
  unfold Engine.finishInstance
  split
  · exact Blind.pure _
  · refine Blind.bind (Blind.lift Run.now_blind) fun t => Blind.bind Blind.get fun e => ?_
    exact Blind.bind (Blind.set _) fun _ => Blind.lift (eng.emitFor_blind _ _ _ _ _)

theorem completePausedStep_blind (id : String) (output : StepOutput) :
    Blind (eng.completePausedStep id output) := by
  unfold Engine.completePausedStep
  refine Blind.bind Blind.get fun e => ?_
  split
  · exact Blind.throw _
  · split
    · exact Blind.throw _
    · refine Blind.bind (Blind.lift Run.now_blind) fun t => ?_
      exact Blind.bind (Blind.set _) fun _ => Blind.bind (Blind.lift (Run.log_blind _ _ _)) fun _ =>
        Blind.lift (eng.emitFor_blind _ _ _ _ _)

theorem record_blind (report : ExecutionReport) : Run.Blind (eng.record report) := by
  unfold Engine.record
  split
  · exact Run.Blind.pure _
  · refine Run.Blind.tryCatch ?_ fun _ => Run.log_blind _ _ _
    exact Run.Blind.bind (Run.onDisk_blind _) fun _ => Run.Blind.bind (Run.onDisk_blind _) fun _ =>
      Run.log_blind _ _ _

theorem suspend_blind (d : FlowDefinition) (e : Execution) (cursor : Cursor)
    (pause : PendingPause) : Run.Blind (eng.suspend d e cursor pause) := by
  unfold Engine.suspend
  refine Run.Blind.bind Run.now_blind fun t => ?_
  refine Run.Blind.bind (Run.storeTicket_blind _) fun _ => ?_
  refine Run.Blind.bind (Run.Blind.modify fun _ _ => rfl) fun _ => ?_
  refine Run.Blind.bind (Run.Blind.forIn _ _ fun _ _ =>
    Run.Blind.bind (eng.emitFor_blind _ _ _ _ _) fun _ => Run.Blind.pure _) fun _ => ?_
  exact Run.Blind.bind (Run.log_blind _ _ _) fun _ => Run.Blind.bind (eng.record_blind _) fun _ =>
    Run.Blind.pure _

end Engine

end Flowline
