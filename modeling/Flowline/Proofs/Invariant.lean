import Flowline.Proofs.Throws
set_option autoImplicit false

/-!
# Invariants of the walk

Most of what the walk does to the world is bookkeeping: it logs, reads the
clock, sleeps, makes identifiers, may be cancelled, writes summaries to
disk. `World.Quiet w w'` says that `w'` came from `w` that way: no event
published, no paused execution kept or taken, and the clock not turned
back. Every step behaviour is quiet (`StepRun.perform_quiet`), and so is
writing a run summary (`Engine.record_quiet`).

`Maintains I m` says that `m` keeps `I`, a property of the execution
together with the world. The main theorem, `Engine.walk_maintains`, says
that the whole walk keeps any such property that quiet changes keep, once
the step runner and the three primitives that change instances keep it:
completing a paused step, opening an instance and finishing one. Facts
about the events a run publishes or the records it writes are then proved
for those four and read off for the walk.
-/

namespace Flowline

/-! ## Quiet changes of the world -/

/-- `w'` is `w` after logging, reading the clock, sleeping, making
identifiers, cancelling or writing to disk: nothing is published, no paused
execution is kept or taken, and the clock is not turned back. -/
structure World.Quiet (w w' : World) : Prop where
  events : w'.events = w.events
  nextSequence : w'.nextSequence = w.nextSequence
  store : w'.store = w.store
  saved : w'.saved = w.saved
  clock : w.clock ≤ w'.clock

namespace World.Quiet

theorem refl (w : World) : w.Quiet w := ⟨rfl, rfl, rfl, rfl, Nat.le_refl _⟩

theorem trans {w₁ w₂ w₃ : World} (h₁ : w₁.Quiet w₂) (h₂ : w₂.Quiet w₃) : w₁.Quiet w₃ :=
  ⟨h₂.events.trans h₁.events, h₂.nextSequence.trans h₁.nextSequence, h₂.store.trans h₁.store,
    h₂.saved.trans h₁.saved, Nat.le_trans h₁.clock h₂.clock⟩

/-- Moving the clock forward is quiet. -/
theorem tick (w : World) (d : Nat) : w.Quiet { w with clock := w.clock + d } :=
  ⟨rfl, rfl, rfl, rfl, Nat.le_add_right _ _⟩

end World.Quiet

/-- Whether it fails or not, `m` changes the world only quietly. -/
def Run.Quiet {α : Type} (m : Run α) : Prop :=
  ∀ w, Run.Throws m w (fun _ w' => w.Quiet w') ∧ Run.Ensures m w fun _ w' => w.Quiet w'

namespace Run.Quiet

variable {α β : Type}

theorem pure (a : α) : Run.Quiet (pure a) :=
  fun w => ⟨Run.Throws.pure a, Run.Ensures.pure (World.Quiet.refl w)⟩

theorem throw (x : FlowError) : Run.Quiet (throw x : Run α) :=
  fun w => ⟨Run.Throws.throw (World.Quiet.refl w), Run.Ensures.throw⟩

theorem get : Run.Quiet (get : Run World) :=
  fun w => ⟨Run.Throws.get, Run.Ensures.get (World.Quiet.refl w)⟩

theorem modify {f : World → World} (hf : ∀ w : World, w.Quiet (f w)) : Run.Quiet (modify f : Run PUnit) :=
  fun w => ⟨Run.Throws.modify, Run.Ensures.modify (hf w)⟩

theorem bind {m : Run α} {f : α → Run β} (hm : Run.Quiet m) (hf : ∀ a, Run.Quiet (f a)) :
    Run.Quiet (m >>= f) := by
  intro w
  refine ⟨Run.Throws.bind (hm w).1 ((hm w).2.mono fun a w' h => ?_), Run.Ensures.bind ?_⟩
  · exact (hf a w').1.mono fun _ _ h' => h.trans h'
  · exact (hm w).2.mono fun a w' h => (hf a w').2.mono fun _ _ h' => h.trans h'

theorem ite {c : Prop} [Decidable c] {m₁ m₂ : Run α} (h₁ : Run.Quiet m₁) (h₂ : Run.Quiet m₂) :
    Run.Quiet (if c then m₁ else m₂) := by
  split
  · exact h₁
  · exact h₂

/-- Recovering from a failure is quiet when the computation and the
recovery are. -/
theorem tryCatch {m : Run α} {handle : FlowError → Run α} (hm : Run.Quiet m)
    (h : ∀ err, Run.Quiet (handle err)) : Run.Quiet (tryCatch m handle) := by
  intro w
  rcases hrun : m.run.run w with ⟨x | a, w'⟩
  · have hw' := (hm w).1 x w' hrun
    constructor
    · intro err w'' h'
      simp only [ExceptT.run_tryCatch, StateT.run_bind, hrun] at h'
      exact hw'.trans ((h x w').1 err w'' h')
    · intro b w'' h'
      simp only [ExceptT.run_tryCatch, StateT.run_bind, hrun] at h'
      exact hw'.trans ((h x w').2 b w'' h')
  · have hw' := (hm w).2 a w' hrun
    constructor
    · intro err w'' h'
      simp only [ExceptT.run_tryCatch, StateT.run_bind, hrun] at h'
      cases h'
    · intro b w'' h'
      simp only [ExceptT.run_tryCatch, StateT.run_bind, hrun] at h'
      cases h'
      exact hw'

end Run.Quiet

namespace Run

theorem log_quiet (level : Level) (component : Component) (message : String) :
    Run.Quiet (Run.log level component message) :=
  Run.Quiet.modify fun _ => ⟨rfl, rfl, rfl, rfl, Nat.le_refl _⟩

theorem error_quiet (component : Component) (message : String) :
    Run.Quiet (Run.error component message) :=
  log_quiet _ _ _

theorem warn_quiet (component : Component) (message : String) :
    Run.Quiet (Run.warn component message) :=
  log_quiet _ _ _

theorem info_quiet (component : Component) (message : String) :
    Run.Quiet (Run.info component message) :=
  log_quiet _ _ _

theorem debug_quiet (component : Component) (message : String) :
    Run.Quiet (Run.debug component message) :=
  log_quiet _ _ _

theorem now_quiet : Run.Quiet Run.now := by
  intro w
  constructor
  · intro err w' h
    cases h
  · intro a w' h
    cases h
    exact World.Quiet.tick w 1000

theorem freshUuid_quiet : Run.Quiet Run.freshUuid := by
  intro w
  constructor
  · intro err w' h
    cases h
  · intro a w' h
    cases h
    exact ⟨rfl, rfl, rfl, rfl, Nat.le_refl _⟩

theorem isCancelled_quiet : Run.Quiet Run.isCancelled :=
  Run.Quiet.bind Run.Quiet.get fun _ => Run.Quiet.pure _

theorem sleep_quiet (ms : Nat) : Run.Quiet (Run.sleep ms) :=
  Run.Quiet.modify fun w => World.Quiet.tick w _

theorem cancel_quiet : Run.Quiet Run.cancel :=
  Run.Quiet.modify fun _ => ⟨rfl, rfl, rfl, rfl, Nat.le_refl _⟩

theorem onDisk_quiet (f : Disk → Except DiskFault Disk) : Run.Quiet (Run.onDisk f) := by
  refine Run.Quiet.bind Run.Quiet.get fun w => ?_
  split
  · exact Run.Quiet.modify fun _ => ⟨rfl, rfl, rfl, rfl, Nat.le_refl _⟩
  · exact Run.Quiet.throw _

theorem logged_quiet {α : Type} (m : Logged α) : Run.Quiet (Run.logged m) :=
  Run.Quiet.bind (Run.Quiet.modify fun _ => ⟨rfl, rfl, rfl, rfl, Nat.le_refl _⟩) fun _ =>
    Run.Quiet.pure _

end Run

/-- Writing a run summary is quiet: it touches the disk and the logs. -/
theorem Engine.record_quiet (eng : Engine) (report : ExecutionReport) :
    Run.Quiet (eng.record report) := by
  unfold Engine.record
  split
  · exact Run.Quiet.pure _
  · refine Run.Quiet.tryCatch ?_ fun _ => Run.warn_quiet _ _
    exact Run.Quiet.bind (Run.onDisk_quiet _) fun _ =>
      Run.Quiet.bind (Run.onDisk_quiet _) fun _ => Run.info_quiet _ _

/-- From any state in any world, whatever `m` leaves when it succeeds is a
quiet change of the world. -/
def Quiet {σ α : Type} (m : StateT σ Run α) : Prop :=
  ∀ s w, Ensures m s w fun _ _ w' => w.Quiet w'

namespace Quiet

variable {σ α β : Type}

theorem pure (a : α) : Quiet (pure a : StateT σ Run α) :=
  fun _ w => Ensures.pure (World.Quiet.refl w)

theorem bind {m : StateT σ Run α} {f : α → StateT σ Run β} (hm : Quiet m)
    (hf : ∀ a, Quiet (f a)) : Quiet (m >>= f) :=
  fun s w => Ensures.bind ((hm s w).mono fun a s' w' h => (hf a s' w').mono fun _ _ _ h' => h.trans h')

theorem lift {r : Run α} (h : Run.Quiet r) : Quiet (liftM r : StateT σ Run α) :=
  fun _ w => Ensures.lift (h w).2

theorem getThe : Quiet (getThe σ : StateT σ Run σ) := fun _ w => Ensures.get (World.Quiet.refl w)

theorem modify {f : σ → σ} : Quiet (modify f : StateT σ Run PUnit) :=
  fun _ w => Ensures.modify (World.Quiet.refl w)

theorem modifyThe {f : σ → σ} : Quiet (modifyThe σ f : StateT σ Run PUnit) := modify

theorem ite {c : Prop} [Decidable c] {m₁ m₂ : StateT σ Run α} (h₁ : Quiet m₁) (h₂ : Quiet m₂) :
    Quiet (if c then m₁ else m₂) := by
  split
  · exact h₁
  · exact h₂

/-- A loop over a list whose every round is quiet is quiet. -/
theorem forIn {γ : Type} (l : List γ) (init : β) {body : γ → β → StateT σ Run (ForInStep β)}
    (h : ∀ x b, Quiet (body x b)) : Quiet (ForIn.forIn l init body) := by
  induction l generalizing init with
  | nil => exact pure init
  | cons x rest ih =>
    simp only [List.forIn_cons]
    refine bind (h x init) fun step => ?_
    cases step with
    | done b => exact pure b
    | yield b => exact ih b

end Quiet

/-! ## Quiet steps

A step reads and writes its scope, logs, sleeps and may ask for
cancellation; nothing it does reaches the events or the pause store. -/

namespace StepRun

variable (ctx : StepContext)

theorem log_quiet (message : String) : Quiet (StepRun.log ctx message) :=
  Quiet.bind (Quiet.lift (Run.debug_quiet _ _)) fun _ => Quiet.modify

theorem get?_quiet (path : String) : Quiet (StepRun.get? ctx path) :=
  Quiet.bind Quiet.getThe fun _ => Quiet.pure _

theorem remove_quiet (path : String) : Quiet (StepRun.remove ctx path) :=
  Quiet.bind Quiet.getThe fun _ => Quiet.bind Quiet.modifyThe fun _ => Quiet.pure _

theorem sleepWithin_quiet (limit : Option Nat) (ms : Nat) :
    Quiet (StepRun.sleepWithin limit ms) := by
  unfold StepRun.sleepWithin
  split
  · exact Quiet.ite (Quiet.pure _)
      (Quiet.bind (Quiet.lift (Run.sleep_quiet _)) fun _ => Quiet.pure _)
  · exact Quiet.bind (Quiet.lift (Run.sleep_quiet _)) fun _ => Quiet.pure _

theorem controlLoop_quiet (params : Fields) : Quiet (controlLoop ctx params) := by
  unfold controlLoop
  dsimp only
  -- However the item is found (`while` mode reads the state first), the round
  -- ends in a failure, a write of the loop variables or a log line.
  repeat' split
  all_goals try refine Quiet.bind (get?_quiet ctx _) fun _ => ?_
  all_goals refine Quiet.bind (Quiet.pure _) fun item => ?_
  all_goals rcases item with _ | _ | it
  all_goals first
    | exact Quiet.pure _
    | exact Quiet.bind (log_quiet ctx _) fun _ => Quiet.pure _
    | exact Quiet.bind Quiet.modify fun _ => Quiet.bind Quiet.modify fun _ => Quiet.pure _

theorem scriptResult_quiet (params : Fields) (result : ScriptResult) :
    Quiet (scriptResult ctx params result) := by
  cases result with
  | read path => exact Quiet.bind (get?_quiet ctx path) fun _ => Quiet.pure _
  | removed path => exact Quiet.bind (remove_quiet ctx path) fun _ => Quiet.pure _
  | snapshot => exact Quiet.bind Quiet.getThe fun _ => Quiet.pure _
  | context contains =>
    dsimp only [scriptResult]
    cases contains with
    | none => exact Quiet.bind (Quiet.pure _) fun _ => Quiet.pure _
    | some path =>
      exact Quiet.bind (get?_quiet ctx path) fun _ => Quiet.bind (Quiet.pure _) fun _ => Quiet.pure _
  | _ => exact Quiet.pure _

theorem runScript_quiet (limit : Option Nat) (params : Fields) (script : Script) :
    Quiet (runScript ctx limit params script) := by
  unfold runScript
  refine Quiet.bind (Quiet.forIn _ _ fun _ _ => Quiet.bind (log_quiet ctx _) fun _ => Quiet.pure _)
    fun _ => ?_
  refine Quiet.bind (Quiet.forIn _ _ fun _ _ => Quiet.bind Quiet.modify fun _ => Quiet.pure _)
    fun _ => ?_
  refine Quiet.bind (Quiet.forIn _ _ fun _ _ => ?_) fun _ => ?_
  · split
    · exact Quiet.bind Quiet.modify fun _ => Quiet.pure _
    · exact Quiet.bind Quiet.modify fun _ => Quiet.pure _
  dsimp only
  refine Quiet.ite (Quiet.bind (Quiet.lift Run.cancel_quiet) fun _ => ?_) ?_
  all_goals
    refine Quiet.bind (sleepWithin_quiet _ _) fun _ => Quiet.ite (Quiet.pure _) ?_
    split
    · exact Quiet.pure _
    · exact Quiet.pure _
    · exact Quiet.pure _
    · exact Quiet.bind (scriptResult_quiet ctx params _) fun _ => Quiet.pure _

/-- Whatever a step does to the world is quiet. -/
theorem perform_quiet (limit : Option Nat) (params : Fields) (behaviour : Behaviour) :
    Quiet (perform ctx limit params behaviour) := by
  cases behaviour with
  | loopController => exact Quiet.bind (controlLoop_quiet ctx params) fun _ => Quiet.pure _
  | stateSet =>
    dsimp only [perform]
    split
    · exact Quiet.pure _
    · exact Quiet.pure _
    · exact Quiet.ite (Quiet.bind Quiet.modify fun _ => Quiet.pure _)
        (Quiet.bind Quiet.modify fun _ => Quiet.pure _)
  | stateGet =>
    dsimp only [perform]
    split
    · exact Quiet.pure _
    · refine Quiet.bind (get?_quiet ctx _) fun v => ?_
      split
      · exact Quiet.pure _
      · exact Quiet.pure _
  | humanInput => exact Quiet.bind (log_quiet ctx _) fun _ => Quiet.pure _
  | delay =>
    dsimp only [perform]
    refine Quiet.bind (sleepWithin_quiet _ _) fun _ => Quiet.ite (Quiet.pure _) ?_
    exact Quiet.bind (log_quiet ctx _) fun _ => Quiet.pure _
  | script s => exact runScript_quiet ctx limit params s
  | _ => exact Quiet.pure _

end StepRun

/-! ## Loops that fold -/

/-- A loop over a list keeps `I` of its carried value, the world, and a value
folded by `f` along the elements it has gone through. -/
theorem Run.Ensures.forIn_fold {γ β σ : Type} (l : List γ) (init : β)
    {body : γ → β → Run (ForInStep β)} (f : σ → γ → σ) (I : σ → β → World → Prop) (s : σ)
    {w : World} (h : ∀ x b s w, I s b w → Run.Ensures (body x b) w fun r w' =>
      ∃ b', r = .yield b' ∧ I (f s x) b' w')
    (hinit : I s init w) :
    Run.Ensures (ForIn.forIn l init body) w fun b w' => I (l.foldl f s) b w' := by
  induction l generalizing init s w with
  | nil => exact Run.Ensures.pure hinit
  | cons x rest ih =>
    simp only [List.forIn_cons, List.foldl_cons]
    refine Run.Ensures.next (h x init s w hinit) fun r w' ⟨b', hr, hb'⟩ => ?_
    subst hr
    exact ih b' (f s x) hb'

/-! ## Invariants of the execution and the world -/

/-- `m` keeps `I`, a property of its state together with the world: from a
state and world that satisfy it, whatever `m` leaves when it succeeds
satisfies it too. -/
def Maintains {σ α : Type} (I : σ → World → Prop) (m : StateT σ Run α) : Prop :=
  ∀ s w, I s w → Ensures m s w fun _ s' w' => I s' w'

namespace Maintains

variable {σ α β : Type} {I : σ → World → Prop}

theorem pure (a : α) : Maintains I (pure a : StateT σ Run α) :=
  fun _ _ h => Ensures.pure h

theorem bind {m : StateT σ Run α} {f : α → StateT σ Run β} (hm : Maintains I m)
    (hf : ∀ a, Maintains I (f a)) : Maintains I (m >>= f) :=
  fun s w h => Ensures.bind ((hm s w h).mono fun a s' w' h' => hf a s' w' h')

theorem throw (x : FlowError) : Maintains I (throw x : StateT σ Run α) :=
  fun _ _ _ => Ensures.throw

theorem get : Maintains I (get : StateT σ Run σ) :=
  fun _ _ h => Ensures.get h

theorem ite {c : Prop} [Decidable c] {m₁ m₂ : StateT σ Run α} (h₁ : Maintains I m₁)
    (h₂ : Maintains I m₂) : Maintains I (if c then m₁ else m₂) := by
  split
  · exact h₁
  · exact h₂

/-- A quiet world computation keeps what quiet changes keep. -/
theorem quiet {r : Run α} (hI : ∀ s w w', I s w → w.Quiet w' → I s w') (h : Run.Quiet r) :
    Maintains I (liftM r : StateT σ Run α) :=
  fun s w hs => Ensures.lift ((h w).2.mono fun _ w' hw => hI s w w' hs hw)

end Maintains

/-! ## Where a cursor lets the walk act

The walk acts at the instance it stands in, at the instances it opens, and at
those its cursor names. Two predicates on identifiers say where it may act:
`here`, where steps run, paused steps complete and instances finish, and
`under`, the loops whose rounds may open iteration instances. -/

/-- A frame that names an instance the walk may act at: a block frame one in
`here`, a loop frame one in `here` and `under`. -/
def Frame.Within (here under : String → Prop) : Frame → Prop
  | .block id .. => here id
  | .loop id .. => here id ∧ under id

/-- A resume cursor, if any, all of whose frames are within `here` and
`under`. -/
def Frame.CursorWithin (here under : String → Prop) (resume : Option Resume) : Prop :=
  ∀ r, resume = some r → ∀ f ∈ r.frames, f.Within here under

/-- Where a loop round re-enters, all within `here` and `under`. -/
def Frame.PendingWithin (here under : String → Prop) (pending : Option (LoopPhase × Resume)) :
    Prop :=
  ∀ phase r, pending = some (phase, r) → ∀ f ∈ r.frames, f.Within here under

namespace Frame

variable {here under : String → Prop}

theorem Within.instanceId_here {f : Frame} (h : f.Within here under) : here f.instanceId := by
  cases f with
  | block id index previous => exact h
  | loop id iteration output phase => exact h.1

theorem cursorWithin_none : CursorWithin here under none := fun _ h => by cases h

theorem pendingWithin_none : PendingWithin here under none := fun _ _ h => by cases h

/-- Below its first frame, a cursor within stays within. -/
theorem CursorWithin.rest {r : Resume} {f : Frame} {rest : List Frame}
    (h : CursorWithin here under (some r)) (hr : r.frames = f :: rest) (value : StepOutput) :
    CursorWithin here under (some ⟨rest, value⟩) := by
  intro r' hr' g hg
  cases hr'
  exact h r rfl g (by rw [hr]; exact List.mem_cons_of_mem f hg)

theorem CursorWithin.head {r : Resume} {f : Frame} {rest : List Frame}
    (h : CursorWithin here under (some r)) (hr : r.frames = f :: rest) : f.Within here under :=
  h r rfl f (by rw [hr]; exact List.mem_cons_self)

theorem PendingWithin.controller {pending : Option (LoopPhase × Resume)}
    (h : PendingWithin here under pending) :
    CursorWithin here under (controllerResume? pending) := by
  intro r hr
  rcases pending with _ | ⟨_ | _, r'⟩ <;> cases hr
  exact h _ _ rfl

theorem PendingWithin.actions {pending : Option (LoopPhase × Resume)}
    (h : PendingWithin here under pending) :
    CursorWithin here under (actionsResume? pending) := by
  intro r hr
  rcases pending with _ | ⟨_ | _, r'⟩ <;> cases hr
  exact h _ _ rfl

end Frame

theorem Maintains.get_bind {σ α : Type} {I : σ → World → Prop} {f : σ → StateT σ Run α}
    (h : ∀ s w, I s w → Ensures (f s) s w fun _ s' w' => I s' w') :
    Maintains I ((MonadState.get : StateT σ Run σ) >>= f) :=
  fun s w hs => Ensures.bind (Ensures.get (h s w hs))

/-! ## The walk keeps what its primitives keep -/

namespace Engine

variable (eng : Engine) (step : StepRunner) (I : Execution → World → Prop)
  (here under : String → Prop)

/-- A block's walk from an instance in `here`, along a cursor within. -/
abbrev BlockWithin (id : String) (nodes : List FlowNode) (base : String)
    (entry : Option StepOutput) (resume : Option Resume) : Prop :=
  here id → Frame.CursorWithin here under resume →
    Maintains I (eng.runBlock step id nodes base entry resume)

/-- A block's walk from a position on. -/
abbrev FromWithin (id : String) (nodes : List FlowNode) (base : String) (index : Nat)
    (previous : Option StepOutput) (nested : Option Resume) : Prop :=
  here id → Frame.CursorWithin here under nested →
    Maintains I (eng.blockFrom step id nodes base index previous nested)

/-- One node of a block. -/
abbrev NodeWithin (id : String) (node : FlowNode) (index : Nat) (path : String)
    (previous : Option StepOutput) (resuming : Option Resume) : Prop :=
  here id → Frame.CursorWithin here under resuming →
    Maintains I (eng.runNode step id node index path previous resuming)

/-- A loop node; the loop instance is a new one or the one its frame names. -/
abbrev LoopWithin (parentId : String) (index : Nat) (path : String) (parts : List FlowNode)
    (resume : Option Resume) : Prop :=
  Frame.CursorWithin here under resume →
    Maintains I (eng.runLoop step parentId index path parts resume)

/-- A loop's rounds, of a loop in `here` and `under`. -/
abbrev RoundWithin (loopId : String) (controller : FlowNode) (actions : List FlowNode)
    (controllerBase actionsBase path : String) (iteration : Nat)
    (controllerOutput : Option StepOutput) (pending : Option (LoopPhase × Resume)) : Prop :=
  here loopId → under loopId → Frame.PendingWithin here under pending →
    Maintains I (eng.loopRound step loopId controller actions controllerBase actionsBase path
      iteration controllerOutput pending)

/-- What a loop in `here` and `under` does on its controller's decision. -/
abbrev FollowWithin (loopId : String) (controller : FlowNode) (actions : List FlowNode)
    (controllerBase actionsBase path : String) (iteration : Nat)
    (pending : Option (LoopPhase × Resume)) (decided : Sum Outcome (Option StepOutput)) : Prop :=
  here loopId → under loopId → Frame.PendingWithin here under pending →
    Maintains I (eng.loopFollow step loopId controller actions controllerBase actionsBase path
      iteration pending decided)

/-- A block in a child instance; an iteration instance only under a loop in
`under`. -/
abbrev ChildWithin (parentId candidate : String) (branchType : BranchType)
    (iteration : Option Nat) (nodes : List FlowNode) (base : String) (entry : Option StepOutput)
    (resume : Option Resume) : Prop :=
  (branchType = .loopActions → under parentId) → Frame.CursorWithin here under resume →
    Maintains I (eng.runChild step parentId candidate branchType iteration nodes base entry resume)

/-- The walk keeps any property of the execution and the world that quiet
changes keep, once its step runner and the primitives that change instances
keep it where the walk may act: steps, completions and finishes at instances
in `here`, and openings of instances in `here`, of iteration instances only
under loops in `under`. The walk acts only there as long as the instances it
opens are (`hfresh`) and its cursor names no others: everywhere else the
execution is left as it was. -/
theorem walk_maintains_within (hI : ∀ e w w', I e w → w.Quiet w' → I e w')
    (hfresh : ∀ e w candidate, I e w → here (e.freshId candidate) ∧ under (e.freshId candidate))
    (hstep : ∀ id, here id → ∀ node path previous, Maintains I (step id node path previous))
    (hcomplete : ∀ id, here id → ∀ output, Maintains I (eng.completePausedStep id output))
    (hopen : ∀ parentId id branchType iteration, here id →
      (branchType = .loopActions → under parentId) →
      Maintains I (eng.openInstance parentId id branchType iteration))
    (hfinish : ∀ id, here id → ∀ outcome, Maintains I (eng.finishInstance id outcome)) :
    (∀ id nodes base entry resume, BlockWithin eng step I here under id nodes base entry resume) ∧
    (∀ id nodes base index previous nested,
      FromWithin eng step I here under id nodes base index previous nested) ∧
    (∀ id node index path previous resuming,
      NodeWithin eng step I here under id node index path previous resuming) ∧
    (∀ parentId index path parts resume, LoopWithin eng step I here under parentId index path parts
      resume) ∧
    (∀ loopId controller actions controllerBase actionsBase path iteration controllerOutput pending,
      RoundWithin eng step I here under loopId controller actions controllerBase actionsBase path
        iteration controllerOutput pending) ∧
    (∀ loopId controller actions controllerBase actionsBase path iteration pending decided,
      FollowWithin eng step I here under loopId controller actions controllerBase actionsBase path
        iteration pending decided) ∧
    (∀ parentId candidate branchType iteration nodes base entry resume,
      ChildWithin eng step I here under parentId candidate branchType iteration nodes base entry
        resume) := by
  -- Logging and reading the cancellation flag are quiet.
  have quiet : ∀ {α : Type} {r : Run α}, Run.Quiet r → Maintains I (liftM r : Drive α) :=
    Maintains.quiet hI
  apply Engine.runBlock.mutual_induct eng step (BlockWithin eng step I here under)
    (FromWithin eng step I here under) (NodeWithin eng step I here under)
    (LoopWithin eng step I here under) (RoundWithin eng step I here under)
    (FollowWithin eng step I here under) (ChildWithin eng step I here under)
  -- `runBlock`: fresh, on a cursor, or on a frame it does not expect.
  · intro id nodes base entry ih hid _
    rw [Engine.runBlock]
    exact ih hid Frame.cursorWithin_none
  · intro id nodes base entry r hr _ _
    rw [Engine.runBlock, hr]
    exact Maintains.throw _
  · intro id nodes base entry r frameId index before rest hr hid hempty ih hhere _
    rw [Engine.runBlock, hr]
    simp only [hid, hempty, if_true]
    exact Maintains.bind (hcomplete id hhere r.value) fun _ => ih hhere Frame.cursorWithin_none
  · intro id nodes base entry r frameId index before rest hr hid hempty ih hhere hcur
    rw [Engine.runBlock, hr]
    simp only [hid, hempty, if_true]
    exact ih hhere (hcur.rest hr r.value)
  · intro id nodes base entry r frameId index before rest hr hid _ _
    rw [Engine.runBlock, hr]
    simp only [hid]
    exact Maintains.throw _
  · intro id nodes base entry r other tail hother hr _ _
    rw [Engine.runBlock_not_block hother hr]
    exact Maintains.throw _
  -- `blockFrom`: past the last node, or at a node and on from there.
  · intro id nodes base index previous nested hnone _ _
    rw [Engine.blockFrom_past hnone]
    exact Maintains.pure _
  · intro id nodes base index previous nested node hnode path ihNode ihDone ihAbsorb hhere hcur
    rw [Engine.blockFrom]
    split
    · rename_i h
      rw [hnode] at h
      cases h
    rename_i node' h
    rw [hnode] at h
    cases h
    refine Maintains.bind (quiet Run.isCancelled_quiet) fun cancelled => ?_
    refine Maintains.ite (Maintains.bind (quiet (Run.info_quiet _ _)) fun _ => Maintains.pure _) ?_
    refine Maintains.bind (ihNode hhere hcur) fun o => ?_
    split
    · exact ihDone _ hhere Frame.cursorWithin_none
    · exact Maintains.pure _
    · exact Maintains.ite (Maintains.bind (quiet (Run.warn_quiet _ _)) fun _ =>
        ihAbsorb _ hhere Frame.cursorWithin_none) (Maintains.pure _)
    · exact Maintains.pure _
  -- `runNode`: a step, a sub-flow, a loop or a branch.
  · intro id index path previous resuming stepId h _ _
    rw [Engine.runNode, if_pos h]
    exact Maintains.throw _
  · intro id index path previous resuming stepId h hhere _
    rw [Engine.runNode, if_neg h]
    exact hstep id hhere _ _ _
  · intro id index path previous resuming stepId params h _ _
    rw [Engine.runNode, if_pos h]
    exact Maintains.throw _
  · intro id index path previous resuming stepId params h hhere _
    rw [Engine.runNode, if_neg h]
    exact hstep id hhere _ _ _
  · intro id index path previous resuming children ih _ hcur
    rw [Engine.runNode]
    exact ih (fun h => by cases h) hcur
  · intro id index path previous resuming parts ih _ hcur
    rw [Engine.runNode]
    exact ih hcur
  · intro id index path previous resuming arms edge arm target hfound ih _ hcur
    rw [Engine.runNode_branch_found rfl hfound]
    exact ih (fun h => by cases h) hcur
  · intro id index path previous resuming arms edge hnone _ _
    rw [Engine.runNode_branch_none rfl hnone]
    exact Maintains.bind (quiet (Run.error_quiet _ _)) fun _ => Maintains.pure _
  -- `runLoop`: without a controller, on a cursor, or fresh.
  · intro parentId index path resume _
    rw [Engine.runLoop]
    exact Maintains.pure _
  · intro parentId index path controller actions r hr _
    rw [Engine.runLoop, hr]
    exact Maintains.throw _
  · intro parentId index path controller actions controllerBase actionsBase r loopId iteration output
      phase rest hr ih hcur
    rw [Engine.runLoop, hr]
    have hframe : Frame.Within here under (.loop loopId iteration output phase) := hcur.head hr
    have hpending : Frame.PendingWithin here under (some (phase, ⟨rest, r.value⟩)) := by
      intro phase' r' h
      cases h
      exact hcur.rest hr r.value _ rfl
    exact Maintains.bind (ih hframe.1 hframe.2 hpending) fun _ =>
      Maintains.bind (hfinish _ hframe.1 _) fun _ => Maintains.pure _
  · intro parentId index path controller actions r other tail hother hr _
    rw [Engine.runLoop_not_loop hother hr]
    exact Maintains.throw _
  · intro parentId index path controller actions controllerBase actionsBase ih _
    rw [Engine.runLoop]
    refine Maintains.bind Maintains.get fun e => ?_
    split
    · exact Maintains.pure _
    -- The new loop instance is one the walk may act at.
    refine Maintains.get_bind fun e₁ w₁ h₁ => ?_
    have hnew := fun candidate => hfresh e₁ w₁ candidate h₁
    exact Maintains.bind (hopen _ _ _ _ (hnew _).1 fun h => by cases h) (fun _ =>
      Maintains.bind (ih _ (hnew _).1 (hnew _).2 Frame.pendingWithin_none) fun _ =>
        Maintains.bind (hfinish _ (hnew _).1 _) fun _ => Maintains.pure _) e₁ w₁ h₁
  -- `loopRound`: the controller decides, the loop follows.
  · intro loopId controller actions controllerBase actionsBase path iteration controllerOutput
      pending ihFollow ihCtrl hhere hunder hpending
    rw [Engine.loopRound]
    refine Maintains.bind (quiet Run.isCancelled_quiet) fun cancelled => ?_
    dsimp only
    refine Maintains.ite (ihFollow _ hhere hunder hpending) (Maintains.ite ?_ ?_)
    · exact Maintains.bind (quiet (Run.info_quiet _ _)) fun _ => ihFollow _ hhere hunder hpending
    · refine Maintains.bind (ihCtrl hhere hpending.controller) fun o => ?_
      split <;> exact ihFollow _ hhere hunder hpending
  -- `loopFollow`: an outcome, the iteration limit, the actions, `exit`, another edge.
  · intro loopId controller actions controllerBase actionsBase path iteration pending outcome _ _ _
    rw [Engine.loopFollow]
    exact Maintains.pure _
  · intro loopId controller actions controllerBase actionsBase path iteration pending
      controllerOutput edge hcont hlimit _ _ _
    rw [Engine.loopFollow, if_pos hcont, dif_pos hlimit]
    exact Maintains.pure _
  · intro loopId controller actions controllerBase actionsBase path iteration pending
      controllerOutput edge hcont hlimit hempty ih hhere hunder _
    rw [Engine.loopFollow, if_pos hcont, dif_neg hlimit]
    dsimp only
    rw [if_pos hempty]
    exact ih hhere hunder Frame.pendingWithin_none
  · intro loopId controller actions controllerBase actionsBase path iteration pending
      controllerOutput edge hcont hlimit hempty ihNext ihChild hhere hunder hpending
    rw [Engine.loopFollow, if_pos hcont, dif_neg hlimit]
    dsimp only
    rw [if_neg hempty]
    refine Maintains.bind (quiet (Run.debug_quiet _ _)) fun _ =>
      Maintains.bind (ihChild (fun _ => hunder) hpending.actions) fun o => ?_
    split
    · exact ihNext hhere hunder Frame.pendingWithin_none
    · exact Maintains.pure _
    · exact Maintains.pure _
  · intro loopId controller actions controllerBase actionsBase path iteration pending
      controllerOutput edge hcont hexit _ _ _
    rw [Engine.loopFollow, if_neg hcont, if_pos hexit]
    exact Maintains.pure _
  · intro loopId controller actions controllerBase actionsBase path iteration pending
      controllerOutput edge hcont hexit _ _ _
    rw [Engine.loopFollow, if_neg hcont, if_neg hexit]
    exact Maintains.bind (quiet (Run.error_quiet _ _)) fun _ => Maintains.pure _
  -- `runChild`: on a cursor, or fresh.
  · intro parentId candidate branchType iteration nodes base entry r hr _ _
    rw [Engine.runChild, hr]
    exact Maintains.throw _
  · intro parentId candidate branchType iteration nodes base entry r frame tail hr ih _ hcur
    rw [Engine.runChild, hr]
    have hhere := (hcur.head hr).instanceId_here
    exact Maintains.bind (ih hhere hcur) fun _ =>
      Maintains.bind (hfinish _ hhere _) fun _ => Maintains.pure _
  · intro parentId candidate branchType iteration nodes base entry ih hbranch _
    rw [Engine.runChild]
    refine Maintains.bind Maintains.get fun e => ?_
    split
    · exact Maintains.pure _
    refine Maintains.get_bind fun e₁ w₁ h₁ => ?_
    have hnew := fun candidate => hfresh e₁ w₁ candidate h₁
    exact Maintains.bind (hopen _ _ _ _ (hnew _).1 hbranch) (fun _ =>
      Maintains.bind (ih _ (hnew _).1 Frame.cursorWithin_none) fun _ =>
        Maintains.bind (hfinish _ (hnew _).1 _) fun _ => Maintains.pure _) e₁ w₁ h₁

variable {I}

/-- The walk keeps any property of the execution and the world that quiet
changes keep, once its step runner, the completion of a paused step, and
opening and finishing an instance keep it. -/
theorem walk_maintains (hI : ∀ e w w', I e w → w.Quiet w' → I e w')
    (hstep : ∀ id node path previous, Maintains I (step id node path previous))
    (hcomplete : ∀ id output, Maintains I (eng.completePausedStep id output))
    (hopen : ∀ parentId id branchType iteration,
      Maintains I (eng.openInstance parentId id branchType iteration))
    (hfinish : ∀ id outcome, Maintains I (eng.finishInstance id outcome)) :
    (∀ id nodes base entry resume, Maintains I (eng.runBlock step id nodes base entry resume)) ∧
    (∀ id nodes base index previous nested,
      Maintains I (eng.blockFrom step id nodes base index previous nested)) ∧
    (∀ id node index path previous resuming,
      Maintains I (eng.runNode step id node index path previous resuming)) ∧
    (∀ parentId index path parts resume,
      Maintains I (eng.runLoop step parentId index path parts resume)) ∧
    (∀ loopId controller actions controllerBase actionsBase path iteration controllerOutput pending,
      Maintains I (eng.loopRound step loopId controller actions controllerBase actionsBase path
        iteration controllerOutput pending)) ∧
    (∀ loopId controller actions controllerBase actionsBase path iteration pending decided,
      Maintains I (eng.loopFollow step loopId controller actions controllerBase actionsBase path
        iteration pending decided)) ∧
    (∀ parentId candidate branchType iteration nodes base entry resume,
      Maintains I (eng.runChild step parentId candidate branchType iteration nodes base entry
        resume)) := by
  -- Everywhere is somewhere the walk may act.
  have hwithin := walk_maintains_within eng step I (fun _ => True) (fun _ => True) hI
    (fun _ _ _ _ => ⟨trivial, trivial⟩) (fun id _ => hstep id) (fun id _ => hcomplete id)
    (fun parentId id branchType iteration _ _ => hopen parentId id branchType iteration)
    (fun id _ => hfinish id)
  have hcur : ∀ resume, Frame.CursorWithin (fun _ => True) (fun _ => True) resume :=
    fun _ _ _ f _ => by cases f <;> first | exact trivial | exact ⟨trivial, trivial⟩
  have hpending : ∀ pending, Frame.PendingWithin (fun _ => True) (fun _ => True) pending :=
    fun _ _ _ _ f _ => by cases f <;> first | exact trivial | exact ⟨trivial, trivial⟩
  refine ⟨fun id nodes base entry resume => hwithin.1 id nodes base entry resume trivial (hcur _),
    fun id nodes base index previous nested =>
      hwithin.2.1 id nodes base index previous nested trivial (hcur _),
    fun id node index path previous resuming =>
      hwithin.2.2.1 id node index path previous resuming trivial (hcur _),
    fun parentId index path parts resume => hwithin.2.2.2.1 parentId index path parts resume (hcur _),
    fun loopId controller actions controllerBase actionsBase path iteration controllerOutput pending =>
      hwithin.2.2.2.2.1 loopId controller actions controllerBase actionsBase path iteration
        controllerOutput pending trivial trivial (hpending _),
    fun loopId controller actions controllerBase actionsBase path iteration pending decided =>
      hwithin.2.2.2.2.2.1 loopId controller actions controllerBase actionsBase path iteration
        pending decided trivial trivial (hpending _),
    fun parentId candidate branchType iteration nodes base entry resume =>
      hwithin.2.2.2.2.2.2 parentId candidate branchType iteration nodes base entry resume
        (fun _ => trivial) (hcur _)⟩

end Engine

end Flowline
