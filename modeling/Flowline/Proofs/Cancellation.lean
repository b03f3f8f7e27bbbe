import Flowline.Proofs.Token
set_option autoImplicit false

/-!
# Cancellation takes effect between nodes

A step that asks the running execution to stop does not stop it: the walk
reads the token only at its two checks, before each node of a block it runs
fresh and before each round of a loop it does not re-enter inside the
controller. So once the token is cancelled, before a drive or by a step, no
step runs again, and the drive ends as it would have ended had no step
asked, or it stops at the next check with the execution cancelled. The
checks are skipped along a resume cursor and on re-entering a loop's
controller, and a loop opens its actions with no check of its own; the
proof goes through each of these paths.

It compares two walks run from one execution in worlds alike but for the
token (`World.Shadows`), with two step runners that agree wherever the token
is not cancelled. `Shadowed` says the two end alike, or that the first
stopped with a given value while the second went on keeping every settled
record the first ended with (`Execution.KeptIn`). Its rules follow the shape
of the walk: blind effects (`Shadowed.blind`, `Shadowed.bind_blind`),
sequencing (`Shadowed.bind`) and the check itself (`Shadowed.check`).
`Engine.walk_shadowed` is the induction over the walk; `Engine.drive_eq_of_live`
and `Engine.drive_alike_or_cancelled` read it off for a drive, and
`Engine.CancelsBetweenNodes` states both for every drive of a grown
execution.
-/

namespace Flowline

/-! ## Settled records kept -/

/-- Every record of `e₁` that is not waiting for a resume is a record of
`e₂`. -/
def Execution.KeptIn (e₁ e₂ : Execution) : Prop :=
  ∀ r ∈ e₁.stepRecords, r.status ≠ .paused → r ∈ e₂.stepRecords

namespace Execution.KeptIn

theorem refl (e : Execution) : e.KeptIn e := fun _ hr _ => hr

theorem of_stepRecords {e₁ e₁' e₂ : Execution} (he : e₁'.stepRecords = e₁.stepRecords)
    (h : e₁.KeptIn e₂) : e₁'.KeptIn e₂ := by
  intro r hr hp
  rw [he] at hr
  exact h r hr hp

end Execution.KeptIn

/-- `m` ends with `stop` from every state, leaving the records as they are:
how the walk passes a cancellation up. -/
def Halts {α : Type} (m : Drive α) (stop : α) : Prop :=
  ∀ e w, ∃ e' w', execIn m e w = (.ok (stop, e'), w') ∧ e'.stepRecords = e.stepRecords

/-! ## Two computations side by side -/

/-- From execution `e` in worlds `w₁` and `w₂`, `m₁` and `m₂` end alike; or,
when the tokens may differ, `m₁` stops with `stop` and every settled record
it ends with is one of those `m₂` ends with, if it ends. -/
def Shadowed {α : Type} (strict : Bool) (stop : α) (m₁ m₂ : Drive α) (e : Execution)
    (w₁ w₂ : World) : Prop :=
  Alike strict (execIn m₁ e w₁) (execIn m₂ e w₂) ∨
    strict = false ∧ ∃ e₁ w₁', execIn m₁ e w₁ = (.ok (stop, e₁), w₁') ∧
      Ensures m₂ e w₂ fun _ e₂ _ => e₁.KeptIn e₂

namespace Shadowed

variable {α β : Type} {strict : Bool} {e : Execution} {w₁ w₂ : World}

theorem transport {stop : α} {n₁ n₂ k₁ k₂ : Drive α} {e' : Execution} {w₁' w₂' : World}
    (h₁ : execIn n₁ e w₁ = execIn k₁ e' w₁') (h₂ : execIn n₂ e w₂ = execIn k₂ e' w₂')
    (h : Shadowed strict stop k₁ k₂ e' w₁' w₂') : Shadowed strict stop n₁ n₂ e w₁ w₂ := by
  unfold Shadowed Ensures at *
  rw [h₁, h₂]
  exact h

/-- A blind computation shadows itself. -/
theorem blind {stop : α} {m : Drive α} (hm : Blind m) (hw : World.Shadows strict w₁ w₂) :
    Shadowed strict stop m m e w₁ w₂ :=
  .inl (hm.alike e hw)

theorem bind_alike {m₁ m₂ : Drive α} {f₁ f₂ : α → Drive β} {stop' : β}
    (hm : Alike strict (execIn m₁ e w₁) (execIn m₂ e w₂))
    (hf : ∀ a e' w₁' w₂', World.Shadows strict w₁' w₂' →
      Shadowed strict stop' (f₁ a) (f₂ a) e' w₁' w₂') :
    Shadowed strict stop' (m₁ >>= f₁) (m₂ >>= f₂) e w₁ w₂ := by
  obtain ⟨hres, hw⟩ := hm
  rcases h₁ : execIn m₁ e w₁ with ⟨x | ⟨a, e'⟩, w₁'⟩ <;>
    rcases h₂ : execIn m₂ e w₂ with ⟨y, w₂'⟩ <;> rw [h₁, h₂] at hres hw <;>
    dsimp only at hres hw <;> subst hres
  · left
    rw [execIn_bind, execIn_bind, h₁, h₂]
    exact ⟨rfl, hw⟩
  · refine transport ?_ ?_ (hf a e' w₁' w₂' hw)
    · rw [execIn_bind, h₁]
    · rw [execIn_bind, h₂]

theorem bind_blind {m : Drive α} {f₁ f₂ : α → Drive β} {stop' : β} (hm : Blind m)
    (hw : World.Shadows strict w₁ w₂)
    (hf : ∀ a e' w₁' w₂', World.Shadows strict w₁' w₂' →
      Shadowed strict stop' (f₁ a) (f₂ a) e' w₁' w₂') :
    Shadowed strict stop' (m >>= f₁) (m >>= f₂) e w₁ w₂ :=
  bind_alike (hm.alike e hw) hf

/-- Sequencing: a stop of the first part passes through the rest, which the
second run follows keeping every settled record. -/
theorem bind {m₁ m₂ : Drive α} {f₁ f₂ : α → Drive β} {stop : α} {stop' : β}
    (hm : Shadowed strict stop m₁ m₂ e w₁ w₂)
    (hf : ∀ a e' w₁' w₂', World.Shadows strict w₁' w₂' →
      Shadowed strict stop' (f₁ a) (f₂ a) e' w₁' w₂')
    (hstop : Halts (f₁ stop) stop') (hkeep : ∀ a (e₀ : Execution), Keeps e₀.KeptIn (f₂ a)) :
    Shadowed strict stop' (m₁ >>= f₁) (m₂ >>= f₂) e w₁ w₂ := by
  rcases hm with hm | ⟨hs, e₁, w₁', hrun, hens⟩
  · exact bind_alike hm hf
  · -- The first stops; what follows the stop ends with its own stop, keeping the records.
    obtain ⟨e₁', w₁'', hrun', hrec⟩ := hstop e₁ w₁'
    refine .inr ⟨hs, e₁', w₁'', ?_, ?_⟩
    · rw [execIn_bind, hrun]
      exact hrun'
    · refine Ensures.bind (hens.mono fun a e₂ w₂' hk => ?_)
      exact (hkeep a e₁ e₂ w₂' hk).mono fun _ _ _ hk' => hk'.of_stepRecords hrec

/-- A cancellation check that both runs make: where the first finds the token
and the second does not, the first stops. -/
theorem check {X₁ X₂ Y₁ Y₂ : Drive α} {stop : α} (c : Bool) (hw : World.Shadows strict w₁ w₂)
    (hX : Shadowed strict stop X₁ X₂ e w₁ w₂) (hstop : Halts X₁ stop)
    (hY : w₁.cancelled = false ∨ c = false → Shadowed strict stop Y₁ Y₂ e w₁ w₂)
    (hkeep : Ensures Y₂ e w₂ fun _ e₂ _ => e.KeptIn e₂) :
    Shadowed strict stop (if (c && w₁.cancelled) = true then X₁ else Y₁)
      (if (c && w₂.cancelled) = true then X₂ else Y₂) e w₁ w₂ := by
  cases c with
  | false => exact hY (.inr rfl)
  | true =>
    cases h₁ : w₁.cancelled with
    | false =>
      have h₂ : w₂.cancelled = false := by
        cases h : w₂.cancelled with
        | false => rfl
        | true => exact absurd (hw.token h) (by rw [h₁]; decide)
      simp only [h₂, Bool.and_false]
      exact hY (.inl h₁)
    | true =>
      cases h₂ : w₂.cancelled with
      | true => simpa using hX
      | false =>
        -- Only the first run finds the token: it stops, the second goes on.
        have hs : strict = false := by
          cases strict with
          | false => rfl
          | true => exact absurd ((hw.exact rfl).trans h₁) (by rw [h₂]; decide)
        obtain ⟨e₁, w₁', hrun, hrec⟩ := hstop e w₁
        refine .inr ⟨hs, e₁, w₁', by simpa using hrun, ?_⟩
        simp only [Bool.and_false, Bool.false_eq_true, if_false]
        exact hkeep.mono fun _ _ _ hk => hk.of_stepRecords hrec

/-- A check before `m >>= f`, the shape both checks of the walk have. -/
theorem check_bind {X₁ X₂ : Drive α} {m₁ m₂ : Drive β} {f₁ f₂ : β → Drive α} {stop : α}
    {stop₀ : β} (c : Bool) (hw : World.Shadows strict w₁ w₂)
    (hX : Shadowed strict stop X₁ X₂ e w₁ w₂) (hstop : Halts X₁ stop)
    (hm : w₁.cancelled = false ∨ c = false → Shadowed strict stop₀ m₁ m₂ e w₁ w₂)
    (hmkeep : Keeps e.KeptIn m₂)
    (hf : ∀ a e' w₁' w₂', World.Shadows strict w₁' w₂' →
      Shadowed strict stop (f₁ a) (f₂ a) e' w₁' w₂')
    (hfstop : Halts (f₁ stop₀) stop) (hfkeep : ∀ a (e₀ : Execution), Keeps e₀.KeptIn (f₂ a)) :
    Shadowed strict stop (if (c && w₁.cancelled) = true then X₁ else m₁ >>= f₁)
      (if (c && w₂.cancelled) = true then X₂ else m₂ >>= f₂) e w₁ w₂ :=
  check c hw hX hstop (fun h => bind (hm h) hf hfstop hfkeep)
    ((Keeps.bind hmkeep fun a => hfkeep a e) e w₂ (Execution.KeptIn.refl e))

end Shadowed

/-- A world computation that cannot fail succeeds, with what it ensures. -/
theorem Run.Ensures.exists_ok {α : Type} {m : Run α} {w : World} {Q : α → World → Prop}
    (hT : Run.Throws m w fun _ _ => False) (h : Run.Ensures m w Q) :
    ∃ a w', m.run.run w = (.ok a, w') ∧ Q a w' := by
  rcases hm : m.run.run w with ⟨x | a, w'⟩
  · exact (hT x w' hm).elim
  · exact ⟨a, w', rfl, h a w' hm⟩

namespace Engine

variable (eng : Engine) (S₁ S₂ : StepRunner) (strict : Bool)

/-! ## What the walk keeps of the records -/

theorem completePausedStep_keeps (id : String) (output : StepOutput) (e₀ : Execution) :
    Keeps e₀.KeptIn (eng.completePausedStep id output) := by
  intro e w h₀
  refine (completePausedStep_spec eng id output e w).mono fun _ e' _ h => ?_
  obtain ⟨i, r, t, hi, hr, rfl⟩ := h
  obtain ⟨rest, hold, hnew⟩ := Execution.stepRecords_complete hi hr
    { r with status := .completed, output := some output, finishedAt := some t }
  -- The record replaced is paused, so every settled record stays.
  have hfound := List.find?_some hr
  have hpaused : r.status = .paused := (StepStatus.beq_paused _).1 hfound
  intro q hq hp
  rcases List.mem_cons.1 (hold.subset (h₀ q hq hp)) with rfl | hmem
  · exact absurd hpaused hp
  · exact hnew.symm.subset (List.mem_cons_of_mem _ hmem)

theorem openInstance_keeps (parentId id : String) (branchType : BranchType) (iteration : Option Nat)
    (e₀ : Execution) : Keeps e₀.KeptIn (eng.openInstance parentId id branchType iteration) := by
  intro e w h₀
  refine (openInstance_spec eng parentId id branchType iteration e w).mono fun _ e' _ ⟨_, _, hs⟩ => ?_
  exact fun q hq hp => (Execution.stepRecords_spawn hs).symm ▸ h₀ q hq hp

theorem finishInstance_keeps (id : String) (outcome : Outcome) (e₀ : Execution) :
    Keeps e₀.KeptIn (eng.finishInstance id outcome) := by
  intro e w h₀
  refine (finishInstance_stepRecords eng id outcome e w).mono fun _ e' _ he' => ?_
  exact fun q hq hp => he'.symm ▸ h₀ q hq hp

theorem runStep_keeps (id : String) (node : FlowNode) (path : String)
    (previous : Option StepOutput) (e₀ : Execution) :
    Keeps e₀.KeptIn (eng.runStep id node path previous) := by
  intro e w h₀
  refine (runStepWith_record eng _ id node path previous e w).mono fun _ e' _ h => ?_
  obtain ⟨e₁, r, hedits, hhas, rfl, -⟩ := h
  have hrec := Execution.stepRecords_record hhas r
  intro q hq hp
  have hq₁ : q ∈ e₁.stepRecords := hedits.stepRecords ▸ h₀ q hq hp
  exact hrec.symm.subset (List.mem_append_left _ hq₁)

theorem walk_keeps {step : StepRunner}
    (hstep : ∀ id node path previous (e₀ : Execution), Keeps e₀.KeptIn (step id node path previous))
    (e₀ : Execution) :
    (∀ id nodes base entry resume, Keeps e₀.KeptIn (eng.runBlock step id nodes base entry resume)) ∧
    (∀ id nodes base index previous nested,
      Keeps e₀.KeptIn (eng.blockFrom step id nodes base index previous nested)) ∧
    (∀ id node index path previous resuming,
      Keeps e₀.KeptIn (eng.runNode step id node index path previous resuming)) ∧
    (∀ parentId index path parts resume,
      Keeps e₀.KeptIn (eng.runLoop step parentId index path parts resume)) ∧
    (∀ loopId controller actions controllerBase actionsBase path iteration controllerOutput pending,
      Keeps e₀.KeptIn (eng.loopRound step loopId controller actions controllerBase actionsBase path
        iteration controllerOutput pending)) ∧
    (∀ loopId controller actions controllerBase actionsBase path iteration pending decided,
      Keeps e₀.KeptIn (eng.loopFollow step loopId controller actions controllerBase actionsBase path
        iteration pending decided)) ∧
    (∀ parentId candidate branchType iteration nodes base entry resume,
      Keeps e₀.KeptIn (eng.runChild step parentId candidate branchType iteration nodes base entry
        resume)) :=
  walk_maintains eng step (I := fun e _ => e₀.KeptIn e) (fun _ _ _ h _ => h)
    (fun id node path previous => hstep id node path previous e₀)
    (fun id output => completePausedStep_keeps eng id output e₀)
    (fun parentId id branchType iteration => openInstance_keeps eng parentId id branchType iteration e₀)
    (fun id outcome => finishInstance_keeps eng id outcome e₀)

/-! ## The walk, side by side -/

/-- A check reads the token of the world it runs in. -/
theorem check_run {α : Type} (f : Bool → Drive α) (e : Execution) (w : World) :
    execIn (liftM Run.isCancelled >>= f) e w = execIn (f w.cancelled) e w := rfl

theorem finish_halts (id : String) :
    Halts (eng.finishInstance id .cancelled >>= fun _ => pure Outcome.cancelled) .cancelled := by
  intro e w
  rcases h : execIn (eng.finishInstance id .cancelled) e w with ⟨x | ⟨u, e'⟩, w'⟩
  · exact ((finishInstance_tame eng id .cancelled e w).1 x w' h).elim
  · refine ⟨e', w', ?_, finishInstance_stepRecords eng id .cancelled e w u e' w' h⟩
    rw [execIn_bind, h]
    rfl

theorem loopFollow_inl {step : StepRunner} (loopId : String) (controller : FlowNode)
    (actions : List FlowNode) (controllerBase actionsBase path : String) (iteration : Nat)
    (pending : Option (LoopPhase × Resume)) (outcome : Outcome) :
    eng.loopFollow step loopId controller actions controllerBase actionsBase path iteration pending
      (.inl outcome) = pure outcome := by
  rw [Engine.loopFollow]

/-- Finishing an instance after two walks keeps them alike, and a stop a stop. -/
theorem shadowed_finish {m₁ m₂ : Drive Outcome} {e : Execution} {w₁ w₂ : World} (id : String)
    (h : Shadowed strict .cancelled m₁ m₂ e w₁ w₂) :
    Shadowed strict .cancelled (do let o ← m₁; eng.finishInstance id o; pure o)
      (do let o ← m₂; eng.finishInstance id o; pure o) e w₁ w₂ :=
  Shadowed.bind h
    (fun o _ _ _ hw => Shadowed.bind_blind (eng.finishInstance_blind id o) hw fun _ _ _ _ hw' =>
      Shadowed.blind (Blind.pure _) hw')
    (finish_halts eng id) (fun o e₀ => Keeps.bind (finishInstance_keeps eng id o e₀) fun _ => Keeps.pure _)

/-- From any execution in shadowing worlds, the second walk shadows the first,
which may stop cancelled. -/
def WalkShadowed (strict : Bool) (m₁ m₂ : Drive Outcome) : Prop :=
  ∀ e w₁ w₂, World.Shadows strict w₁ w₂ → Shadowed strict .cancelled m₁ m₂ e w₁ w₂

theorem walk_shadowed
    (hstep : ∀ id node path previous e w, w.cancelled = false →
      Alike strict (execIn (S₁ id node path previous) e w) (execIn (S₂ id node path previous) e w))
    (hkeep : ∀ id node path previous (e₀ : Execution), Keeps e₀.KeptIn (S₂ id node path previous)) :
    (∀ id nodes base entry resume,
      WalkShadowed strict (eng.runBlock S₁ id nodes base entry resume)
        (eng.runBlock S₂ id nodes base entry resume)) ∧
    (∀ id nodes base index previous nested,
      WalkShadowed strict (eng.blockFrom S₁ id nodes base index previous nested)
        (eng.blockFrom S₂ id nodes base index previous nested)) ∧
    (∀ id node index path previous resuming e w₁ w₂, World.Shadows strict w₁ w₂ →
      (resuming = none → w₁.cancelled = false) →
      Shadowed strict .cancelled (eng.runNode S₁ id node index path previous resuming)
        (eng.runNode S₂ id node index path previous resuming) e w₁ w₂) ∧
    (∀ parentId index path parts resume,
      WalkShadowed strict (eng.runLoop S₁ parentId index path parts resume)
        (eng.runLoop S₂ parentId index path parts resume)) ∧
    (∀ loopId controller actions controllerBase actionsBase path iteration controllerOutput pending,
      WalkShadowed strict
        (eng.loopRound S₁ loopId controller actions controllerBase actionsBase path iteration
          controllerOutput pending)
        (eng.loopRound S₂ loopId controller actions controllerBase actionsBase path iteration
          controllerOutput pending)) ∧
    (∀ loopId controller actions controllerBase actionsBase path iteration pending decided,
      WalkShadowed strict
        (eng.loopFollow S₁ loopId controller actions controllerBase actionsBase path iteration
          pending decided)
        (eng.loopFollow S₂ loopId controller actions controllerBase actionsBase path iteration
          pending decided)) ∧
    (∀ parentId candidate branchType iteration nodes base entry resume,
      WalkShadowed strict (eng.runChild S₁ parentId candidate branchType iteration nodes base entry resume)
        (eng.runChild S₂ parentId candidate branchType iteration nodes base entry resume)) := by
  -- What the second walk keeps, for where the first one stops.
  have kBlock := fun e₀ => (walk_keeps eng hkeep e₀).1
  have kFrom := fun e₀ => (walk_keeps eng hkeep e₀).2.1
  have kNode := fun e₀ => (walk_keeps eng hkeep e₀).2.2.1
  have kRound := fun e₀ => (walk_keeps eng hkeep e₀).2.2.2.2.1
  have kFollow := fun e₀ => (walk_keeps eng hkeep e₀).2.2.2.2.2.1
  apply Engine.runBlock.mutual_induct eng S₁
    (fun id nodes base entry resume => WalkShadowed strict (eng.runBlock S₁ id nodes base entry resume)
        (eng.runBlock S₂ id nodes base entry resume))
    (fun id nodes base index previous nested =>
      WalkShadowed strict (eng.blockFrom S₁ id nodes base index previous nested)
        (eng.blockFrom S₂ id nodes base index previous nested))
    (fun id node index path previous resuming => ∀ e w₁ w₂, World.Shadows strict w₁ w₂ →
      (resuming = none → w₁.cancelled = false) →
      Shadowed strict .cancelled (eng.runNode S₁ id node index path previous resuming)
        (eng.runNode S₂ id node index path previous resuming) e w₁ w₂)
    (fun parentId index path parts resume => WalkShadowed strict (eng.runLoop S₁ parentId index path parts resume)
        (eng.runLoop S₂ parentId index path parts resume))
    (fun loopId controller actions controllerBase actionsBase path iteration controllerOutput pending =>
      WalkShadowed strict
        (eng.loopRound S₁ loopId controller actions controllerBase actionsBase path iteration
          controllerOutput pending)
        (eng.loopRound S₂ loopId controller actions controllerBase actionsBase path iteration
          controllerOutput pending))
    (fun loopId controller actions controllerBase actionsBase path iteration pending decided =>
      WalkShadowed strict
        (eng.loopFollow S₁ loopId controller actions controllerBase actionsBase path iteration
          pending decided)
        (eng.loopFollow S₂ loopId controller actions controllerBase actionsBase path iteration
          pending decided))
    (fun parentId candidate branchType iteration nodes base entry resume =>
      WalkShadowed strict (eng.runChild S₁ parentId candidate branchType iteration nodes base entry resume)
        (eng.runChild S₂ parentId candidate branchType iteration nodes base entry resume))
  · intro id nodes base entry ih
    rw [Engine.runBlock, Engine.runBlock]
    exact ih
  · intro id nodes base entry r hr e w₁ w₂ hw
    rw [Engine.runBlock, hr, Engine.runBlock, hr]
    exact Shadowed.blind (Blind.throw _) hw
  · intro id nodes base entry r frameId index before rest hr hid hempty ih e w₁ w₂ hw
    rw [Engine.runBlock, hr, Engine.runBlock, hr]
    simp only [hid, hempty, if_true]
    exact Shadowed.bind_blind (eng.completePausedStep_blind _ _) hw fun _ _ _ _ hw' => ih _ _ _ hw'
  · intro id nodes base entry r frameId index before rest hr hid hempty ih
    rw [Engine.runBlock, hr, Engine.runBlock, hr]
    simp only [hid, hempty, if_true]
    exact ih
  · intro id nodes base entry r frameId index before rest hr hid e w₁ w₂ hw
    rw [Engine.runBlock, hr, Engine.runBlock, hr]
    simp only [hid]
    exact Shadowed.blind (Blind.throw _) hw
  · intro id nodes base entry r other tail hother hr e w₁ w₂ hw
    rw [Engine.runBlock_not_block hother hr, Engine.runBlock_not_block hother hr]
    exact Shadowed.blind (Blind.throw _) hw
  · intro id nodes base index previous nested hnone e w₁ w₂ hw
    rw [Engine.blockFrom_past hnone, Engine.blockFrom_past hnone]
    exact Shadowed.blind (Blind.pure _) hw
  · intro id nodes base index previous nested node hnode path ihNode ihDone ihAbsorb e w₁ w₂ hw
    rw [Engine.blockFrom, Engine.blockFrom]
    split
    · rename_i h
      rw [hnode] at h
      cases h
    rename_i node' h
    rw [hnode] at h
    cases h
    refine Shadowed.transport (check_run _ e w₁) (check_run _ e w₂) ?_
    dsimp only
    -- The node runs unless the check stops the first walk; the second one then
    -- keeps every settled record through the node and what follows it.
    refine Shadowed.check_bind nested.isNone hw
      (Shadowed.blind (Blind.bind (Blind.lift (Run.log_blind _ _ _)) fun _ => Blind.pure _) hw)
      (fun e w => ⟨e, _, rfl, rfl⟩)
      (fun hlive => ihNode e w₁ w₂ hw fun hn => hlive.resolve_right (by simp [hn]))
      (kNode e id node index path previous nested) ?follow (fun e w => ⟨e, w, rfl, rfl⟩) ?keep
    case follow =>
      intro o e' w₁' w₂' hw'
      cases o with
      | done output => exact ihDone output e' w₁' w₂' hw'
      | suspended frames pause => exact Shadowed.blind (Blind.pure _) hw'
      | failed failure =>
        dsimp only
        split
        · exact Shadowed.bind_blind (Blind.lift (Run.log_blind _ _ _)) hw' fun _ _ _ _ hw'' =>
            ihAbsorb failure _ _ _ hw''
        · exact Shadowed.blind (Blind.pure _) hw'
      | cancelled => exact Shadowed.blind (Blind.pure _) hw'
    case keep =>
      intro o e₀
      cases o with
      | done output => exact kFrom e₀ _ _ _ _ _ _
      | suspended frames pause => exact Keeps.pure _
      | failed failure =>
        dsimp only
        split
        · exact Keeps.bind (Keeps.lift _) fun _ => kFrom e₀ _ _ _ _ _ _
        · exact Keeps.pure _
      | cancelled => exact Keeps.pure _
  · intro id index path previous resuming stepId h e w₁ w₂ hw _
    rw [Engine.runNode, if_pos h, Engine.runNode, if_pos h]
    exact Shadowed.blind (Blind.throw _) hw
  · intro id index path previous resuming stepId h e w₁ w₂ hw hlive
    rw [Engine.runNode, if_neg h, Engine.runNode, if_neg h]
    -- A step runs only in a world whose token is not cancelled.
    have hl := hlive (Option.not_isSome_iff_eq_none.1 h)
    rw [hw.eq_of_live hl]
    exact .inl (hstep _ _ _ _ e w₁ hl)
  · intro id index path previous resuming stepId params h e w₁ w₂ hw _
    rw [Engine.runNode, if_pos h, Engine.runNode, if_pos h]
    exact Shadowed.blind (Blind.throw _) hw
  · intro id index path previous resuming stepId params h e w₁ w₂ hw hlive
    rw [Engine.runNode, if_neg h, Engine.runNode, if_neg h]
    have hl := hlive (Option.not_isSome_iff_eq_none.1 h)
    rw [hw.eq_of_live hl]
    exact .inl (hstep _ _ _ _ e w₁ hl)
  · intro id index path previous resuming children ih e w₁ w₂ hw _
    rw [Engine.runNode, Engine.runNode]
    exact ih e w₁ w₂ hw
  · intro id index path previous resuming parts ih e w₁ w₂ hw _
    rw [Engine.runNode, Engine.runNode]
    exact ih e w₁ w₂ hw
  · intro id index path previous resuming arms edge arm target hfound ih e w₁ w₂ hw _
    rw [Engine.runNode_branch_found rfl hfound, Engine.runNode_branch_found rfl hfound]
    exact ih e w₁ w₂ hw
  · intro id index path previous resuming arms edge hnone e w₁ w₂ hw _
    rw [Engine.runNode_branch_none rfl hnone, Engine.runNode_branch_none rfl hnone]
    exact Shadowed.blind (Blind.bind (Blind.lift (Run.log_blind _ _ _)) fun _ => Blind.pure _) hw
  · intro parentId index path resume e w₁ w₂ hw
    rw [Engine.runLoop, Engine.runLoop]
    exact Shadowed.blind (Blind.pure _) hw
  · intro parentId index path controller actions r hr e w₁ w₂ hw
    rw [Engine.runLoop, hr, Engine.runLoop, hr]
    exact Shadowed.blind (Blind.throw _) hw
  · intro parentId index path controller actions controllerBase actionsBase r loopId iteration output
      phase rest hr ih e w₁ w₂ hw
    rw [Engine.runLoop, hr, Engine.runLoop, hr]
    exact shadowed_finish eng strict loopId (ih e w₁ w₂ hw)
  · intro parentId index path controller actions r other tail hother hr e w₁ w₂ hw
    rw [Engine.runLoop_not_loop hother hr, Engine.runLoop_not_loop hother hr]
    exact Shadowed.blind (Blind.throw _) hw
  · intro parentId index path controller actions controllerBase actionsBase ih e w₁ w₂ hw
    rw [Engine.runLoop, Engine.runLoop]
    refine Shadowed.bind_blind Blind.get hw fun e' _ w₁' w₂' hw' => ?_
    split
    · exact Shadowed.blind (Blind.pure _) hw'
    refine Shadowed.bind_blind Blind.get hw' fun _ _ w₁'' w₂'' hw'' => ?_
    refine Shadowed.bind_blind (eng.openInstance_blind _ _ _ _) hw'' fun _ e₃ w₁₃ w₂₃ hw₃ => ?_
    exact shadowed_finish eng strict _ (ih _ e₃ w₁₃ w₂₃ hw₃)
  · intro loopId controller actions controllerBase actionsBase path iteration controllerOutput
      pending ihFollow ihCtrl e w₁ w₂ hw
    rw [Engine.loopRound, Engine.loopRound]
    refine Shadowed.transport (check_run _ e w₁) (check_run _ e w₂) ?_
    simp only [pure_bind, loopFollow_inl]
    split
    · exact ihFollow _ e w₁ w₂ hw
    -- Unless re-entering the controller, the round checks the token first.
    refine Shadowed.check_bind _ hw
      (Shadowed.blind (Blind.bind (Blind.lift (Run.log_blind _ _ _)) fun _ => Blind.pure _) hw)
      (fun e w => ⟨e, _, rfl, rfl⟩) (fun _ => ihCtrl e w₁ w₂ hw) (kBlock e _ _ _ _ _) ?follow
      (fun e w => ⟨e, w, rfl, rfl⟩) ?keep
    case follow =>
      intro o e' w₁' w₂' hw'
      cases o with
      | done output => exact ihFollow _ e' w₁' w₂' hw'
      | suspended frames pause => exact Shadowed.blind (Blind.pure _) hw'
      | failed failure => exact Shadowed.blind (Blind.pure _) hw'
      | cancelled => exact Shadowed.blind (Blind.pure _) hw'
    case keep =>
      intro o e₀
      cases o with
      | done output => exact kFollow e₀ _ _ _ _ _ _ _ _ _
      | suspended frames pause => exact Keeps.pure _
      | failed failure => exact Keeps.pure _
      | cancelled => exact Keeps.pure _
  · intro loopId controller actions controllerBase actionsBase path iteration pending outcome
      e w₁ w₂ hw
    rw [Engine.loopFollow, Engine.loopFollow]
    exact Shadowed.blind (Blind.pure _) hw
  · intro loopId controller actions controllerBase actionsBase path iteration pending
      controllerOutput edge hcont hlimit e w₁ w₂ hw
    rw [Engine.loopFollow, if_pos hcont, dif_pos hlimit, Engine.loopFollow, if_pos hcont,
      dif_pos hlimit]
    exact Shadowed.blind (Blind.pure _) hw
  · intro loopId controller actions controllerBase actionsBase path iteration pending
      controllerOutput edge hcont hlimit hempty ih
    rw [Engine.loopFollow, if_pos hcont, dif_neg hlimit, Engine.loopFollow, if_pos hcont,
      dif_neg hlimit]
    simp only [hempty, if_true, pure_bind]
    exact ih
  · intro loopId controller actions controllerBase actionsBase path iteration pending
      controllerOutput edge hcont hlimit hempty ihNext ihChild e w₁ w₂ hw
    rw [Engine.loopFollow, if_pos hcont, dif_neg hlimit, Engine.loopFollow, if_pos hcont,
      dif_neg hlimit]
    rw [if_neg hempty, if_neg hempty]
    simp only [pure_bind]
    refine Shadowed.bind_blind (Blind.lift (Run.log_blind _ _ _)) hw fun _ e' w₁' w₂' hw' => ?_
    refine Shadowed.bind (ihChild e' w₁' w₂' hw') ?follow (fun e w => ⟨e, w, rfl, rfl⟩) ?keep
    case follow =>
      intro o e'' w₁'' w₂'' hw''
      cases o with
      | done output => exact ihNext e'' w₁'' w₂'' hw''
      | suspended frames pause => exact Shadowed.blind (Blind.pure _) hw''
      | failed failure => exact Shadowed.blind (Blind.pure _) hw''
      | cancelled => exact Shadowed.blind (Blind.pure _) hw''
    case keep =>
      intro o e₀
      cases o with
      | done output => exact kRound e₀ _ _ _ _ _ _ _ _ _
      | suspended frames pause => exact Keeps.pure _
      | failed failure => exact Keeps.pure _
      | cancelled => exact Keeps.pure _
  · intro loopId controller actions controllerBase actionsBase path iteration pending
      controllerOutput edge hcont hexit e w₁ w₂ hw
    rw [Engine.loopFollow, if_neg hcont, if_pos hexit, Engine.loopFollow, if_neg hcont, if_pos hexit]
    exact Shadowed.blind (Blind.pure _) hw
  · intro loopId controller actions controllerBase actionsBase path iteration pending
      controllerOutput edge hcont hexit e w₁ w₂ hw
    rw [Engine.loopFollow, if_neg hcont, if_neg hexit, Engine.loopFollow, if_neg hcont, if_neg hexit]
    exact Shadowed.blind (Blind.bind (Blind.lift (Run.log_blind _ _ _)) fun _ => Blind.pure _) hw
  · intro parentId candidate branchType iteration nodes base entry r hr e w₁ w₂ hw
    rw [Engine.runChild, hr, Engine.runChild, hr]
    exact Shadowed.blind (Blind.throw _) hw
  · intro parentId candidate branchType iteration nodes base entry r frame tail hr ih e w₁ w₂ hw
    rw [Engine.runChild, hr, Engine.runChild, hr]
    exact shadowed_finish eng strict _ (ih e w₁ w₂ hw)
  · intro parentId candidate branchType iteration nodes base entry ih e w₁ w₂ hw
    rw [Engine.runChild, Engine.runChild]
    refine Shadowed.bind_blind Blind.get hw fun e' _ w₁' w₂' hw' => ?_
    split
    · exact Shadowed.blind (Blind.pure _) hw'
    refine Shadowed.bind_blind Blind.get hw' fun _ _ w₁'' w₂'' hw'' => ?_
    refine Shadowed.bind_blind (eng.openInstance_blind _ _ _ _) hw'' fun _ e₃ w₁₃ w₂₃ hw₃ => ?_
    exact shadowed_finish eng strict _ (ih _ e₃ w₁₃ w₂₃ hw₃)

/-! ## The drive -/

/-- Drives whose walks end alike end alike: what follows the walk never reads
the token. -/
theorem drive_alike (d : FlowDefinition) (e : Execution) (resume : Option Resume) {w₁ w₂ : World}
    (h : Alike strict (execIn (eng.runBlock S₁ e.rootId d.nodes "" none resume) e w₁)
      (execIn (eng.runBlock S₂ e.rootId d.nodes "" none resume) e w₂)) :
    Alike strict ((eng.drive S₁ d e resume).run.run w₁) ((eng.drive S₂ d e resume).run.run w₂) := by
  unfold drive
  refine Alike.bind h fun p => ?_
  obtain ⟨outcome, e'⟩ := p
  dsimp only
  split
  · exact eng.suspend_blind _ _ _ _
  refine Run.Blind.bind (fun w b => eng.finishInstance_blind _ _ e' w b) fun q => ?_
  obtain ⟨⟨⟩, e''⟩ := q
  dsimp only
  -- Whatever is logged about the report, it is then recorded and given back.
  split <;> exact Run.Blind.bind (Run.log_blind _ _ _) fun _ =>
    Run.Blind.bind (eng.record_blind _) fun _ => Run.Blind.pure _

theorem runBlock_grows {step : StepRunner} (hstep : StepRunner.Grows step) (e₀ : Execution)
    (id : String) (nodes : List FlowNode) (base : String) (entry : Option StepOutput)
    (resume : Option Resume) : Keeps e₀.Grows (eng.runBlock step id nodes base entry resume) :=
  (walk_maintains eng step (I := fun e _ => e₀.Grows e) (fun _ _ _ h _ => h)
    (fun id node path previous e w h => (hstep id node path previous e w).mono fun _ _ _ h' => h.trans h'.1)
    (fun id output e w h => (completePausedStep_grows eng id output e w).mono fun _ _ _ h' => h.trans h')
    (fun parentId id branchType iteration e w h =>
      (openInstance_spec eng parentId id branchType iteration e w).mono fun _ _ _ ⟨_, _, hs⟩ =>
        h.trans (Execution.Grows.of_spawn hs))
    (fun id outcome e w h => (finishInstance_grows eng id outcome e w).mono fun _ _ _ h' => h.trans h')).1
      id nodes base entry resume

/-- A drive whose walk stops cancelled reports the execution cancelled, with
the records the walk left. -/
theorem drive_reports_cancelled (d : FlowDefinition) {e e₁ : Execution} (hg : e.Grown)
    (hgrows : e.Grows e₁) (resume : Option Resume) {w w₁ : World}
    (hrun : execIn (eng.runBlock S₁ e.rootId d.nodes "" none resume) e w = (.ok (.cancelled, e₁), w₁)) :
    ∃ R w', (eng.drive S₁ d e resume).run.run w = (.ok R, w') ∧ R.status = .cancelled ∧
      R.execution.stepRecords = e₁.stepRecords := by
  have hwalk : Run.Ensures ((eng.runBlock S₁ e.rootId d.nodes "" none resume).run e) w
      fun p w' => p = (.cancelled, e₁) ∧ w' = w₁ := by
    intro p w' h
    have h' : ((.ok p, w') : Except FlowError (Outcome × Execution) × World) =
        (.ok (.cancelled, e₁), w₁) := h.symm.trans hrun
    simp only [Prod.mk.injEq, Except.ok.injEq] at h'
    exact h'
  have hwalkT : Run.Throws ((eng.runBlock S₁ e.rootId d.nodes "" none resume).run e) w
      fun _ _ => False := by
    intro err w' h
    have h' : ((.error err, w') : Except FlowError (Outcome × Execution) × World) =
        (.ok (.cancelled, e₁), w₁) := h.symm.trans hrun
    simp at h'
  refine Run.Ensures.exists_ok ?_ ?_
  · unfold drive
    refine Run.Throws.bind hwalkT (hwalk.mono fun p w' hp => ?_)
    obtain ⟨rfl, rfl⟩ := hp
    dsimp only
    refine Run.Throws.after (Tame.run (finishInstance_tame eng _ _) e₁) fun q w₂ => ?_
    obtain ⟨⟨⟩, e₂⟩ := q
    dsimp only
    split <;> exact Run.Throws.bind Run.Throws.modify fun _ _ _ =>
      Run.Throws.after (record_tame eng _) fun _ _ => Run.Throws.pure _
  · unfold drive
    refine Run.Ensures.next hwalk fun p w' hp => ?_
    obtain ⟨rfl, rfl⟩ := hp
    dsimp only
    refine Run.Ensures.next (Ensures.run (finishInstance_spec eng e.rootId .cancelled e₁ _))
      fun q w₂ h₂ => ?_
    obtain ⟨⟨⟩, e₂⟩ := q
    obtain ⟨t, rfl⟩ := h₂
    obtain ⟨R₀, hR₀, -, -⟩ := (hg.grows hgrows).linked.root
    rw [hgrows.rootId_eq] at hR₀
    have hstatus : (ExecutionReport.ofExecution d.name (e₁.finish e.rootId .cancelled none
        (some (FlowError.cancelled.toFailure none (some e.rootId))) t) none).status = .cancelled := by
      rw [ExecutionReport.ofExecution, Execution.root?, Execution.finish, Execution.modify_rootId,
        hgrows.rootId_eq, Execution.get?_modify, if_pos rfl, hR₀]
      · rfl
      · exact fun _ => rfl
    dsimp only
    split <;> exact Run.Ensures.after fun _ _ => Run.Ensures.after fun _ _ =>
      Run.Ensures.pure ⟨hstatus, Execution.stepRecords_finish _ _ _ _ _ _⟩

/-- A drive whose walk keeps the settled records of `e₀` reports them. -/
theorem drive_keeps (d : FlowDefinition) (e : Execution) (resume : Option Resume) {e₀ : Execution}
    {w : World} (h : Ensures (eng.runBlock S₂ e.rootId d.nodes "" none resume) e w
      fun _ e' _ => e₀.KeptIn e') :
    Run.Ensures (eng.drive S₂ d e resume) w fun R _ => e₀.KeptIn R.execution := by
  unfold drive
  refine Run.Ensures.next (Ensures.run h) fun p w₁ h₁ => ?_
  obtain ⟨outcome, e₁⟩ := p
  dsimp only at h₁ ⊢
  split
  · refine (suspend_report eng d e₁ _ _ w₁).mono fun R _ hR => ?_
    obtain ⟨ticket, rfl⟩ := hR
    intro r hr hp
    rw [ExecutionReport.execution_ofExecution, Execution.stepRecords_markAll]
    exact h₁ r hr hp
  · refine Run.Ensures.next (Ensures.run (finishInstance_stepRecords eng e.rootId outcome e₁ w₁))
      fun q w₂ h₂ => ?_
    obtain ⟨⟨⟩, e₂⟩ := q
    dsimp only at h₂ ⊢
    split <;> exact Run.Ensures.after fun _ _ => Run.Ensures.after fun _ _ =>
      Run.Ensures.pure fun r hr hp => h₂ ▸ h₁ r hr hp

end Engine

/-! ## Cancellation between nodes -/

/-- The step runner `step`, with the token taken back after every step: the
drive in which no step asks for cancellation. -/
def StepRunner.uncancelling (step : StepRunner) : StepRunner := fun id node path previous => do
  let outcome ← step id node path previous
  liftM (modify (fun w => { w with cancelled := false }) : Run PUnit)
  pure outcome

namespace Engine

variable (eng : Engine)

theorem uncancelling_alike (step : StepRunner) (id : String) (node : FlowNode) (path : String)
    (previous : Option StepOutput) (e : Execution) (w : World) :
    Alike false (execIn (step id node path previous) e w)
      (execIn (step.uncancelling id node path previous) e w) := by
  unfold StepRunner.uncancelling
  rw [execIn_bind]
  rcases execIn (step id node path previous) e w with ⟨x | ⟨o, e'⟩, w'⟩
  · exact ⟨rfl, World.Shadows.refl false w'⟩
  · exact ⟨rfl, rfl, fun h => (Bool.false_ne_true h).elim, fun h => (Bool.false_ne_true h).elim⟩

theorem uncancelling_keeps {step : StepRunner}
    (h : ∀ id node path previous (e₀ : Execution), Keeps e₀.KeptIn (step id node path previous))
    (id : String) (node : FlowNode) (path : String) (previous : Option StepOutput) (e₀ : Execution) :
    Keeps e₀.KeptIn (step.uncancelling id node path previous) :=
  Keeps.bind (h id node path previous e₀) fun _ => Keeps.bind (Keeps.lift _) fun _ => Keeps.pure _

/-- Once the token is cancelled no step runs: a runner that agrees with the
engine's wherever the token is not cancelled drives exactly as the engine's. -/
theorem drive_eq_of_live (S : StepRunner)
    (hS : ∀ id node path previous e w, w.cancelled = false →
      execIn (S id node path previous) e w = execIn (eng.runStep id node path previous) e w)
    (d : FlowDefinition) (e : Execution) (resume : Option Resume) (w : World) :
    (eng.drive S d e resume).run.run w = (eng.drive eng.runStep d e resume).run.run w := by
  have hwalk := (walk_shadowed eng S eng.runStep true
    (fun id node path previous e' w' hl => by
      rw [hS id node path previous e' w' hl]
      exact ⟨rfl, World.Shadows.refl true _⟩)
    (runStep_keeps eng)).1 e.rootId d.nodes "" none resume e w w (World.Shadows.refl true w)
  rcases hwalk with halike | ⟨hs, -⟩
  · obtain ⟨hres, hw⟩ := drive_alike eng S eng.runStep true d e resume halike
    exact Prod.ext hres hw.eq_of_strict.symm
  · cases hs

/-- Against the drive in which no step cancels, from the token not cancelled:
the drive goes exactly as that one, but for the token, or reports the
execution cancelled, every settled record of its report one of the other's. -/
theorem drive_alike_or_cancelled (d : FlowDefinition) {e : Execution} (hg : e.Grown)
    (resume : Option Resume) (w : World) :
    ((eng.drive eng.runStep d e resume).run.run w).1 =
        ((eng.drive eng.runStep.uncancelling d e resume).run.run { w with cancelled := false }).1 ∧
      { ((eng.drive eng.runStep d e resume).run.run w).2 with cancelled := false } =
        { ((eng.drive eng.runStep.uncancelling d e resume).run.run
          { w with cancelled := false }).2 with cancelled := false } ∨
    ∃ R w', (eng.drive eng.runStep d e resume).run.run w = (.ok R, w') ∧ R.status = .cancelled ∧
      Run.Ensures (eng.drive eng.runStep.uncancelling d e resume) { w with cancelled := false }
        fun R' _ => ∀ r ∈ R.steps, r.status ≠ .paused → r ∈ R'.steps := by
  have hw : World.Shadows false w { w with cancelled := false } :=
    ⟨rfl, fun h => (Bool.false_ne_true h).elim, fun h => (Bool.false_ne_true h).elim⟩
  have hwalk := (walk_shadowed eng eng.runStep eng.runStep.uncancelling false
    (fun id node path previous e' w' _ => uncancelling_alike eng.runStep id node path previous e' w')
    (uncancelling_keeps (runStep_keeps eng))).1 e.rootId d.nodes "" none resume e w _ hw
  rcases hwalk with halike | ⟨-, e₁, w₁, hrun, hU⟩
  · left
    obtain ⟨hres, hw'⟩ := drive_alike eng _ _ false d e resume halike
    refine ⟨hres, ?_⟩
    rw [hw'.rest]
  · right
    have hgrows := runBlock_grows eng (runStep_grows eng) e e.rootId d.nodes "" none resume e w
      (.refl e) _ _ _ hrun
    obtain ⟨R, w', hR, hstatus, hrec⟩ := drive_reports_cancelled eng eng.runStep d hg hgrows resume hrun
    refine ⟨R, w', hR, hstatus, (drive_keeps eng _ d e resume hU).mono fun R' _ hk r hr hp => ?_⟩
    rw [ExecutionReport.mem_steps] at hr ⊢
    rw [hrec] at hr
    exact hk r hr hp

/-- How a drive honours the cancellation token: only between nodes. -/
structure CancelsBetweenNodes (d : FlowDefinition) (e : Execution) (resume : Option Resume)
    (w : World) : Prop where
  /-- Once the token is cancelled no step runs: a runner that agrees with the
  engine's wherever the token is not cancelled drives exactly as the
  engine's. -/
  noStepOnceCancelled : ∀ S : StepRunner, (∀ id node path previous e' w', w'.cancelled = false →
      execIn (S id node path previous) e' w' = execIn (eng.runStep id node path previous) e' w') →
    (eng.drive S d e resume).run.run w = (eng.drive eng.runStep d e resume).run.run w
  /-- Against the drive in which no step cancels, from the token not
  cancelled, the drive goes exactly as that one but for the token, or it
  reports the execution cancelled, every settled record of its report one the
  other reports. -/
  alikeOrCancelled :
    ((eng.drive eng.runStep d e resume).run.run w).1 =
        ((eng.drive eng.runStep.uncancelling d e resume).run.run { w with cancelled := false }).1 ∧
      { ((eng.drive eng.runStep d e resume).run.run w).2 with cancelled := false } =
        { ((eng.drive eng.runStep.uncancelling d e resume).run.run
          { w with cancelled := false }).2 with cancelled := false } ∨
    ∃ R w', (eng.drive eng.runStep d e resume).run.run w = (.ok R, w') ∧ R.status = .cancelled ∧
      Run.Ensures (eng.drive eng.runStep.uncancelling d e resume) { w with cancelled := false }
        fun R' _ => ∀ r ∈ R.steps, r.status ≠ .paused → r ∈ R'.steps

/-- Every drive of a grown execution, fresh or along a cursor, from any
world, honours cancellation only between nodes. -/
theorem cancellation_only_between_nodes (d : FlowDefinition) {e : Execution} (hg : e.Grown)
    (resume : Option Resume) (w : World) : eng.CancelsBetweenNodes d e resume w :=
  ⟨fun S hS => drive_eq_of_live eng S hS d e resume w, drive_alike_or_cancelled eng d hg resume w⟩

/-- A flow of one step, driven from a world whose token is already cancelled. -/
theorem cancelled_world_cancels_between_nodes :
    (Execution.create "r" .null (Timestamp.ofNanos 0)).Grown ∧
      ({ registry := {} } : Engine).CancelsBetweenNodes ⟨"wait", [.step "approve"], none⟩
        (Execution.create "r" .null (Timestamp.ofNanos 0)) none { cancelled := true } :=
  ⟨.create _ _ _, cancellation_only_between_nodes _ _ (.create _ _ _) _ _⟩

end Engine

end Flowline
