import Flowline.Proofs.Cancellation
set_option autoImplicit false

/-!
# A loop runs round by round

A loop node runs rounds. In each round its controller's block decides, and
the loop follows the decision:

* `exit` ends the loop with the controller's output;
* any edge but `continue` and `exit` fails the loop with `unhandledEdge`;
* `continue` at or past the limit fails it with `iterationLimitExceeded`;
* below the limit, `continue` runs the actions in an iteration instance and
  goes on to the next round.

A controller or actions block that suspends, fails or is cancelled stops the
loop with that outcome, under a frame of the round if it suspended. A fresh
round that finds the run cancelled stops the loop too, before its controller.
A resume re-enters a round in its controller or in its actions; re-entered in
its actions, the round does not consult the controller again.

`LoopSite.Rounds` is that description as a relation: a round stops the loop
(`RoundStop`), fails (`RoundThrows`) or hands on to the next one
(`RoundNext`). `LoopSite.rounds_run` says that every run of the loop's rounds,
from any round, state and world, is one of its derivations. Along a derivation,
`Rounds.begun_add_le` bounds the rounds that run their controller afresh by
one more than the limit, over all the runs and resumes of the loop, and
`Rounds.suspended` says where a suspended loop can be entered again.
-/

namespace Flowline

/-- The edge an optional output went through, `""` when there is none. -/
def edgeOf (o : Option StepOutput) : String := (o.map StepOutput.edge).getD ""

/-- The outcome a loop stops with when one of its blocks stopped with `o` in
round `iteration`, handed `out`: a suspension adds the loop's frame. -/
def Outcome.withLoopFrame (loopId : String) (iteration : Nat) (out : Option StepOutput)
    (phase : LoopPhase) : Outcome → Outcome
  | .suspended frames pause => .suspended (frames ++ [.loop loopId iteration out phase]) pause
  | o => o

/-- A loop at work: its instance, its controller and actions, and where in the
definition they sit. -/
structure LoopSite where
  loopId : String
  controller : FlowNode
  actions : List FlowNode
  controllerBase : String
  actionsBase : String
  path : String

/-- Whether a round runs its controller's block: unless the resume re-enters
the round's actions, or a fresh round finds the run cancelled. -/
def ControllerRuns (pending : Option (LoopPhase × Resume)) (w : World) : Prop :=
  (actionsResume? pending).isNone ∧ (pending.isNone → w.cancelled = false)

/-- One for a round that runs its controller's block afresh, none for a round
the resume re-enters or that finds the run cancelled. -/
def afresh (pending : Option (LoopPhase × Resume)) (w : World) : Nat :=
  if pending.isNone && !w.cancelled then 1 else 0

/-- The rounds a loop has begun when it enters round `iteration` where
`pending` says: every round before it, and this one too when a resume
re-enters it. -/
def begun (iteration : Nat) (pending : Option (LoopPhase × Resume)) : Nat :=
  if pending.isNone then iteration else iteration + 1

/-- Where a loop with limit `limit` may be entered: at a round up to the
limit, and in a round's actions only below it. -/
def Admits (limit iteration : Nat) (pending : Option (LoopPhase × Resume)) : Prop :=
  iteration ≤ limit ∧ ((actionsResume? pending).isSome → iteration < limit)

theorem begun_add_afresh_le (iteration : Nat) (pending : Option (LoopPhase × Resume)) (w : World) :
    begun iteration pending + afresh pending w ≤ iteration + 1 := by
  unfold begun afresh
  cases pending <;> cases w.cancelled <;> simp

theorem ControllerRuns.begun_add_afresh {pending : Option (LoopPhase × Resume)} {w : World}
    (h : ControllerRuns pending w) (iteration : Nat) :
    begun iteration pending + afresh pending w = iteration + 1 := by
  unfold begun afresh
  cases pending with
  | none => simp [h.2 rfl]
  | some p => simp

theorem Outcome.withLoopFrame_eq_suspended {o : Outcome} {loopId : String}
    {iteration : Nat} {out : Option StepOutput} {phase : LoopPhase} {frames : List Frame}
    {pause : PendingPause}
    (h : o.withLoopFrame loopId iteration out phase = .suspended frames pause) :
    ∃ fs, o = .suspended fs pause ∧ frames = fs ++ [.loop loopId iteration out phase] := by
  cases o with
  | suspended fs p =>
    simp only [Outcome.withLoopFrame, Outcome.suspended.injEq] at h
    exact ⟨fs, by rw [h.2], h.1.symm⟩
  | _ => simp [Outcome.withLoopFrame] at h

namespace LoopSite

variable (eng : Engine) (step : StepRunner) (l : LoopSite)

/-- The loop's rounds from round `iteration` on, as the walk runs them. -/
def rounds (iteration : Nat) (out : Option StepOutput) (pending : Option (LoopPhase × Resume)) :
    Drive Outcome :=
  eng.loopRound step l.loopId l.controller l.actions l.controllerBase l.actionsBase l.path
    iteration out pending

/-- A run of the controller's block in the loop's instance, handed `out`. -/
def control (out : Option StepOutput) (resume : Option Resume) : Drive Outcome :=
  eng.runBlock step l.loopId [l.controller] l.controllerBase out resume

/-- A run of the actions of round `iteration` in a child of the loop's instance,
handed the controller's output. -/
def act (iteration : Nat) (out : Option StepOutput) (resume : Option Resume) : Drive Outcome := do
  Run.debug .engine s!"Loop {l.loopId} iteration {iteration}"
  eng.runChild step l.loopId s!"{l.loopId}-iter-{iteration}" .loopActions (some iteration)
    l.actions l.actionsBase out resume

/-- The failure of a loop whose controller asked for one iteration more than
the limit. -/
def limitFailure : Failure :=
  (FlowError.iterationLimitExceeded eng.config.maxIterations).toFailure (some l.path)
    (some l.loopId)

/-- The failure of a loop whose controller went through an edge it does not
know. -/
def strayFailure (edge : String) : Failure :=
  (FlowError.unhandledEdge edge).toFailure (some l.controllerBase) (some l.loopId)

/-- What round `iteration` decided: its controller's block ran and ended with
`out'`, or the resume re-enters the round's actions with the output `out` the
controller gave before. -/
inductive Decided : Nat → Option StepOutput → Option (LoopPhase × Resume) → Execution → World →
    Option StepOutput → Execution → World → Prop where
  | ran {iteration : Nat} {out out' : Option StepOutput} {pending : Option (LoopPhase × Resume)}
      {e e' : Execution} {w w' : World} :
      ControllerRuns pending w →
      execIn (l.control eng step out (controllerResume? pending)) e w = (.ok (.done out', e'), w') →
      Decided iteration out pending e w out' e' w'
  | reentered {iteration : Nat} {out : Option StepOutput} {pending : Option (LoopPhase × Resume)}
      {e : Execution} {w : World} :
      (actionsResume? pending).isSome → Decided iteration out pending e w out e w

/-- Round `iteration` goes on to its actions with the controller's output
`out'`: the decision went through `continue`, below the limit unless the
resume re-enters the actions. -/
def Continues (iteration : Nat) (out : Option StepOutput) (pending : Option (LoopPhase × Resume))
    (e : Execution) (w : World) (out' : Option StepOutput) (e' : Execution) (w' : World) : Prop :=
  l.Decided eng step iteration out pending e w out' e' w' ∧ edgeOf out' = "continue" ∧
    ((actionsResume? pending).isSome ∨ iteration < eng.config.maxIterations)

/-- How round `iteration` stops the loop with outcome `o`. -/
inductive RoundStop : Nat → Option StepOutput → Option (LoopPhase × Resume) → Execution → World →
    Outcome → Execution → World → Prop where
  /-- A fresh round finds the run cancelled. -/
  | cancelled {iteration : Nat} {out : Option StepOutput} {e : Execution} {w w' : World} :
      w.cancelled = true →
      execIn (liftM (Run.info .engine s!"Loop {l.loopId} cancelled before iteration {iteration}") :
        Drive Unit) e w = (.ok (⟨⟩, e), w') →
      RoundStop iteration out none e w .cancelled e w'
  /-- The controller's block suspends, fails or is cancelled. -/
  | controller {iteration : Nat} {out : Option StepOutput} {pending : Option (LoopPhase × Resume)}
      {e e' : Execution} {w w' : World} {o : Outcome} :
      ControllerRuns pending w →
      execIn (l.control eng step out (controllerResume? pending)) e w = (.ok (o, e'), w') →
      (∀ d, o ≠ .done d) →
      RoundStop iteration out pending e w (o.withLoopFrame l.loopId iteration out .controller) e' w'
  /-- The controller exits. -/
  | exit {iteration : Nat} {out out' : Option StepOutput} {pending : Option (LoopPhase × Resume)}
      {e e' : Execution} {w w' : World} :
      l.Decided eng step iteration out pending e w out' e' w' → edgeOf out' = "exit" →
      RoundStop iteration out pending e w (.done out') e' w'
  /-- The controller went through an edge the loop does not know. -/
  | stray {iteration : Nat} {out decision : Option StepOutput}
      {pending : Option (LoopPhase × Resume)} {e e' : Execution} {w w' w'' : World} :
      l.Decided eng step iteration out pending e w decision e' w' → edgeOf decision ≠ "continue" →
      edgeOf decision ≠ "exit" →
      execIn (liftM (Run.error .engine
        s!"Loop controller at {l.controllerBase} returned edge '{edgeOf decision}'") : Drive Unit)
        e' w' = (.ok (⟨⟩, e'), w'') →
      RoundStop iteration out pending e w (.failed (l.strayFailure (edgeOf decision))) e' w''
  /-- The controller asked to go on at the limit. -/
  | limit {iteration : Nat} {out out' : Option StepOutput} {pending : Option (LoopPhase × Resume)}
      {e e' : Execution} {w w' : World} :
      l.Decided eng step iteration out pending e w out' e' w' → edgeOf out' = "continue" →
      (actionsResume? pending).isNone → eng.config.maxIterations ≤ iteration →
      RoundStop iteration out pending e w (.failed (l.limitFailure eng)) e' w'
  /-- The round's actions suspend, fail or are cancelled. -/
  | actions {iteration : Nat} {out out' : Option StepOutput} {pending : Option (LoopPhase × Resume)}
      {e e₁ e' : Execution} {w w₁ w' : World} {o : Outcome} :
      l.Continues eng step iteration out pending e w out' e₁ w₁ → l.actions ≠ [] →
      execIn (l.act eng step iteration out' (actionsResume? pending)) e₁ w₁ = (.ok (o, e'), w') →
      (∀ d, o ≠ .done d) →
      RoundStop iteration out pending e w (o.withLoopFrame l.loopId iteration out' .actions) e' w'

/-- How round `iteration` hands the controller's output `out'` on to the next
round: its actions, if any, ran to the end. -/
inductive RoundNext : Nat → Option StepOutput → Option (LoopPhase × Resume) → Execution → World →
    Option StepOutput → Execution → World → Prop where
  | empty {iteration : Nat} {out out' : Option StepOutput} {pending : Option (LoopPhase × Resume)}
      {e e' : Execution} {w w' : World} :
      l.Continues eng step iteration out pending e w out' e' w' → l.actions = [] →
      RoundNext iteration out pending e w out' e' w'
  | done {iteration : Nat} {out out' : Option StepOutput} {pending : Option (LoopPhase × Resume)}
      {e e₁ e' : Execution} {w w₁ w' : World} {last : Option StepOutput} :
      l.Continues eng step iteration out pending e w out' e₁ w₁ → l.actions ≠ [] →
      execIn (l.act eng step iteration out' (actionsResume? pending)) e₁ w₁ =
        (.ok (.done last, e'), w') →
      RoundNext iteration out pending e w out' e' w'

/-- How round `iteration` fails: one of its blocks fails. -/
inductive RoundThrows : Nat → Option StepOutput → Option (LoopPhase × Resume) → Execution → World →
    FlowError → World → Prop where
  | controller {iteration : Nat} {out : Option StepOutput} {pending : Option (LoopPhase × Resume)}
      {e : Execution} {w w' : World} {x : FlowError} :
      ControllerRuns pending w →
      execIn (l.control eng step out (controllerResume? pending)) e w = (.error x, w') →
      RoundThrows iteration out pending e w x w'
  | actions {iteration : Nat} {out out' : Option StepOutput} {pending : Option (LoopPhase × Resume)}
      {e e₁ : Execution} {w w₁ w' : World} {x : FlowError} :
      l.Continues eng step iteration out pending e w out' e₁ w₁ → l.actions ≠ [] →
      execIn (l.act eng step iteration out' (actionsResume? pending)) e₁ w₁ = (.error x, w') →
      RoundThrows iteration out pending e w x w'

/-- The rounds of a loop from round `iteration` on, entered with the
controller's last output `out` and re-entering where `pending` says: round
after round until one stops the loop or fails. `calls` counts the rounds that
ran the controller's block afresh. -/
inductive Rounds : Nat → Option StepOutput → Option (LoopPhase × Resume) → Execution → World →
    Except FlowError (Outcome × Execution) × World → Nat → Prop where
  | stop {iteration : Nat} {out : Option StepOutput} {pending : Option (LoopPhase × Resume)}
      {e e' : Execution} {w w' : World} {o : Outcome} :
      l.RoundStop eng step iteration out pending e w o e' w' →
      Rounds iteration out pending e w (.ok (o, e'), w') (afresh pending w)
  | throw {iteration : Nat} {out : Option StepOutput} {pending : Option (LoopPhase × Resume)}
      {e : Execution} {w w' : World} {x : FlowError} :
      l.RoundThrows eng step iteration out pending e w x w' →
      Rounds iteration out pending e w (.error x, w') (afresh pending w)
  | next {iteration : Nat} {out out' : Option StepOutput} {pending : Option (LoopPhase × Resume)}
      {e e' : Execution} {w w' : World} {r : Except FlowError (Outcome × Execution) × World}
      {calls : Nat} :
      l.RoundNext eng step iteration out pending e w out' e' w' →
      Rounds (succ64 iteration) out' none e' w' r calls →
      Rounds iteration out pending e w r (afresh pending w + calls)

/-! ## Every run of a loop's rounds is a derivation -/

theorem act_bind {β : Type} (iteration : Nat) (out : Option StepOutput) (resume : Option Resume)
    (g : Outcome → Drive β) :
    (do Run.debug .engine s!"Loop {l.loopId} iteration {iteration}"
        let o ← eng.runChild step l.loopId s!"{l.loopId}-iter-{iteration}" .loopActions
          (some iteration) l.actions l.actionsBase out resume
        g o) = l.act eng step iteration out resume >>= g := by
  rw [act, bind_assoc]

/-- Following round `iteration`'s decision is a derivation of `Rounds` once the
rounds after it are. -/
theorem follow_rounds {iteration : Nat} {out out' : Option StepOutput}
    {pending : Option (LoopPhase × Resume)} {e e₁ : Execution} {w w₁ : World}
    (hdec : l.Decided eng step iteration out pending e w out' e₁ w₁)
    (ih : ((actionsResume? pending).isSome ∨ iteration < eng.config.maxIterations) →
      ∀ e' w', ∃ calls, l.Rounds eng step (succ64 iteration) out' none e' w'
        (execIn (l.rounds eng step (succ64 iteration) out' none) e' w') calls) :
    ∃ calls, l.Rounds eng step iteration out pending e w
      (execIn (eng.loopFollow step l.loopId l.controller l.actions l.controllerBase l.actionsBase
        l.path iteration pending (.inr out')) e₁ w₁) calls := by
  rw [Engine.loopFollow]
  by_cases hc : edgeOf out' = "continue"
  · rw [if_pos (by simpa [edgeOf] using hc)]
    by_cases hl : ((actionsResume? pending).isNone && decide (iteration ≥ eng.config.maxIterations)) = true
    · rw [dif_pos hl]
      simp only [Bool.and_eq_true, decide_eq_true_eq] at hl
      exact ⟨_, .stop (.limit hdec hc hl.1 hl.2)⟩
    · rw [dif_neg hl]
      have hlim : (actionsResume? pending).isSome ∨ iteration < eng.config.maxIterations := by
        cases h : actionsResume? pending <;> simp_all
      have hcont : l.Continues eng step iteration out pending e w out' e₁ w₁ := ⟨hdec, hc, hlim⟩
      by_cases he : l.actions = []
      · obtain ⟨n, hn⟩ := ih hlim e₁ w₁
        rw [if_pos (by simp [he])]
        exact ⟨_, .next (.empty hcont he) hn⟩
      · rw [if_neg (by simpa using he), act_bind, execIn_bind]
        rcases hact : execIn (l.act eng step iteration out' (actionsResume? pending)) e₁ w₁ with
          ⟨x | ⟨o, e'⟩, w'⟩
        · exact ⟨_, .throw (.actions hcont he hact)⟩
        · cases o with
          | done last =>
            obtain ⟨n, hn⟩ := ih hlim e' w'
            exact ⟨_, .next (.done hcont he hact) hn⟩
          | suspended frames pause =>
            exact ⟨_, .stop (.actions hcont he hact (by simp))⟩
          | failed f => exact ⟨_, .stop (.actions hcont he hact (by simp))⟩
          | cancelled => exact ⟨_, .stop (.actions hcont he hact (by simp))⟩
  · rw [if_neg (by simpa [edgeOf] using hc)]
    by_cases hx : edgeOf out' = "exit"
    · rw [if_pos (by simpa [edgeOf] using hx)]
      exact ⟨_, .stop (.exit hdec hx)⟩
    · rw [if_neg (by simpa [edgeOf] using hx), execIn_bind]
      exact ⟨_, .stop (.stray hdec hc hx rfl)⟩

/-- Every run of a loop's rounds, from any round, state and world, is a
derivation of `Rounds`. -/
theorem rounds_run (iteration : Nat) (out : Option StepOutput)
    (pending : Option (LoopPhase × Resume)) (e : Execution) (w : World) :
    ∃ calls, l.Rounds eng step iteration out pending e w
      (execIn (l.rounds eng step iteration out pending) e w) calls := by
  induction hk : loopWeight eng.config.maxIterations iteration pending using Nat.strong_induction_on
    generalizing iteration out pending e w with
  | _ k ih =>
  have hnext : ∀ out', ((actionsResume? pending).isSome ∨ iteration < eng.config.maxIterations) →
      ∀ e' w', ∃ calls, l.Rounds eng step (succ64 iteration) out' none e' w'
        (execIn (l.rounds eng step (succ64 iteration) out' none) e' w') calls := by
    intro out' hlim e' w'
    refine ih _ ?_ (succ64 iteration) out' none e' w' rfl
    rw [← hk]
    exact Engine.loopWeight_next eng.config.maxIterations_lt
      (by cases h : actionsResume? pending <;> simp_all)
  rw [rounds, Engine.loopRound, Engine.check_run]
  by_cases hA : (actionsResume? pending).isSome = true
  · rw [if_pos hA]
    exact follow_rounds eng step l (.reentered hA) (hnext out)
  rw [if_neg hA]
  by_cases hB : ((controllerResume? pending).isNone && w.cancelled) = true
  · rw [if_pos hB]
    have hp : pending = none := by
      cases pending with
      | none => rfl
      | some p => obtain ⟨phase, r⟩ := p; cases phase <;> simp_all [actionsResume?, controllerResume?]
    subst hp
    simp only [pure_bind, Engine.loopFollow_inl, execIn_bind]
    exact ⟨_, .stop (.cancelled (by simpa [controllerResume?] using hB) rfl)⟩
  rw [if_neg hB]
  have hruns : ControllerRuns pending w := by
    refine ⟨by simpa using hA, ?_⟩
    rintro hp
    simp only [Option.isNone_iff_eq_none] at hp
    subst hp
    simpa [controllerResume?] using hB
  rw [← control, execIn_bind]
  rcases hctl : execIn (l.control eng step out (controllerResume? pending)) e w with
    ⟨x | ⟨o, e'⟩, w'⟩
  · exact ⟨_, .throw (.controller hruns hctl)⟩
  · cases o with
    | done d => exact follow_rounds eng step l (.ran hruns hctl) (hnext d)
    | suspended frames pause =>
      simp only [pure_bind, Engine.loopFollow_inl]
      exact ⟨_, .stop (.controller hruns hctl (by simp))⟩
    | failed f =>
      simp only [pure_bind, Engine.loopFollow_inl]
      exact ⟨_, .stop (.controller hruns hctl (by simp))⟩
    | cancelled =>
      simp only [pure_bind, Engine.loopFollow_inl]
      exact ⟨_, .stop (.controller hruns hctl (by simp))⟩

end LoopSite

/-! ## Counting the rounds -/

namespace LoopSite

variable {eng : Engine} {step : StepRunner} {l : LoopSite}

theorem Decided.begun_add_afresh {iteration : Nat} {out out' : Option StepOutput}
    {pending : Option (LoopPhase × Resume)} {e e' : Execution} {w w' : World}
    (h : l.Decided eng step iteration out pending e w out' e' w') :
    begun iteration pending + afresh pending w = iteration + 1 := by
  cases h with
  | ran hruns _ => exact hruns.begun_add_afresh iteration
  | reentered hs =>
    cases pending with
    | none => cases hs
    | some p => simp [begun, afresh]

theorem Continues.below {iteration : Nat} {out out' : Option StepOutput}
    {pending : Option (LoopPhase × Resume)} {e e' : Execution} {w w' : World}
    (h : l.Continues eng step iteration out pending e w out' e' w')
    (hadm : Admits eng.config.maxIterations iteration pending) :
    iteration < eng.config.maxIterations := by
  rcases h.2.2 with hs | hlt
  · exact hadm.2 hs
  · exact hlt

/-- Below the limit, the next round's count does not wrap. -/
theorem succ64_below {iteration : Nat} (h : iteration < eng.config.maxIterations) :
    succ64 iteration = iteration + 1 :=
  succ64_of_lt (by have := eng.config.maxIterations_lt; omega)

theorem RoundNext.below {iteration : Nat} {out out' : Option StepOutput}
    {pending : Option (LoopPhase × Resume)} {e e' : Execution} {w w' : World}
    (h : l.RoundNext eng step iteration out pending e w out' e' w')
    (hadm : Admits eng.config.maxIterations iteration pending) :
    iteration < eng.config.maxIterations := by
  cases h with
  | empty hc _ => exact hc.below hadm
  | done hc _ _ => exact hc.below hadm

theorem RoundNext.decided {iteration : Nat} {out out' : Option StepOutput}
    {pending : Option (LoopPhase × Resume)} {e e' : Execution} {w w' : World}
    (h : l.RoundNext eng step iteration out pending e w out' e' w') :
    begun iteration pending + afresh pending w = iteration + 1 := by
  cases h with
  | empty hc _ => exact hc.1.begun_add_afresh
  | done hc _ _ => exact hc.1.begun_add_afresh

/-- However a loop goes on, it begins at most one round more than its limit:
the controller's block runs afresh at most `limit + 1` times over all the
runs and resumes of a loop entered where it admits. -/
theorem Rounds.begun_add_le {iteration : Nat} {out : Option StepOutput}
    {pending : Option (LoopPhase × Resume)} {e : Execution} {w : World}
    {r : Except FlowError (Outcome × Execution) × World} {calls : Nat}
    (h : l.Rounds eng step iteration out pending e w r calls)
    (hadm : Admits eng.config.maxIterations iteration pending) :
    begun iteration pending + calls ≤ eng.config.maxIterations + 1 := by
  induction h with
  | @stop iteration out pending e e' w w' o _ =>
    have := begun_add_afresh_le iteration pending w
    have := hadm.1
    omega
  | @throw iteration out pending e w w' x _ =>
    have := begun_add_afresh_le iteration pending w
    have := hadm.1
    omega
  | @next iteration out out' pending e e' w w' r calls hn _ ih =>
    have hlt := hn.below hadm
    have hsucc := succ64_below hlt
    have hnext := ih ⟨by omega, fun h => by cases h⟩
    have := hn.decided
    simp only [begun, Option.isNone_none, if_true, hsucc] at hnext
    omega

/-- A loop suspends in one of its rounds, under a frame of that round and
phase, where it admits being entered again and has begun the rounds it will
have begun when entered there. -/
theorem Rounds.suspended {iteration : Nat} {out : Option StepOutput}
    {pending : Option (LoopPhase × Resume)} {e : Execution} {w : World}
    {r : Except FlowError (Outcome × Execution) × World} {calls : Nat}
    (h : l.Rounds eng step iteration out pending e w r calls)
    (hadm : Admits eng.config.maxIterations iteration pending)
    {frames : List Frame} {pause : PendingPause} {e' : Execution} {w' : World}
    (hr : r = (.ok (.suspended frames pause, e'), w')) :
    ∃ j out' phase fs, frames = fs ++ [.loop l.loopId j out' phase] ∧
      ∀ ρ, Admits eng.config.maxIterations j (some (phase, ρ)) ∧
        begun iteration pending + calls = begun j (some (phase, ρ)) := by
  induction h with
  | @stop iteration out pending e e₁ w w₁ o hs =>
    simp only [Prod.mk.injEq, Except.ok.injEq] at hr
    obtain ⟨⟨ho, -⟩, -⟩ := hr
    cases hs with
    | cancelled => cases ho
    | controller hruns _ _ =>
      obtain ⟨fs, -, rfl⟩ := Outcome.withLoopFrame_eq_suspended ho
      refine ⟨_, _, _, fs, rfl, fun ρ => ⟨⟨hadm.1, fun h => by cases h⟩, ?_⟩⟩
      rw [hruns.begun_add_afresh]
      rfl
    | exit => cases ho
    | stray => cases ho
    | limit => cases ho
    | actions hc _ _ _ =>
      obtain ⟨fs, -, rfl⟩ := Outcome.withLoopFrame_eq_suspended ho
      refine ⟨_, _, _, fs, rfl, fun ρ => ⟨⟨hadm.1, fun _ => hc.below hadm⟩, ?_⟩⟩
      rw [hc.1.begun_add_afresh]
      rfl
  | throw => cases hr
  | @next iteration out out' pending e e₁ w w₁ r calls hn _ ih =>
    have hlt := hn.below hadm
    have hsucc := succ64_below hlt
    obtain ⟨j, out'', phase, fs, hfs, hj⟩ := ih ⟨by omega, fun h => by cases h⟩ hr
    refine ⟨j, out'', phase, fs, hfs, fun ρ => ⟨(hj ρ).1, ?_⟩⟩
    have := (hj ρ).2
    have := hn.decided
    simp only [begun, Option.isNone_none, if_true, hsucc] at *
    omega

end LoopSite

end Flowline
