import Mathlib
import Flowline.Proofs.Walk
set_option autoImplicit false

/-!
# The loop controller's index

A loop controller works out the index it runs next from the output it was
handed (`nextIndex`): one past the `index` of a `continue` output, and `0`
for anything else. Indices are 64-bit words, so the index after the largest
word is `0` again.

The output a controller is handed is whatever ran before it, not only its own
earlier pass. Its own passes hand on an index below the loop's bound
(`controlLoop_continue`), and a bound that is a 64-bit word leaves room for
one more, so along a chain of its own passes the indices count up by exactly
one (`continue_indices_count_up`). Another step may hand it the largest word
as an index, and then it starts again from `0`
(`largest_index_successor_wraps`).
-/

namespace Flowline

/-- The index a `continue` output hands on: its `index` when it went through
`continue` and the index is a natural number. -/
def StepOutput.continueIndex? (o : StepOutput) : Option Nat :=
  if o.edge = "continue" then (o.value.field? "index").bind Value.nat? else none

/-- The number of rounds a controller allows: its `maxIterations` when that
is a natural number, else the default. -/
def loopBound (params : Fields) : Nat :=
  ((param? params "maxIterations").bind Value.nat?).getD defaultMaxIterations

/-- The next index is one past the handed-on index, as a 64-bit word. -/
theorem nextIndex_eq (prev : Option StepOutput) :
    nextIndex prev =
      ((prev.bind StepOutput.continueIndex?).map fun i => (i + 1) % Nat.pow 2 64).getD 0 := by
  rcases prev with _ | o
  · rfl
  · unfold nextIndex StepOutput.continueIndex?
    by_cases he : o.edge = "continue"
    · simp only [he, beq_self_eq_true, if_true, Option.bind_some]
      cases (o.value.field? "index").bind Value.nat? <;> rfl
    · have hne : (o.edge == "continue") = false := beq_false_of_ne he
      simp only [hne, Bool.false_eq_true, if_false, he, Option.bind_some]
      rfl

/-- With nothing handed on, a controller starts from `0`. -/
theorem nextIndex_of_none {prev : Option StepOutput} (h : prev.bind StepOutput.continueIndex? = none) :
    nextIndex prev = 0 := by
  rw [nextIndex_eq, h]
  rfl

/-- Below the largest word, the next index is exactly one past the one
handed on. -/
theorem nextIndex_of_below {prev : Option StepOutput} {i : Nat}
    (h : prev.bind StepOutput.continueIndex? = some i) (hi : i + 1 < Nat.pow 2 64) :
    nextIndex prev = i + 1 := by
  rw [nextIndex_eq, h]
  exact Nat.mod_eq_of_lt hi

/-- Among 64-bit indices, the next one is `0` exactly after the largest. -/
theorem nextIndex_eq_zero_iff {prev : Option StepOutput} {i : Nat}
    (h : prev.bind StepOutput.continueIndex? = some i) (hi : i < Nat.pow 2 64) :
    nextIndex prev = 0 ↔ i = Nat.pow 2 64 - 1 := by
  rw [nextIndex_eq, h]
  change (i + 1) % Nat.pow 2 64 = 0 ↔ _
  have hpos : 0 < Nat.pow 2 64 := Nat.two_pow_pos 64
  constructor
  · intro hz
    rcases Nat.lt_or_ge (i + 1) (Nat.pow 2 64) with hlt | hge
    · rw [Nat.mod_eq_of_lt hlt] at hz
      omega
    · omega
  · intro hmax
    rw [hmax, Nat.sub_add_cancel hpos, Nat.mod_self]

/-- The output a controller's continuing pass is read back as. -/
theorem continueIndex_make (n : Nat) (it : Value) :
    (StepOutput.make "continue" (Value.object [("index", .ofNat n), ("item", it)])).continueIndex? =
      some n := by
  rfl

/-- Sequencing where nothing is asked of the first computation's result. -/
theorem Ensures.next_of_forall {σ α β : Type} {s : σ} {w : World} {Q : β → σ → World → Prop}
    {m : StateT σ Run α} {f : α → StateT σ Run β} (hf : ∀ a s' w', Ensures (f a) s' w' Q) :
    Ensures (m >>= f) s w Q :=
  Ensures.next (R := fun _ _ _ => True) (fun _ _ _ _ => trivial) fun a s' w' _ => hf a s' w'

/-- A controller pass that continues hands on the index it worked out from
its previous output, below its bound, together with its item. -/
theorem controlLoop_continue (ctx : StepContext) (params : Fields) (s : StepScope) (w : World) :
    Ensures (controlLoop ctx params) s w fun r _ _ => ∀ v, r = .ok (.exit "continue" v) →
      nextIndex ctx.previous < loopBound params ∧
      ∃ it, v = Value.object [("index", .ofNat (nextIndex ctx.previous)), ("item", it)] := by
  unfold controlLoop
  dsimp only
  split
  · -- At the bound no item is looked for, and the pass exits.
    refine Ensures.bind (Ensures.pure ?_)
    exact Ensures.next_of_forall fun _ _ _ => Ensures.pure fun v h => by simp at h
  · rename_i hlt
    have hbelow : nextIndex ctx.previous < loopBound params := by
      unfold loopBound
      omega
    -- Below the bound each mode looks for an item its own way (a `while`
    -- loop reads its condition first); what it finds is not needed.
    repeat' split
    all_goals repeat refine Ensures.next_of_forall fun item _ _ => ?_
    all_goals rcases item with e | _ | it
    -- Each path runs on to its result: a failed lookup and the end of the
    -- loop are no `continue`, and an item continues with the index.
    all_goals
      repeat refine Ensures.next_of_forall fun _ _ _ => ?_
      refine Ensures.pure fun v h => ?_
      simp only [reduceCtorEq, Except.ok.injEq, StepOutcome.exit.injEq, String.reduceEq, false_and,
        true_and] at h
    all_goals exact ⟨hbelow, it, h.symm⟩

/-- Along a chain of a controller's own passes the indices count up by
exactly one: when a pass continues with some index and the next pass is
handed that output, the next pass continues, if it does, with the index one
higher. The first bound is a 64-bit word, as a `maxIterations` is, so the
index handed on is below the largest word. -/
theorem continue_indices_count_up {ctx₁ ctx₂ : StepContext} {params₁ params₂ : Fields}
    {s₁ s₁' s₂ s₂' : StepScope} {w₁ w₁' w₂ w₂' : World} {v₁ v₂ : Value}
    (hfit : loopBound params₁ < Nat.pow 2 64)
    (h₁ : execIn (controlLoop ctx₁ params₁) s₁ w₁ = (.ok (.ok (.exit "continue" v₁), s₁'), w₁'))
    (hprev : ctx₂.previous = some (StepOutput.make "continue" v₁))
    (h₂ : execIn (controlLoop ctx₂ params₂) s₂ w₂ = (.ok (.ok (.exit "continue" v₂), s₂'), w₂')) :
    ∃ j it₁ it₂, j < loopBound params₁ ∧ j + 1 < loopBound params₂ ∧
      v₁ = Value.object [("index", .ofNat j), ("item", it₁)] ∧
      v₂ = Value.object [("index", .ofNat (j + 1)), ("item", it₂)] := by
  obtain ⟨hb₁, it₁, hv₁⟩ := controlLoop_continue ctx₁ params₁ s₁ w₁ _ _ _ h₁ v₁ rfl
  obtain ⟨hb₂, it₂, hv₂⟩ := controlLoop_continue ctx₂ params₂ s₂ w₂ _ _ _ h₂ v₂ rfl
  -- The second pass reads back the first one's index and adds one.
  have hnext : nextIndex ctx₂.previous = nextIndex ctx₁.previous + 1 := by
    rw [hprev, hv₁]
    exact nextIndex_of_below (continueIndex_make _ it₁) (by omega)
  rw [hnext] at hb₂ hv₂
  exact ⟨_, it₁, it₂, hb₁, hb₂, hv₁, hv₂⟩

/-- Two count passes from the start: indices `0` and `1`. -/
theorem count_passes_from_start :
    ∃ (s₁' s₂' : StepScope) (w₁' w₂' : World) (v₂ : Value),
      loopBound [] < Nat.pow 2 64 ∧
      execIn (controlLoop ⟨"e", "r", "0", "loop", none⟩ []) { execution := Execution.ofInstances "r" [] } {} =
        (.ok (.ok (.exit "continue" (Value.object [("index", .ofNat 0), ("item", .ofNat 0)])), s₁'),
          w₁') ∧
      execIn (controlLoop ⟨"e", "r", "0", "loop", some (StepOutput.make "continue"
          (Value.object [("index", .ofNat 0), ("item", .ofNat 0)]))⟩ [])
          { execution := Execution.ofInstances "r" [] } {} = (.ok (.ok (.exit "continue" v₂), s₂'), w₂') ∧
      ∃ j it₁ it₂, j < loopBound [] ∧ j + 1 < loopBound [] ∧
        Value.object [("index", .ofNat 0), ("item", .ofNat 0)] =
          Value.object [("index", .ofNat j), ("item", it₁)] ∧
        v₂ = Value.object [("index", .ofNat (j + 1)), ("item", it₂)] := by
  have hfit : loopBound [] < Nat.pow 2 64 := by decide
  refine ⟨?s₁, ?s₂, ?w₁, ?w₂, ?v₂, hfit, ?h₁, ?h₂, continue_indices_count_up hfit ?h₁ rfl ?h₂⟩
  case h₁ => rfl
  case h₂ => rfl

/-- Handed the largest 64-bit index by another step, a controller does not
run out of rounds: it starts again from `0`. -/
theorem largest_index_successor_wraps :
    ∃ (s' : StepScope) (w' : World),
      execIn (controlLoop ⟨"e", "r", "1", "loop", some (StepOutput.make "continue"
          (Value.object [("index", .ofNat (Nat.pow 2 64 - 1))]))⟩ [("maxIterations", .ofNat 3)])
          { execution := Execution.ofInstances "r" [] } {} =
        (.ok (.ok (.exit "continue" (Value.object [("index", .ofNat 0), ("item", .ofNat 0)])), s'),
          w') :=
  ⟨_, _, rfl⟩

end Flowline
