import Flowline.Proofs.Tickets
set_option autoImplicit false

/-!
# Tampered cursors

A resume trusts the cursor its ticket holds and checks it only as it goes down
it, frame by frame. Whatever cursor a ticket holds, the walk fails only for a
corrupt cursor (`Engine.walk_failsCorrupt`): every frame it cannot follow is
refused with that error, a step whose instance the cursor invented cannot add
its record, and a loop whose instance the cursor invented cannot open the next
round. So a resume from memory fails only for a ticket it does not hold, or
for its cursor, having claimed the ticket and left every other slot as it was
(`Engine.resume_refused`). A cursor that designates the paused step, as the
engine's own cursors do, resumes into a report that settles its statuses and
keeps its records in order (`Engine.designated_resume_settles`).
`tampered_cursors_are_refused_or_settle` puts the two together.

Refusing is not the only thing a bad cursor can lead to. A block frame whose
index lies past the end of its block ends the block at once, and the frames
nested under it are never read: a resume along such a cursor skips the step
that suspended and completes with its record still paused. A block frame at
the largest 64-bit position wraps to the block's first node, which runs again
(`tampered_cursors_skip_or_repeat_the_paused_step`).
-/

namespace Flowline

/-- `m` fails, from any state in any world, only for a corrupt cursor. -/
def FailsCorrupt {σ α : Type} (m : StateT σ Run α) : Prop :=
  ∀ s w, Throws m s w fun err _ => err.code = .corruptCursor

namespace FailsCorrupt

variable {σ α β : Type}

theorem pure (a : α) : FailsCorrupt (pure a : StateT σ Run α) :=
  fun _ _ => Throws.pure a

theorem throw {x : FlowError} (h : x.code = .corruptCursor) :
    FailsCorrupt (throw x : StateT σ Run α) :=
  fun _ _ => Throws.throw h

theorem bind {m : StateT σ Run α} {f : α → StateT σ Run β} (hm : FailsCorrupt m)
    (hf : ∀ a, FailsCorrupt (f a)) : FailsCorrupt (m >>= f) :=
  fun s w => Throws.seq (hm s w) fun a s' w' => hf a s' w'

theorem of_tame {m : StateT σ Run α} (h : Tame m) : FailsCorrupt m :=
  fun _ _ => Throws.of_tame h

theorem lift {r : Run α} (h : Run.Tame r) : FailsCorrupt (liftM r : StateT σ Run α) :=
  of_tame (Tame.lift h)

theorem ite {c : Prop} [Decidable c] {m₁ m₂ : StateT σ Run α} (h₁ : FailsCorrupt m₁)
    (h₂ : FailsCorrupt m₂) : FailsCorrupt (if c then m₁ else m₂) := by
  split
  · exact h₁
  · exact h₂

/-- A computation that reads its state first fails as what follows does from
that state. -/
theorem get_bind {f : σ → StateT σ Run β}
    (h : ∀ s w, Throws (f s) s w fun err _ => err.code = .corruptCursor) :
    FailsCorrupt (get >>= f) :=
  fun s w => Throws.bind Throws.get (Ensures.get (h s w))

end FailsCorrupt

namespace Engine

variable (eng : Engine)

/-! ## The primitives that can fail -/

theorem runStep_failsCorrupt (id : String) (node : FlowNode) (path : String)
    (previous : Option StepOutput) : FailsCorrupt (eng.runStep id node path previous) :=
  fun e w => (runStep_throws eng id node path previous e w).mono fun _ _ h => h.2

theorem completePausedStep_failsCorrupt (id : String) (output : StepOutput) :
    FailsCorrupt (eng.completePausedStep id output) :=
  fun e w => (completePausedStep_throws eng id output e w).mono fun _ _ h => h.2

/-- Opening an instance under the identifier `Execution.freshId` picks fails
only for a missing parent, that is for a corrupt cursor. -/
theorem openInstance_fresh_throws (parentId candidate : String) (branchType : BranchType)
    (iteration : Option Nat) (e : Execution) (w : World) :
    Throws (eng.openInstance parentId (e.freshId candidate) branchType iteration) e w
      fun err _ => err.code = .corruptCursor := by
  refine (openInstance_throws eng _ _ _ _ e w).mono fun _ _ h => ?_
  rcases h with ⟨-, hcode⟩ | ⟨htaken, -⟩
  · exact hcode
  · rw [Execution.has_freshId] at htaken
    cases htaken

/-! ## The walk along any cursor -/

variable (step : StepRunner)

/-- Along any cursor, the walk fails only for a corrupt cursor, once its step
runner does. -/
theorem walk_failsCorrupt
    (hstep : ∀ id node path previous, FailsCorrupt (step id node path previous)) :
    (∀ id nodes base entry resume, FailsCorrupt (eng.runBlock step id nodes base entry resume)) ∧
    (∀ id nodes base index previous nested,
      FailsCorrupt (eng.blockFrom step id nodes base index previous nested)) ∧
    (∀ id node index path previous resuming,
      FailsCorrupt (eng.runNode step id node index path previous resuming)) ∧
    (∀ parentId index path parts resume,
      FailsCorrupt (eng.runLoop step parentId index path parts resume)) ∧
    (∀ loopId controller actions controllerBase actionsBase path iteration controllerOutput pending,
      FailsCorrupt (eng.loopRound step loopId controller actions controllerBase actionsBase path
        iteration controllerOutput pending)) ∧
    (∀ loopId controller actions controllerBase actionsBase path iteration pending decided,
      FailsCorrupt (eng.loopFollow step loopId controller actions controllerBase actionsBase path
        iteration pending decided)) ∧
    (∀ parentId candidate branchType iteration nodes base entry resume,
      FailsCorrupt (eng.runChild step parentId candidate branchType iteration nodes base entry
        resume)) := by
  -- Finishing the instance a block ran in never fails.
  have finish : ∀ {id : String} {m : Drive Outcome}, FailsCorrupt m →
      FailsCorrupt (m >>= fun o => eng.finishInstance id o >>= fun _ => Pure.pure o) := fun h =>
    FailsCorrupt.bind h fun _ =>
      FailsCorrupt.bind (FailsCorrupt.of_tame (finishInstance_tame eng _ _)) fun _ =>
        FailsCorrupt.pure _
  apply Engine.runBlock.mutual_induct eng step
    (fun id nodes base entry resume => FailsCorrupt (eng.runBlock step id nodes base entry resume))
    (fun id nodes base index previous nested =>
      FailsCorrupt (eng.blockFrom step id nodes base index previous nested))
    (fun id node index path previous resuming =>
      FailsCorrupt (eng.runNode step id node index path previous resuming))
    (fun parentId index path parts resume =>
      FailsCorrupt (eng.runLoop step parentId index path parts resume))
    (fun loopId controller actions controllerBase actionsBase path iteration controllerOutput
      pending => FailsCorrupt (eng.loopRound step loopId controller actions controllerBase
        actionsBase path iteration controllerOutput pending))
    (fun loopId controller actions controllerBase actionsBase path iteration pending decided =>
      FailsCorrupt (eng.loopFollow step loopId controller actions controllerBase actionsBase path
        iteration pending decided))
    (fun parentId candidate branchType iteration nodes base entry resume =>
      FailsCorrupt (eng.runChild step parentId candidate branchType iteration nodes base entry
        resume))
  -- `runBlock`: fresh, on a cursor, or on a frame it does not expect.
  · intro id nodes base entry ih
    rw [Engine.runBlock]
    exact ih
  · intro id nodes base entry r hr
    rw [Engine.runBlock, hr]
    exact FailsCorrupt.throw rfl
  · intro id nodes base entry r frameId index before rest hr hid hempty ih
    rw [Engine.runBlock, hr]
    simp only [hid, hempty, if_true]
    exact FailsCorrupt.bind (completePausedStep_failsCorrupt eng id r.value) fun _ => ih
  · intro id nodes base entry r frameId index before rest hr hid hempty ih
    rw [Engine.runBlock, hr]
    simp only [hid, hempty, if_true]
    exact ih
  · intro id nodes base entry r frameId index before rest hr hid
    rw [Engine.runBlock, hr]
    simp only [hid]
    exact FailsCorrupt.throw rfl
  · intro id nodes base entry r other tail hother hr
    rw [Engine.runBlock_not_block hother hr]
    exact FailsCorrupt.throw rfl
  -- `blockFrom`: past the last node, or at a node and on from there.
  · intro id nodes base index previous nested hnone
    rw [Engine.blockFrom_past hnone]
    exact FailsCorrupt.pure _
  · intro id nodes base index previous nested node hnode path ihNode ihDone ihAbsorb
    rw [Engine.blockFrom]
    split
    · rename_i h
      rw [hnode] at h
      cases h
    rename_i node' h
    rw [hnode] at h
    cases h
    refine FailsCorrupt.bind (FailsCorrupt.lift Run.isCancelled_tame) fun cancelled => ?_
    refine FailsCorrupt.ite (FailsCorrupt.bind (FailsCorrupt.lift (Run.info_tame _ _)) fun _ => FailsCorrupt.pure _) ?_
    refine FailsCorrupt.bind ihNode fun o => ?_
    split
    · exact ihDone _
    · exact FailsCorrupt.pure _
    · exact FailsCorrupt.ite (FailsCorrupt.bind (FailsCorrupt.lift (Run.warn_tame _ _)) fun _ => ihAbsorb _)
        (FailsCorrupt.pure _)
    · exact FailsCorrupt.pure _
  -- `runNode`: a step, a sub-flow, a loop or a branch.
  · intro id index path previous resuming stepId h
    rw [Engine.runNode, if_pos h]
    exact FailsCorrupt.throw rfl
  · intro id index path previous resuming stepId h
    rw [Engine.runNode, if_neg h]
    exact hstep _ _ _ _
  · intro id index path previous resuming stepId params h
    rw [Engine.runNode, if_pos h]
    exact FailsCorrupt.throw rfl
  · intro id index path previous resuming stepId params h
    rw [Engine.runNode, if_neg h]
    exact hstep _ _ _ _
  · intro id index path previous resuming children ih
    rw [Engine.runNode]
    exact ih
  · intro id index path previous resuming parts ih
    rw [Engine.runNode]
    exact ih
  · intro id index path previous resuming arms edge arm target hfound ih
    rw [Engine.runNode_branch_found rfl hfound]
    exact ih
  · intro id index path previous resuming arms edge hnone
    rw [Engine.runNode_branch_none rfl hnone]
    exact FailsCorrupt.bind (FailsCorrupt.lift (Run.error_tame _ _)) fun _ => FailsCorrupt.pure _
  -- `runLoop`: without a controller, on a cursor, or fresh.
  · intro parentId index path resume
    rw [Engine.runLoop]
    exact FailsCorrupt.pure _
  · intro parentId index path controller actions r hr
    rw [Engine.runLoop, hr]
    exact FailsCorrupt.throw rfl
  · intro parentId index path controller actions controllerBase actionsBase r loopId iteration output
      phase rest hr ih
    rw [Engine.runLoop, hr]
    exact finish ih
  · intro parentId index path controller actions r other tail hother hr
    rw [Engine.runLoop_not_loop hother hr]
    exact FailsCorrupt.throw rfl
  · intro parentId index path controller actions controllerBase actionsBase ih
    rw [Engine.runLoop]
    refine FailsCorrupt.get_bind fun e w => ?_
    split
    · exact Throws.pure _
    refine Throws.bind Throws.get (Ensures.get ?_)
    refine Throws.bind (openInstance_fresh_throws eng _ _ _ _ e w) fun _ e₁ w₁ _ => ?_
    exact finish (ih _) e₁ w₁
  -- `loopRound`: the controller decides, the loop follows.
  · intro loopId controller actions controllerBase actionsBase path iteration controllerOutput
      pending ihFollow ihCtrl
    rw [Engine.loopRound]
    refine FailsCorrupt.bind (FailsCorrupt.lift Run.isCancelled_tame) fun cancelled => ?_
    dsimp only
    refine FailsCorrupt.ite (ihFollow _) (FailsCorrupt.ite ?_ ?_)
    · exact FailsCorrupt.bind (FailsCorrupt.lift (Run.info_tame _ _)) fun _ => ihFollow _
    · refine FailsCorrupt.bind ihCtrl fun o => ?_
      split <;> exact ihFollow _
  -- `loopFollow`: an outcome, the iteration limit, the actions, `exit`, another edge.
  · intro loopId controller actions controllerBase actionsBase path iteration pending outcome
    rw [Engine.loopFollow]
    exact FailsCorrupt.pure _
  · intro loopId controller actions controllerBase actionsBase path iteration pending
      controllerOutput edge hcont hlimit
    rw [Engine.loopFollow, if_pos hcont, dif_pos hlimit]
    exact FailsCorrupt.pure _
  · intro loopId controller actions controllerBase actionsBase path iteration pending
      controllerOutput edge hcont hlimit hempty ih
    rw [Engine.loopFollow, if_pos hcont, dif_neg hlimit]
    dsimp only
    rw [if_pos hempty]
    exact ih
  · intro loopId controller actions controllerBase actionsBase path iteration pending
      controllerOutput edge hcont hlimit hempty ihNext ihChild
    rw [Engine.loopFollow, if_pos hcont, dif_neg hlimit]
    dsimp only
    rw [if_neg hempty]
    refine FailsCorrupt.bind (FailsCorrupt.lift (Run.debug_tame _ _)) fun _ =>
      FailsCorrupt.bind ihChild fun o => ?_
    split
    · exact ihNext
    · exact FailsCorrupt.pure _
    · exact FailsCorrupt.pure _
  · intro loopId controller actions controllerBase actionsBase path iteration pending
      controllerOutput edge hcont hexit
    rw [Engine.loopFollow, if_neg hcont, if_pos hexit]
    exact FailsCorrupt.pure _
  · intro loopId controller actions controllerBase actionsBase path iteration pending
      controllerOutput edge hcont hexit
    rw [Engine.loopFollow, if_neg hcont, if_neg hexit]
    exact FailsCorrupt.bind (FailsCorrupt.lift (Run.error_tame _ _)) fun _ => FailsCorrupt.pure _
  -- `runChild`: on a cursor, or fresh.
  · intro parentId candidate branchType iteration nodes base entry r hr
    rw [Engine.runChild, hr]
    exact FailsCorrupt.throw rfl
  · intro parentId candidate branchType iteration nodes base entry r frame tail hr ih
    rw [Engine.runChild, hr]
    exact finish ih
  · intro parentId candidate branchType iteration nodes base entry ih
    rw [Engine.runChild]
    refine FailsCorrupt.get_bind fun e w => ?_
    split
    · exact Throws.pure _
    refine Throws.bind Throws.get (Ensures.get ?_)
    refine Throws.bind (openInstance_fresh_throws eng _ _ _ _ e w) fun _ e₁ w₁ _ => ?_
    exact finish (ih _) e₁ w₁

/-! ## Resuming along any cursor -/

/-- Driving the walk along any cursor fails, in memory, only for a corrupt
cursor, with the pause store as it found it: a suspension saves its ticket
there without fail. -/
theorem drive_failsCorrupt (d : FlowDefinition) (e : Execution) (resume : Option Resume)
    {w : World} {slots : List (String × Option PausedExecution)} (hstore : w.store = .memory slots) :
    Run.Throws (eng.drive eng.runStep d e resume) w fun err w' =>
      err.code = .corruptCursor ∧ w'.store = w.store := by
  have hwalk := ((walk_failsCorrupt eng eng.runStep (runStep_failsCorrupt eng)).1 e.rootId d.nodes ""
    none resume e w).and ((walk_keepsStore eng eng.runStep (runStep_keepsStore eng)).1 e.rootId
      d.nodes "" none resume e w).1
  refine (drive_throws_of_walk eng d hwalk).mono fun _ _ h => ?_
  rcases h with h | ⟨-, dir, hdir⟩
  · exact h
  · rw [hstore] at hdir
    cases hdir

/-- A resume from memory, whatever tickets the store holds and whatever
cursors they carry, fails only for a ticket the store does not hold, changing
nothing, or for a corrupt cursor, with the ticket claimed and every other slot
as it was. -/
theorem resume_refused (pauseId : String) (value : Value) {w : World}
    {slots : List (String × Option PausedExecution)} (hstore : w.store = .memory slots) :
    Run.Throws (eng.resume pauseId value) w fun err w' =>
      ((err = .unknownPauseId pauseId ∨ err = .alreadyResumed pauseId) ∧ w' = w) ∨
        (err.code = .corruptCursor ∧
          ∃ p rest, takeSlot slots pauseId = .ok (p, rest) ∧ w'.store = .memory rest) := by
  unfold resume
  refine Run.Throws.bind ((Run.claimTicket_throws hstore pauseId).mono fun _ _ h => .inl h) ?_
  refine (Run.claimTicket_takes hstore pauseId).mono fun p w₁ ⟨rest, htake, h₁⟩ => ?_
  refine Run.Throws.bind (Run.Throws.of_tame (Run.info_tame _ _))
    ((Run.info_tame _ _ w₁).2.mono fun _ w₂ h₂ => ?_)
  -- Marking the cursor's instances running publishes events and keeps the store.
  have hmark : Run.Tame (ForIn.forIn p.cursor.instanceIds p.execution fun id e =>
      (emitFor eng (e.modify id fun i => { i with status := .running }) id .flowResumed
        (Value.object [("pauseId", .str p.ticket.pauseId)]) none >>= fun _ =>
        Pure.pure (ForInStep.yield (e.modify id fun i => { i with status := .running })))) :=
    Run.Tame.forIn _ _ fun _ _ => Run.Tame.bind (emitFor_tame eng _ _ _ _ _) fun _ => Run.Tame.pure _
  refine Run.Throws.bind (Run.Throws.of_tame hmark) ((hmark w₂).2.mono fun e w₃ h₃ => ?_)
  have hs₃ : w₃.store = .memory rest := h₃.trans (h₂.trans h₁)
  exact (drive_failsCorrupt eng _ e _ hs₃).mono fun _ _ ⟨hcode, hs⟩ =>
    .inr ⟨hcode, p, rest, htake, hs.trans hs₃⟩

end Engine

/-! ## Resuming along a cursor that designates the paused step -/

/-- A ticket put in place of another under the same identifier leaves every
other slot of the store as it was. -/
theorem mem_putSlot_swap {slots : List (String × Option PausedExecution)} {p q r : PausedExecution}
    (hkey : q.ticket.pauseId = p.ticket.pauseId) {k : String} (h : (k, some r) ∈ putSlot slots q) :
    r = q ∨ (k, some r) ∈ putSlot slots p := by
  unfold putSlot at h ⊢
  rw [hkey] at h
  by_cases hany : slots.any (·.1 == p.ticket.pauseId) = true
  · rw [if_pos hany] at h ⊢
    obtain ⟨⟨k', s⟩, hmem, hk⟩ := List.mem_map.1 h
    by_cases hk' : (k' == p.ticket.pauseId) = true
    · simp only [hk', if_true, Prod.mk.injEq, Option.some.injEq] at hk
      exact .inl hk.2.symm
    · simp only [hk', Bool.false_eq_true, if_false] at hk
      refine .inr (List.mem_map.2 ⟨(k', s), hmem, ?_⟩)
      simp only [hk', Bool.false_eq_true, if_false]
      exact hk
  · rw [if_neg hany] at h ⊢
    rcases List.mem_append.1 h with hm | hm
    · exact .inr (List.mem_append_left _ hm)
    · simp only [List.mem_singleton, Prod.mk.injEq, Option.some.injEq] at hm
      exact .inl hm.2

namespace Engine

variable {eng : Engine}

/-- Along a session from a settled world, the ticket a report hands out sits
in the store. Put back with a cursor that designates its paused step (the
cursor starts at the root's block, goes down instance by instance, fits the
definition's nodes and ends at the paused record, and its instances are the
paused lineage), the ticket resumes into a report that settles its statuses
and keeps its records in order. -/
theorem designated_resume_settles {d : FlowDefinition} {init : Value} {w₀ w : World}
    {R : ExecutionReport} {t : PauseTicket} (h₀ : w₀.Settled) (hs : eng.Session d init w₀ w R)
    (ht : R.pause = some t) :
    ∃ slots p, w.store = .memory (putSlot slots p) ∧ p.ticket = t ∧
      ∀ (c : Cursor) (value : Value), ({ p with cursor := c } : PausedExecution).Resumable →
        ({ p with cursor := c } : PausedExecution).Waiting →
        Run.Ensures (eng.resume t.pauseId value)
          { w with store := .memory (putSlot slots { p with cursor := c }) }
          fun R' w' => R'.Settled w'.store ∧ ReportLedger eng.registry R' w' := by
  obtain ⟨hledger, -, hreach⟩ := hs.ledger h₀
  obtain ⟨slots, p, hstore, hticket, hexec, honce, -⟩ := hledger.waiting t ht
  refine ⟨slots, p, hstore, hticket, fun c value hres hwait => ?_⟩
  -- The other tickets are the session's own, which a resume can follow and which wait.
  obtain ⟨slots', hs', hall⟩ := hreach.resumable h₀.1
  rw [hstore] at hs'
  cases hs'
  have hwaits := hreach.waits h₀.1 h₀.2 _ hstore
  have hswap : ∀ k q, (k, some q) ∈ putSlot slots { p with cursor := c } →
      q = { p with cursor := c } ∨ (k, some q) ∈ putSlot slots p :=
    fun _ _ hq => mem_putSlot_swap (p := p) (q := { p with cursor := c }) rfl hq
  have hresumable : World.Resumable { w with store := .memory (putSlot slots { p with cursor := c }) } :=
    ⟨_, rfl, fun k q hq => (hswap k q hq).elim (fun h => h ▸ hres) (hall k q)⟩
  have hwaiting : World.Waits { w with store := .memory (putSlot slots { p with cursor := c }) } := by
    intro slots'' h'' k q hq
    cases h''
    exact (hswap k q hq).elim (fun h => h ▸ hwait) (hwaits k q)
  have hord : RecordsInOrder p.execution w := hexec ▸ hledger.inOrder
  rw [← hexec] at honce
  rw [← hticket]
  exact ((eng.resume_settles _ value hresumable hwaiting).and
    (eng.resume_ledger (p := { p with cursor := c }) value rfl hres.fits hord honce)).mono
    fun _ _ h => ⟨h.1.1, h.2⟩

end Engine

/-- Resumes of tickets whose cursors were replaced. From memory, whatever
cursors the tickets hold, a resume fails only for a ticket the store does not
hold, changing nothing, or for a corrupt cursor, with the ticket claimed and
every other slot as it was. Along a session from a settled world, the ticket a
report hands out, put back with any cursor that designates its paused step,
resumes into a report that settles its statuses (a paused report's ticket
waits in the store, a terminal report has every instance terminal) and keeps
its records numbered in run order, with a paused record only in a paused
report. -/
theorem tampered_cursors_are_refused_or_settle (eng : Engine) :
    (∀ (pauseId : String) (value : Value) (w : World)
        (slots : List (String × Option PausedExecution)), w.store = .memory slots →
      Run.Throws (eng.resume pauseId value) w fun err w' =>
        ((err = .unknownPauseId pauseId ∨ err = .alreadyResumed pauseId) ∧ w' = w) ∨
          (err.code = .corruptCursor ∧
            ∃ p rest, takeSlot slots pauseId = .ok (p, rest) ∧ w'.store = .memory rest)) ∧
    (∀ (d : FlowDefinition) (init : Value) (w₀ w : World) (R : ExecutionReport) (t : PauseTicket),
      w₀.Settled → eng.Session d init w₀ w R → R.pause = some t →
      ∃ slots p, w.store = .memory (putSlot slots p) ∧ p.ticket = t ∧
        ∀ (c : Cursor) (value : Value), ({ p with cursor := c } : PausedExecution).Resumable →
          ({ p with cursor := c } : PausedExecution).Waiting →
          Run.Ensures (eng.resume t.pauseId value)
            { w with store := .memory (putSlot slots { p with cursor := c }) }
            fun R' w' => R'.Settled w'.store ∧ ReportLedger eng.registry R' w') :=
  ⟨fun pauseId value _ _ hstore => eng.resume_refused pauseId value hstore,
    fun _ _ _ _ _ _ h₀ hs ht => Engine.designated_resume_settles h₀ hs ht⟩

/-- A session that asked once and was answered asks again; its ticket, put
back with the cursor the engine saved, designates the paused step, and a
fresh world holds no ticket, so a resume there can only be refused. -/
theorem asked_again_resumes_along_its_own_cursor :
    ∃ w R t, askingEngine.Session askTwiceDefinition .null {} w R ∧ R.pause = some t ∧
      ∃ slots p, w.store = .memory (putSlot slots p) ∧ p.ticket = t ∧
        ({ p with cursor := p.cursor } : PausedExecution).Resumable ∧
        ({ p with cursor := p.cursor } : PausedExecution).Waiting ∧
        Run.Ensures (askingEngine.resume t.pauseId (.str "w"))
          { w with store := .memory (putSlot slots { p with cursor := p.cursor }) }
          fun R' w' => R'.Settled w'.store ∧ ReportLedger askingEngine.registry R' w' := by
  obtain ⟨R₁, w₁, t₁, -, R₂, w₂, t₂, hR₁, ht₁, -, -, hR₂, -, ht₂, -⟩ := askTwice_session
  have hs : askingEngine.Session askTwiceDefinition .null {} w₂ R₂ := .resume (.str "v") (.run hR₁) ht₁ hR₂
  obtain ⟨slots, p, hstore, hticket, hall⟩ :=
    (tampered_cursors_are_refused_or_settle askingEngine).2 _ _ _ _ _ _ World.settled_fresh hs ht₂
  -- The engine's own ticket is one a resume can follow, and it waits.
  have hmem : (p.ticket.pauseId, some p) ∈ putSlot slots p := mem_putSlot_self slots p
  obtain ⟨slots', hs', hres⟩ := (hs.ledger World.settled_fresh).2.2.resumable World.settled_fresh.1
  rw [hstore] at hs'
  cases hs'
  have hp := hres _ p hmem
  have hw := (hs.ledger World.settled_fresh).2.2.waits World.settled_fresh.1 World.settled_fresh.2 _
    hstore _ p hmem
  exact ⟨w₂, R₂, t₂, hs, ht₂, slots, p, hstore, hticket, hp, hw, hall p.cursor (.str "w") hp hw⟩

/-! ## Cursors that skip or repeat the suspended step -/

/-- A flow of that one step. -/
def askingDefinition : FlowDefinition := ⟨"", [.step "ask"], none⟩

/-- Running the flow suspends at its step and saves the ticket. Replacing the
ticket's cursor by one whose first frame points past the end of the root
block, with a nested frame under it, makes the resume skip the nested frame
and the step: the run completes, and the step's record stays paused.
Replacing it by one whose frame stands at the largest 64-bit position makes
the resume wrap to the block's first node: the step, just completed, runs
again and the run suspends once more. -/
theorem tampered_cursors_skip_or_repeat_the_paused_step :
    ∃ (R₁ : ExecutionReport) (w₁ : World) (k : String) (p : PausedExecution),
      (askingEngine.run askingDefinition .null).run.run {} = (.ok R₁, w₁) ∧
      w₁.store = .memory [(k, some p)] ∧
      (∃ (R₂ : ExecutionReport) (w₂ : World),
        (askingEngine.resume k (.str "v")).run.run
          { w₁ with store := .memory [(k, some { p with cursor :=
            ⟨[.block p.execution.rootId 5 none, .block p.execution.rootId 0 none]⟩ })] } =
          (.ok R₂, w₂) ∧
        R₂.status = .completed ∧ ∃ i ∈ R₂.instances, ∃ r ∈ i.steps, r.status = .paused) ∧
      ∃ (R₃ : ExecutionReport) (w₃ : World),
        (askingEngine.resume k (.str "v")).run.run
          { w₁ with store := .memory [(k, some { p with cursor :=
            ⟨[.block p.execution.rootId (Nat.pow 2 64 - 1) none]⟩ })] } = (.ok R₃, w₃) ∧
        R₃.status = .paused ∧ ∃ i ∈ R₃.instances, i.steps.map (·.status) = [.completed, .paused] := by
  -- Each walk function is entered once on each run, so unfolding each once runs them.
  have hrun := Run.exists_ok_of_any (x := (askingEngine.run askingDefinition .null).run.run {})
    (p := fun _ w₁ => w₁.store.only?.any fun kp =>
      (((askingEngine.resume kp.1 (.str "v")).run.run
          { w₁ with store := .memory [(kp.1, some { kp.2 with cursor :=
            ⟨[.block kp.2.execution.rootId 5 none, .block kp.2.execution.rootId 0 none]⟩ })] }).1
        |>.toOption.any fun R => decide (R.status = .completed ∧
          ∃ i ∈ R.instances, ∃ r ∈ i.steps, r.status = .paused)) &&
      (((askingEngine.resume kp.1 (.str "v")).run.run
          { w₁ with store := .memory [(kp.1, some { kp.2 with cursor :=
            ⟨[.block kp.2.execution.rootId (Nat.pow 2 64 - 1) none]⟩ })] }).1
        |>.toOption.any fun R => decide (R.status = .paused ∧
          ∃ i ∈ R.instances, i.steps.map (·.status) = [.completed, .paused]))) (by
    unfold Engine.run Engine.resume Engine.drive Engine.runBlock Engine.blockFrom Engine.runNode
    decide +kernel)
  obtain ⟨R₁, w₁, hR₁, hticket⟩ := hrun
  obtain ⟨⟨k, p⟩, hstore, hresumes⟩ := (Option.any_eq_true _ _).1 hticket
  obtain ⟨hskip, hrepeat⟩ := Bool.and_eq_true_iff.1 hresumes
  dsimp only at hskip hrepeat
  obtain ⟨R₂, w₂, hR₂, hpaused⟩ := Run.exists_ok_of_any (p := fun (R : ExecutionReport) _ =>
    decide (R.status = .completed ∧ ∃ i ∈ R.instances, ∃ r ∈ i.steps, r.status = .paused)) hskip
  obtain ⟨R₃, w₃, hR₃, hagain⟩ := Run.exists_ok_of_any (p := fun (R : ExecutionReport) _ =>
    decide (R.status = .paused ∧ ∃ i ∈ R.instances, i.steps.map (·.status) = [.completed, .paused]))
    hrepeat
  exact ⟨R₁, w₁, k, p, hR₁, PauseStore.eq_of_only? hstore, ⟨R₂, w₂, hR₂, of_decide_eq_true hpaused⟩,
    R₃, w₃, hR₃, of_decide_eq_true hagain⟩

end Flowline
