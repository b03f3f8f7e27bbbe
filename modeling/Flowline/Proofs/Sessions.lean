import Flowline.Proofs.Resumption
import Flowline.Proofs.WrittenForm
set_option autoImplicit false

/-!
# Runs and resumes fail only at validation or at the store

A run fails when its definition does not validate, before anything ran, or
when its ticket cannot be saved; a resume fails when its ticket is unknown or
already claimed. Nothing in between fails: the walk stands in instances that
exist and opens children under free identifiers, and a resume follows a
cursor that the engine itself saved (`Engine.walk_total`).

A ticket the engine saves is `PausedExecution.Resumable`: its execution is
grown, and its cursor starts at the root's block, goes down frame by frame,
fits the definition's nodes and ends at the paused record. A world whose
store is in memory and holds only such tickets is `World.Resumable`, and
every run and every resume, by any engine, keeps it so, whether it succeeds
or fails (`World.Reaches.resumable`).
-/

namespace Flowline

namespace Execution

/-- Changing listed instances in place grows an execution. -/
theorem Grows.foldl_modify {g : FlowInstance → FlowInstance} (hg : KeepsPlace g) :
    ∀ (ids : List String) (e : Execution), e.Grows (ids.foldl (fun e id => e.modify id g) e)
  | [], e => .refl e
  | id :: rest, e => (Grows.of_modify e id hg).trans (Grows.foldl_modify hg rest _)

/-- Changes that keep identifiers and step records keep a paused record. -/
theorem HoldsPaused.foldl_modify {g : FlowInstance → FlowInstance}
    (hg : ∀ i, (g i).id = i.id ∧ (g i).steps = i.steps) :
    ∀ (ids : List String) {e : Execution} {y : String}, e.HoldsPaused y →
      (ids.foldl (fun e id => e.modify id g) e).HoldsPaused y
  | [], _, _, h => h
  | id :: rest, _, _, h => HoldsPaused.foldl_modify hg rest (h.modify id hg)

theorem PausedAt.modify {e : Execution} {fs : List Frame} (h : e.PausedAt fs) (id : String)
    {g : FlowInstance → FlowInstance} (hg : ∀ i, (g i).id = i.id ∧ (g i).steps = i.steps) :
    (e.modify id g).PausedAt fs := by
  obtain ⟨y, hends, hy⟩ := h
  exact ⟨y, hends, hy.modify id hg⟩

end Execution

/-! ## Tickets a resume can follow to the end -/

/-- A paused execution a resume can follow down to its paused step: its
execution is grown, and its cursor starts with a block frame of the root,
goes down frame by frame, fits the definition's nodes and ends at the
instance that holds the paused record. -/
structure PausedExecution.Resumable (p : PausedExecution) : Prop where
  grown : p.execution.Grown
  atop : Frame.Atop p.execution p.execution.rootId p.cursor.frames
  fits : Frame.FitsBlock p.definition.nodes p.cursor.frames
  paused : p.execution.PausedAt p.cursor.frames

/-- A world whose pause store is in memory and holds only tickets a resume
can follow. -/
def World.Resumable (w : World) : Prop :=
  ∃ slots, w.store = .memory slots ∧ ∀ k p, (k, some p) ∈ slots → p.Resumable

/-- A ticket a resume can follow to the end can be followed. -/
theorem PausedExecution.Resumable.honest {p : PausedExecution} (h : p.Resumable) : p.Honest :=
  ⟨h.grown, h.atop.descends⟩

/-- A world of tickets a resume can follow to the end is honest. -/
theorem World.Resumable.honest {w : World} (h : w.Resumable) : w.Honest := by
  obtain ⟨slots, hstore, hall⟩ := h
  exact ⟨slots, hstore, fun k p hk => (hall k p hk).honest⟩

/-- Whether a world is resumable depends on its store alone. -/
theorem World.Resumable.of_store {w w' : World} (h : w.Resumable) (hs : w'.store = w.store) :
    w'.Resumable := by
  obtain ⟨slots, hstore, hall⟩ := h
  exact ⟨slots, hs.trans hstore, hall⟩

/-- A filled slot holds what it held before or the ticket just saved. -/
theorem mem_putSlot {slots : List (String × Option PausedExecution)} {p q : PausedExecution}
    {k : String} (h : (k, some q) ∈ putSlot slots p) : (k, some q) ∈ slots ∨ q = p := by
  unfold putSlot at h
  split at h
  · obtain ⟨⟨k', s⟩, hmem, hk⟩ := List.mem_map.1 h
    dsimp only at hk
    split at hk
    · simp only [Prod.mk.injEq, Option.some.injEq] at hk
      exact .inr hk.2.symm
    · rw [hk] at hmem
      exact .inl hmem
  · rcases List.mem_append.1 h with h | h
    · exact .inl h
    · simp only [List.mem_singleton, Prod.mk.injEq, Option.some.injEq] at h
      exact .inr h.2

/-- Claiming from memory leaves only tickets the store held. -/
theorem mem_of_takeSlot_rest {slots : List (String × Option PausedExecution)} {id : String}
    {p : PausedExecution} {rest : List (String × Option PausedExecution)}
    (h : takeSlot slots id = .ok (p, rest)) {k : String} {q : PausedExecution}
    (hq : (k, some q) ∈ rest) : (k, some q) ∈ slots := by
  unfold takeSlot at h
  split at h
  · cases h
  · cases h
  · cases h
    obtain ⟨⟨k', s⟩, hmem, hk⟩ := List.mem_map.1 hq
    dsimp only at hk
    split at hk
    · simp at hk
    · rw [hk] at hmem
      exact hmem

/-- What a store in memory gives out is the slot of the identifier asked
for. -/
theorem mem_takeSlot {slots : List (String × Option PausedExecution)} {id : String}
    {p : PausedExecution} {rest : List (String × Option PausedExecution)}
    (h : takeSlot slots id = .ok (p, rest)) : (id, some p) ∈ slots := by
  unfold takeSlot at h
  split at h
  · cases h
  · cases h
  · rename_i k p' hfind
    cases h
    have hk : k = id := by simpa using List.find?_some hfind
    rw [← hk]
    exact List.mem_of_find?_eq_some hfind

/-- A loop over a list whose every round keeps `I` of its carried value and
the pause store keeps both. -/
theorem Run.Ensures.forIn_store {γ β : Type} (l : List γ) (init : β)
    {body : γ → β → Run (ForInStep β)} {w : World} (I : β → Prop)
    (h : ∀ x b w, I b → Run.Ensures (body x b) w fun r w' => I r.value ∧ w'.store = w.store)
    (hinit : I init) : Run.Ensures (ForIn.forIn l init body) w fun b w' => I b ∧ w'.store = w.store := by
  induction l generalizing init w with
  | nil => exact Run.Ensures.pure ⟨hinit, rfl⟩
  | cons x rest ih =>
    simp only [List.forIn_cons]
    refine Run.Ensures.next (h x init w hinit) fun r w' ⟨hr, hw'⟩ => ?_
    cases r with
    | done b => exact Run.Ensures.pure ⟨hr, hw'⟩
    | yield b => exact (ih b hr).mono fun _ _ ⟨hb, hs⟩ => ⟨hb, hs.trans hw'⟩

namespace Run

/-- Saving a ticket in memory fills its slot. -/
theorem storeTicket_memory (p : PausedExecution) {w : World}
    {slots : List (String × Option PausedExecution)} (hstore : w.store = .memory slots) :
    Run.Ensures (Run.storeTicket p) w fun _ w' => w'.store = .memory (putSlot slots p) := by
  unfold Run.storeTicket
  refine Run.Ensures.bind (Run.Ensures.get ?_)
  rw [hstore]
  exact Run.Ensures.modify rfl

/-- Claiming a ticket from memory gives the one the store kept under its
identifier and leaves a store in memory holding only tickets it held. -/
theorem claimTicket_memory {w : World} {slots : List (String × Option PausedExecution)}
    (hstore : w.store = .memory slots) (id : String) :
    Run.Ensures (Run.claimTicket id) w fun p w' => (id, some p) ∈ slots ∧
      ∃ rest, w'.store = .memory rest ∧ ∀ k q, (k, some q) ∈ rest → (k, some q) ∈ slots := by
  unfold Run.claimTicket
  refine Run.Ensures.bind (Run.Ensures.get ?_)
  rw [hstore]
  dsimp only
  split
  · rename_i p rest htake
    exact Run.Ensures.bind (Run.Ensures.modify (Run.Ensures.pure
      ⟨mem_takeSlot htake, rest, rfl, fun _ _ hq => mem_of_takeSlot_rest htake hq⟩))
  · exact Run.Ensures.throw

/-- A ticket claimed from a resumable world can be followed, and the world
stays resumable. -/
theorem claimTicket_resumable {w : World} (hw : w.Resumable) (id : String) :
    Run.Ensures (Run.claimTicket id) w fun p w' => p.Resumable ∧ w'.Resumable := by
  obtain ⟨slots, hstore, hall⟩ := hw
  refine (claimTicket_memory hstore id).mono fun p w' ⟨hk, rest, hrest, hsub⟩ => ?_
  exact ⟨hall id p hk, rest, hrest, fun k q hq => hall k q (hsub k q hq)⟩

/-- A run whose answer a test accepts, together with the world it leaves,
answered. -/
theorem exists_ok_of_any {α : Type} {x : Except FlowError α × World} {p : α → World → Bool}
    (h : (x.1.toOption.any fun a => p a x.2) = true) : ∃ a w, x = (.ok a, w) ∧ p a w = true := by
  obtain ⟨a, ha, hp⟩ := Except.exists_ok_of_any h
  exact ⟨a, x.2, Prod.ext ha rfl, hp⟩

end Run

namespace Engine

variable (eng : Engine)

/-! ## Suspending saves a ticket -/

/-- Suspending fails only as saving the ticket does, in a directory. -/
theorem suspend_throws (d : FlowDefinition) (e : Execution) (cursor : Cursor)
    (pause : PendingPause) (w : World) :
    Run.Throws (eng.suspend d e cursor pause) w fun err _ =>
      err.SaveFault ∧ ∃ dir, w.store = .directory dir := by
  unfold suspend
  refine Run.Throws.bind (Run.Throws.of_tame Run.now_tame) ((Run.now_tame w).2.mono
    fun t w₁ h₁ => ?_)
  refine Run.Throws.bind ((Run.storeTicket_throws _ w₁).mono fun err _ ⟨hf, dir, hdir⟩ =>
    ⟨hf, dir, h₁.symm.trans hdir⟩) fun _ _ _ => ?_
  -- What follows the save is tame.
  refine Run.Throws.after (Run.Tame.modify fun _ => rfl) fun _ _ => ?_
  refine Run.Throws.after (Run.Tame.forIn _ _ fun _ _ =>
    Run.Tame.bind (emitFor_tame eng _ _ _ _ _) fun _ => Run.Tame.pure _) fun _ _ => ?_
  exact Run.Throws.after (Run.info_tame _ _) fun _ _ =>
    Run.Throws.after (record_tame eng _) fun _ _ => Run.Throws.pure _

/-- Suspending in memory saves the execution, its instances on the cursor
paused, under a new ticket naming the instance that suspended, and reports
it with that ticket. -/
theorem suspend_saves (d : FlowDefinition) (e : Execution) (cursor : Cursor)
    (pause : PendingPause) {w : World} {slots : List (String × Option PausedExecution)}
    (hstore : w.store = .memory slots) :
    Run.Ensures (eng.suspend d e cursor pause) w fun R w' => ∃ ticket : PauseTicket,
      ticket.instanceId = pause.instanceId ∧
      R = ExecutionReport.ofExecution d.name
        (cursor.instanceIds.foldl (fun e id => e.modify id fun i => { i with status := .paused }) e)
        (some ticket) ∧
      w'.store = .memory (putSlot slots ⟨ticket, pause.resumeEdge, d,
        cursor.instanceIds.foldl (fun e id => e.modify id fun i => { i with status := .paused }) e,
        cursor⟩) := by
  unfold suspend
  refine Run.Ensures.after_tame Run.now_tame fun t w₁ h₁ => ?_
  refine Run.Ensures.bind ((Run.storeTicket_memory _ (h₁.trans hstore)).mono fun _ w₂ h₂ => ?_)
  refine Run.Ensures.after_tame (Run.Tame.modify fun _ => rfl) fun _ w₃ h₃ => ?_
  refine Run.Ensures.after_tame (Run.Tame.forIn _ _ fun _ _ =>
    Run.Tame.bind (emitFor_tame eng _ _ _ _ _) fun _ => Run.Tame.pure _) fun _ w₄ h₄ => ?_
  refine Run.Ensures.after_tame (Run.info_tame _ _) fun _ w₅ h₅ => ?_
  refine Run.Ensures.after_tame (record_tame eng _) fun _ w₆ h₆ => ?_
  exact Run.Ensures.pure ⟨_, rfl, rfl, h₆.trans (h₅.trans (h₄.trans (h₃.trans h₂)))⟩

/-! ## Driving the walk -/

/-- Driving the walk fails only as the walk does, or where saving the ticket
fails, in a directory. -/
theorem drive_throws_of_walk (d : FlowDefinition) {e : Execution} {resume : Option Resume}
    {w : World} {E : FlowError → World → Prop}
    (hwalk : Throws (eng.runBlock eng.runStep e.rootId d.nodes "" none resume) e w E) :
    Run.Throws (eng.drive eng.runStep d e resume) w fun err w' =>
      E err w' ∨ (err.SaveFault ∧ ∃ dir, w.store = .directory dir) := by
  unfold drive
  refine Run.Throws.bind ((Throws.run hwalk).mono fun _ _ h => .inl h) ?_
  refine (Ensures.run ((walk_keepsStore eng eng.runStep (runStep_keepsStore eng)).1 _ _ _ _ _ e
    w).2).mono fun p w₁ h₁ => ?_
  obtain ⟨outcome, e₁⟩ := p
  dsimp only at h₁ ⊢
  split
  · exact (suspend_throws eng _ _ _ _ w₁).mono fun err _ ⟨hf, dir, hdir⟩ =>
      .inr ⟨hf, dir, h₁.symm.trans hdir⟩
  · refine Run.Throws.bind (Throws.run (Throws.of_tame (finishInstance_tame eng _ _)))
      fun _ _ _ => ?_
    -- What is logged and recorded of the report never fails.
    dsimp only
    split <;> exact Run.Throws.after (Run.log_tame _ _ _) fun _ _ =>
      Run.Throws.after (record_tame eng _) fun _ _ => Run.Throws.pure _

/-- Driving the walk from an execution whose root exists, fresh or along a
cursor that fits, fails only where saving the ticket fails, in a
directory. -/
theorem drive_throws (d : FlowDefinition) {e : Execution} {resume : Option Resume}
    (hroot : (e.get? e.rootId).isSome)
    (hres : ∀ r, resume = some r →
      (Frame.Atop e e.rootId r.frames ∧ Frame.FitsBlock d.nodes r.frames) ∧ e.PausedAt r.frames)
    (w : World) :
    Run.Throws (eng.drive eng.runStep d e resume) w fun err _ =>
      err.SaveFault ∧ ∃ dir, w.store = .directory dir := by
  have hwalk := (walk_total eng (runStep_grows eng) (runStep_total eng)).1 e.rootId d.nodes ""
    none resume e w hroot hres
  exact (drive_throws_of_walk eng d (E := fun _ _ => False) hwalk).mono fun _ _ h => h.resolve_left id

/-- Driving the walk from a grown execution, fresh or along a cursor that
goes down from the root, keeps a world resumable: a suspension saves a
ticket a resume can follow. -/
theorem drive_resumable (d : FlowDefinition) {e : Execution} {resume : Option Resume}
    (hg : e.Grown) (hres : ∀ r, resume = some r → Frame.Descends e r.frames) {w : World}
    (hw : w.Resumable) :
    Run.Ensures (eng.drive eng.runStep d e resume) w fun _ w' => w'.Resumable := by
  unfold drive
  refine Run.Ensures.next (Ensures.run
    (((walk_suspends eng eng.runStep (runStep_pauses eng)).1 _ _ _ _ _ e w).and
      ((runBlock_unwinds (runStep_grows eng) e w hres).and
        ((walk_keepsStore eng eng.runStep (runStep_keepsStore eng)).1 _ _ _ _ _ e w).2)))
    fun p w₁ h₁ => ?_
  obtain ⟨outcome, e₁⟩ := p
  obtain ⟨hsusp, ⟨hg₁, hatop⟩, hstore₁⟩ := h₁
  have hw₁ := hw.of_store hstore₁
  dsimp only at hsusp hatop ⊢
  split
  · -- The saved ticket can be followed.
    rename_i frames pause
    obtain ⟨slots, hslots, hall⟩ := hw₁
    have hkeep : Execution.KeepsPlace fun i => { i with status := InstanceStatus.paused } :=
      fun _ => ⟨rfl, rfl, rfl⟩
    refine (suspend_saves eng d e₁ _ pause hslots).mono fun _ w₂ ⟨ticket, _, _, h₂⟩ =>
      ⟨_, h₂, fun k q hq => ?_⟩
    rcases mem_putSlot hq with hq | rfl
    · exact hall k q hq
    obtain ⟨hfits, hends, hheld⟩ := hsusp frames pause rfl
    have hgrows := Execution.Grows.foldl_modify hkeep (Cursor.ofUnwound frames).instanceIds e₁
    refine ⟨(hg.grows hg₁).grows hgrows, ?_, hfits, pause.instanceId, hends,
      hheld.foldl_modify (g := fun i => { i with status := .paused }) (fun _ => ⟨rfl, rfl⟩) _⟩
    rw [Execution.rootId_foldl_modify, hg₁.rootId_eq]
    exact (hatop frames pause rfl).grows hgrows
  · -- Otherwise the store is as it was.
    refine Run.Ensures.after_tame (Tame.run (finishInstance_tame eng _ _) e₁) fun _ w₂ h₂ => ?_
    split <;> exact Run.Ensures.after_tame (Run.log_tame _ _ _) fun _ w₃ h₃ =>
      Run.Ensures.after_tame (record_tame eng _) fun _ w₄ h₄ =>
        Run.Ensures.pure (hw₁.of_store (h₄.trans (h₃.trans h₂)))

/-! ## Runs and resumes -/

/-- A run fails only when its definition does not validate, leaving the
store as it was, or when its ticket cannot be saved in a directory. -/
theorem run_throws (d : FlowDefinition) (init : Value) (w : World) :
    Run.Throws (eng.run d init) w fun err w' =>
      ((∃ message, err = .invalidDefinition message ∧
        (Logged.collect (validateFlow d eng.registry eng.config)).1.valid = false) ∧
        w'.store = w.store) ∨
      (err.SaveFault ∧ ∃ dir, w.store = .directory dir) := by
  unfold run
  refine Run.Throws.bind (((start_throws eng d init w).and (start_keepsStore eng d init w).1).mono
    fun _ _ h => .inl h) ?_
  refine ((start_grown eng d init w).and (start_keepsStore eng d init w).2).mono
    fun e w₁ ⟨hg, h₁⟩ => ?_
  obtain ⟨root, hroot, -⟩ := hg.linked.root
  exact (drive_throws eng d (by simp [hroot]) (fun _ h => by cases h) w₁).mono
    fun err _ ⟨hf, dir, hdir⟩ => .inr ⟨hf, dir, h₁.symm.trans hdir⟩

/-- A run keeps a world resumable, whether it succeeds or fails. -/
theorem run_resumable (d : FlowDefinition) (init : Value) {w : World} (hw : w.Resumable)
    {r : Except FlowError ExecutionReport} {w' : World} (hrun : (eng.run d init).run.run w = (r, w')) :
    w'.Resumable := by
  rcases r with err | R
  · rcases run_throws eng d init w err w' hrun with ⟨-, hs⟩ | ⟨-, dir, hdir⟩
    · exact hw.of_store hs
    · obtain ⟨slots, hstore, -⟩ := hw
      rw [hstore] at hdir
      cases hdir
  · refine (?_ : Run.Ensures (eng.run d init) w fun _ w' => w'.Resumable) R w' hrun
    unfold run
    exact Run.Ensures.next ((start_grown eng d init w).and (start_keepsStore eng d init w).2)
      fun e w₁ ⟨hg, h₁⟩ => drive_resumable eng d hg (fun _ h => by cases h) (hw.of_store h₁)

/-- A resume from a store in memory holding tickets a resume can follow fails
exactly where the slots refuse the identifier, and then changes nothing. -/
theorem resume_fails_at_slot (pauseId : String) (value : Value) {w : World}
    {slots : List (String × Option PausedExecution)} (hstore : w.store = .memory slots)
    (hall : ∀ k p, (k, some p) ∈ slots → p.Resumable) :
    Run.Throws (eng.resume pauseId value) w fun err w' =>
      takeSlot slots pauseId = .error err ∧ w' = w := by
  unfold resume
  refine Run.Throws.bind (Run.claimTicket_fails_at_slot hstore pauseId) ?_
  refine (Run.claimTicket_memory hstore pauseId).mono fun p w₁ ⟨hk, rest, h₁, _⟩ => ?_
  have hp := hall pauseId p hk
  refine Run.Throws.bind (Run.Throws.of_tame (Run.info_tame _ _))
    ((Run.info_tame _ _ w₁).2.mono fun _ w₂ h₂ => ?_)
  -- Marking the cursor's instances running keeps what the walk needs of them.
  refine Run.Throws.bind (Run.Throws.of_tame (Run.Tame.forIn _ _ fun _ _ =>
    Run.Tame.bind (emitFor_tame eng _ _ _ _ _) fun _ => Run.Tame.pure _))
    ((Run.Ensures.forIn_store _ _ (fun e => p.execution.Grows e ∧ e.PausedAt p.cursor.frames) ?_
      ⟨.refl _, hp.paused⟩).mono fun e w₃ ⟨⟨hge, hpe⟩, h₃⟩ => ?_)
  · intro id e' w' ⟨hge', hpe'⟩
    exact Run.Ensures.after_tame (emitFor_tame eng _ _ _ _ _) fun _ _ h => Run.Ensures.pure
      ⟨⟨hge'.trans (.of_modify _ id fun _ => ⟨rfl, rfl, rfl⟩), hpe'.modify id fun _ => ⟨rfl, rfl⟩⟩, h⟩
  obtain ⟨root, hroot, -⟩ := (hp.grown.grows hge).linked.root
  refine (drive_throws eng _ (by simp [hroot]) (fun r h => ?_) w₃).mono
    fun err _ ⟨_, dir, hdir⟩ => ?_
  · cases h
    rw [hge.rootId_eq]
    exact ⟨⟨hp.atop.grows hge, hp.fits⟩, hpe⟩
  · rw [h₃, h₂, h₁] at hdir
    cases hdir

/-- A resume from a resumable world fails only for a ticket it does not
hold, and then changes nothing. -/
theorem resume_throws (pauseId : String) (value : Value) {w : World} (hw : w.Resumable) :
    Run.Throws (eng.resume pauseId value) w fun err w' =>
      (err = .unknownPauseId pauseId ∨ err = .alreadyResumed pauseId) ∧ w' = w := by
  obtain ⟨slots, hstore, hall⟩ := hw
  exact (resume_fails_at_slot eng pauseId value hstore hall).mono fun _ _ ⟨htake, hw'⟩ =>
    ⟨takeSlot_error htake, hw'⟩

/-- A resume keeps a world resumable, whether it succeeds or fails. -/
theorem resume_resumable (pauseId : String) (value : Value) {w : World} (hw : w.Resumable)
    {r : Except FlowError ExecutionReport} {w' : World}
    (hrun : (eng.resume pauseId value).run.run w = (r, w')) : w'.Resumable := by
  rcases r with err | R
  · rw [(resume_throws eng pauseId value hw err w' hrun).2]
    exact hw
  · refine (?_ : Run.Ensures (eng.resume pauseId value) w fun _ w' => w'.Resumable) R w' hrun
    unfold resume
    refine Run.Ensures.next (Run.claimTicket_resumable hw pauseId) fun p w₁ ⟨hp, hw₁⟩ => ?_
    refine Run.Ensures.after_tame (Run.info_tame _ _) fun _ w₂ h₂ => ?_
    refine Run.Ensures.next (Run.Ensures.forIn_store _ _ (fun e => p.execution.Grows e) ?_ (.refl _))
      fun e w₃ ⟨hge, h₃⟩ => ?_
    · intro id e' w' hge'
      exact Run.Ensures.after_tame (emitFor_tame eng _ _ _ _ _) fun _ _ h =>
        Run.Ensures.pure ⟨hge'.trans (.of_modify _ id fun _ => ⟨rfl, rfl, rfl⟩), h⟩
    exact drive_resumable eng _ (hp.grown.grows hge) (fun r h => by
      cases h
      exact (hp.atop.grows hge).descends) ((hw₁.of_store h₂).of_store h₃)

end Engine

/-! ## Whole sessions -/

/-- The worlds that runs and resumes lead to from `w`, by any engines, of any
definitions and tickets, each of them succeeding or failing. -/
inductive World.Reaches (w : World) : World → Prop where
  | refl : World.Reaches w w
  | run {w₁ w₂ : World} {r : Except FlowError ExecutionReport} (eng : Engine) (d : FlowDefinition)
      (init : Value) : World.Reaches w w₁ → (eng.run d init).run.run w₁ = (r, w₂) →
      World.Reaches w w₂
  | resume {w₁ w₂ : World} {r : Except FlowError ExecutionReport} (eng : Engine)
      (pauseId : String) (value : Value) : World.Reaches w w₁ →
      (eng.resume pauseId value).run.run w₁ = (r, w₂) → World.Reaches w w₂

/-- Every world that runs and resumes lead to from a resumable world is
resumable. -/
theorem World.Reaches.resumable {w₀ w : World} (h₀ : w₀.Resumable) (h : w₀.Reaches w) :
    w.Resumable := by
  induction h with
  | refl => exact h₀
  | run eng d init _ hrun ih => exact eng.run_resumable d init ih hrun
  | resume eng pauseId value _ hrun ih => exact eng.resume_resumable pauseId value ih hrun

/-! ## A session that suspends twice -/

/-- An engine with one step, which waits for a person's input. -/
def askingEngine : Engine :=
  { registry := { steps := [{ id := "ask", name := "ask", behaviour := .humanInput }] } }

/-- A flow whose one node is a sub-flow asking twice. -/
def askTwiceDefinition : FlowDefinition := ⟨"", [.sequence [.step "ask", .step "ask"]], none⟩

/-- The one ticket a store in memory holds, when it holds just that one and
nobody took it. -/
def PauseStore.only? : PauseStore → Option (String × PausedExecution)
  | .memory [(k, some p)] => some (k, p)
  | _ => none

theorem PauseStore.eq_of_only? {s : PauseStore} {kp : String × PausedExecution}
    (h : s.only? = some kp) : s = .memory [(kp.1, some kp.2)] := by
  unfold PauseStore.only? at h
  split at h
  · cases h
    rfl
  · cases h

/-- Running the flow suspends inside the sub-flow and saves one ticket, for the
sub-flow's instance; resuming that ticket answers the first question and
suspends again inside the sub-flow, under a new ticket. -/
theorem askTwice_session :
    ∃ (R₁ : ExecutionReport) (w₁ : World) (t₁ : PauseTicket) (p₁ : PausedExecution)
      (R₂ : ExecutionReport) (w₂ : World) (t₂ : PauseTicket),
      (askingEngine.run askTwiceDefinition .null).run.run {} = (.ok R₁, w₁) ∧
      R₁.pause = some t₁ ∧ t₁.instanceId ≠ t₁.executionId ∧
      w₁.store = .memory [(t₁.pauseId, some p₁)] ∧
      (askingEngine.resume t₁.pauseId (.str "v")).run.run w₁ = (.ok R₂, w₂) ∧
      R₂.status = .paused ∧ R₂.pause = some t₂ ∧ t₂.instanceId ≠ t₂.executionId ∧
      t₂.pauseId ≠ t₁.pauseId := by
  -- The walk goes down the root's block into the sub-flow's, once on the run
  -- and once along the cursor on the resume; unfolding each call once runs both.
  obtain ⟨R₁, w₁, hR₁, hnext⟩ := Run.exists_ok_of_any
    (x := (askingEngine.run askTwiceDefinition .null).run.run {})
    (p := fun (R₁ : ExecutionReport) (w₁ : World) => R₁.pause.any fun t₁ =>
      t₁.instanceId != t₁.executionId && (w₁.store.only?.any fun kp => kp.1 == t₁.pauseId) &&
      (((askingEngine.resume t₁.pauseId (.str "v")).run.run w₁).1.toOption.any
        fun (R₂ : ExecutionReport) => decide (R₂.status = .paused) && R₂.pause.any fun t₂ =>
          t₂.instanceId != t₂.executionId && t₂.pauseId != t₁.pauseId)) (by
    unfold Engine.run Engine.resume Engine.drive Engine.runBlock Engine.blockFrom Engine.runNode
      Engine.runChild Engine.runBlock Engine.blockFrom Engine.runNode Engine.blockFrom
    decide +kernel)
  obtain ⟨t₁, ht₁, hfacts⟩ := (Option.any_eq_true _ _).1 hnext
  simp only [Bool.and_eq_true] at hfacts
  obtain ⟨⟨hnest₁, hstore⟩, hresume⟩ := hfacts
  obtain ⟨kp, hkp, hk⟩ := (Option.any_eq_true _ _).1 hstore
  obtain ⟨R₂, w₂, hR₂, hfacts₂⟩ := Run.exists_ok_of_any
    (p := fun (R₂ : ExecutionReport) _ => decide (R₂.status = .paused) && R₂.pause.any fun t₂ =>
      t₂.instanceId != t₂.executionId && t₂.pauseId != t₁.pauseId) hresume
  simp only [Bool.and_eq_true, decide_eq_true_eq] at hfacts₂
  obtain ⟨hpaused, hpause₂⟩ := hfacts₂
  obtain ⟨t₂, ht₂, hfresh⟩ := (Option.any_eq_true _ _).1 hpause₂
  simp only [Bool.and_eq_true, bne_iff_ne] at hfresh
  have hstore₁ := PauseStore.eq_of_only? hkp
  rw [eq_of_beq hk] at hstore₁
  exact ⟨R₁, w₁, t₁, kp.2, R₂, w₂, t₂, hR₁, ht₁, bne_iff_ne.1 hnest₁, hstore₁, hR₂, hpaused, ht₂,
    hfresh.1, hfresh.2⟩

/-- A run fails only when its definition does not validate, or when saving
its ticket fails; and in the worlds that runs and resumes lead to from a store
in memory holding tickets a resume can follow (an empty one, say), a resume,
by any engine, fails only for an identifier the store never held or already
gave out. No corrupt cursor, missing instance or taken identifier is ever
reached. -/
theorem honest_sessions_fail_only_at_the_store :
    (∀ (eng : Engine) (d : FlowDefinition) (init : Value) (w : World),
      Run.Throws (eng.run d init) w fun err _ =>
        (∃ message, err = .invalidDefinition message ∧
          (Logged.collect (validateFlow d eng.registry eng.config)).1.valid = false) ∨
        err.SaveFault) ∧
    (∀ w₀ w : World, w₀.Resumable → w₀.Reaches w →
      ∀ (eng : Engine) (pauseId : String) (value : Value),
        Run.Throws (eng.resume pauseId value) w fun err _ =>
          err = .unknownPauseId pauseId ∨ err = .alreadyResumed pauseId) := by
  refine ⟨fun eng d init w => (eng.run_throws d init w).mono fun err _ h => ?_, ?_⟩
  · rcases h with ⟨h, -⟩ | ⟨h, -⟩
    · exact .inl h
    · exact .inr h
  · intro w₀ w h₀ h eng pauseId value
    exact (eng.resume_throws pauseId value (h.resumable h₀)).mono fun _ _ h => h.1

/-- The session above, from a fresh world: the ticket the run saved is resumed
once, and a second resume of it can only be refused. -/
theorem resumed_ticket_fails_only_at_the_store :
    ∃ (R₁ : ExecutionReport) (w₁ : World) (t₁ : PauseTicket) (R₂ : ExecutionReport) (w₂ : World),
      (askingEngine.run askTwiceDefinition .null).run.run {} = (.ok R₁, w₁) ∧ R₁.pause = some t₁ ∧
      (askingEngine.resume t₁.pauseId (.str "v")).run.run w₁ = (.ok R₂, w₂) ∧
      ({} : World).Resumable ∧ ({} : World).Reaches w₂ ∧
      Run.Throws (askingEngine.resume t₁.pauseId (.str "w")) w₂ fun err _ =>
        err = .unknownPauseId t₁.pauseId ∨ err = .alreadyResumed t₁.pauseId := by
  obtain ⟨R₁, w₁, t₁, -, R₂, w₂, -, hR₁, ht₁, -, -, hR₂, -⟩ := askTwice_session
  have h₀ : ({} : World).Resumable := ⟨[], rfl, fun _ _ h => absurd h List.not_mem_nil⟩
  have hreach : ({} : World).Reaches w₂ := .resume _ _ _ (.run _ _ _ .refl hR₁) hR₂
  exact ⟨R₁, w₁, t₁, R₂, w₂, hR₁, ht₁, hR₂, h₀, hreach,
    honest_sessions_fail_only_at_the_store.2 {} w₂ h₀ hreach askingEngine t₁.pauseId (.str "w")⟩

end Flowline
