import Flowline.Proofs.PausedRecords
set_option autoImplicit false

/-!
# Each ticket is claimed once

A store in memory keeps one slot per ticket it was given: filled when the
ticket is saved, emptied when a resume claims it. Over any sequence of runs
and resumes, by engines that share one store (`World.Calls`), the slots are
the tickets the reports handed out, in order, each emptied once a resume of it
succeeded (`StoreLedger`).

So a resume of a ticket handed out and not yet claimed succeeds, and its
report completes the record the suspended step left with the value resumed
with (`Engine.walk_completes`); a resume of a ticket already claimed fails as
`alreadyResumed` and one of a ticket never handed out as `unknownPauseId`,
both changing nothing; and the store lists the tickets still waiting, oldest
first (`tickets_are_claimed_once`). The identifiers handed out are assumed
apart, as freshly drawn identifiers are.
-/

namespace Flowline

/-! ## Histories of calls on one store -/

/-- A call an engine answers against the shared store. -/
inductive StoreCall where
  | run (eng : Engine) (d : FlowDefinition) (init : Value)
  | resume (eng : Engine) (pauseId : String) (value : Value)

namespace StoreCall

/-- What the call runs. -/
def perform : StoreCall → Run ExecutionReport
  | .run eng d init => eng.run d init
  | .resume eng pauseId value => eng.resume pauseId value

/-- The ticket a resume names. -/
def resumed? : StoreCall → Option String
  | .run .. => none
  | .resume _ pauseId _ => some pauseId

end StoreCall

/-- A call with the answer it got. -/
abbrev Answered := StoreCall × Except FlowError ExecutionReport

/-- The tickets the answers of `h` handed out, in order. -/
def issuedTickets (h : List Answered) : List PauseTicket :=
  h.filterMap fun a => a.2.toOption.bind (·.pause)

/-- The tickets of the resumes of `h` that succeeded. -/
def acceptedIds (h : List Answered) : List String :=
  h.filterMap fun a => a.2.toOption.bind fun _ => a.1.resumed?

/-- `w₀` leads to `w` through the calls of `h`, each answered as `h` says. -/
inductive World.Calls (w₀ : World) : List Answered → World → Prop where
  | nil : World.Calls w₀ [] w₀
  | snoc {h : List Answered} {w w' : World} (c : StoreCall) {r : Except FlowError ExecutionReport} :
      World.Calls w₀ h w → c.perform.run.run w = (r, w') → World.Calls w₀ (h ++ [(c, r)]) w'

theorem issuedTickets_append (h : List Answered) (c : StoreCall)
    (r : Except FlowError ExecutionReport) :
    issuedTickets (h ++ [(c, r)]) = issuedTickets h ++ (r.toOption.bind (·.pause)).toList := by
  simp only [issuedTickets, List.filterMap_append, List.filterMap_cons, List.filterMap_nil]
  cases r.toOption.bind (·.pause) <;> rfl

theorem acceptedIds_append (h : List Answered) (c : StoreCall)
    (r : Except FlowError ExecutionReport) :
    acceptedIds (h ++ [(c, r)]) =
      acceptedIds h ++ (r.toOption.bind fun _ => c.resumed?).toList := by
  simp only [acceptedIds, List.filterMap_append, List.filterMap_cons, List.filterMap_nil]
  cases r.toOption.bind fun _ => c.resumed? <;> rfl

/-! ## The slots of a store -/

/-- What the slots hold, each paused execution read as its ticket. -/
def slotView (slots : List (String × Option PausedExecution)) : List (String × Option PauseTicket) :=
  slots.map fun s => (s.1, s.2.map (·.ticket))

/-- The slots the calls of `h` leave: one per ticket handed out, in order,
empty once a resume of it succeeded. -/
def expectedView (h : List Answered) : List (String × Option PauseTicket) :=
  (issuedTickets h).map fun t => (t.pauseId, if t.pauseId ∈ acceptedIds h then none else some t)

/-- Empties the slots of the identifiers `ids`. -/
def emptying (ids : List String) (s : String × Option PauseTicket) : String × Option PauseTicket :=
  if s.1 ∈ ids then (s.1, none) else s

theorem slotView_keys (slots : List (String × Option PausedExecution)) :
    (slotView slots).map (·.1) = slots.map (·.1) := by
  simp [slotView]

theorem expectedView_keys (h : List Answered) :
    (expectedView h).map (·.1) = (issuedTickets h).map (·.pauseId) := by
  simp [expectedView]

/-- A ticket saved under an identifier the store never held gets a slot of
its own, after the others. -/
theorem slotView_putSlot {slots : List (String × Option PausedExecution)} {p : PausedExecution}
    (hfresh : p.ticket.pauseId ∉ slots.map (·.1)) :
    slotView (putSlot slots p) = slotView slots ++ [(p.ticket.pauseId, some p.ticket)] := by
  have hany : (slots.any (·.1 == p.ticket.pauseId)) = false := by
    rw [List.any_eq_false]
    intro s hs hk
    exact hfresh (List.mem_map.2 ⟨s, hs, by simpa using hk⟩)
  rw [putSlot, if_neg (by simp [hany])]
  simp [slotView]

/-- Claiming empties the slot of the identifier claimed and keeps the others. -/
theorem slotView_takeSlot {slots : List (String × Option PausedExecution)} {id : String}
    {p : PausedExecution} {rest : List (String × Option PausedExecution)}
    (h : takeSlot slots id = .ok (p, rest)) :
    slotView rest = (slotView slots).map (emptying [id]) := by
  unfold takeSlot at h
  split at h
  · cases h
  · cases h
  · cases h
    simp only [slotView, List.map_map]
    refine List.map_congr_left fun ⟨k, s⟩ _ => ?_
    by_cases hk : k = id <;> simp [emptying, hk]

/-- The slot the store finds for an identifier, read as a ticket. -/
theorem find?_slotView (slots : List (String × Option PausedExecution)) (id : String) :
    (slotView slots).find? (·.1 == id) =
      (slots.find? (·.1 == id)).map fun s => (s.1, s.2.map (·.ticket)) := by
  simp only [slotView, List.find?_map]
  rfl

/-- The slot expected for an identifier: that of the first ticket handed out
under it. -/
theorem find?_expectedView (h : List Answered) (id : String) :
    (expectedView h).find? (·.1 == id) =
      ((issuedTickets h).find? (·.pauseId == id)).map
        fun t => (t.pauseId, if t.pauseId ∈ acceptedIds h then none else some t) := by
  simp only [expectedView, List.find?_map]
  rfl

/-- The tickets still waiting are those handed out and not yet claimed. -/
theorem waiting_of_view {slots : List (String × Option PausedExecution)} {h : List Answered}
    (hv : slotView slots = expectedView h) :
    slots.filterMap (fun s => s.2.map (·.ticket)) =
      (issuedTickets h).filter (·.pauseId ∉ acceptedIds h) := by
  have hleft : slots.filterMap (fun s => s.2.map (·.ticket)) = (slotView slots).filterMap (·.2) := by
    simp only [slotView, List.filterMap_map]
    rfl
  rw [hleft, hv, expectedView, List.filterMap_map, ← List.filterMap_eq_filter]
  refine List.filterMap_congr fun t _ => ?_
  by_cases ht : t.pauseId ∈ acceptedIds h <;> simp [ht, Option.guard]

/-- The answers of `h` extended by one call, as slots: those of `h` with the
ticket of a successful resume emptied, then the ticket its report hands out. -/
theorem expectedView_append {h : List Answered} {c : StoreCall}
    {r : Except FlowError ExecutionReport}
    (hfresh : ∀ t ∈ (r.toOption.bind (·.pause)).toList,
      t.pauseId ∉ acceptedIds (h ++ [(c, r)])) :
    expectedView (h ++ [(c, r)]) =
      (expectedView h).map (emptying (r.toOption.bind fun _ => c.resumed?).toList) ++
        (r.toOption.bind (·.pause)).toList.map fun t => (t.pauseId, some t) := by
  have hacc := acceptedIds_append h c r
  rw [expectedView, issuedTickets_append, List.map_append, expectedView, List.map_map]
  congr 1
  · refine List.map_congr_left fun t _ => ?_
    rw [hacc]
    by_cases hnew : t.pauseId ∈ (r.toOption.bind fun _ => c.resumed?).toList
    · simp [emptying, hnew]
    · by_cases hold : t.pauseId ∈ acceptedIds h <;> simp [emptying, hnew, hold]
  · refine List.map_congr_left fun t ht => ?_
    simp [hfresh t ht]

/-! ## What a report leaves of the slots -/

/-- How the slots `slots'` after a report `R` stand to the slots `slots` it
was driven from: the same without a ticket; with one, filled with a paused
execution whose report `R` is. -/
def SavesFrom (slots : List (String × Option PausedExecution)) (R : ExecutionReport)
    (slots' : List (String × Option PausedExecution)) : Prop :=
  (R.pause = none ∧ slots' = slots) ∨
    ∃ p : PausedExecution, R.pause = some p.ticket ∧
      R = ExecutionReport.ofExecution p.definition.name p.execution (some p.ticket) ∧
      slots' = putSlot slots p

/-- The slots after a report whose ticket is new: the old ones, then the
ticket. -/
theorem SavesFrom.view {slots slots' : List (String × Option PausedExecution)}
    {R : ExecutionReport} (h : SavesFrom slots R slots')
    (hfresh : ∀ t ∈ R.pause.toList, t.pauseId ∉ slots.map (·.1)) :
    slotView slots' = slotView slots ++ R.pause.toList.map fun t => (t.pauseId, some t) := by
  rcases h with ⟨hnone, rfl⟩ | ⟨p, hpause, -, rfl⟩
  · simp [hnone]
  · rw [hpause] at hfresh ⊢
    exact slotView_putSlot (hfresh p.ticket (List.mem_singleton_self _))

/-- A filled slot after a report holds what it held before or the execution
the report is about. -/
theorem SavesFrom.mem {slots slots' : List (String × Option PausedExecution)}
    {R : ExecutionReport} (h : SavesFrom slots R slots') {k : String} {q : PausedExecution}
    (hq : (k, some q) ∈ slots') :
    (k, some q) ∈ slots ∨
      R = ExecutionReport.ofExecution q.definition.name q.execution (some q.ticket) := by
  rcases h with ⟨-, rfl⟩ | ⟨p, -, hR, rfl⟩
  · exact .inl hq
  · rcases mem_putSlot hq with hq | rfl
    · exact .inl hq
    · exact .inr hR

namespace Run

/-- Claiming from memory gives what the slots give. -/
theorem claimTicket_takes {w : World} {slots : List (String × Option PausedExecution)}
    (hstore : w.store = .memory slots) (id : String) :
    Run.Ensures (Run.claimTicket id) w fun p w' =>
      ∃ rest, takeSlot slots id = .ok (p, rest) ∧ w'.store = .memory rest := by
  unfold Run.claimTicket
  refine Run.Ensures.bind (Run.Ensures.get ?_)
  rw [hstore]
  dsimp only
  split
  · rename_i p rest htake
    exact Run.Ensures.bind (Run.Ensures.modify (Run.Ensures.pure ⟨rest, htake, rfl⟩))
  · exact Run.Ensures.throw

end Run

namespace Engine

variable (eng : Engine)

/-- Driving the walk from a store in memory saves a ticket exactly when the
report hands one out. -/
theorem drive_saves (d : FlowDefinition) {e : Execution} {resume : Option Resume} {w : World}
    {slots : List (String × Option PausedExecution)} (hstore : w.store = .memory slots) :
    Run.Ensures (eng.drive eng.runStep d e resume) w fun R w' =>
      ∃ slots', w'.store = .memory slots' ∧ SavesFrom slots R slots' := by
  unfold drive
  refine Run.Ensures.next (Ensures.run
    ((walk_keepsStore eng eng.runStep (runStep_keepsStore eng)).1 _ _ _ _ _ e w).2) fun q w₁ h₁ => ?_
  obtain ⟨outcome, e₁⟩ := q
  dsimp only at h₁ ⊢
  split
  · refine (suspend_saves eng d e₁ _ _ (h₁.trans hstore)).mono fun R w₂ ⟨ticket, _, hR, h₂⟩ => ?_
    refine ⟨_, h₂, .inr ⟨_, ?_, hR, rfl⟩⟩
    rw [hR]
    rfl
  · refine Run.Ensures.after_tame (Tame.run (finishInstance_tame eng _ _) e₁) fun _ w₂ h₂ => ?_
    split <;> exact Run.Ensures.after_tame (Run.log_tame _ _ _) fun _ w₃ h₃ =>
      Run.Ensures.after_tame (record_tame eng _) fun _ w₄ h₄ =>
        Run.Ensures.pure ⟨slots, h₄.trans (h₃.trans (h₂.trans (h₁.trans hstore))), .inl ⟨rfl, rfl⟩⟩

/-- A run from a store in memory saves a ticket exactly when its report hands
one out. -/
theorem run_saves (d : FlowDefinition) (init : Value) {w : World}
    {slots : List (String × Option PausedExecution)} (hstore : w.store = .memory slots) :
    Run.Ensures (eng.run d init) w fun R w' =>
      ∃ slots', w'.store = .memory slots' ∧ SavesFrom slots R slots' := by
  unfold run
  exact Run.Ensures.next (start_keepsStore eng d init w).2 fun _ w₁ h₁ =>
    drive_saves eng d (h₁.trans hstore)

/-- A failed run from a store in memory leaves the store as it was. -/
theorem run_fails_keeping_store (d : FlowDefinition) (init : Value) {w w' : World}
    {slots : List (String × Option PausedExecution)} (hstore : w.store = .memory slots)
    {err : FlowError} (hrun : (eng.run d init).run.run w = (.error err, w')) :
    w'.store = .memory slots := by
  rcases run_throws eng d init w err w' hrun with ⟨-, hs⟩ | ⟨-, dir, hdir⟩
  · exact hs.trans hstore
  · rw [hstore] at hdir
    cases hdir

end Engine

/-! ## A resume completes the record its ticket waits on -/

/-- Record `q` completed with `output` at `t`, as completing a paused step
leaves it. -/
def StepRecord.completedAt (q : StepRecord) (output : StepOutput) (t : Timestamp) : StepRecord :=
  { q with status := .completed, output := some output, finishedAt := some t }

namespace Execution

/-- The record instance `y` waits on: its last paused one. -/
def awaited (e : Execution) (y : String) : Option StepRecord :=
  (e.get? y).bind fun Y => Y.steps.reverse.find? (·.status == .paused)

/-- `e` holds `q` completed with `output`, at some time. -/
def Completes (e : Execution) (q : StepRecord) (output : StepOutput) : Prop :=
  ∃ t, q.completedAt output t ∈ e.stepRecords

variable {e e' : Execution} {q : StepRecord} {output : StepOutput}

/-- An instance holding a paused record waits on one. -/
theorem HoldsPaused.awaited {y : String} (h : e.HoldsPaused y) : ∃ q, e.awaited y = some q := by
  obtain ⟨Y, hY, r, hr, hpaused⟩ := h
  rw [Execution.awaited, hY, Option.bind_some]
  exact Option.isSome_iff_exists.1
    (List.find?_isSome.2 ⟨r, List.mem_reverse.2 hr, (StepStatus.beq_paused _).2 hpaused⟩)

/-- The record waited on is a paused record of the execution. -/
theorem awaited_mem {y : String} (h : e.awaited y = some q) :
    q ∈ e.stepRecords ∧ q.status = .paused := by
  obtain ⟨Y, hY, hq⟩ := Option.bind_eq_some_iff.1 h
  have hmem : q ∈ Y.steps := List.mem_reverse.1 (List.mem_of_find?_eq_some hq)
  have hpaused := List.find?_some hq
  exact ⟨List.mem_flatMap.2 ⟨Y, (mem_of_get? hY).1, hmem⟩, (StepStatus.beq_paused _).1 hpaused⟩

/-- A change that keeps identifiers and records keeps what each instance
waits on. -/
theorem awaited_modify {g : FlowInstance → FlowInstance}
    (hg : ∀ i, (g i).id = i.id ∧ (g i).steps = i.steps) (id y : String) :
    (e.modify id g).awaited y = e.awaited y := by
  unfold Execution.awaited
  rw [get?_modify fun i => (hg i).1]
  split
  · cases e.get? y with
    | none => rfl
    | some Y => simp only [Option.map_some, Option.bind_some, (hg Y).2]
  · rfl

theorem Completes.of_stepRecords (h : e.Completes q output) (he : e'.stepRecords = e.stepRecords) :
    e'.Completes q output := by
  obtain ⟨t, hmem⟩ := h
  exact ⟨t, he ▸ hmem⟩

/-- A record added keeps a completed one. -/
theorem Completes.record (h : e.Completes q output) {id : String} (hid : e.has id = true)
    (r : StepRecord) : (e.record id r).Completes q output := by
  obtain ⟨t, hmem⟩ := h
  exact ⟨t, (stepRecords_record hid r).mem_iff.2 (List.mem_append_left _ hmem)⟩

/-- Completing a paused record keeps a completed one: the record replaced is
paused, so it is not the completed one. -/
theorem Completes.complete (h : e.Completes q output) {id : String} {i : FlowInstance}
    {r : StepRecord} (hi : e.get? id = some i)
    (hr : i.steps.reverse.find? (·.status == .paused) = some r) (r' : StepRecord) :
    (e.modify id fun j =>
      { j with steps := modifyLast (·.status == .paused) (fun _ => r') j.steps }).Completes q output := by
  obtain ⟨t, hmem⟩ := h
  obtain ⟨rest, hold, hnew⟩ := stepRecords_complete hi hr r'
  have hfound := List.find?_some hr
  have hpaused : r.status = .paused := (StepStatus.beq_paused _).1 hfound
  refine ⟨t, hnew.mem_iff.2 (List.mem_cons_of_mem _ ?_)⟩
  rcases List.mem_cons.1 (hold.mem_iff.1 hmem) with heq | hrest
  · rw [← heq] at hpaused
    cases hpaused
  · exact hrest

/-- Completing the record instance `y` waits on completes it. -/
theorem completes_awaited {y : String} (ha : e.awaited y = some q) {i : FlowInstance}
    {r : StepRecord} (hi : e.get? y = some i)
    (hr : i.steps.reverse.find? (·.status == .paused) = some r) (t : Timestamp) :
    (e.modify y fun j =>
      { j with
        steps := modifyLast (·.status == .paused)
          (fun _ => { r with status := .completed, output := some output, finishedAt := some t })
          j.steps }).Completes q output := by
  have hrq : r = q := by
    rw [Execution.awaited, hi, Option.bind_some, hr] at ha
    exact Option.some.inj ha
  subst hrq
  obtain ⟨rest, -, hnew⟩ := stepRecords_complete hi hr
    { r with status := .completed, output := some output, finishedAt := some t }
  exact ⟨t, hnew.mem_iff.2 (List.mem_cons.2 (.inl rfl))⟩

end Execution

/-- A report lists the records of its execution. -/
theorem ExecutionReport.mem_steps {R : ExecutionReport} {r : StepRecord} :
    r ∈ R.steps ↔ r ∈ R.execution.stepRecords :=
  (List.mergeSort_perm _ _).mem_iff

/-- How the walk enters to complete `q` with `output`: with `q` completed
already, or along a cursor that follows as `follows` says, carries `output`
and ends at an instance waiting on `q`. -/
def CompletionEntry (q : StepRecord) (output : StepOutput) (e : Execution) (cursor : Option Resume)
    (follows : List Frame → Prop) : Prop :=
  (cursor = none → e.Completes q output) ∧
    ∀ r, cursor = some r → follows r.frames ∧ r.value = output ∧
      ∃ y, Frame.EndsAt r.frames y ∧ e.awaited y = some q

namespace CompletionEntry

variable {q : StepRecord} {output : StepOutput} {e : Execution}
  {follows follows' : List Frame → Prop}

theorem fresh (h : e.Completes q output) : CompletionEntry q output e none follows :=
  ⟨fun _ => h, fun _ h => by cases h⟩

theorem along {r : Resume} (hf : follows r.frames) (hv : r.value = output) {y : String}
    (hends : Frame.EndsAt r.frames y) (ha : e.awaited y = some q) :
    CompletionEntry q output e (some r) follows :=
  ⟨(fun h => by cases h), fun _ h => by cases h; exact ⟨hf, hv, y, hends, ha⟩⟩

theorem mono {cursor : Option Resume} (h : CompletionEntry q output e cursor follows)
    (hf : ∀ fs, follows fs → follows' fs) : CompletionEntry q output e cursor follows' :=
  ⟨h.1, fun r hr => ⟨hf _ (h.2 r hr).1, (h.2 r hr).2⟩⟩

/-- With no cursor that follows as it must, `q` is completed already. -/
theorem completes {cursor : Option Resume} (h : CompletionEntry q output e cursor follows)
    (hno : ∀ r, cursor = some r → follows r.frames → False) : e.Completes q output := by
  cases cursor with
  | none => exact h.1 rfl
  | some r => exact absurd (h.2 r rfl).1 (hno r rfl)

end CompletionEntry

namespace Engine

variable (eng : Engine) (q : StepRecord) (output : StepOutput)

/-! ## The walk keeps a completed record and completes the one it resumes -/

theorem runStep_completes (id : String) (node : FlowNode) (path : String)
    (previous : Option StepOutput) :
    Maintains (fun e (_ : World) => e.Completes q output) (eng.runStep id node path previous) := by
  intro e w h
  refine (runStep_spec eng id node path previous e w).mono fun _ e' _ hspec => ?_
  obtain ⟨e₁, r, hedits, hhas, rfl, -⟩ := hspec
  exact (h.of_stepRecords hedits.stepRecords).record hhas r

theorem completePausedStep_completes (id : String) (output' : StepOutput) :
    Maintains (fun e (_ : World) => e.Completes q output) (eng.completePausedStep id output') := by
  intro e w h
  refine (completePausedStep_spec eng id output' e w).mono fun _ e' _ hspec => ?_
  obtain ⟨i, r, t, hi, hr, rfl⟩ := hspec
  exact h.complete hi hr _

theorem openInstance_completes (parentId id : String) (branchType : BranchType)
    (iteration : Option Nat) :
    Maintains (fun e (_ : World) => e.Completes q output)
      (eng.openInstance parentId id branchType iteration) := fun e w h =>
  (openInstance_spec eng parentId id branchType iteration e w).mono fun _ _ _ ⟨_, _, hspawn⟩ =>
    h.of_stepRecords (Execution.stepRecords_spawn hspawn)

theorem finishInstance_completes (id : String) (outcome : Outcome) :
    Maintains (fun e (_ : World) => e.Completes q output) (eng.finishInstance id outcome) :=
  fun e w h => (finishInstance_stepRecords eng id outcome e w).mono fun _ _ _ hrecs =>
    h.of_stepRecords hrecs

/-- `m`, entered as `CompletionEntry` says, leaves `q` completed with
`output`. -/
abbrev WalkCompletes (m : Drive Outcome) (cursor : Option Resume) (follows : List Frame → Prop) :
    Prop :=
  ∀ e w, CompletionEntry q output e cursor follows →
    Ensures m e w fun _ e' _ => e'.Completes q output

/-- A loop's rounds: with `q` completed already, or re-entered in the
controller's block or, after a `continue`, in the actions' block. -/
abbrev RoundCompletes (loopId : String) (controller : FlowNode) (actions : List FlowNode)
    (controllerBase actionsBase path : String) (iteration : Nat)
    (controllerOutput : Option StepOutput) (pending : Option (LoopPhase × Resume)) : Prop :=
  ∀ e w, (pending = none → e.Completes q output) →
    (∀ r, controllerResume? pending = some r →
      Frame.FitsBlock [controller] r.frames ∧ r.value = output ∧
        ∃ y, Frame.EndsAt r.frames y ∧ e.awaited y = some q) →
    (∀ r, actionsResume? pending = some r →
      (Frame.FitsBlock actions r.frames ∧ (controllerOutput.map StepOutput.edge).getD "" = "continue") ∧
        r.value = output ∧ ∃ y, Frame.EndsAt r.frames y ∧ e.awaited y = some q) →
    Ensures (eng.loopRound eng.runStep loopId controller actions controllerBase actionsBase path
      iteration controllerOutput pending) e w fun _ e' _ => e'.Completes q output

/-- What a loop does on its controller's decision: with `q` completed unless
the actions are re-entered after a `continue`. -/
abbrev FollowCompletes (loopId : String) (controller : FlowNode) (actions : List FlowNode)
    (controllerBase actionsBase path : String) (iteration : Nat)
    (pending : Option (LoopPhase × Resume)) (decided : Sum Outcome (Option StepOutput)) : Prop :=
  ∀ e w, (actionsResume? pending = none → e.Completes q output) →
    (∀ r, actionsResume? pending = some r →
      (Frame.FitsBlock actions r.frames ∧
        ∃ out, decided = .inr out ∧ (out.map StepOutput.edge).getD "" = "continue") ∧
        r.value = output ∧ ∃ y, Frame.EndsAt r.frames y ∧ e.awaited y = some q) →
    Ensures (eng.loopFollow eng.runStep loopId controller actions controllerBase actionsBase path
      iteration pending decided) e w fun _ e' _ => e'.Completes q output

/-- Entered with `q` completed, or along a cursor that fits the nodes it walks,
carries `output` and ends at the instance waiting on `q`, the walk leaves `q`
completed with `output`: the cursor is followed down to that instance, whose
paused record is completed there, and nothing after takes it back. -/
theorem walk_completes :
    (∀ id nodes base entry resume,
      WalkCompletes q output (eng.runBlock eng.runStep id nodes base entry resume) resume
        (Frame.FitsBlock nodes)) ∧
    (∀ id nodes base index previous nested,
      WalkCompletes q output (eng.blockFrom eng.runStep id nodes base index previous nested) nested
        fun fs => ∃ node, nodes[index]? = some node ∧ Frame.FitsNode node previous fs) ∧
    (∀ id node index path previous resuming,
      WalkCompletes q output (eng.runNode eng.runStep id node index path previous resuming) resuming
        (Frame.FitsNode node previous)) ∧
    (∀ parentId index path parts resume,
      WalkCompletes q output (eng.runLoop eng.runStep parentId index path parts resume) resume
        (Frame.FitsLoop parts)) ∧
    (∀ loopId controller actions controllerBase actionsBase path iteration controllerOutput pending,
      RoundCompletes eng q output loopId controller actions controllerBase actionsBase path iteration
        controllerOutput pending) ∧
    (∀ loopId controller actions controllerBase actionsBase path iteration pending decided,
      FollowCompletes eng q output loopId controller actions controllerBase actionsBase path
        iteration pending decided) ∧
    (∀ parentId candidate branchType iteration nodes base entry resume,
      WalkCompletes q output (eng.runChild eng.runStep parentId candidate branchType iteration nodes
        base entry resume) resume (Frame.FitsBlock nodes)) := by
  -- Everything the walk does keeps a completed record.
  have keeps := walk_maintains eng eng.runStep (I := fun e _ => e.Completes q output)
    (fun _ _ _ h _ => h) (runStep_completes eng q output) (completePausedStep_completes eng q output)
    (openInstance_completes eng q output) (finishInstance_completes eng q output)
  apply Engine.runBlock.mutual_induct eng eng.runStep
    (fun id nodes base entry resume =>
      WalkCompletes q output (eng.runBlock eng.runStep id nodes base entry resume) resume
        (Frame.FitsBlock nodes))
    (fun id nodes base index previous nested =>
      WalkCompletes q output (eng.blockFrom eng.runStep id nodes base index previous nested) nested
        fun fs => ∃ node, nodes[index]? = some node ∧ Frame.FitsNode node previous fs)
    (fun id node index path previous resuming =>
      WalkCompletes q output (eng.runNode eng.runStep id node index path previous resuming) resuming
        (Frame.FitsNode node previous))
    (fun parentId index path parts resume =>
      WalkCompletes q output (eng.runLoop eng.runStep parentId index path parts resume) resume
        (Frame.FitsLoop parts))
    (fun loopId controller actions controllerBase actionsBase path iteration controllerOutput
      pending => RoundCompletes eng q output loopId controller actions controllerBase actionsBase
        path iteration controllerOutput pending)
    (fun loopId controller actions controllerBase actionsBase path iteration pending decided =>
      FollowCompletes eng q output loopId controller actions controllerBase actionsBase path
        iteration pending decided)
    (fun parentId candidate branchType iteration nodes base entry resume =>
      WalkCompletes q output (eng.runChild eng.runStep parentId candidate branchType iteration nodes
        base entry resume) resume (Frame.FitsBlock nodes))
  -- `runBlock`: fresh, at the suspended step, or on the way down the cursor.
  · intro id nodes base entry ih e w hen
    rw [Engine.runBlock]
    exact ih e w (.fresh (hen.1 rfl))
  · intro id nodes base entry r hr e w _
    rw [Engine.runBlock, hr]
    exact Ensures.throw
  · -- The cursor ends here, at the instance waiting on `q`.
    intro id nodes base entry r frameId index before rest hr hid hempty ih e w hen
    rw [Engine.runBlock, hr]
    simp only [hid, hempty, if_true]
    obtain ⟨-, hval, y, hends, ha⟩ := hen.2 r rfl
    subst hval
    have hrest : rest = [] := List.isEmpty_iff.1 hempty
    rw [hr, hrest] at hends
    have hy : frameId = y := Frame.endsAt_singleton hends
    have hfid : frameId = id := by simpa using hid
    rw [← hy, hfid] at ha
    refine Ensures.next (completePausedStep_spec eng id r.value e w) fun _ e₁ w₁ h₁ => ?_
    obtain ⟨i, r', t, hi, hr', rfl⟩ := h₁
    exact ih _ w₁ (.fresh (Execution.completes_awaited ha hi hr' t))
  · intro id nodes base entry r frameId index before rest hr hid hempty ih e w hen
    rw [Engine.runBlock, hr]
    simp only [hid, hempty, if_true]
    obtain ⟨hfits, hval, y, hends, ha⟩ := hen.2 r rfl
    rw [hr] at hfits hends
    have hne : rest ≠ [] := fun h => by simp [h] at hempty
    exact ih e w (.along (hfits.node hne) hval (hends.tail hne) ha)
  · intro id nodes base entry r frameId index before rest hr hid e w _
    rw [Engine.runBlock, hr]
    simp only [hid]
    exact Ensures.throw
  · intro id nodes base entry r other tail hother hr e w _
    rw [Engine.runBlock_not_block hother hr]
    exact Ensures.throw
  -- `blockFrom`: the node the cursor goes into, then the nodes after it fresh.
  · intro id nodes base index previous nested hnone e w hen
    rw [Engine.blockFrom_past hnone]
    refine Ensures.pure (hen.completes fun r _ hr => ?_)
    obtain ⟨node, hnode, _⟩ := hr
    rw [hnone] at hnode
    cases hnode
  · intro id nodes base index previous nested node hnode path ihNode ihDone ihAbsorb e w hen
    rw [Engine.blockFrom]
    split
    · rename_i h
      rw [hnode] at h
      cases h
    rename_i node' h
    rw [hnode] at h
    cases h
    have hnested : CompletionEntry q output e nested (Frame.FitsNode node previous) :=
      hen.mono fun fs hfs => by
        obtain ⟨node', hnode', hfits⟩ := hfs
        rw [hnode] at hnode'
        cases hnode'
        exact hfits
    refine Ensures.bind (Ensures.lift fun cancelled _ _ => ?_)
    refine Ensures.ite (fun hc => ?_) (fun _ => ?_)
    · have hfresh : nested = none := by
        simp only [Bool.and_eq_true, Option.isNone_iff_eq_none] at hc
        exact hc.1
      exact Ensures.bind (Ensures.lift fun _ _ _ => Ensures.pure (hen.1 hfresh))
    refine Ensures.next (ihNode e _ hnested) fun o e₁ w₁ h₁ => ?_
    split
    · exact ihDone _ e₁ w₁ (.fresh h₁)
    · exact Ensures.pure h₁
    · refine Ensures.ite (fun _ => ?_) (fun _ => Ensures.pure h₁)
      exact Ensures.bind (Ensures.lift fun _ w₂ _ => ihAbsorb _ e₁ w₂ (.fresh h₁))
    · exact Ensures.pure h₁
  -- `runNode`: a step runs fresh, the other nodes pass the cursor on.
  · intro id index path previous resuming stepId h e w _
    rw [Engine.runNode, if_pos h]
    exact Ensures.throw
  · intro id index path previous resuming stepId h e w hen
    rw [Engine.runNode, if_neg h]
    exact runStep_completes eng q output _ _ path previous e w
      (hen.1 (Option.not_isSome_iff_eq_none.1 h))
  · intro id index path previous resuming stepId params h e w _
    rw [Engine.runNode, if_pos h]
    exact Ensures.throw
  · intro id index path previous resuming stepId params h e w hen
    rw [Engine.runNode, if_neg h]
    exact runStep_completes eng q output _ _ path previous e w
      (hen.1 (Option.not_isSome_iff_eq_none.1 h))
  · intro id index path previous resuming children ih e w hen
    rw [Engine.runNode]
    exact ih e w (hen.mono fun fs hfits => by
      cases hfits with
      | sequence h => exact h)
  · intro id index path previous resuming parts ih e w hen
    rw [Engine.runNode]
    exact ih e w (hen.mono fun fs hfits => by
      cases hfits with
      | loop h => exact h)
  · intro id index path previous resuming arms edge arm target hfound ih e w hen
    rw [Engine.runNode_branch_found rfl hfound]
    exact ih e w (hen.mono fun fs hfits => by
      cases hfits with
      | branch hf h =>
        rw [hfound] at hf
        cases hf
        exact h)
  · intro id index path previous resuming arms edge hnone e w hen
    rw [Engine.runNode_branch_none rfl hnone]
    refine Ensures.bind (Ensures.lift fun _ _ _ => Ensures.pure (hen.completes ?_))
    intro r _ hfits
    cases hfits with
    | branch hf _ =>
      rw [hnone] at hf
      cases hf
  -- `runLoop`: the rounds run in the loop's instance, which finishes after them.
  · intro parentId index path resume e w hen
    rw [Engine.runLoop]
    exact Ensures.pure (hen.completes fun r _ hfits => by cases hfits)
  · intro parentId index path controller actions r hr e w _
    rw [Engine.runLoop, hr]
    exact Ensures.throw
  · intro parentId index path controller actions controllerBase actionsBase r loopId iteration output'
      phase rest hr ih e w hen
    rw [Engine.runLoop, hr]
    obtain ⟨hfits, hval, y, hends, ha⟩ := hen.2 r rfl
    rw [hr] at hfits hends
    have hne : rest ≠ [] := by
      cases hfits with
      | controller hf => exact hf.ne_nil
      | actions _ hf => exact hf.ne_nil
    have hends' : Frame.EndsAt rest y := hends.tail hne
    have hctrl : ∀ r', controllerResume? (some (phase, ⟨rest, r.value⟩)) = some r' →
        Frame.FitsBlock [controller] r'.frames ∧ r'.value = output ∧
          ∃ y, Frame.EndsAt r'.frames y ∧ e.awaited y = some q := by
      intro r' h
      cases hfits with
      | controller hf =>
        cases h
        exact ⟨hf, hval, y, hends', ha⟩
      | actions => cases h
    have hacts : ∀ r', actionsResume? (some (phase, ⟨rest, r.value⟩)) = some r' →
        (Frame.FitsBlock actions r'.frames ∧ (output'.map StepOutput.edge).getD "" = "continue") ∧
          r'.value = output ∧ ∃ y, Frame.EndsAt r'.frames y ∧ e.awaited y = some q := by
      intro r' h
      cases hfits with
      | controller => cases h
      | actions hcont hf =>
        cases h
        exact ⟨⟨hf, hcont⟩, hval, y, hends', ha⟩
    refine Ensures.next (ih e w (fun h => by cases h) hctrl hacts) fun o e₁ w₁ h₁ => ?_
    exact Ensures.next (finishInstance_completes eng q output loopId o e₁ w₁ h₁)
      fun _ _ _ h₂ => Ensures.pure h₂
  · intro parentId index path controller actions r other tail hother hr e w _
    rw [Engine.runLoop_not_loop hother hr]
    exact Ensures.throw
  · intro parentId index path controller actions controllerBase actionsBase _ e w hen
    exact keeps.2.2.2.1 _ _ _ _ _ e w (hen.1 rfl)
  -- `loopRound`: the controller decides, fresh or along the cursor.
  · intro loopId controller actions controllerBase actionsBase path iteration controllerOutput
      pending ihFollow ihCtrl e w hnone hctrl hacts
    rw [Engine.loopRound]
    refine Ensures.bind (Ensures.lift fun cancelled w₁ _ => ?_)
    dsimp only
    refine Ensures.ite (fun has => ?_) (fun hna => ?_)
    · refine ihFollow _ e w₁ (fun h => by rw [h] at has; cases has) fun r h => ?_
      obtain ⟨⟨hf, hcont⟩, hrest⟩ := hacts r h
      exact ⟨⟨hf, _, rfl, hcont⟩, hrest⟩
    have hnoacts : actionsResume? pending = none := Option.not_isSome_iff_eq_none.1 hna
    have hnocur : ∀ r, actionsResume? pending = some r → False := fun r h => by
      rw [hnoacts] at h
      cases h
    refine Ensures.ite (fun hc => ?_) (fun _ => ?_)
    · have hfresh : pending = none := by
        simp only [Bool.and_eq_true, Option.isNone_iff_eq_none] at hc
        exact pending_eq_none hc.1 hnoacts
      exact Ensures.bind (Ensures.lift fun _ w₂ _ => ihFollow _ e w₂
        (fun _ => hnone hfresh) fun r h => (hnocur r h).elim)
    · have hcur : CompletionEntry q output e (controllerResume? pending)
          (Frame.FitsBlock [controller]) :=
        ⟨fun h => hnone (pending_eq_none h hnoacts), hctrl⟩
      refine Ensures.next (ihCtrl e w₁ hcur) fun o e₁ w₂ h₁ => ?_
      split
      · exact ihFollow _ e₁ w₂ (fun _ => h₁) fun r h => (hnocur r h).elim
      · exact ihFollow _ e₁ w₂ (fun _ => h₁) fun r h => (hnocur r h).elim
      · exact ihFollow _ e₁ w₂ (fun _ => h₁) fun r h => (hnocur r h).elim
  -- `loopFollow`: the decision ends the loop, or the actions run in an iteration.
  · intro loopId controller actions controllerBase actionsBase path iteration pending outcome e w
      hnone hacts
    rw [Engine.loopFollow]
    -- Only a `continue` leads into the actions.
    have hno : actionsResume? pending = none := by
      cases h : actionsResume? pending with
      | none => rfl
      | some r =>
        obtain ⟨⟨-, out, hout, -⟩, -⟩ := hacts r h
        cases hout
    exact Ensures.pure (hnone hno)
  · intro loopId controller actions controllerBase actionsBase path iteration pending
      controllerOutput edge hcont hlimit e w hnone _
    rw [Engine.loopFollow, if_pos hcont, dif_pos hlimit]
    simp only [Bool.and_eq_true, Option.isNone_iff_eq_none] at hlimit
    exact Ensures.pure (hnone hlimit.1)
  · intro loopId controller actions controllerBase actionsBase path iteration pending
      controllerOutput edge hcont hlimit hempty ih e w hnone hacts
    rw [Engine.loopFollow, if_pos hcont, dif_neg hlimit]
    dsimp only
    rw [if_pos hempty]
    have hno : actionsResume? pending = none := by
      cases h : actionsResume? pending with
      | none => rfl
      | some r => exact absurd (List.isEmpty_iff.1 hempty) (hacts r h).1.1.nodes_ne_nil
    exact ih e w (fun _ => hnone hno) (fun _ h => by cases h) (fun _ h => by cases h)
  · intro loopId controller actions controllerBase actionsBase path iteration pending
      controllerOutput edge hcont hlimit hempty ihNext ihChild e w hnone hacts
    rw [Engine.loopFollow, if_pos hcont, dif_neg hlimit]
    dsimp only
    rw [if_neg hempty]
    have hcur : CompletionEntry q output e (actionsResume? pending) (Frame.FitsBlock actions) :=
      ⟨hnone, fun r h => ⟨(hacts r h).1.1, (hacts r h).2⟩⟩
    refine Ensures.bind (Ensures.lift fun _ w₁ _ => ?_)
    refine Ensures.next (ihChild e w₁ hcur) fun o e₁ w₂ h₁ => ?_
    split
    · exact ihNext e₁ w₂ (fun _ => h₁) (fun _ h => by cases h) (fun _ h => by cases h)
    · exact Ensures.pure h₁
    · exact Ensures.pure h₁
  · intro loopId controller actions controllerBase actionsBase path iteration pending
      controllerOutput edge hcont hexit e w hnone hacts
    rw [Engine.loopFollow, if_neg hcont, if_pos hexit]
    exact Ensures.pure (hnone (actionsResume?_eq_none (fun r h => (hacts r h).1.2) hcont))
  · intro loopId controller actions controllerBase actionsBase path iteration pending
      controllerOutput edge hcont hexit e w hnone hacts
    rw [Engine.loopFollow, if_neg hcont, if_neg hexit]
    exact Ensures.bind (Ensures.lift fun _ _ _ =>
      Ensures.pure (hnone (actionsResume?_eq_none (fun r h => (hacts r h).1.2) hcont)))
  -- `runChild`: the block runs in the child, which finishes after it.
  · intro parentId candidate branchType iteration nodes base entry r hr e w _
    rw [Engine.runChild, hr]
    exact Ensures.throw
  · intro parentId candidate branchType iteration nodes base entry r frame tail hr ih e w hen
    rw [Engine.runChild, hr]
    refine Ensures.next (ih e w hen) fun o e₁ w₁ h₁ => ?_
    exact Ensures.next (finishInstance_completes eng q output _ o e₁ w₁ h₁) fun _ _ _ h₂ =>
      Ensures.pure h₂
  · intro parentId candidate branchType iteration nodes base entry _ e w hen
    exact keeps.2.2.2.2.2.2 _ _ _ _ _ _ _ none e w (hen.1 rfl)

/-- Driving the walk along a cursor that fits the definition and ends at the
instance waiting on `q` reports `q` completed with the cursor's output. -/
theorem drive_completes (d : FlowDefinition) {e : Execution} {frames : List Frame} {y : String}
    {q : StepRecord} (output : StepOutput) (hfits : Frame.FitsBlock d.nodes frames)
    (hends : Frame.EndsAt frames y) (ha : e.awaited y = some q) (w : World) :
    Run.Ensures (eng.drive eng.runStep d e (some ⟨frames, output⟩)) w fun R _ =>
      R.execution.Completes q output := by
  unfold drive
  refine Run.Ensures.next (Ensures.run ((walk_completes eng q output).1 _ _ _ _ _ e w
    (.along hfits rfl hends ha))) fun p w₁ h₁ => ?_
  obtain ⟨outcome, e₁⟩ := p
  dsimp only at h₁ ⊢
  split
  · -- A suspension reports the execution with its instances marked paused.
    refine (suspend_report eng d e₁ _ _ w₁).mono fun R _ ⟨ticket, hR⟩ => ?_
    rw [hR, ExecutionReport.execution_ofExecution]
    exact h₁.of_stepRecords (Execution.stepRecords_markAll _ _ _)
  · refine Run.Ensures.next (Ensures.run (finishInstance_stepRecords eng _ outcome e₁ w₁))
      fun p w₂ h₂ => ?_
    obtain ⟨⟨⟩, e₂⟩ := p
    dsimp only
    split <;> exact Run.Ensures.after fun _ _ => Run.Ensures.after fun _ _ =>
      Run.Ensures.pure (h₁.of_stepRecords h₂)

/-- A resume from a store in memory of tickets a resume can follow claims the
slot of its identifier, saves a ticket exactly when its report hands one out,
and reports the record the claimed execution waits on completed with the
value resumed with, through the ticket's resume edge. -/
theorem resume_answers (pauseId : String) (value : Value) {w : World}
    {slots : List (String × Option PausedExecution)} (hstore : w.store = .memory slots)
    (hall : ∀ k p, (k, some p) ∈ slots → p.Resumable) :
    Run.Ensures (eng.resume pauseId value) w fun R w' => ∃ p rest slots',
      takeSlot slots pauseId = .ok (p, rest) ∧ w'.store = .memory slots' ∧
      SavesFrom rest R slots' ∧
      ∃ y q, p.execution.awaited y = some q ∧
        R.execution.Completes q (StepOutput.make p.resumeEdge value) := by
  unfold resume
  refine Run.Ensures.next (Run.claimTicket_takes hstore pauseId) fun p w₁ ⟨rest, htake, h₁⟩ => ?_
  have hp := hall pauseId p (mem_takeSlot htake)
  obtain ⟨y, hends, hheld⟩ := hp.paused
  obtain ⟨q, hq⟩ := hheld.awaited
  refine Run.Ensures.after_tame (Run.info_tame _ _) fun _ w₂ h₂ => ?_
  refine Run.Ensures.next (Run.Ensures.forIn_store _ _ (fun e => e.awaited y = some q) ?_ hq)
    fun e w₃ ⟨he, h₃⟩ => ?_
  · -- Marking the cursor's instances running keeps what each waits on.
    intro id e' w' he'
    exact Run.Ensures.after_tame (emitFor_tame eng _ _ _ _ _) fun _ _ h => Run.Ensures.pure
      ⟨(Execution.awaited_modify (g := fun i => { i with status := .running })
        (fun _ => ⟨rfl, rfl⟩) id y).trans he', h⟩
  refine ((drive_saves eng _ (h₃.trans (h₂.trans h₁))).and
    (drive_completes eng _ _ hp.fits hends he w₃)).mono fun R w' ⟨⟨slots', hs', hsaves⟩, hdone⟩ => ?_
  exact ⟨p, rest, slots', htake, hs', hsaves, y, q, hq, hdone⟩

end Engine

/-! ## The ledger of the store -/

/-- What one call, answered with `r`, makes of the slots `slots`: the slots
`slots'` are them with the ticket of a successful resume emptied, then the
ticket the report hands out; a filled slot holds what the store held or the
execution the report is about; the ticket emptied was in the store. -/
structure CallEffect (c : StoreCall) (r : Except FlowError ExecutionReport)
    (slots slots' : List (String × Option PausedExecution)) : Prop where
  view : slotView slots' =
    (slotView slots).map (emptying (r.toOption.bind fun _ => c.resumed?).toList) ++
      (r.toOption.bind (·.pause)).toList.map fun t => (t.pauseId, some t)
  mem : ∀ k p, (k, some p) ∈ slots' → (k, some p) ∈ slots ∨
    r = .ok (ExecutionReport.ofExecution p.definition.name p.execution (some p.ticket))
  claimed : ∀ id ∈ (r.toOption.bind fun _ => c.resumed?).toList, id ∈ slots.map (·.1)

@[simp] theorem emptying_nil : emptying [] = id := by
  funext s
  simp [emptying]

theorem emptying_fst (ids : List String) (s : String × Option PauseTicket) :
    (emptying ids s).1 = s.1 := by
  unfold emptying
  split <;> rfl

namespace CallEffect

variable {c : StoreCall} {slots : List (String × Option PausedExecution)}

/-- A failed call leaves the slots as they were. -/
theorem failed (err : FlowError) : CallEffect c (.error err) slots slots :=
  ⟨by simp [Except.toOption], fun _ _ h => .inl h, fun _ h => by simp [Except.toOption] at h⟩

/-- A run leaves the slots as its report saves them. -/
theorem run {eng : Engine} {d : FlowDefinition} {init : Value} {R : ExecutionReport}
    {slots' : List (String × Option PausedExecution)} (hsaves : SavesFrom slots R slots')
    (hfresh : ∀ t ∈ R.pause.toList, t.pauseId ∉ slots.map (·.1)) :
    CallEffect (.run eng d init) (.ok R) slots slots' := by
  refine ⟨?_, fun k p hp => ?_, fun _ h => by simp [Except.toOption, StoreCall.resumed?] at h⟩
  · simpa [Except.toOption, StoreCall.resumed?] using hsaves.view hfresh
  · rcases hsaves.mem hp with h | h
    · exact .inl h
    · exact .inr (congrArg Except.ok h)

/-- A resume empties the slot it claims, then leaves the slots as its report
saves them. -/
theorem resume {eng : Engine} {id : String} {value : Value} {R : ExecutionReport}
    {p : PausedExecution} {rest slots' : List (String × Option PausedExecution)}
    (htake : takeSlot slots id = .ok (p, rest)) (hsaves : SavesFrom rest R slots')
    (hfresh : ∀ t ∈ R.pause.toList, t.pauseId ∉ slots.map (·.1)) :
    CallEffect (.resume eng id value) (.ok R) slots slots' := by
  have hrest := slotView_takeSlot htake
  have hkeys : rest.map (·.1) = slots.map (·.1) := by
    rw [← slotView_keys, hrest, List.map_map, ← slotView_keys slots]
    exact List.map_congr_left fun s _ => emptying_fst _ s
  refine ⟨?_, fun k q hq => ?_, fun x hx => ?_⟩
  · rw [hsaves.view (hkeys ▸ hfresh), hrest]
    rfl
  · rcases hsaves.mem hq with h | h
    · exact .inl (mem_of_takeSlot_rest htake h)
    · exact .inr (congrArg Except.ok h)
  · have hx : x = id := by simpa [Except.toOption, StoreCall.resumed?] using hx
    subst hx
    exact List.mem_map.2 ⟨_, mem_takeSlot htake, rfl⟩

end CallEffect

/-- What the calls of `h` leave of the slots `slots`: one slot per ticket
handed out, in order, emptied once a resume of it succeeded; every filled slot
holds a ticket a resume can follow, saved with the execution of the report
that handed it out; and only tickets handed out were resumed. -/
structure StoreLedger (h : List Answered) (slots : List (String × Option PausedExecution)) :
    Prop where
  view : slotView slots = expectedView h
  resumable : ∀ k p, (k, some p) ∈ slots → p.Resumable
  issuer : ∀ k p, (k, some p) ∈ slots → ∃ c,
    (c, .ok (ExecutionReport.ofExecution p.definition.name p.execution (some p.ticket))) ∈ h
  accepted : ∀ id ∈ acceptedIds h, id ∈ (issuedTickets h).map (·.pauseId)

namespace StoreLedger

variable {h : List Answered} {slots : List (String × Option PausedExecution)}

theorem nil : StoreLedger [] [] :=
  ⟨rfl, fun _ _ h => absurd h List.not_mem_nil, fun _ _ h => absurd h List.not_mem_nil,
    fun _ h => absurd h List.not_mem_nil⟩

/-- The store holds a slot for each ticket handed out, and no other. -/
theorem keys (hl : StoreLedger h slots) :
    slots.map (·.1) = (issuedTickets h).map (·.pauseId) := by
  rw [← slotView_keys, hl.view, expectedView_keys]

/-- With the identifiers handed out apart, the ticket one more call hands
out has no slot yet. -/
theorem fresh (hl : StoreLedger h slots) {c : StoreCall} {r : Except FlowError ExecutionReport}
    (hfresh : ((issuedTickets (h ++ [(c, r)])).map (·.pauseId)).Nodup) :
    ∀ t ∈ (r.toOption.bind (·.pause)).toList, t.pauseId ∉ slots.map (·.1) := by
  rw [issuedTickets_append, List.map_append, List.nodup_append] at hfresh
  intro t ht hold
  rw [hl.keys] at hold
  exact hfresh.2.2 _ hold _ (List.mem_map_of_mem ht) rfl

/-- One more call keeps the ledger, when the ticket it hands out is new. -/
theorem call (hl : StoreLedger h slots) {c : StoreCall} {r : Except FlowError ExecutionReport}
    {slots' : List (String × Option PausedExecution)} (heff : CallEffect c r slots slots')
    (hres : ∀ k p, (k, some p) ∈ slots' → p.Resumable)
    (hfresh : ((issuedTickets (h ++ [(c, r)])).map (·.pauseId)).Nodup) :
    StoreLedger (h ++ [(c, r)]) slots' := by
  have hnew := hl.fresh hfresh
  have hacc := acceptedIds_append h c r
  refine ⟨?_, hres, fun k p hp => ?_, fun id hid => ?_⟩
  · rw [heff.view, hl.view, expectedView_append]
    intro t ht hin
    rw [hacc, List.mem_append] at hin
    rcases hin with hin | hin
    · exact hnew t ht (by rw [hl.keys]; exact hl.accepted _ hin)
    · exact hnew t ht (heff.claimed _ hin)
  · rcases heff.mem k p hp with hp | hr
    · obtain ⟨c', hc'⟩ := hl.issuer k p hp
      exact ⟨c', List.mem_append_left _ hc'⟩
    · exact ⟨c, List.mem_append_right _ (by rw [hr]; exact List.mem_singleton_self _)⟩
  · rw [issuedTickets_append, List.map_append]
    rw [hacc, List.mem_append] at hid
    rcases hid with hid | hid
    · exact List.mem_append_left _ (hl.accepted _ hid)
    · exact List.mem_append_left _ (by rw [← hl.keys]; exact heff.claimed _ hid)

/-- What claiming an identifier finds, read off the ledger: nothing for an
identifier never handed out, an empty slot for one already resumed, and the
ticket handed out under it otherwise. -/
theorem takeSlot_cases (hl : StoreLedger h slots) (id : String) :
    (id ∉ (issuedTickets h).map (·.pauseId) → takeSlot slots id = .error (.unknownPauseId id)) ∧
    (id ∈ acceptedIds h → takeSlot slots id = .error (.alreadyResumed id)) ∧
    (id ∈ (issuedTickets h).map (·.pauseId) → id ∉ acceptedIds h →
      ∃ p rest, takeSlot slots id = .ok (p, rest) ∧ p.ticket.pauseId = id) := by
  have hfind := find?_slotView slots id
  rw [hl.view, find?_expectedView] at hfind
  have hissued : id ∈ (issuedTickets h).map (·.pauseId) ↔
      ((issuedTickets h).find? (·.pauseId == id)).isSome := by
    rw [List.find?_isSome, List.mem_map]
    simp
  unfold takeSlot
  rcases hs : slots.find? (·.1 == id) with _ | ⟨k, _ | p⟩ <;> rw [hs] at hfind ⊢
  · -- No slot: the identifier was never handed out.
    rw [Option.map_none, Option.map_eq_none_iff] at hfind
    have hout : id ∉ (issuedTickets h).map (·.pauseId) := by
      rw [hissued, hfind]
      exact Bool.false_ne_true
    exact ⟨fun _ => rfl, fun hacc => absurd (hl.accepted _ hacc) hout, fun hin => absurd hin hout⟩
  · -- An empty slot: the ticket was handed out, then resumed.
    obtain ⟨t, ht, hview⟩ := Option.map_eq_some_iff.1 hfind
    have htid : t.pauseId = id := by simpa using List.find?_some ht
    have hacc : id ∈ acceptedIds h := by
      by_contra hnot
      rw [htid, if_neg hnot] at hview
      simp at hview
    have hin : id ∈ (issuedTickets h).map (·.pauseId) := by
      rw [hissued, ht]
      rfl
    exact ⟨fun hout => absurd hin hout, fun _ => rfl, fun _ hnot => absurd hacc hnot⟩
  · -- A filled slot: the ticket handed out, not resumed yet.
    obtain ⟨t, ht, hview⟩ := Option.map_eq_some_iff.1 hfind
    have htid : t.pauseId = id := by simpa using List.find?_some ht
    have hnot : id ∉ acceptedIds h := by
      intro hacc
      rw [htid, if_pos hacc] at hview
      simp at hview
    have hticket : t = p.ticket := by
      rw [htid, if_neg hnot] at hview
      simp only [Option.map_some, Prod.mk.injEq, Option.some.injEq] at hview
      exact hview.2
    have hin : id ∈ (issuedTickets h).map (·.pauseId) := by
      rw [hissued, ht]
      rfl
    exact ⟨fun hout => absurd hin hout, fun hacc => absurd hacc hnot,
      fun _ _ => ⟨p, _, rfl, hticket ▸ htid⟩⟩

end StoreLedger

/-- One call on a store in memory of tickets a resume can follow, whose report
hands out a ticket the store has no slot for, changes the slots as
`CallEffect` says and leaves only tickets a resume can follow. -/
theorem StoreCall.effect (c : StoreCall) {w w' : World}
    {slots : List (String × Option PausedExecution)} (hstore : w.store = .memory slots)
    (hall : ∀ k p, (k, some p) ∈ slots → p.Resumable) {r : Except FlowError ExecutionReport}
    (hc : c.perform.run.run w = (r, w'))
    (hfresh : ∀ t ∈ (r.toOption.bind (·.pause)).toList, t.pauseId ∉ slots.map (·.1)) :
    ∃ slots', w'.store = .memory slots' ∧ CallEffect c r slots slots' ∧
      ∀ k p, (k, some p) ∈ slots' → p.Resumable := by
  have hw : w.Resumable := ⟨slots, hstore, hall⟩
  have hres : ∀ slots', w'.store = .memory slots' → ∀ k p, (k, some p) ∈ slots' → p.Resumable := by
    obtain ⟨slots'', hs'', hall''⟩ : w'.Resumable := by
      cases c with
      | run eng d init => exact eng.run_resumable d init hw hc
      | resume eng id value => exact eng.resume_resumable id value hw hc
    intro slots' hs'
    obtain rfl := PauseStore.memory.inj (hs'.symm.trans hs'')
    exact hall''
  cases c with
  | run eng d init =>
    rcases r with err | R
    · exact ⟨slots, eng.run_fails_keeping_store d init hstore hc, .failed err, hall⟩
    · obtain ⟨slots', hs', hsaves⟩ := eng.run_saves d init hstore R w' hc
      exact ⟨slots', hs', .run hsaves hfresh, hres slots' hs'⟩
  | resume eng id value =>
    rcases r with err | R
    · obtain ⟨-, rfl⟩ := eng.resume_fails_at_slot id value hstore hall err w' hc
      exact ⟨slots, hstore, .failed err, hall⟩
    · obtain ⟨p, rest, slots', htake, hs', hsaves, -⟩ :=
        eng.resume_answers id value hstore hall R w' hc
      exact ⟨slots', hs', .resume htake hsaves hfresh, hres slots' hs'⟩

/-- Every world that calls lead to from an empty store in memory keeps the
ledger of their answers, when the tickets handed out are apart. -/
theorem World.Calls.ledger {w₀ w : World} {h : List Answered} (h₀ : w₀.store = .memory [])
    (hcalls : w₀.Calls h w) (hfresh : ((issuedTickets h).map (·.pauseId)).Nodup) :
    ∃ slots, w.store = .memory slots ∧ StoreLedger h slots := by
  induction hcalls with
  | nil => exact ⟨[], h₀, .nil⟩
  | @snoc h w w' c r _ hc ih =>
    have hpre : ((issuedTickets h).map (·.pauseId)).Nodup := by
      rw [issuedTickets_append, List.map_append] at hfresh
      exact (List.nodup_append.1 hfresh).1
    obtain ⟨slots, hstore, hl⟩ := ih hpre
    obtain ⟨slots', hs', heff, hres⟩ := c.effect hstore hl.resumable hc (hl.fresh hfresh)
    exact ⟨slots', hs', hl.call heff hres hfresh⟩

/-! ## Waiting tickets -/

/-- A store in memory lists the tickets of its filled slots, oldest first. -/
theorem pendingTickets_memory {w : World} {slots : List (String × Option PausedExecution)}
    (hstore : w.store = .memory slots) :
    Run.pendingTickets.run.run w =
      (.ok (oldestFirst (slots.filterMap fun s => s.2.map (·.ticket))), w) := by
  cases w
  subst hstore
  rfl

theorem oldestFirst_perm (ts : List PauseTicket) : (oldestFirst ts).Perm ts :=
  List.mergeSort_perm _ _

theorem oldestFirst_sorted (ts : List PauseTicket) :
    (oldestFirst ts).Pairwise fun a b => a.createdAt.sortKey ≤ b.createdAt.sortKey := by
  refine (@List.pairwise_mergeSort _
    (fun a b : PauseTicket => decide (a.createdAt.sortKey ≤ b.createdAt.sortKey))
    (fun a b c hab hbc => ?_) (fun a b => ?_) _).imp fun hab => by simpa using hab
  · simp only [decide_eq_true_eq] at hab hbc ⊢
    omega
  · simp only [Bool.or_eq_true, decide_eq_true_eq]
    omega

/-! ## Each ticket is claimed once -/

/-- Over any calls of runs and resumes, by any engines, on one store in
memory, empty at first, whose reports hand out tickets under identifiers
apart: the store lists the tickets handed out and not yet claimed, oldest
first; a resume of such a ticket succeeds, and its report holds the record the
issuing report left paused, completed with the value resumed with; a resume of
a ticket already claimed fails as `alreadyResumed`, one of a ticket never
handed out as `unknownPauseId`, and both leave the world as it was. -/
theorem tickets_are_claimed_once {w₀ w : World} {h : List Answered}
    (h₀ : w₀.store = .memory []) (hcalls : w₀.Calls h w)
    (hfresh : ((issuedTickets h).map (·.pauseId)).Nodup) :
    (∃ ts, Run.pendingTickets.run.run w = (.ok ts, w) ∧
      ts.Perm ((issuedTickets h).filter (·.pauseId ∉ acceptedIds h)) ∧
      ts.Pairwise fun a b => a.createdAt.sortKey ≤ b.createdAt.sortKey) ∧
    ∀ (eng : Engine) (id : String) (value : Value),
      (id ∈ (issuedTickets h).map (·.pauseId) → id ∉ acceptedIds h →
        ∃ R₀ R w', (∃ c, (c, .ok R₀) ∈ h) ∧ R₀.pause.map (·.pauseId) = some id ∧
          (eng.resume id value).run.run w = (.ok R, w') ∧
          ∃ q ∈ R₀.steps, q.status = .paused ∧ ∃ edge t,
            q.completedAt (StepOutput.make edge value) t ∈ R.steps) ∧
      (id ∈ acceptedIds h → (eng.resume id value).run.run w = (.error (.alreadyResumed id), w)) ∧
      (id ∉ (issuedTickets h).map (·.pauseId) →
        (eng.resume id value).run.run w = (.error (.unknownPauseId id), w)) := by
  obtain ⟨slots, hstore, hl⟩ := hcalls.ledger h₀ hfresh
  refine ⟨⟨_, pendingTickets_memory hstore, ?_, oldestFirst_sorted _⟩, fun eng id value => ?_⟩
  · rw [← waiting_of_view hl.view]
    exact oldestFirst_perm _
  obtain ⟨hunknown, halready, hwaiting⟩ := hl.takeSlot_cases id
  have hfail := eng.resume_fails_at_slot id value hstore hl.resumable
  have hanswers := eng.resume_answers id value hstore hl.resumable
  -- The resume answers as the slot of its identifier says.
  obtain ⟨r, w', hrun⟩ : ∃ r w', (eng.resume id value).run.run w = (r, w') := ⟨_, _, rfl⟩
  rw [hrun]
  refine ⟨fun hin hnot => ?_, fun hacc => ?_, fun hout => ?_⟩
  · obtain ⟨p, rest, htake, hid⟩ := hwaiting hin hnot
    rcases r with err | R
    · rw [(hfail err w' hrun).1] at htake
      cases htake
    obtain ⟨p', rest', slots', htake', -, -, y, q, ha, t, hmem⟩ := hanswers R w' hrun
    rw [htake] at htake'
    cases htake'
    obtain ⟨c, hc⟩ := hl.issuer id p (mem_takeSlot htake)
    obtain ⟨hq, hpaused⟩ := Execution.awaited_mem ha
    refine ⟨_, R, w', ⟨c, hc⟩, by rw [← hid]; rfl, rfl, q, ExecutionReport.mem_steps.2 hq, hpaused,
      p.resumeEdge, t, ExecutionReport.mem_steps.2 hmem⟩
  · rcases r with err | R
    · obtain ⟨htake, rfl⟩ := hfail err w' hrun
      rw [halready hacc] at htake
      cases htake
      rfl
    · obtain ⟨p, rest, -, htake, -⟩ := hanswers R w' hrun
      rw [halready hacc] at htake
      cases htake
  · rcases r with err | R
    · obtain ⟨htake, rfl⟩ := hfail err w' hrun
      rw [hunknown hout] at htake
      cases htake
      rfl
    · obtain ⟨p, rest, -, htake, -⟩ := hanswers R w' hrun
      rw [hunknown hout] at htake
      cases htake

/-- A run that suspends inside a sub-flow hands out a ticket, and its resume
suspends again under a second one. After these two calls the store lists only
the second ticket, and a second resume of the first is refused as already
resumed, leaving the world as it was. -/
theorem claimed_ticket_is_refused_after_its_resume :
    ∃ (h : List Answered) (w : World) (t₁ t₂ : PauseTicket),
      ({} : World).store = .memory [] ∧ World.Calls {} h w ∧
      ((issuedTickets h).map (·.pauseId)).Nodup ∧
      (issuedTickets h).map (·.pauseId) = [t₁.pauseId, t₂.pauseId] ∧ acceptedIds h = [t₁.pauseId] ∧
      (∃ ts, Run.pendingTickets.run.run w = (.ok ts, w) ∧ ts = [t₂]) ∧
      (askingEngine.resume t₁.pauseId (.str "w")).run.run w =
        (.error (.alreadyResumed t₁.pauseId), w) := by
  obtain ⟨R₁, w₁, t₁, -, R₂, w₂, t₂, hR₁, ht₁, -, -, hR₂, -, ht₂, -, hfresh⟩ := askTwice_session
  have hcalls : World.Calls {} ([] ++ [(.run askingEngine askTwiceDefinition .null, .ok R₁)] ++
      [(.resume askingEngine t₁.pauseId (.str "v"), .ok R₂)]) w₂ := .snoc _ (.snoc _ .nil hR₁) hR₂
  have hissued : issuedTickets ([] ++ [(.run askingEngine askTwiceDefinition .null, .ok R₁)] ++
      [(.resume askingEngine t₁.pauseId (.str "v"), .ok R₂)]) = [t₁, t₂] := by
    rw [issuedTickets_append, issuedTickets_append]
    simp [issuedTickets, Except.toOption, ht₁, ht₂]
  have haccepted : acceptedIds ([] ++ [(.run askingEngine askTwiceDefinition .null, .ok R₁)] ++
      [(.resume askingEngine t₁.pauseId (.str "v"), .ok R₂)]) = [t₁.pauseId] := by
    rw [acceptedIds_append, acceptedIds_append]
    simp [acceptedIds, Except.toOption, StoreCall.resumed?]
  have hnodup : ([t₁, t₂].map (·.pauseId)).Nodup := by
    simp [Ne.symm hfresh]
  rw [← hissued] at hnodup
  obtain ⟨⟨ts, hts, hperm, -⟩, hresume⟩ := tickets_are_claimed_once rfl hcalls hnodup
  have hwaiting : (issuedTickets ([] ++ [(.run askingEngine askTwiceDefinition .null, .ok R₁)] ++
      [(.resume askingEngine t₁.pauseId (.str "v"), .ok R₂)])).filter
        (·.pauseId ∉ acceptedIds ([] ++ [(.run askingEngine askTwiceDefinition .null, .ok R₁)] ++
          [(.resume askingEngine t₁.pauseId (.str "v"), .ok R₂)])) = [t₂] := by
    rw [hissued, haccepted]
    simp [hfresh]
  rw [hwaiting, List.perm_singleton] at hperm
  refine ⟨_, w₂, t₁, t₂, rfl, hcalls, hnodup, by rw [hissued]; rfl, haccepted, ⟨ts, hts, hperm⟩,
    (hresume askingEngine t₁.pauseId (.str "w")).2.1 (by rw [haccepted]; exact List.mem_singleton_self _)⟩

end Flowline
