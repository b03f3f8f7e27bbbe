import Flowline.Proofs.Invariant
import Flowline.Proofs.Statuses
set_option autoImplicit false

/-!
# Step records in run order

Every step record is numbered, when it is added, by the number of records
the execution holds (`Execution.record`), and a resume completes the paused
record in place. So the records of an execution are numbered `0, 1, …, n - 1`,
each number once (`Numbered`), and a record numbered after another started
later, no record starting after the world's clock (`Chronological`): a step
reads the clock first thing, and nothing in the engine turns the clock back
(`Forward`). The walk keeps both (`Engine.walk_recordsInOrder`), being an
invariant of its primitives in the sense of `Maintains`.

The records themselves are read as lists up to permutation: adding a record
appends it (`Execution.stepRecords_record`), completing the paused one
replaces it (`Execution.stepRecords_complete`), and everything else keeps
them (`Execution.stepRecords_modify_of_steps`).
-/

namespace Flowline

/-! ## Changing the last element that matches -/

section ModifyLast

variable {α : Type} {p : α → Bool} (f : α → α)

/-- Changing the first matching element of a list splits it there. -/
theorem modifyLast.go_split :
    ∀ l : List α, (∃ a ∈ l, p a = true) → ∃ us a vs, l = us ++ a :: vs ∧ p a = true ∧
      (∀ u ∈ us, p u = false) ∧ modifyLast.go p f l = us ++ f a :: vs
  | [], h => by simp at h
  | x :: rest, h => by
    by_cases hx : p x = true
    · exact ⟨[], x, rest, rfl, hx, by simp, by simp [modifyLast.go, hx]⟩
    · have hrest : ∃ a ∈ rest, p a = true := by
        obtain ⟨a, ha, hpa⟩ := h
        rcases List.mem_cons.1 ha with rfl | ha
        · exact absurd hpa hx
        · exact ⟨a, ha, hpa⟩
      obtain ⟨us, a, vs, rfl, hpa, hus, hgo⟩ := modifyLast.go_split rest hrest
      refine ⟨x :: us, a, vs, rfl, hpa, ?_, ?_⟩
      · intro u hu
        rcases List.mem_cons.1 hu with rfl | hu
        · simpa using hx
        · exact hus u hu
      · simp [modifyLast.go, hx, hgo]

/-- Changing the last matching element of a list splits it there: nothing
after it matches. -/
theorem modifyLast_split {l : List α} (h : ∃ a ∈ l, p a = true) :
    ∃ xs a ys, l = xs ++ a :: ys ∧ p a = true ∧ (∀ y ∈ ys, p y = false) ∧
      modifyLast p f l = xs ++ f a :: ys := by
  have hrev : ∃ a ∈ l.reverse, p a = true := by
    obtain ⟨a, ha, hpa⟩ := h
    exact ⟨a, List.mem_reverse.2 ha, hpa⟩
  obtain ⟨us, a, vs, hl, hpa, hus, hgo⟩ := modifyLast.go_split f l.reverse hrev
  refine ⟨vs.reverse, a, us.reverse, ?_, hpa, fun y hy => hus y (List.mem_reverse.1 hy), ?_⟩
  · rw [← List.reverse_reverse l, hl]
    simp
  · rw [modifyLast, hgo]
    simp

/-- The last matching element is the first one of the reversed list. -/
theorem find?_reverse_split {xs ys : List α} {a : α} (hpa : p a = true)
    (hys : ∀ y ∈ ys, p y = false) : (xs ++ a :: ys).reverse.find? p = some a := by
  have hnone : ys.reverse.find? p = none :=
    List.find?_eq_none.2 fun y hy => by simp [hys y (List.mem_reverse.1 hy)]
  simp [List.find?_append, hnone, hpa]

end ModifyLast

namespace Execution

/-! ## The records of an execution -/

theorem stepCount_eq_length (e : Execution) : e.stepCount = e.stepRecords.length := by
  -- The count folds the lengths the flattened list adds up.
  have h : ∀ (l : List FlowInstance) (n : Nat),
      l.foldl (fun n i => n + i.steps.length) n = n + (l.flatMap (·.steps)).length := by
    intro l
    induction l with
    | nil => simp
    | cons i rest ih =>
      intro n
      rw [List.foldl_cons, ih, List.flatMap_cons, List.length_append]
      omega
  rw [stepCount, stepRecords, h, Nat.zero_add]

/-- A change that keeps every instance's records keeps the records. -/
theorem stepRecords_modify_of_steps (f : FlowInstance → FlowInstance)
    (hf : ∀ i, (f i).steps = i.steps) (e : Execution) (id : String) :
    (e.modify id f).stepRecords = e.stepRecords := by
  simp only [stepRecords, modify, List.flatMap_def]
  rw [map_modifyLast (fun i => { f i with id := i.id }) FlowInstance.steps hf]

/-- Changing instance `id`, which exists, changes its records in place: the
instance changed is the one `get?` finds. -/
theorem stepRecords_modify {e : Execution} {id : String} (h : e.has id = true)
    (f : FlowInstance → FlowInstance) :
    ∃ xs i ys, e.get? id = some i ∧ e.stepRecords = xs ++ i.steps ++ ys ∧
      (e.modify id f).stepRecords = xs ++ (f i).steps ++ ys := by
  have hex : ∃ a ∈ e.instances, (a.id == id) = true := by
    rw [has_eq_any] at h
    exact List.any_eq_true.1 h
  obtain ⟨xs, i, ys, hl, hid, hys, hmod⟩ := modifyLast_split (fun i => { f i with id := i.id }) hex
  refine ⟨xs.flatMap (·.steps), i, ys.flatMap (·.steps), ?_, ?_, ?_⟩
  · rw [get?_eq_find, hl]
    exact find?_reverse_split hid hys
  · simp [stepRecords, hl]
  · simp [stepRecords, modify, hmod]

/-- Adding a record appends it, numbered by the records already there. -/
theorem stepRecords_record {e : Execution} {id : String} (h : e.has id = true)
    (r : StepRecord) :
    (e.record id r).stepRecords.Perm (e.stepRecords ++ [{ r with sequence := e.stepCount }]) := by
  obtain ⟨xs, i, ys, -, hold, hnew⟩ := stepRecords_modify h
    fun i => { i with steps := i.steps ++ [{ r with sequence := e.stepCount }] }
  rw [record, hnew, hold]
  simp only [List.append_assoc]
  exact List.Perm.append_left _ (List.Perm.append_left _ List.perm_append_comm)

/-- Completing the last paused record of an instance replaces it. -/
theorem stepRecords_complete {e : Execution} {id : String} {i : FlowInstance} {r : StepRecord}
    (hi : e.get? id = some i) (hr : i.steps.reverse.find? (·.status == .paused) = some r)
    (r' : StepRecord) :
    ∃ rest, e.stepRecords.Perm (r :: rest) ∧
      (e.modify id fun j =>
        { j with steps := modifyLast (·.status == .paused) (fun _ => r') j.steps }).stepRecords.Perm
        (r' :: rest) := by
  have hhas : e.has id = true := by
    obtain ⟨hm, hid⟩ := mem_of_get? hi
    rw [← hid]
    exact has_of_mem hm
  obtain ⟨xs, i', ys, hi', hold, hnew⟩ := stepRecords_modify hhas
    fun j => { j with steps := modifyLast (·.status == .paused) (fun _ => r') j.steps }
  rw [hi] at hi'
  cases hi'
  -- Inside the instance, the record changed is the last paused one, `r`.
  have hpaused := List.find?_some hr
  have hex : ∃ a ∈ i.steps, (a.status == .paused) = true :=
    ⟨r, List.mem_reverse.1 (List.mem_of_find?_eq_some hr), hpaused⟩
  obtain ⟨as, q, bs, hsteps, hq, hbs, hmod⟩ := modifyLast_split (fun _ => r') hex
  have hqr : q = r := by
    rw [hsteps, find?_reverse_split (p := fun x : StepRecord => x.status == .paused) hq hbs] at hr
    exact Option.some.inj hr
  subst hqr
  refine ⟨xs ++ as ++ bs ++ ys, ?_, ?_⟩
  · rw [hold, hsteps]
    simpa using @List.perm_middle _ q (xs ++ as) (bs ++ ys)
  · rw [hnew]
    simp only [hmod]
    simpa using @List.perm_middle _ r' (xs ++ as) (bs ++ ys)

/-- Opening an instance adds one with no records. -/
theorem stepRecords_spawn {e e' : Execution} {parentId id : String} {branchType : BranchType}
    {iteration : Option Nat} {now : Timestamp} {child : FlowInstance}
    (h : e.spawn parentId id branchType iteration now = .ok child e') :
    e'.stepRecords = e.stepRecords := by
  obtain ⟨_, _, _, rfl, rfl⟩ := spawn_eq_ok h
  simp [stepRecords]

theorem stepRecords_finish (e : Execution) (id : String) (status : InstanceStatus)
    (result : Option Value) (error : Option Failure) (t : Timestamp) :
    (e.finish id status result error t).stepRecords = e.stepRecords :=
  stepRecords_modify_of_steps
    (fun i => { i with status := status, result := result, error := error, finishedAt := some t })
    (fun _ => rfl) e id

/-- Marking instances with a status keeps the records. -/
theorem stepRecords_markAll (ids : List String) (s : InstanceStatus) (e : Execution) :
    (markAll ids s e).stepRecords = e.stepRecords := by
  induction ids generalizing e with
  | nil => rfl
  | cons id rest ih =>
    simp only [markAll, List.foldl_cons] at ih ⊢
    rw [ih, stepRecords_modify_of_steps (fun i => { i with status := s }) (fun _ => rfl)]

/-- Editing states keeps the records. -/
theorem Edits.stepRecords {e e' : Execution} (h : e.Edits e') : e'.stepRecords = e.stepRecords := by
  induction h with
  | refl => rfl
  | state id v _ ih => rw [stepRecords_modify_of_steps (fun i => { i with state := v i }) (fun _ => rfl), ih]

end Execution

/-! ## Numbered and chronological records -/

/-- Records numbered `0, 1, …, n - 1`, each number once. -/
def Numbered (l : List StepRecord) : Prop :=
  (l.map (·.sequence)).Perm (List.range l.length)

namespace Numbered

variable {l l' : List StepRecord}

theorem perm (h : Numbered l) (hp : l.Perm l') : Numbered l' := by
  unfold Numbered
  rw [← hp.length_eq]
  exact (hp.map _).symm.trans h

/-- A record numbered by the records before it keeps them numbered. -/
theorem push (h : Numbered l) {r : StepRecord} (hr : r.sequence = l.length) :
    Numbered (l ++ [r]) := by
  unfold Numbered
  rw [List.map_append, List.length_append, List.length_singleton, List.range_succ]
  exact h.append (by simp [hr])

/-- A record replaced by one with its number keeps them numbered. -/
theorem replace {r r' : StepRecord} {rest : List StepRecord} (h : Numbered (r :: rest))
    (hs : r'.sequence = r.sequence) : Numbered (r' :: rest) := by
  unfold Numbered at h ⊢
  simpa [hs] using h

theorem lt_length (h : Numbered l) {r : StepRecord} (hr : r ∈ l) : r.sequence < l.length := by
  have hmem : r.sequence ∈ List.range l.length := h.mem_iff.1 (List.mem_map_of_mem hr)
  exact List.mem_range.1 hmem

end Numbered

/-- Records that started in the order of their numbers, none after `clock`. -/
structure Chronological (l : List StepRecord) (clock : Nat) : Prop where
  started : ∀ r ∈ l, r.startedAt.nanos ≤ clock
  ordered : ∀ r ∈ l, ∀ r' ∈ l, r.sequence < r'.sequence → r.startedAt.nanos < r'.startedAt.nanos

namespace Chronological

variable {l l' : List StepRecord} {clock : Nat}

theorem perm (h : Chronological l clock) (hp : l.Perm l') : Chronological l' clock :=
  ⟨fun r hr => h.started r (hp.mem_iff.2 hr),
    fun r hr r' hr' => h.ordered r (hp.mem_iff.2 hr) r' (hp.mem_iff.2 hr')⟩

theorem later (h : Chronological l clock) {clock' : Nat} (hc : clock ≤ clock') :
    Chronological l clock' :=
  ⟨fun r hr => le_trans (h.started r hr) (by exact_mod_cast hc), h.ordered⟩

/-- A record numbered after every record there, and started after the
clock, keeps them chronological. -/
theorem push (h : Chronological l clock) (hn : Numbered l) {r : StepRecord}
    (hr : r.sequence = l.length) (hstart : clock < r.startedAt.nanos) {clock' : Nat}
    (hclock : r.startedAt.nanos ≤ clock') (hc : clock ≤ clock') :
    Chronological (l ++ [r]) clock' := by
  refine ⟨fun x hx => ?_, fun x hx y hy hxy => ?_⟩
  · rcases List.mem_append.1 hx with hx | hx
    · exact (h.later hc).started x hx
    · rw [List.mem_singleton.1 hx]
      exact hclock
  · rcases List.mem_append.1 hx with hx | hx <;> rcases List.mem_append.1 hy with hy | hy
    · exact h.ordered x hx y hy hxy
    · rw [List.mem_singleton.1 hy]
      exact lt_of_le_of_lt (h.started x hx) hstart
    · -- Nothing there is numbered after the new record.
      rw [List.mem_singleton.1 hx, hr] at hxy
      exact absurd (hn.lt_length hy) (by omega)
    · rw [List.mem_singleton.1 hx, List.mem_singleton.1 hy] at hxy
      exact absurd hxy (Nat.lt_irrefl _)

/-- A record replaced by one with its number and start keeps them
chronological. -/
theorem replace {r r' : StepRecord} {rest : List StepRecord} (h : Chronological (r :: rest) clock)
    (hs : r'.sequence = r.sequence) (ht : r'.startedAt = r.startedAt) :
    Chronological (r' :: rest) clock := by
  -- Every statement about `r'` is one about `r`.
  have hmem : ∀ x ∈ r' :: rest, ∃ y ∈ r :: rest, x.sequence = y.sequence ∧
      x.startedAt = y.startedAt := by
    intro x hx
    rcases List.mem_cons.1 hx with rfl | hx
    · exact ⟨r, List.mem_cons_self, hs, ht⟩
    · exact ⟨x, List.mem_cons_of_mem _ hx, rfl, rfl⟩
  refine ⟨fun x hx => ?_, fun x hx y hy hxy => ?_⟩
  · obtain ⟨x', hx', -, hxt⟩ := hmem x hx
    rw [hxt]
    exact h.started x' hx'
  · obtain ⟨x', hx', hxs, hxt⟩ := hmem x hx
    obtain ⟨y', hy', hys, hyt⟩ := hmem y hy
    rw [hxt, hyt]
    exact h.ordered x' hx' y' hy' (by rw [← hxs, ← hys]; exact hxy)

end Chronological

/-- The records of `e` are numbered and started in the order of their
numbers, none after the world's clock. -/
def RecordsInOrder (e : Execution) (w : World) : Prop :=
  Numbered e.stepRecords ∧ Chronological e.stepRecords w.clock

/-- Records kept as they are, under a clock that went forward, stay in
order. -/
theorem RecordsInOrder.of_stepRecords {e e' : Execution} {w w' : World} (h : RecordsInOrder e w)
    (he : e'.stepRecords = e.stepRecords) (hc : w.clock ≤ w'.clock) : RecordsInOrder e' w' := by
  rw [RecordsInOrder, he]
  exact ⟨h.1, h.2.later hc⟩

theorem RecordsInOrder.quiet {e : Execution} {w w' : World} (h : RecordsInOrder e w)
    (hq : w.Quiet w') : RecordsInOrder e w' :=
  h.of_stepRecords rfl hq.clock

/-- The records of an execution just created, which has none, are in
order. -/
theorem recordsInOrder_create (rootId : String) (seed : Value) (now : Timestamp) (w : World) :
    RecordsInOrder (Execution.create rootId seed now) w := by
  have hnil : (Execution.create rootId seed now).stepRecords = [] := rfl
  rw [RecordsInOrder, hnil]
  exact ⟨List.Perm.refl _, ⟨fun _ h => absurd h List.not_mem_nil, fun _ h => absurd h List.not_mem_nil⟩⟩

/-! ## Nothing turns the clock back -/

/-- `r` never turns the world's clock back. -/
def Run.Forward {α : Type} (r : Run α) : Prop :=
  ∀ w, Run.Ensures r w fun _ w' => w.clock ≤ w'.clock

namespace Run.Forward

variable {α β : Type}

theorem of_quiet {r : Run α} (h : Run.Quiet r) : Run.Forward r :=
  fun w => (h w).2.mono fun _ _ hq => hq.clock

theorem bind {m : Run α} {f : α → Run β} (hm : Run.Forward m) (hf : ∀ a, Run.Forward (f a)) :
    Run.Forward (m >>= f) :=
  fun w => Run.Ensures.next (hm w) fun a w₁ h₁ => (hf a w₁).mono fun _ _ h₂ => le_trans h₁ h₂

theorem forIn {γ : Type} (l : List γ) (init : β) {body : γ → β → Run (ForInStep β)}
    (h : ∀ x b, Run.Forward (body x b)) : Run.Forward (ForIn.forIn l init body) := by
  induction l generalizing init with
  | nil => exact of_quiet (Run.Quiet.pure init)
  | cons x rest ih =>
    simp only [List.forIn_cons]
    refine bind (h x init) fun step => ?_
    cases step with
    | done b => exact of_quiet (Run.Quiet.pure b)
    | yield b => exact ih b

end Run.Forward

/-- `m` never turns the world's clock back. -/
def Forward {σ α : Type} (m : StateT σ Run α) : Prop :=
  ∀ s w, Ensures m s w fun _ _ w' => w.clock ≤ w'.clock

namespace Forward

variable {σ α β : Type}

theorem pure (a : α) : Forward (pure a : StateT σ Run α) :=
  fun _ _ => Ensures.pure (Nat.le_refl _)

theorem bind {m : StateT σ Run α} {f : α → StateT σ Run β} (hm : Forward m)
    (hf : ∀ a, Forward (f a)) : Forward (m >>= f) :=
  fun s w => Ensures.next (hm s w) fun a s₁ w₁ h₁ => (hf a s₁ w₁).mono fun _ _ _ h₂ => le_trans h₁ h₂

theorem get : Forward (get : StateT σ Run σ) := fun _ _ => Ensures.get (Nat.le_refl _)

theorem set (s' : σ) : Forward (set s' : StateT σ Run PUnit) := fun _ _ => Ensures.set (Nat.le_refl _)

theorem lift {r : Run α} (h : Run.Forward r) : Forward (liftM r : StateT σ Run α) :=
  fun _ w => Ensures.lift (h w)

theorem quiet {r : Run α} (h : Run.Quiet r) : Forward (liftM r : StateT σ Run α) :=
  lift (Run.Forward.of_quiet h)

theorem throw (x : FlowError) : Forward (throw x : StateT σ Run α) := fun _ _ => Ensures.throw

theorem ite {c : Prop} [Decidable c] {m₁ m₂ : StateT σ Run α} (h₁ : Forward m₁) (h₂ : Forward m₂) :
    Forward (if c then m₁ else m₂) := by
  split
  · exact h₁
  · exact h₂

end Forward

theorem Run.now_spec (w : World) :
    Run.Ensures Run.now w fun t w' => t.nanos = ↑(w.clock + 1000) ∧ w'.clock = w.clock + 1000 := by
  intro t w' h
  cases h
  exact ⟨rfl, rfl⟩

namespace Engine

variable (eng : Engine)

/-! ## The walk's primitives keep the clock going forward -/

theorem emitFor_forward (e : Execution) (id : String) (kind : EventKind) (payload : Value)
    (error : Option Failure) : Run.Forward (eng.emitFor e id kind payload error) := by
  unfold emitFor
  split
  · exact Run.Forward.of_quiet (Run.Quiet.pure ())
  · refine Run.Forward.bind (Run.Forward.of_quiet Run.Quiet.get) fun _ => ?_
    refine Run.Forward.bind (Run.Forward.of_quiet Run.now_quiet) fun _ => ?_
    refine Run.Forward.bind (fun _ => Run.Ensures.modify (Nat.le_refl _)) fun _ => ?_
    exact Run.Forward.of_quiet (Run.Quiet.ite (Run.log_quiet _ _ _) (Run.Quiet.pure ()))

theorem pushRecord_forward (id : String) (r : StepRecord) : Forward (eng.pushRecord id r) := by
  unfold pushRecord
  refine Forward.bind Forward.get fun e => ?_
  dsimp only
  split
  · exact Forward.bind (Forward.set _) fun _ => Forward.lift (emitFor_forward eng _ _ _ _ _)
  · exact Forward.throw _

theorem failStep_forward (id : String) (attempt : StepRecord) (err : FlowError) :
    Forward (eng.failStep id attempt err) := by
  unfold failStep
  refine Forward.bind (Forward.quiet (Run.error_quiet _ _)) fun _ => ?_
  refine Forward.bind (Forward.quiet Run.now_quiet) fun _ => ?_
  exact Forward.bind (pushRecord_forward eng id _) fun _ => Forward.pure _

theorem completePausedStep_forward (id : String) (output : StepOutput) :
    Forward (eng.completePausedStep id output) := by
  unfold completePausedStep
  refine Forward.bind Forward.get fun e => ?_
  split
  · exact Forward.throw _
  · split
    · exact Forward.throw _
    · refine Forward.bind (Forward.quiet Run.now_quiet) fun _ => ?_
      refine Forward.bind (Forward.set _) fun _ => ?_
      exact Forward.bind (Forward.quiet (Run.debug_quiet _ _)) fun _ =>
        Forward.lift (emitFor_forward eng _ _ _ _ _)

theorem openInstance_forward (parentId id : String) (branchType : BranchType)
    (iteration : Option Nat) : Forward (eng.openInstance parentId id branchType iteration) := by
  unfold openInstance
  refine Forward.bind (Forward.quiet Run.now_quiet) fun _ => ?_
  refine Forward.bind Forward.get fun _ => ?_
  split
  · refine Forward.bind (Forward.set _) fun _ => ?_
    exact Forward.bind (Forward.quiet (Run.debug_quiet _ _)) fun _ =>
      Forward.lift (emitFor_forward eng _ _ _ _ _)
  · exact Forward.throw _

theorem finishInstance_forward (id : String) (outcome : Outcome) :
    Forward (eng.finishInstance id outcome) := by
  unfold finishInstance
  split
  · exact Forward.pure _
  · refine Forward.bind (Forward.quiet Run.now_quiet) fun _ => ?_
    refine Forward.bind Forward.get fun _ => ?_
    exact Forward.bind (Forward.set _) fun _ => Forward.lift (emitFor_forward eng _ _ _ _ _)

theorem settle_forward (id path : String) (step : StepDefinition) (limit : Option Nat)
    (attempt : StepRecord) (result : StepResult) :
    Forward (eng.settle id path step limit attempt result) := by
  cases result with
  | timedOut =>
    rw [settle]
    exact Forward.bind (Forward.quiet (Run.warn_quiet _ _)) fun _ => failStep_forward eng id attempt _
  | finished r =>
    rcases r with se | (⟨edge, value⟩ | ⟨details, resumeEdge⟩) <;> rw [settle]
    · exact Forward.bind (Forward.quiet (Run.debug_quiet _ _)) fun _ =>
        failStep_forward eng id attempt _
    · refine Forward.ite (failStep_forward eng id attempt _) ?_
      refine Forward.bind (Forward.quiet Run.now_quiet) fun _ => ?_
      exact Forward.bind (pushRecord_forward eng id _) fun _ => Forward.pure _
    · refine Forward.ite (failStep_forward eng id attempt _) ?_
      refine Forward.bind (Forward.quiet Run.freshUuid_quiet) fun _ => ?_
      refine Forward.bind (Forward.quiet (Run.info_quiet _ _)) fun _ => ?_
      exact Forward.bind (pushRecord_forward eng id _) fun _ => Forward.pure _

end Engine

/-! ## Sound records -/

/-- A record as the registry's steps leave it: a completed one went through
exactly one edge, which its step declares, and carries no failure; a failed
one carries a failure and no output. -/
structure StepRecord.Sound (reg : Registry) (r : StepRecord) : Prop where
  completed : r.status = .completed → r.error = none ∧
    ∃ s edge v, reg.find? r.stepId = some s ∧ s.declares edge = true ∧
      r.output = some (StepOutput.make edge v)
  failed : r.status = .failed → r.error.isSome = true ∧ r.output = none

/-- A paused record, with no failure, that its step lets resume through
`edge`. -/
structure StepRecord.Resumes (reg : Registry) (r : StepRecord) (edge : String) : Prop where
  paused : r.status = .paused
  error : r.error = none
  declared : ∃ s, reg.find? r.stepId = some s ∧ s.declares edge = true

/-- The record a step node leaves in instance `id` when it ends with `o`:
sound, and paused exactly when the node suspended, which it does right there,
resumable through the edge the suspension names. -/
structure StepRecord.Ends (reg : Registry) (id : String) (o : Outcome) (r : StepRecord) : Prop where
  sound : r.Sound reg
  suspended : ∀ fs pause, o = .suspended fs pause →
    fs = [] ∧ pause.instanceId = id ∧ r.Resumes reg pause.resumeEdge
  paused : r.status = .paused → ∃ fs pause, o = .suspended fs pause

/-- A step the registry resolves is the one it finds under its identifier. -/
theorem Registry.find?_of_resolve {reg : Registry} {name : String} {s : StepDefinition}
    (h : reg.resolve name = .ok s) : reg.find? s.id = some s := by
  -- What `find?` gives carries the identifier it was asked for.
  have hid : ∀ {x : String} {d : StepDefinition}, reg.find? x = some d → reg.find? d.id = some d :=
    fun {x d} hd => by
      have hx : d.id = x := by simpa using List.find?_some hd
      rw [hx]
      exact hd
  unfold Registry.resolve at h
  split at h
  · cases h
    exact hid ‹_›
  · split at h
    · unfold Registry.get at h
      split at h
      · cases h
        exact hid ‹_›
      · cases h
    · cases h
    · cases h

namespace Engine

variable (eng : Engine)

/-! ## What a step node records -/

/-- Recording a failed attempt that has no output adds a record that ends
as a failure does. -/
theorem failStep_record (id : String) (attempt : StepRecord) (err : FlowError)
    (houtput : attempt.output = none) (e : Execution) (w : World) :
    Ensures (eng.failStep id attempt err) e w fun o e' w' =>
      ∃ r, e.has id = true ∧ e' = e.record id r ∧ r.startedAt = attempt.startedAt ∧
        r.Ends eng.registry id o ∧ w.clock ≤ w'.clock := by
  refine ((failStep_spec eng id attempt err e w).and (failStep_forward eng id attempt err e w)).mono
    fun o e' w' ⟨⟨ho, hhas, t, he'⟩, hclock⟩ => ⟨_, hhas, he', rfl, ?_, hclock⟩
  subst ho
  exact ⟨⟨(fun h => by cases h), fun _ => ⟨rfl, houtput⟩⟩, (fun _ _ h => by cases h),
    fun h => by cases h⟩

/-- Acting on a resolved step's result adds one record of the attempt,
which ends as `StepRecord.Ends` says. -/
theorem settle_record (id path : String) {step : StepDefinition}
    (hstep : eng.registry.find? step.id = some step) (limit : Option Nat) {attempt : StepRecord}
    (hid : attempt.stepId = step.id) (herror : attempt.error = none)
    (houtput : attempt.output = none) (result : StepResult) (e : Execution) (w : World) :
    Ensures (eng.settle id path step limit attempt result) e w fun o e' w' =>
      ∃ r, e.has id = true ∧ e' = e.record id r ∧ r.startedAt = attempt.startedAt ∧
        r.Ends eng.registry id o ∧ w.clock ≤ w'.clock := by
  have hfind : eng.registry.find? attempt.stepId = some step := by
    rw [hid]
    exact hstep
  refine ((?_ : Ensures _ e w fun o e' _ => ∃ r, e.has id = true ∧ e' = e.record id r ∧
      r.startedAt = attempt.startedAt ∧ r.Ends eng.registry id o).and
    (settle_forward eng id path step limit attempt result e w)).mono
    fun o e' w' ⟨⟨r, hhas, he', hstart, hends⟩, hclock⟩ => ⟨r, hhas, he', hstart, hends, hclock⟩
  have hfail : ∀ err w, Ensures (eng.failStep id attempt err) e w fun o e' _ =>
      ∃ r, e.has id = true ∧ e' = e.record id r ∧ r.startedAt = attempt.startedAt ∧
        r.Ends eng.registry id o :=
    fun err w => (failStep_record eng id attempt err houtput e w).mono
      fun _ _ _ ⟨r, hhas, he', hstart, hends, _⟩ => ⟨r, hhas, he', hstart, hends⟩
  cases result with
  | timedOut =>
    rw [settle]
    exact Ensures.bind (Ensures.lift fun _ _ _ => hfail _ _)
  | finished r =>
    rcases r with se | (⟨edge, value⟩ | ⟨details, resumeEdge⟩) <;> rw [settle]
    · exact Ensures.bind (Ensures.lift fun _ _ _ => hfail _ _)
    · -- An exit through a declared edge completes the record with that edge.
      refine Ensures.ite (fun _ => hfail _ _) fun hdecl => ?_
      have hdecl : step.declares edge = true := by simpa using hdecl
      refine Ensures.bind (Ensures.lift fun t _ _ => ?_)
      refine Ensures.bind ((pushRecord_spec eng id _ _ _).mono fun _ e' _ h => ?_)
      obtain ⟨hhas, rfl⟩ := h
      refine Ensures.pure ⟨_, hhas, rfl, rfl, ⟨⟨fun _ => ⟨herror, step, edge, value, hfind, hdecl, rfl⟩,
        fun h => by cases h⟩, (fun _ _ h => by cases h), fun h => by cases h⟩⟩
    · -- A suspension through a declared edge leaves the record paused.
      refine Ensures.ite (fun _ => hfail _ _) fun hdecl => ?_
      have hdecl : step.declares resumeEdge = true := by simpa using hdecl
      refine Ensures.bind (Ensures.lift fun _ _ _ => ?_)
      refine Ensures.bind (Ensures.lift fun _ _ _ => ?_)
      refine Ensures.bind ((pushRecord_spec eng id _ _ _).mono fun _ e' _ h => ?_)
      obtain ⟨hhas, rfl⟩ := h
      refine Ensures.pure ⟨_, hhas, rfl, rfl, ⟨⟨(fun h => by cases h), fun h => by cases h⟩,
        (fun fs pause h => ?_), fun _ => ⟨_, _, rfl⟩⟩⟩
      cases h
      exact ⟨rfl, rfl, ⟨rfl, herror, step, hfind, hdecl⟩⟩

/-- Running a step node, whatever its result is turned into, edits states
and adds one record to its instance: started when the node started, on the
clock the node read first, and ending as `StepRecord.Ends` says. -/
theorem runStepWith_record (adjust : StepResult → StepResult) (id : String) (node : FlowNode)
    (path : String) (previous : Option StepOutput) (e : Execution) (w : World) :
    Ensures (eng.runStepWith adjust id node path previous) e w fun o e' w' =>
      ∃ e₁ r, e.Edits e₁ ∧ e₁.has id = true ∧ e' = e₁.record id r ∧
        r.startedAt.nanos = ↑(w.clock + 1000) ∧ w.clock + 1000 ≤ w'.clock ∧
        r.Ends eng.registry id o := by
  unfold runStepWith
  refine Ensures.bind (Ensures.lift ((Run.now_spec w).mono fun startedAt w₁ ⟨ht, hw₁⟩ => ?_))
  dsimp only
  split
  · -- The reference does not resolve.
    refine (failStep_record eng id _ _ rfl e w₁).mono fun o e' w' h => ?_
    obtain ⟨r, hhas, he', hstart, hends, hclock⟩ := h
    exact ⟨e, r, .refl, hhas, he', by rw [hstart]; exact ht, by omega, hends⟩
  · rename_i step hres
    have hfind := Registry.find?_of_resolve hres
    split
    · -- The parameters do not resolve.
      refine (failStep_record eng id _ _ rfl e w₁).mono fun o e' w' h => ?_
      obtain ⟨r, hhas, he', hstart, hends, hclock⟩ := h
      exact ⟨e, r, .refl, hhas, he', by rw [hstart]; exact ht, by omega, hends⟩
    · refine Ensures.bind (Ensures.lift ((Run.debug_quiet _ _ w₁).2.mono fun _ w₂ hq₂ => ?_))
      refine Ensures.bind (Ensures.get ?_)
      refine Ensures.bind (Ensures.lift fun ran w₃ hran => ?_)
      -- The step edits states and moves the clock only forward.
      have hedits : e.Edits ran.2.execution :=
        StepRun.perform_keeps _ _ _ _ {execution := e} _ .refl ran.1 ran.2 w₃ hran
      have hq₃ : w₂.Quiet w₃ := StepRun.perform_quiet _ _ _ _ {execution := e} w₂ ran.1 ran.2 w₃ hran
      obtain ⟨result, scope⟩ := ran
      refine Ensures.bind (Ensures.set ?_)
      refine (settle_record eng id path hfind _ rfl rfl rfl (adjust result) _ w₃).mono
        fun o e' w' h => ?_
      obtain ⟨r, hhas, he', hstart, hends, hclock⟩ := h
      have hc₂ := hq₂.clock
      have hc₃ := hq₃.clock
      exact ⟨_, r, hedits, hhas, he', by rw [hstart]; exact ht, by omega, hends⟩

/-! ## The walk keeps its records in order -/

theorem runStep_inOrder (id : String) (node : FlowNode) (path : String)
    (previous : Option StepOutput) : Maintains RecordsInOrder (eng.runStep id node path previous) := by
  intro e w ⟨hn, hc⟩
  refine (runStepWith_record eng _ id node path previous e w).mono fun o e' w' h => ?_
  obtain ⟨e₁, r, hedits, hhas, rfl, hstart, hclock, -⟩ := h
  -- The record is numbered by the records there, which the step did not touch.
  have hlen : e₁.stepCount = e.stepRecords.length := by
    rw [Execution.stepCount_eq_length, hedits.stepRecords]
  have hrec := Execution.stepRecords_record hhas r
  rw [hedits.stepRecords, hlen] at hrec
  have hnew : ({ r with sequence := e.stepRecords.length } : StepRecord).startedAt.nanos =
      ↑(w.clock + 1000) := hstart
  refine ⟨(hn.push rfl).perm hrec.symm, (hc.push hn rfl ?_ ?_ (by omega)).perm hrec.symm⟩
  · rw [hnew]
    omega
  · rw [hnew]
    exact_mod_cast hclock

theorem completePausedStep_inOrder (id : String) (output : StepOutput) :
    Maintains RecordsInOrder (eng.completePausedStep id output) := by
  intro e w ⟨hn, hc⟩
  refine ((completePausedStep_spec eng id output e w).and
    (completePausedStep_forward eng id output e w)).mono fun _ e' w' ⟨h, hclock⟩ => ?_
  obtain ⟨i, r, t, hi, hr, rfl⟩ := h
  -- The completed record keeps the number and start of the paused one.
  obtain ⟨rest, hold, hnew⟩ := Execution.stepRecords_complete hi hr
    { r with status := .completed, output := some output, finishedAt := some t }
  exact ⟨((hn.perm hold).replace (by rfl)).perm hnew.symm,
    (((hc.perm hold).replace (by rfl) (by rfl)).later hclock).perm hnew.symm⟩

theorem openInstance_inOrder (parentId id : String) (branchType : BranchType)
    (iteration : Option Nat) :
    Maintains RecordsInOrder (eng.openInstance parentId id branchType iteration) := by
  intro e w h
  refine ((openInstance_spec eng parentId id branchType iteration e w).and
    (openInstance_forward eng parentId id branchType iteration e w)).mono
    fun _ _ _ ⟨⟨_, _, hspawn⟩, hclock⟩ => h.of_stepRecords (Execution.stepRecords_spawn hspawn) hclock

/-- Finishing an instance keeps the records. -/
theorem finishInstance_stepRecords (id : String) (outcome : Outcome) (e : Execution) (w : World) :
    Ensures (eng.finishInstance id outcome) e w fun _ e' _ => e'.stepRecords = e.stepRecords := by
  refine (finishInstance_spec eng id outcome e w).mono fun _ e' _ h => ?_
  revert h
  rcases outcome.final id with _ | ⟨status, result, error⟩
  · intro h
    rw [h]
  · rintro ⟨t, rfl⟩
    exact Execution.stepRecords_finish _ _ _ _ _ _

theorem finishInstance_inOrder (id : String) (outcome : Outcome) :
    Maintains RecordsInOrder (eng.finishInstance id outcome) := by
  intro e w h
  refine ((finishInstance_stepRecords eng id outcome e w).and
    (finishInstance_forward eng id outcome e w)).mono
    fun _ _ _ ⟨hrecs, hclock⟩ => h.of_stepRecords hrecs hclock

/-- The walk, along any cursor, keeps the records of its execution numbered
and chronological. -/
theorem runBlock_recordsInOrder (id : String) (nodes : List FlowNode) (base : String)
    (entry : Option StepOutput) (resume : Option Resume) :
    Maintains RecordsInOrder (eng.runBlock eng.runStep id nodes base entry resume) :=
  (walk_maintains eng eng.runStep (I := RecordsInOrder) (fun _ _ _ h hq => h.quiet hq)
    (runStep_inOrder eng) (completePausedStep_inOrder eng) (openInstance_inOrder eng)
    (finishInstance_inOrder eng)).1 id nodes base entry resume

end Engine

end Flowline
