import Flowline.Proofs.Records
import Flowline.Proofs.EventStream
set_option autoImplicit false

/-!
# At most one record waits

Every record a step node leaves is sound (`StepRecord.Sound`): a completed
one went through one edge its step declares, a failed one carries its
failure. A suspension leaves exactly one record paused, the last one
numbered, in the instance that suspended (`Outcome.Leaves`); a resume
completes that record with the output of its ticket's edge, and from then on
the walk runs as a fresh one does (`Engine.walk_leaves`).

Over a whole session, a run and then resumes of the ticket each paused report
hands out, every report lists its records numbered `0, 1, …, n - 1` in the
order they started, every record is sound, and the report is paused exactly
when one record is, the last one, held by the instance its ticket names
(`step_records_stay_in_run_order`).
-/

namespace Flowline

namespace Execution

variable (reg : Registry)

/-- No record of `e` is paused, and every record is sound. -/
structure Unpaused (e : Execution) : Prop where
  sound : ∀ r ∈ e.stepRecords, r.Sound reg
  unpaused : ∀ r ∈ e.stepRecords, r.status ≠ .paused

/-- Every record of `e` is sound, and exactly one is paused: the last one
numbered, which its step lets resume through `edge`. -/
structure PausedOnce (e : Execution) (edge : String) : Prop where
  sound : ∀ r ∈ e.stepRecords, r.Sound reg
  single : ∃ p, e.stepRecords.filter (·.status == .paused) = [p] ∧
    p.sequence + 1 = e.stepRecords.length ∧ p.Resumes reg edge

end Execution

/-- What a walk function leaves of the records when it returns `o`: after a
suspension exactly one paused record, held by the instance that suspended and
resumable through the edge the suspension names; otherwise none. -/
def Outcome.Leaves (reg : Registry) (e : Execution) : Outcome → Prop
  | .suspended _ pause => e.PausedOnce reg pause.resumeEdge ∧ e.HoldsPaused pause.instanceId
  | _ => e.Unpaused reg

@[simp] theorem StepStatus.beq_paused (s : StepStatus) : (s == .paused) = true ↔ s = .paused := by
  cases s <;> decide

namespace StepRecord

variable {reg : Registry} {r : StepRecord}

theorem Sound.renumber (h : r.Sound reg) (n : Nat) : ({ r with sequence := n } : StepRecord).Sound reg :=
  ⟨h.completed, h.failed⟩

theorem Resumes.renumber {edge : String} (h : r.Resumes reg edge) (n : Nat) :
    ({ r with sequence := n } : StepRecord).Resumes reg edge :=
  ⟨h.paused, h.error, h.declared⟩

end StepRecord

namespace Execution

variable {reg : Registry} {e e' : Execution}

theorem Unpaused.of_stepRecords (h : e.Unpaused reg) (he : e'.stepRecords = e.stepRecords) :
    e'.Unpaused reg :=
  ⟨he ▸ h.sound, he ▸ h.unpaused⟩

theorem PausedOnce.of_stepRecords {edge : String} (h : e.PausedOnce reg edge)
    (he : e'.stepRecords = e.stepRecords) : e'.PausedOnce reg edge :=
  ⟨he ▸ h.sound, he ▸ h.single⟩

/-- A new execution has no records. -/
theorem unpaused_create (rootId : String) (seed : Value) (now : Timestamp) :
    (create rootId seed now).Unpaused reg :=
  ⟨fun _ h => absurd h List.not_mem_nil, fun _ h => absurd h List.not_mem_nil⟩

/-- An output completing the one paused record of `e`: it goes through one
edge, which that record's step declares. -/
def Awaits (reg : Registry) (e : Execution) (output : StepOutput) : Prop :=
  ∃ edge v, output = StepOutput.make edge v ∧ e.PausedOnce reg edge

end Execution

namespace Outcome

variable {reg : Registry} {e : Execution} {o : Outcome}

/-- An outcome other than a suspension leaves no record paused. -/
theorem leaves_of_unpaused (hns : ∀ fs pause, o = .suspended fs pause → False)
    (h : e.Unpaused reg) : o.Leaves reg e := by
  cases o with
  | suspended fs pause => exact (hns fs pause rfl).elim
  | done _ => exact h
  | failed _ => exact h
  | cancelled => exact h

theorem Leaves.unpaused (h : o.Leaves reg e) (hns : ∀ fs pause, o = .suspended fs pause → False) :
    e.Unpaused reg := by
  cases o with
  | suspended fs pause => exact (hns fs pause rfl).elim
  | done _ => exact h
  | failed _ => exact h
  | cancelled => exact h

end Outcome

/-- How the walk enters: fresh with no record paused, or along a cursor that
follows as `follows` says and whose output completes the one paused record. -/
def RecordEntry (reg : Registry) (e : Execution) (cursor : Option Resume)
    (follows : List Frame → Prop) : Prop :=
  (cursor = none → e.Unpaused reg) ∧ ∀ r, cursor = some r → follows r.frames ∧ e.Awaits reg r.value

namespace RecordEntry

variable {reg : Registry} {e : Execution} {follows follows' : List Frame → Prop}

theorem fresh (h : e.Unpaused reg) : RecordEntry reg e none follows :=
  ⟨fun _ => h, fun _ h => by cases h⟩

theorem along {r : Resume} (hf : follows r.frames) (ha : e.Awaits reg r.value) :
    RecordEntry reg e (some r) follows :=
  ⟨(fun h => by cases h), fun _ h => by cases h; exact ⟨hf, ha⟩⟩

theorem mono {cursor : Option Resume} (h : RecordEntry reg e cursor follows)
    (hf : ∀ fs, follows fs → follows' fs) : RecordEntry reg e cursor follows' :=
  ⟨h.1, fun r hr => ⟨hf _ (h.2 r hr).1, (h.2 r hr).2⟩⟩

/-- With no cursor that follows as it must, no record is paused. -/
theorem unpaused {cursor : Option Resume} (h : RecordEntry reg e cursor follows)
    (hno : ∀ r, cursor = some r → follows r.frames → False) : e.Unpaused reg := by
  cases cursor with
  | none => exact h.1 rfl
  | some r => exact absurd (h.2 r rfl).1 (hno r rfl)

end RecordEntry

/-- A cursor into a loop's actions comes with the controller's `continue`. -/
theorem actionsResume?_eq_none {pending : Option (LoopPhase × Resume)}
    {controllerOutput : Option StepOutput}
    (hacts : ∀ r, actionsResume? pending = some r → ∃ out,
      (Sum.inr controllerOutput : Sum Outcome (Option StepOutput)) = .inr out ∧
        (out.map StepOutput.edge).getD "" = "continue")
    (hcont : ¬((controllerOutput.map StepOutput.edge).getD "" == "continue") = true) :
    actionsResume? pending = none := by
  cases h : actionsResume? pending with
  | none => rfl
  | some r =>
    obtain ⟨out, hout, hedge⟩ := hacts r h
    cases hout
    exact absurd (by simpa using hedge) hcont

namespace Engine

variable (eng : Engine)

/-! ## What each primitive leaves of the records -/

/-- A step node run with no record paused adds a sound record, paused exactly
when the node suspended, and then the last one numbered. -/
theorem runStep_leaves (id : String) (node : FlowNode) (path : String)
    (previous : Option StepOutput) {e : Execution} (h : e.Unpaused eng.registry) (w : World) :
    Ensures (eng.runStep id node path previous) e w fun o e' _ => o.Leaves eng.registry e' := by
  refine (runStepWith_record eng _ id node path previous e w).mono fun o e' _ hrec => ?_
  obtain ⟨e₁, r, hedits, hhas, rfl, -, -, hends⟩ := hrec
  -- The records are the old ones and the new one, numbered after them.
  have hrecs := Execution.stepRecords_record hhas r
  rw [hedits.stepRecords] at hrecs
  have hmem : ∀ x ∈ (e₁.record id r).stepRecords,
      x ∈ e.stepRecords ∨ x = { r with sequence := e₁.stepCount } := fun x hx => by
    simpa using hrecs.mem_iff.1 hx
  have hsound : ∀ x ∈ (e₁.record id r).stepRecords, x.Sound eng.registry := fun x hx => by
    rcases hmem x hx with hx | rfl
    · exact h.sound x hx
    · exact hends.sound.renumber _
  by_cases hs : ∃ fs pause, o = .suspended fs pause
  · obtain ⟨fs, pause, rfl⟩ := hs
    obtain ⟨-, hid, hres⟩ := hends.suspended fs pause rfl
    have hfilter : (e₁.record id r).stepRecords.filter (·.status == .paused) =
        [{ r with sequence := e₁.stepCount }] := by
      apply List.perm_singleton.1
      refine (hrecs.filter _).trans ?_
      rw [List.filter_append, List.filter_eq_nil_iff.2 fun x hx hb =>
        h.unpaused x hx ((StepStatus.beq_paused _).1 hb)]
      simp [hres.paused]
    have hlen : (e₁.record id r).stepRecords.length = e₁.stepCount + 1 := by
      rw [hrecs.length_eq, List.length_append, Execution.stepCount_eq_length, hedits.stepRecords]
      rfl
    refine ⟨⟨hsound, _, hfilter, hlen.symm, hres.renumber _⟩, ?_⟩
    rw [hid]
    exact Execution.holdsPaused_record hhas hres.paused
  · refine Outcome.leaves_of_unpaused (fun fs pause ho => hs ⟨fs, pause, ho⟩) ⟨hsound, fun x hx => ?_⟩
    rcases hmem x hx with hx | rfl
    · exact h.unpaused x hx
    · exact fun hp => hs (hends.paused hp)

/-- Completing the one paused record with an output its step declares leaves
no record paused. -/
theorem completePausedStep_unpaused (id : String) {output : StepOutput} {e : Execution}
    (h : e.Awaits eng.registry output) (w : World) :
    Ensures (eng.completePausedStep id output) e w fun _ e' _ => e'.Unpaused eng.registry := by
  obtain ⟨edge, v, rfl, hsound, p, honly, -, hres⟩ := h
  refine (completePausedStep_spec eng id _ e w).mono fun _ e' _ hspec => ?_
  obtain ⟨i, r, t, hi, hr, rfl⟩ := hspec
  obtain ⟨rest, hold, hnew⟩ := Execution.stepRecords_complete hi hr
    { r with status := .completed, output := some (StepOutput.make edge v), finishedAt := some t }
  -- The record completed is the paused one, and no other is paused.
  have hpaused := List.find?_some hr
  have hone : r :: rest.filter (·.status == .paused) = [p] := by
    apply List.perm_singleton.1
    rw [← honly, ← List.filter_cons_of_pos (p := fun x : StepRecord => x.status == .paused) hpaused]
    exact (hold.filter _).symm
  obtain ⟨rfl, hrest⟩ := List.cons_eq_cons.1 hone
  have hnone := List.filter_eq_nil_iff.1 hrest
  obtain ⟨s, hs, hdecl⟩ := hres.declared
  refine ⟨fun x hx => ?_, fun x hx => ?_⟩
  · rcases List.mem_cons.1 (hnew.mem_iff.1 hx) with rfl | hx
    · exact ⟨fun _ => ⟨hres.error, s, edge, v, hs, hdecl, rfl⟩, fun h => by cases h⟩
    · exact hsound x (hold.mem_iff.2 (List.mem_cons_of_mem _ hx))
  · rcases List.mem_cons.1 (hnew.mem_iff.1 hx) with rfl | hx
    · exact fun h => by cases h
    · exact fun hx' => hnone x hx ((StepStatus.beq_paused _).2 hx')

theorem openInstance_unpaused (parentId id : String) (branchType : BranchType)
    (iteration : Option Nat) {e : Execution} (h : e.Unpaused eng.registry) (w : World) :
    Ensures (eng.openInstance parentId id branchType iteration) e w fun _ e' _ =>
      e'.Unpaused eng.registry :=
  (openInstance_spec eng parentId id branchType iteration e w).mono fun _ _ _ ⟨_, _, hspawn⟩ =>
    h.of_stepRecords (Execution.stepRecords_spawn hspawn)

/-- Finishing an instance keeps what its outcome left of the records. -/
theorem finishInstance_leaves (id : String) {o : Outcome} {e : Execution}
    (h : o.Leaves eng.registry e) (w : World) :
    Ensures (eng.finishInstance id o) e w fun _ e' _ => o.Leaves eng.registry e' := by
  refine ((finishInstance_suspended eng id o e w).and (finishInstance_stepRecords eng id o e w)).mono
    fun _ e' _ ⟨hsame, hrecs⟩ => ?_
  by_cases hs : ∃ fs pause, o = .suspended fs pause
  · -- A suspension leaves the instance open and the execution as it was.
    obtain ⟨fs, pause, rfl⟩ := hs
    rw [hsame fs pause rfl]
    exact h
  · have hns : ∀ fs pause, o = .suspended fs pause → False := fun fs pause ho => hs ⟨fs, pause, ho⟩
    exact Outcome.leaves_of_unpaused hns ((h.unpaused hns).of_stepRecords hrecs)

/-! ## The walk leaves at most the record it suspended at -/

/-- `m`, entered as `RecordEntry` says, leaves the records as its outcome
says. -/
abbrev WalkLeaves (m : Drive Outcome) (cursor : Option Resume) (follows : List Frame → Prop) :
    Prop :=
  ∀ e w, RecordEntry eng.registry e cursor follows →
    Ensures m e w fun o e' _ => o.Leaves eng.registry e'

/-- A loop's rounds: fresh with no record paused, or re-entered in the
controller's block or, after a `continue`, in the actions' block. -/
abbrev RoundLeaves (loopId : String) (controller : FlowNode) (actions : List FlowNode)
    (controllerBase actionsBase path : String) (iteration : Nat)
    (controllerOutput : Option StepOutput) (pending : Option (LoopPhase × Resume)) : Prop :=
  ∀ e w, (pending = none → e.Unpaused eng.registry) →
    (∀ r, controllerResume? pending = some r →
      Frame.FitsBlock [controller] r.frames ∧ e.Awaits eng.registry r.value) →
    (∀ r, actionsResume? pending = some r →
      (Frame.FitsBlock actions r.frames ∧ (controllerOutput.map StepOutput.edge).getD "" = "continue") ∧
        e.Awaits eng.registry r.value) →
    Ensures (eng.loopRound eng.runStep loopId controller actions controllerBase actionsBase path
      iteration controllerOutput pending) e w fun o e' _ => o.Leaves eng.registry e'

/-- What a loop does on its controller's decision: an outcome that already
left the records as it says, an output decided with no record paused, or the
actions re-entered after a `continue`. -/
abbrev FollowLeaves (loopId : String) (controller : FlowNode) (actions : List FlowNode)
    (controllerBase actionsBase path : String) (iteration : Nat)
    (pending : Option (LoopPhase × Resume)) (decided : Sum Outcome (Option StepOutput)) : Prop :=
  ∀ e w, (∀ o, decided = .inl o → o.Leaves eng.registry e) →
    (∀ out, decided = .inr out → actionsResume? pending = none → e.Unpaused eng.registry) →
    (∀ r, actionsResume? pending = some r →
      (Frame.FitsBlock actions r.frames ∧
        ∃ out, decided = .inr out ∧ (out.map StepOutput.edge).getD "" = "continue") ∧
        e.Awaits eng.registry r.value) →
    Ensures (eng.loopFollow eng.runStep loopId controller actions controllerBase actionsBase path
      iteration pending decided) e w fun o e' _ => o.Leaves eng.registry e'

/-- Entered fresh with no record paused, or along a cursor that fits the
nodes it walks and whose output completes the one paused record, the walk
leaves every record sound, and one paused, in the instance that suspended,
exactly when it suspends. -/
theorem walk_leaves :
    (∀ id nodes base entry resume,
      WalkLeaves eng (eng.runBlock eng.runStep id nodes base entry resume) resume
        (Frame.FitsBlock nodes)) ∧
    (∀ id nodes base index previous nested,
      WalkLeaves eng (eng.blockFrom eng.runStep id nodes base index previous nested) nested
        fun fs => ∃ node, nodes[index]? = some node ∧ Frame.FitsNode node previous fs) ∧
    (∀ id node index path previous resuming,
      WalkLeaves eng (eng.runNode eng.runStep id node index path previous resuming) resuming
        (Frame.FitsNode node previous)) ∧
    (∀ parentId index path parts resume,
      WalkLeaves eng (eng.runLoop eng.runStep parentId index path parts resume) resume
        (Frame.FitsLoop parts)) ∧
    (∀ loopId controller actions controllerBase actionsBase path iteration controllerOutput pending,
      RoundLeaves eng loopId controller actions controllerBase actionsBase path iteration
        controllerOutput pending) ∧
    (∀ loopId controller actions controllerBase actionsBase path iteration pending decided,
      FollowLeaves eng loopId controller actions controllerBase actionsBase path iteration pending
        decided) ∧
    (∀ parentId candidate branchType iteration nodes base entry resume,
      WalkLeaves eng (eng.runChild eng.runStep parentId candidate branchType iteration nodes base
        entry resume) resume (Frame.FitsBlock nodes)) := by
  apply Engine.runBlock.mutual_induct eng eng.runStep
    (fun id nodes base entry resume =>
      WalkLeaves eng (eng.runBlock eng.runStep id nodes base entry resume) resume
        (Frame.FitsBlock nodes))
    (fun id nodes base index previous nested =>
      WalkLeaves eng (eng.blockFrom eng.runStep id nodes base index previous nested) nested
        fun fs => ∃ node, nodes[index]? = some node ∧ Frame.FitsNode node previous fs)
    (fun id node index path previous resuming =>
      WalkLeaves eng (eng.runNode eng.runStep id node index path previous resuming) resuming
        (Frame.FitsNode node previous))
    (fun parentId index path parts resume =>
      WalkLeaves eng (eng.runLoop eng.runStep parentId index path parts resume) resume
        (Frame.FitsLoop parts))
    (fun loopId controller actions controllerBase actionsBase path iteration controllerOutput
      pending => RoundLeaves eng loopId controller actions controllerBase actionsBase path
        iteration controllerOutput pending)
    (fun loopId controller actions controllerBase actionsBase path iteration pending decided =>
      FollowLeaves eng loopId controller actions controllerBase actionsBase path iteration
        pending decided)
    (fun parentId candidate branchType iteration nodes base entry resume =>
      WalkLeaves eng (eng.runChild eng.runStep parentId candidate branchType iteration nodes base
        entry resume) resume (Frame.FitsBlock nodes))
  · intro id nodes base entry ih e w hen
    rw [Engine.runBlock]
    exact ih e w (.fresh (hen.1 rfl))
  · intro id nodes base entry r hr e w _
    rw [Engine.runBlock, hr]
    exact Ensures.throw
  · -- The cursor ends here: completing the paused record leaves none paused.
    intro id nodes base entry r frameId index before rest hr hid hempty ih e w hen
    rw [Engine.runBlock, hr]
    simp only [hid, hempty, if_true]
    refine Ensures.next (completePausedStep_unpaused eng id (hen.2 r rfl).2 w)
      fun _ e₁ w₁ h₁ => ?_
    exact ih e₁ w₁ (.fresh h₁)
  · intro id nodes base entry r frameId index before rest hr hid hempty ih e w hen
    rw [Engine.runBlock, hr]
    simp only [hid, hempty, if_true]
    obtain ⟨hfits, ha⟩ := hen.2 r rfl
    rw [hr] at hfits
    have hne : rest ≠ [] := fun h => by simp [h] at hempty
    exact ih e w (.along (hfits.node hne) ha)
  · intro id nodes base entry r frameId index before rest hr hid e w _
    rw [Engine.runBlock, hr]
    simp only [hid]
    exact Ensures.throw
  · intro id nodes base entry r other tail hother hr e w _
    rw [Engine.runBlock_not_block hother hr]
    exact Ensures.throw
  -- `blockFrom`: each node leaves the records for the next.
  · intro id nodes base index previous nested hnone e w hen
    rw [Engine.blockFrom_past hnone]
    refine Ensures.pure (hen.unpaused fun r _ hr => ?_)
    obtain ⟨node, hnode, _⟩ := hr
    rw [hnone] at hnode
    cases hnode
  · intro id nodes base index previous nested node hnode path ihNode ihDone ihAbsorb e w hen
    rw [Engine.blockFrom]
    split
    · rename_i h
      rw [hnode] at h
      cases h
    rename_i node' h
    rw [hnode] at h
    cases h
    have hnested : RecordEntry eng.registry e nested (Frame.FitsNode node previous) :=
      hen.mono fun fs hfs => by
        obtain ⟨node', hnode', hfits⟩ := hfs
        rw [hnode] at hnode'
        cases hnode'
        exact hfits
    refine Ensures.bind (Ensures.lift fun cancelled _ _ => ?_)
    refine Ensures.ite (fun hc => ?_) (fun _ => ?_)
    · -- Only a fresh node is cancelled, and then no record is paused.
      have hfresh : nested = none := by
        simp only [Bool.and_eq_true, Option.isNone_iff_eq_none] at hc
        exact hc.1
      exact Ensures.bind (Ensures.lift fun _ _ _ => Ensures.pure (hen.1 hfresh))
    refine Ensures.next (ihNode e _ hnested) fun o e₁ w₁ h₁ => ?_
    split
    · exact ihDone _ e₁ w₁ (.fresh h₁)
    · exact Ensures.pure h₁
    · refine Ensures.ite (fun _ => ?_) (fun _ => Ensures.pure h₁)
      exact Ensures.bind (Ensures.lift fun _ w₂ _ => ihAbsorb _ e₁ w₂ (.fresh h₁))
    · exact Ensures.pure h₁
  · intro id index path previous resuming stepId h e w _
    rw [Engine.runNode, if_pos h]
    exact Ensures.throw
  · intro id index path previous resuming stepId h e w hen
    rw [Engine.runNode, if_neg h]
    exact runStep_leaves eng _ _ path previous (hen.1 (Option.not_isSome_iff_eq_none.1 h)) w
  · intro id index path previous resuming stepId params h e w _
    rw [Engine.runNode, if_pos h]
    exact Ensures.throw
  · intro id index path previous resuming stepId params h e w hen
    rw [Engine.runNode, if_neg h]
    exact runStep_leaves eng _ _ path previous (hen.1 (Option.not_isSome_iff_eq_none.1 h)) w
  · intro id index path previous resuming children ih e w hen
    rw [Engine.runNode]
    exact ih e w (hen.mono fun fs hfits => by
      cases hfits with
      | sequence h => exact h)
  · intro id index path previous resuming parts ih e w hen
    rw [Engine.runNode]
    exact ih e w (hen.mono fun fs hfits => by
      cases hfits with
      | loop h => exact h)
  · intro id index path previous resuming arms edge arm target hfound ih e w hen
    rw [Engine.runNode_branch_found rfl hfound]
    exact ih e w (hen.mono fun fs hfits => by
      cases hfits with
      | branch hf h =>
        rw [hfound] at hf
        cases hf
        exact h)
  · intro id index path previous resuming arms edge hnone e w hen
    rw [Engine.runNode_branch_none rfl hnone]
    refine Ensures.bind (Ensures.lift fun _ _ _ => Ensures.pure (hen.unpaused ?_))
    intro r _ hfits
    cases hfits with
    | branch hf _ =>
      rw [hnone] at hf
      cases hf
  -- `runLoop`: the loop's rounds run in the loop's instance, which finishes after them.
  · intro parentId index path resume e w hen
    rw [Engine.runLoop]
    exact Ensures.pure (hen.unpaused fun r _ hfits => by cases hfits)
  · intro parentId index path controller actions r hr e w _
    rw [Engine.runLoop, hr]
    exact Ensures.throw
  · intro parentId index path controller actions controllerBase actionsBase r loopId iteration output
      phase rest hr ih e w hen
    rw [Engine.runLoop, hr]
    obtain ⟨hfits, ha⟩ := hen.2 r rfl
    rw [hr] at hfits
    have hctrl : ∀ r', controllerResume? (some (phase, ⟨rest, r.value⟩)) = some r' →
        Frame.FitsBlock [controller] r'.frames ∧ e.Awaits eng.registry r'.value := by
      intro r' h
      cases hfits with
      | controller hf =>
        cases h
        exact ⟨hf, ha⟩
      | actions => cases h
    have hacts : ∀ r', actionsResume? (some (phase, ⟨rest, r.value⟩)) = some r' →
        (Frame.FitsBlock actions r'.frames ∧ (output.map StepOutput.edge).getD "" = "continue") ∧
          e.Awaits eng.registry r'.value := by
      intro r' h
      cases hfits with
      | controller => cases h
      | actions hcont hf =>
        cases h
        exact ⟨⟨hf, hcont⟩, ha⟩
    refine Ensures.next (ih e w (fun h => by cases h) hctrl hacts) fun o e₁ w₁ h₁ => ?_
    exact Ensures.next (finishInstance_leaves eng loopId h₁ w₁) fun _ _ _ h₂ => Ensures.pure h₂
  · intro parentId index path controller actions r other tail hother hr e w _
    rw [Engine.runLoop_not_loop hother hr]
    exact Ensures.throw
  · intro parentId index path controller actions controllerBase actionsBase ih e w hen
    rw [Engine.runLoop]
    have hx := hen.1 rfl
    refine Ensures.bind (Ensures.get ?_)
    split
    · exact Ensures.pure hx
    refine Ensures.bind (Ensures.get ?_)
    refine Ensures.next (openInstance_unpaused eng _ _ _ _ hx w) fun _ e₁ w₁ h₁ => ?_
    refine Ensures.next (ih e e₁ w₁ (fun _ => h₁) (fun _ h => by cases h) (fun _ h => by cases h))
      fun o e₂ w₂ h₂ => ?_
    exact Ensures.next (finishInstance_leaves eng _ h₂ w₂) fun _ _ _ h₃ => Ensures.pure h₃
  · intro loopId controller actions controllerBase actionsBase path iteration controllerOutput
      pending ihFollow ihCtrl e w hnone hctrl hacts
    rw [Engine.loopRound]
    refine Ensures.bind (Ensures.lift fun cancelled w₁ _ => ?_)
    dsimp only
    refine Ensures.ite (fun has => ?_) (fun hna => ?_)
    · refine ihFollow _ e w₁ (fun _ h => by cases h) (fun _ _ h => by rw [h] at has; cases has)
        fun r h => ?_
      obtain ⟨⟨hf, hcont⟩, ha⟩ := hacts r h
      exact ⟨⟨hf, _, rfl, hcont⟩, ha⟩
    have hnoacts : actionsResume? pending = none := Option.not_isSome_iff_eq_none.1 hna
    have hnocur : ∀ r, actionsResume? pending = some r → False := fun r h => by
      rw [hnoacts] at h
      cases h
    refine Ensures.ite (fun hc => ?_) (fun _ => ?_)
    · have hfresh : pending = none := by
        simp only [Bool.and_eq_true, Option.isNone_iff_eq_none] at hc
        exact pending_eq_none hc.1 hnoacts
      exact Ensures.bind (Ensures.lift fun _ w₂ _ => ihFollow _ e w₂
        (fun _ h => by cases h; exact hnone hfresh) (fun _ h => by cases h)
        fun r h => (hnocur r h).elim)
    · have hcur : RecordEntry eng.registry e (controllerResume? pending)
          (Frame.FitsBlock [controller]) :=
        ⟨fun h => hnone (pending_eq_none h hnoacts), hctrl⟩
      refine Ensures.next (ihCtrl e w₁ hcur) fun o e₁ w₂ h₁ => ?_
      split
      · exact ihFollow _ e₁ w₂ (fun _ h => by cases h) (fun _ _ _ => h₁)
          fun r h => (hnocur r h).elim
      · exact ihFollow _ e₁ w₂ (fun _ h => by cases h; exact h₁) (fun _ h => by cases h)
          fun r h => (hnocur r h).elim
      · exact ihFollow _ e₁ w₂ (fun _ h => by cases h; exact h₁) (fun _ h => by cases h)
          fun r h => (hnocur r h).elim
  · intro loopId controller actions controllerBase actionsBase path iteration pending outcome e w
      hinl _ _
    rw [Engine.loopFollow]
    exact Ensures.pure (hinl outcome rfl)
  · intro loopId controller actions controllerBase actionsBase path iteration pending
      controllerOutput edge hcont hlimit e w _ hinr _
    rw [Engine.loopFollow, if_pos hcont, dif_pos hlimit]
    simp only [Bool.and_eq_true, Option.isNone_iff_eq_none] at hlimit
    exact Ensures.pure (hinr _ rfl hlimit.1)
  · -- No actions: a cursor into them is out of reach, and the next round is fresh.
    intro loopId controller actions controllerBase actionsBase path iteration pending
      controllerOutput edge hcont hlimit hempty ih e w _ hinr hacts
    rw [Engine.loopFollow, if_pos hcont, dif_neg hlimit]
    dsimp only
    rw [if_pos hempty]
    have hnone : actionsResume? pending = none := by
      cases h : actionsResume? pending with
      | none => rfl
      | some r => exact absurd (List.isEmpty_iff.1 hempty) (hacts r h).1.1.nodes_ne_nil
    exact ih e w (fun _ => hinr _ rfl hnone) (fun _ h => by cases h) (fun _ h => by cases h)
  · intro loopId controller actions controllerBase actionsBase path iteration pending
      controllerOutput edge hcont hlimit hempty ihNext ihChild e w _ hinr hacts
    rw [Engine.loopFollow, if_pos hcont, dif_neg hlimit]
    dsimp only
    rw [if_neg hempty]
    have hcur : RecordEntry eng.registry e (actionsResume? pending) (Frame.FitsBlock actions) :=
      ⟨hinr _ rfl, fun r h => ⟨(hacts r h).1.1, (hacts r h).2⟩⟩
    refine Ensures.bind (Ensures.lift fun _ w₁ _ => ?_)
    refine Ensures.next (ihChild e w₁ hcur) fun o e₁ w₂ h₁ => ?_
    split
    · exact ihNext e₁ w₂ (fun _ => h₁) (fun _ h => by cases h) (fun _ h => by cases h)
    · exact Ensures.pure h₁
    · exact Ensures.pure h₁
  · intro loopId controller actions controllerBase actionsBase path iteration pending
      controllerOutput edge hcont hexit e w _ hinr hacts
    rw [Engine.loopFollow, if_neg hcont, if_pos hexit]
    exact Ensures.pure (hinr _ rfl (actionsResume?_eq_none (fun r h => (hacts r h).1.2) hcont))
  · intro loopId controller actions controllerBase actionsBase path iteration pending
      controllerOutput edge hcont hexit e w _ hinr hacts
    rw [Engine.loopFollow, if_neg hcont, if_neg hexit]
    exact Ensures.bind (Ensures.lift fun _ _ _ =>
      Ensures.pure (hinr _ rfl (actionsResume?_eq_none (fun r h => (hacts r h).1.2) hcont)))
  -- `runChild`: the block runs in the child, which finishes after it.
  · intro parentId candidate branchType iteration nodes base entry r hr e w _
    rw [Engine.runChild, hr]
    exact Ensures.throw
  · intro parentId candidate branchType iteration nodes base entry r frame tail hr ih e w hen
    rw [Engine.runChild, hr]
    refine Ensures.next (ih e w hen) fun o e₁ w₁ h₁ => ?_
    exact Ensures.next (finishInstance_leaves eng _ h₁ w₁) fun _ _ _ h₂ => Ensures.pure h₂
  · intro parentId candidate branchType iteration nodes base entry ih e w hen
    rw [Engine.runChild]
    have hx := hen.1 rfl
    refine Ensures.bind (Ensures.get ?_)
    split
    · exact Ensures.pure hx
    refine Ensures.bind (Ensures.get ?_)
    refine Ensures.next (openInstance_unpaused eng _ _ _ _ hx w) fun _ e₁ w₁ h₁ => ?_
    refine Ensures.next (ih e e₁ w₁ (.fresh h₁)) fun o e₂ w₂ h₂ => ?_
    exact Ensures.next (finishInstance_leaves eng _ h₂ w₂) fun _ _ _ h₃ => Ensures.pure h₃

end Engine

/-! ## Reports -/

/-- What a report leaves for the next resume: its records numbered and
started in order, none after the clock; with a ticket, the execution saved
under it, with one record paused, held by the instance the ticket names and
resumable through the ticket's edge; without one, no record paused. Either
way every record is sound. -/
structure ReportLedger (reg : Registry) (R : ExecutionReport) (w : World) : Prop where
  inOrder : RecordsInOrder R.execution w
  memory : ∃ slots, w.store = .memory slots
  waiting : ∀ t, R.pause = some t → ∃ slots p, w.store = .memory (putSlot slots p) ∧
    p.ticket = t ∧ p.execution = R.execution ∧ R.execution.PausedOnce reg p.resumeEdge ∧
    R.execution.HoldsPaused t.instanceId
  unpaused : R.pause = none → R.execution.Unpaused reg

namespace Run

/-- Saving a ticket in memory keeps the clock. -/
theorem storeTicket_clock (p : PausedExecution) {w : World}
    {slots : List (String × Option PausedExecution)} (hstore : w.store = .memory slots) :
    Run.Ensures (Run.storeTicket p) w fun _ w' => w'.clock = w.clock := by
  unfold Run.storeTicket
  refine Run.Ensures.bind (Run.Ensures.get ?_)
  rw [hstore]
  exact Run.Ensures.modify rfl

/-- Claiming a ticket from memory keeps the clock. -/
theorem claimTicket_clock {w : World} {slots : List (String × Option PausedExecution)}
    (hstore : w.store = .memory slots) (id : String) :
    Run.Ensures (Run.claimTicket id) w fun _ w' => w'.clock = w.clock := by
  unfold Run.claimTicket
  refine Run.Ensures.bind (Run.Ensures.get ?_)
  rw [hstore]
  dsimp only
  split
  · exact Run.Ensures.bind (Run.Ensures.modify (Run.Ensures.pure rfl))
  · exact Run.Ensures.throw

end Run

namespace Engine

variable (eng : Engine)

/-- Suspending in memory turns the clock only forward. -/
theorem suspend_clock (d : FlowDefinition) (e : Execution) (cursor : Cursor) (pause : PendingPause)
    {w : World} {slots : List (String × Option PausedExecution)} (hstore : w.store = .memory slots) :
    Run.Ensures (eng.suspend d e cursor pause) w fun _ w' => w.clock ≤ w'.clock := by
  unfold suspend
  refine Run.Ensures.next (Run.now_quiet w).2 fun t w₁ hq₁ => ?_
  refine Run.Ensures.next (Run.storeTicket_clock _ (hq₁.store.trans hstore)) fun _ w₂ h₂ => ?_
  refine Run.Ensures.bind (Run.Ensures.modify ?_)
  refine Run.Ensures.next (Run.Forward.forIn _ _ (fun _ _ => Run.Forward.bind
    (emitFor_forward eng _ _ _ _ _) fun _ => Run.Forward.of_quiet (Run.Quiet.pure _)) _)
    fun _ w₄ h₄ => ?_
  refine Run.Ensures.next (Run.info_quiet _ _ w₄).2 fun _ w₅ hq₅ => ?_
  refine Run.Ensures.next (eng.record_quiet _ w₅).2 fun _ w₆ hq₆ => Run.Ensures.pure ?_
  calc w.clock ≤ w₁.clock := hq₁.clock
    _ = w₂.clock := h₂.symm
    _ ≤ w₄.clock := h₄
    _ ≤ w₅.clock := hq₅.clock
    _ ≤ w₆.clock := hq₆.clock

/-- Driving the walk from records in order, entered as `RecordEntry` says for
the definition's nodes, reports as `ReportLedger` says. -/
theorem drive_ledger (d : FlowDefinition) {e : Execution} {resume : Option Resume} {w : World}
    (hen : RecordEntry eng.registry e resume (Frame.FitsBlock d.nodes)) (hord : RecordsInOrder e w)
    {slots : List (String × Option PausedExecution)} (hstore : w.store = .memory slots) :
    Run.Ensures (eng.drive eng.runStep d e resume) w fun R w' => ReportLedger eng.registry R w' := by
  unfold drive
  refine Run.Ensures.next (Ensures.run (((walk_leaves eng).1 _ _ _ _ _ e w hen).and
    ((runBlock_recordsInOrder eng _ _ _ _ _ e w hord).and
      ((walk_keepsStore eng eng.runStep (runStep_keepsStore eng)).1 _ _ _ _ _ e w).2)))
    fun q w₁ h₁ => ?_
  obtain ⟨outcome, e₁⟩ := q
  obtain ⟨hleaves, hord₁, hs₁⟩ := h₁
  dsimp only at hleaves hord₁ hs₁ ⊢
  split
  · -- The suspension saves the execution, marked paused, with its one paused record.
    rename_i frames pause
    obtain ⟨honce, hheld⟩ := hleaves
    refine ((suspend_saves eng d e₁ _ pause (hs₁.trans hstore)).and
      (suspend_clock eng d e₁ _ pause (hs₁.trans hstore))).mono
      fun R w₂ ⟨⟨ticket, hid, hR, h₂⟩, hclock⟩ => ?_
    subst hR
    have hrecs := Execution.stepRecords_markAll (Cursor.ofUnwound frames).instanceIds .paused e₁
    refine ⟨hord₁.of_stepRecords hrecs hclock, ⟨_, h₂⟩, fun t ht => ?_, fun h => by cases h⟩
    cases ht
    refine ⟨slots, _, h₂, rfl, (ExecutionReport.execution_ofExecution _ _ _).symm,
      honce.of_stepRecords hrecs, ?_⟩
    rw [hid, ExecutionReport.execution_ofExecution]
    exact Execution.HoldsPaused.foldl_modify (g := fun i => { i with status := .paused })
      (fun _ => ⟨rfl, rfl⟩) _ hheld
  · -- Otherwise the root finishes, which keeps the records, none paused.
    rename_i hns
    have hunp := hleaves.unpaused hns
    refine Run.Ensures.next ((Ensures.run ((finishInstance_stepRecords eng _ outcome e₁ w₁).and
      (finishInstance_forward eng _ outcome e₁ w₁))).and
      (Tame.run (finishInstance_tame eng _ _) e₁ w₁).2) fun q w₂ ⟨⟨hrecs, hclock⟩, hs₂⟩ => ?_
    obtain ⟨⟨⟩, e₂⟩ := q
    have hdone : ∀ {w₃ : World}, w₂.Quiet w₃ →
        Run.Ensures (eng.record (ExecutionReport.ofExecution d.name e₂ none) >>= fun _ =>
          pure (ExecutionReport.ofExecution d.name e₂ none)) w₃
          fun R w' => ReportLedger eng.registry R w' :=
      fun hq₃ => Run.Ensures.next ((eng.record_quiet _ _).2) fun _ w₄ hq₄ =>
        Run.Ensures.pure ⟨((hord₁.of_stepRecords hrecs hclock).quiet hq₃).quiet hq₄,
          ⟨slots, hq₄.store.trans (hq₃.store.trans (hs₂.trans (hs₁.trans hstore)))⟩,
          (fun t ht => by cases ht), fun _ => hunp.of_stepRecords hrecs⟩
    dsimp only
    split <;> exact Run.Ensures.next ((Run.log_quiet _ _ _) w₂).2 fun _ w₃ hq₃ => hdone hq₃

/-- A run from a world whose store is in memory reports as `ReportLedger`
says. -/
theorem run_ledger (d : FlowDefinition) (init : Value) {w : World}
    {slots : List (String × Option PausedExecution)} (hstore : w.store = .memory slots) :
    Run.Ensures (eng.run d init) w fun R w' => ReportLedger eng.registry R w' := by
  unfold run
  refine Run.Ensures.next ((start_creates eng d init w).and (start_keepsStore eng d init w).2)
    fun e w₁ ⟨⟨rootId, seed, now, he⟩, h₁⟩ => ?_
  subst he
  exact drive_ledger eng d (.fresh (Execution.unpaused_create _ _ _))
    (recordsInOrder_create _ _ _ w₁) (h₁.trans hstore)

/-- Resuming the execution saved last under its ticket, with a cursor that
fits its definition and records as the ticket left them, reports as
`ReportLedger` says. -/
theorem resume_ledger (value : Value) {p : PausedExecution} {w : World}
    {slots : List (String × Option PausedExecution)} (hstore : w.store = .memory (putSlot slots p))
    (hfits : Frame.FitsBlock p.definition.nodes p.cursor.frames)
    (hord : RecordsInOrder p.execution w) (honce : p.execution.PausedOnce eng.registry p.resumeEdge) :
    Run.Ensures (eng.resume p.ticket.pauseId value) w fun R w' => ReportLedger eng.registry R w' := by
  obtain ⟨rest, htake⟩ := takeSlot_putSlot slots p
  unfold resume
  refine Run.Ensures.next ((Run.claimTicket_take hstore htake).and (Run.claimTicket_clock hstore _))
    fun p' w₁ ⟨⟨hp', _, _, hs₁⟩, hc₁⟩ => ?_
  subst p'
  refine Run.Ensures.next (Run.info_quiet _ _ w₁).2 fun _ w₂ hq₂ => ?_
  -- Marking the cursor's instances running keeps the records, under a clock going forward.
  refine Run.Ensures.next (Run.Ensures.forIn_fold _ _
    (fun s id => s.modify id fun i => { i with status := .running })
    (fun s b w => b = s ∧ w₂.clock ≤ w.clock ∧ w.store = .memory rest) p.execution ?_
    ⟨rfl, Nat.le_refl _, hq₂.store.trans hs₁⟩) fun e w₃ ⟨he, hc₃, hs₃⟩ => ?_
  · intro id b s w' ⟨hb, hc, hsw⟩
    subst hb
    exact Run.Ensures.bind (((emitFor_forward eng _ _ _ _ _ w').and
      (emitFor_tame eng _ _ _ _ _ w').2).mono fun _ _ ⟨hc', hs'⟩ =>
        Run.Ensures.pure ⟨_, rfl, rfl, le_trans hc hc', hs'.trans hsw⟩)
  subst he
  have hrecs := Execution.stepRecords_markAll p.cursor.instanceIds .running p.execution
  have hclock : w.clock ≤ w₃.clock := by
    have := hq₂.clock
    omega
  refine drive_ledger eng _ ⟨(fun h => by cases h), fun r hr => ?_⟩
    (hord.of_stepRecords hrecs hclock) hs₃
  cases hr
  exact ⟨hfits, p.resumeEdge, value, rfl, honce.of_stepRecords hrecs⟩

end Engine

/-- Along a session from a settled world, every report leaves its records
as `ReportLedger` says and reports settled statuses. -/
theorem Engine.Session.ledger {eng : Engine} {d : FlowDefinition} {init : Value} {w₀ w : World}
    {R : ExecutionReport} (h : eng.Session d init w₀ w R) (h₀ : w₀.Settled) :
    ReportLedger eng.registry R w ∧ R.Settled w.store ∧ w₀.Reaches w := by
  induction h with
  | run hrun =>
    obtain ⟨slots, hstore, -⟩ := h₀.1
    exact ⟨eng.run_ledger d init hstore _ _ hrun, (eng.run_settles d init hstore _ _ hrun).1,
      .run eng d init .refl hrun⟩
  | resume value _ hpause hrun ih =>
    obtain ⟨hledger, -, hreach⟩ := ih
    obtain ⟨slots, p, hs, hticket, hexec, honce, -⟩ := hledger.waiting _ hpause
    -- The ticket the store holds was saved by the engine, so its cursor fits.
    obtain ⟨slots', hs', hall⟩ := hreach.resumable h₀.1
    have hfits := (hall _ p (by rw [hs] at hs'; cases hs'; exact mem_putSlot_self slots p)).fits
    rw [← hticket] at hrun
    refine ⟨eng.resume_ledger value hs hfits (hexec ▸ hledger.inOrder) (hexec ▸ honce) _ _ hrun,
      (eng.resume_settles _ value ⟨slots', hs', hall⟩ (hreach.waits h₀.1 h₀.2) _ _ hrun).1,
      .resume eng _ value hreach hrun⟩

namespace ExecutionReport

variable {R : ExecutionReport}

/-- Records numbered once each come out of the report's sort in the order of
their numbers. -/
theorem steps_sequence (h : Numbered (R.instances.flatMap (·.steps))) :
    R.steps.map (·.sequence) = List.range (R.instances.flatMap (·.steps)).length := by
  have hperm : R.steps.Perm (R.instances.flatMap (·.steps)) := List.mergeSort_perm _ _
  have hsorted : (R.steps.map (·.sequence)).Pairwise (· ≤ ·) := by
    rw [List.pairwise_map]
    refine (@List.pairwise_mergeSort _ (fun a b : StepRecord => decide (a.sequence ≤ b.sequence))
      (fun a b c hab hbc => ?_) (fun a b => ?_) _).imp fun hab => by simpa using hab
    · simp only [decide_eq_true_eq] at hab hbc ⊢
      omega
    · simp only [Bool.or_eq_true, decide_eq_true_eq]
      omega
  exact List.Perm.eq_of_pairwise' hsorted List.pairwise_le_range ((hperm.map _).trans h)

/-- Listed in the order of their numbers, chronological records are listed in
the order they started. -/
theorem steps_started (hseq : R.steps.map (·.sequence) =
      List.range (R.instances.flatMap (·.steps)).length) {clock : Nat}
    (hc : Chronological (R.instances.flatMap (·.steps)) clock) :
    R.steps.Pairwise fun a b => a.startedAt.nanos < b.startedAt.nanos := by
  have hperm : R.steps.Perm (R.instances.flatMap (·.steps)) := List.mergeSort_perm _ _
  have hlt : (R.steps.map (·.sequence)).Pairwise (· < ·) := by
    rw [hseq]
    exact List.pairwise_lt_range
  exact (List.pairwise_map.1 hlt).imp_of_mem fun ha hb hab =>
    hc.ordered _ (hperm.mem_iff.1 ha) _ (hperm.mem_iff.1 hb) hab

/-- A settled report is paused exactly when it hands out a ticket. -/
theorem Settled.paused_iff {store : PauseStore} (h : R.Settled store) :
    R.status = .paused ↔ R.pause.isSome = true := by
  rcases h with ⟨hst, p, _, _, _, hpause, _⟩ | ⟨hterm, hnone, _⟩
  · rw [hpause]
    exact ⟨fun _ => rfl, fun _ => hst⟩
  · rw [hnone]
    refine ⟨fun hp => ?_, fun h => by cases h⟩
    rw [hp] at hterm
    cases hterm

end ExecutionReport

/-- A fresh world, whose store is in memory and empty, is one sessions start
from. -/
theorem World.settled_fresh : ({} : World).Settled :=
  ⟨⟨[], rfl, fun _ _ h => absurd h List.not_mem_nil⟩, fun _ h _ _ hm => by
    cases h
    exact absurd hm List.not_mem_nil⟩

/-- Over a session, a run and then resumes of the ticket each paused report
hands out, from a settled world: every report lists its records numbered
`0, 1, …, n - 1` in the order they started; every record is sound, a
completed one through one edge its step declares and with no failure, a
failed one with a failure and no output; at most one record is paused, and
the report is paused exactly when one is, which is then the last one
numbered, held by the instance its ticket names. -/
theorem step_records_stay_in_run_order {eng : Engine} {d : FlowDefinition} {init : Value}
    {w₀ w : World} {R : ExecutionReport} (h₀ : w₀.Settled) (hs : eng.Session d init w₀ w R) :
    R.steps.map (·.sequence) = List.range (R.instances.flatMap (·.steps)).length ∧
    R.steps.Pairwise (fun a b => a.startedAt.nanos < b.startedAt.nanos) ∧
    (∀ r ∈ R.instances.flatMap (·.steps), r.Sound eng.registry) ∧
    ((R.instances.flatMap (·.steps)).filter (·.status == .paused)).length ≤ 1 ∧
    (R.status = .paused ↔ ∃ r ∈ R.instances.flatMap (·.steps), r.status = .paused) ∧
    ∀ r ∈ R.instances.flatMap (·.steps), r.status = .paused →
      r.sequence + 1 = (R.instances.flatMap (·.steps)).length ∧
      ∃ t i, R.pause = some t ∧ i ∈ R.instances ∧ i.id = t.instanceId ∧ r ∈ i.steps := by
  obtain ⟨hledger, hsettled, -⟩ := hs.ledger h₀
  obtain ⟨hnum, hchron⟩ := hledger.inOrder
  have hseq := ExecutionReport.steps_sequence hnum
  refine ⟨hseq, ExecutionReport.steps_started hseq hchron, ?_⟩
  have hrecs : R.instances.flatMap (·.steps) = R.execution.stepRecords := rfl
  rw [hsettled.paused_iff, hrecs]
  cases hp : R.pause with
  | none =>
    have hunp := hledger.unpaused hp
    have hnil : R.execution.stepRecords.filter (·.status == .paused) = [] :=
      List.filter_eq_nil_iff.2 fun x hx hb => hunp.unpaused x hx ((StepStatus.beq_paused _).1 hb)
    refine ⟨hunp.sound, by rw [hnil]; simp, ⟨(fun h => by cases h), fun ⟨r, hr, hpr⟩ => ?_⟩,
      fun r hr hpr => absurd hpr (hunp.unpaused r hr)⟩
    exact absurd hpr (hunp.unpaused r hr)
  | some t =>
    obtain ⟨_, p, _, _, _, honce, hheld⟩ := hledger.waiting t hp
    obtain ⟨q, hq, hqseq, hqres⟩ := honce.single
    have hpaused : ∀ r ∈ R.execution.stepRecords, r.status = .paused → r = q := fun r hr hpr => by
      have hmem : r ∈ R.execution.stepRecords.filter (·.status == .paused) :=
        List.mem_filter.2 ⟨hr, (StepStatus.beq_paused _).2 hpr⟩
      rw [hq] at hmem
      exact List.mem_singleton.1 hmem
    have hqmem : q ∈ R.execution.stepRecords := by
      have hmem : q ∈ R.execution.stepRecords.filter (·.status == .paused) := by
        rw [hq]
        exact List.mem_singleton_self q
      exact (List.mem_filter.1 hmem).1
    refine ⟨honce.sound, by rw [hq]; simp, ⟨fun _ => ⟨q, hqmem, hqres.paused⟩, fun _ => rfl⟩,
      fun r hr hpr => ?_⟩
    obtain rfl := hpaused r hr hpr
    obtain ⟨Y, hY, r', hr', hpr'⟩ := hheld
    obtain ⟨hYmem, hYid⟩ := Execution.mem_of_get? hY
    have hr'q := hpaused r' (List.mem_flatMap.2 ⟨Y, hYmem, hr'⟩) hpr'
    subst hr'q
    exact ⟨hqseq, t, Y, rfl, hYmem, hYid, hr'⟩

/-- A session that suspends inside a sub-flow, is resumed and suspends there
again: its last report numbers the answered question and the open one in run
order, and holds one paused record, the last one, in the instance the new
ticket names. -/
theorem resumed_session_records_stay_in_run_order :
    ∃ w R, askingEngine.Session askTwiceDefinition .null {} w R ∧ R.status = .paused ∧
      R.steps.map (·.sequence) = List.range (R.instances.flatMap (·.steps)).length ∧
      ((R.instances.flatMap (·.steps)).filter (·.status == .paused)).length ≤ 1 ∧
      ∀ r ∈ R.instances.flatMap (·.steps), r.status = .paused →
        r.sequence + 1 = (R.instances.flatMap (·.steps)).length ∧
        ∃ t i, R.pause = some t ∧ i ∈ R.instances ∧ i.id = t.instanceId ∧ r ∈ i.steps := by
  obtain ⟨R₁, w₁, t₁, -, R₂, w₂, -, hR₁, ht₁, -, -, hR₂, hpaused, -⟩ := askTwice_session
  have hs : askingEngine.Session askTwiceDefinition .null {} w₂ R₂ := .resume (.str "v") (.run hR₁) ht₁ hR₂
  obtain ⟨hseq, -, -, hone, -, hlast⟩ := step_records_stay_in_run_order World.settled_fresh hs
  exact ⟨w₂, R₂, hs, hpaused, hseq, hone, hlast⟩

end Flowline
