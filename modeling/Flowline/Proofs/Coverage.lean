import Flowline.Proofs.Calls
import Flowline.Proofs.Sessions
set_option autoImplicit false

/-!
# Tickets stay admitted across sessions

Validation threads an entry through a definition's nodes and warns of every
edge a branch's arms miss; a walk along a cursor admitted from the
definition's start calls only placed calls (`Engine.Calls.placed_of_root`).
This module shows that the cursors a store holds stay admitted across runs
and resumes by engines that share a registry: a suspension saves a cursor
admitted from the definition's start (`Engine.drive_admits`), so the tickets
of the store stay admitted (`World.ReachesWith.admits`).

A run starts the walk at `.block d.nodes "" none none`; a resume of ticket
`p` with `value` starts it at `.block p.definition.nodes "" none (some ⟨p.cursor.frames,
StepOutput.make p.resumeEdge value⟩)`: that is how `Engine.drive` calls `runBlock`.
-/

namespace Flowline

/-- A world whose pause store is in memory and holds only tickets whose
cursors are admitted from the start of their definitions, for the edge they
are resumed through, wherever the definition's positions fit a 64-bit count
(its size does, which bounds the length of every list of nodes in it). -/
def World.AdmitsResumes (reg : Registry) (w : World) : Prop :=
  ∃ slots, w.store = .memory slots ∧ ∀ k p, (k, some p) ∈ slots →
    sizeOf p.definition.nodes < Nat.pow 2 64 →
    Frame.Admitted reg p.resumeEdge ⟨p.definition.nodes, "", .start⟩ p.cursor.frames

/-- Whether a world's tickets are admitted depends on its store alone. -/
theorem World.AdmitsResumes.of_store {reg : Registry} {w w' : World} (h : w.AdmitsResumes reg)
    (hs : w'.store = w.store) : w'.AdmitsResumes reg := by
  obtain ⟨slots, hstore, hall⟩ := h
  exact ⟨slots, hs.trans hstore, hall⟩

namespace Engine

variable {eng : Engine} {reg : Registry}

/-- Driving the walk of a definition, fresh or along a cursor admitted from
its start, keeps the tickets of a store in memory admitted: a suspension
saves its cursor admitted. -/
theorem drive_admits (heng : eng.registry = reg) (d : FlowDefinition) {e : Execution}
    {resume : Option Resume}
    (hres : sizeOf d.nodes < Nat.pow 2 64 →
      ∀ r, resume = some r → Frame.Admitted reg r.value.edge ⟨d.nodes, "", .start⟩ r.frames)
    {w : World} (hw : w.AdmitsResumes reg) :
    Run.Ensures (eng.drive eng.runStep d e resume) w fun _ w' => w'.AdmitsResumes reg := by
  subst heng
  unfold drive
  -- a definition too large to count its positions saves tickets nothing is said of
  refine Run.Ensures.next (Ensures.run ((Ensures.imp fun hsize =>
    (walk_admits (runStep_declares eng) (runStep_pauses eng)).1 _ _ _ _ _ hsize .start rfl
      (hres hsize) e w).and
      ((walk_keepsStore eng eng.runStep (runStep_keepsStore eng)).1 _ _ _ _ _ e w).2))
    fun p w₁ h₁ => ?_
  obtain ⟨outcome, e₁⟩ := p
  obtain ⟨hsusp, hstore₁⟩ := h₁
  obtain ⟨slots, hslots, hall⟩ := hw
  dsimp only at hsusp hstore₁ ⊢
  split
  · -- The saved ticket's cursor is the suspension's frames, outermost first.
    rename_i frames pause
    refine (suspend_saves eng d e₁ _ pause (hstore₁.trans hslots)).mono
      fun _ w₂ ⟨ticket, _, _, h₂⟩ => ⟨_, h₂, fun k q hq => ?_⟩
    rcases mem_putSlot hq with hq | rfl
    · exact hall k q hq
    · exact fun hsize => hsusp hsize frames pause rfl
  · -- Otherwise the store is as it was.
    refine Run.Ensures.after_tame (Tame.run (finishInstance_tame eng _ _) e₁) fun _ w₂ h₂ => ?_
    split <;> exact Run.Ensures.after_tame (Run.log_tame _ _ _) fun _ w₃ h₃ =>
      Run.Ensures.after_tame (record_tame eng _) fun _ w₄ h₄ =>
        Run.Ensures.pure ⟨slots, h₄.trans (h₃.trans (h₂.trans (hstore₁.trans hslots))), hall⟩

/-- A run keeps the tickets of a store in memory admitted, whether it
succeeds or fails. -/
theorem run_admits (heng : eng.registry = reg) (d : FlowDefinition) (init : Value) {w : World}
    (hw : w.AdmitsResumes reg) {r : Except FlowError ExecutionReport} {w' : World}
    (hrun : (eng.run d init).run.run w = (r, w')) : w'.AdmitsResumes reg := by
  rcases r with err | R
  · rcases run_throws eng d init w err w' hrun with ⟨-, hs⟩ | ⟨-, dir, hdir⟩
    · exact hw.of_store hs
    · obtain ⟨slots, hstore, -⟩ := hw
      rw [hstore] at hdir
      cases hdir
  · refine (?_ : Run.Ensures (eng.run d init) w fun _ w' => w'.AdmitsResumes reg) R w' hrun
    unfold run
    exact Run.Ensures.next (start_keepsStore eng d init w).2 fun e w₁ h₁ =>
      drive_admits heng d (fun _ _ h => by cases h) (hw.of_store h₁)

/-- A resume from a resumable world keeps the tickets of the store admitted,
whether it succeeds or fails: the ticket it claims was admitted, and so is
the cursor it resumes along. -/
theorem resume_admits (heng : eng.registry = reg) (pauseId : String) (value : Value) {w : World}
    (hres : w.Resumable) (hw : w.AdmitsResumes reg) {r : Except FlowError ExecutionReport}
    {w' : World} (hrun : (eng.resume pauseId value).run.run w = (r, w')) : w'.AdmitsResumes reg := by
  rcases r with err | R
  · rw [(resume_throws eng pauseId value hres err w' hrun).2]
    exact hw
  · refine (?_ : Run.Ensures (eng.resume pauseId value) w fun _ w' => w'.AdmitsResumes reg) R w' hrun
    obtain ⟨slots, hstore, hall⟩ := hw
    unfold resume
    refine Run.Ensures.next (Run.claimTicket_memory hstore pauseId)
      fun p w₁ ⟨hk, rest, h₁, hsub⟩ => ?_
    refine Run.Ensures.after_tame (Run.info_tame _ _) fun _ w₂ h₂ => ?_
    refine Run.Ensures.next (Run.Ensures.forIn_store _ _ (fun _ => True) (fun _ _ _ _ =>
      Run.Ensures.after_tame (emitFor_tame eng _ _ _ _ _) fun _ _ h => Run.Ensures.pure ⟨trivial, h⟩)
      trivial) fun e w₃ ⟨_, h₃⟩ => ?_
    exact drive_admits heng _ (fun hsize r h => by cases h; exact hall pauseId p hk hsize)
      ⟨rest, h₃.trans (h₂.trans h₁), fun k q hq => hall k q (hsub k q hq)⟩

end Engine

/-! ## Sessions of one registry -/

/-- The worlds that runs and resumes by engines with registry `reg` lead to
from `w`, of any definitions and tickets, each of them succeeding or
failing. -/
inductive World.ReachesWith (reg : Registry) (w : World) : World → Prop where
  | refl : World.ReachesWith reg w w
  | run {w₁ w₂ : World} {r : Except FlowError ExecutionReport} (eng : Engine)
      (heng : eng.registry = reg) (d : FlowDefinition) (init : Value) :
      World.ReachesWith reg w w₁ → (eng.run d init).run.run w₁ = (r, w₂) → World.ReachesWith reg w w₂
  | resume {w₁ w₂ : World} {r : Except FlowError ExecutionReport} (eng : Engine)
      (heng : eng.registry = reg) (pauseId : String) (value : Value) :
      World.ReachesWith reg w w₁ → (eng.resume pauseId value).run.run w₁ = (r, w₂) →
      World.ReachesWith reg w w₂

namespace World.ReachesWith

variable {reg : Registry} {w₀ w : World}

/-- Sessions of one registry are sessions. -/
theorem reaches (h : w₀.ReachesWith reg w) : w₀.Reaches w := by
  induction h with
  | refl => exact .refl
  | run eng _ d init _ hrun ih => exact .run eng d init ih hrun
  | resume eng _ pauseId value _ hrun ih => exact .resume eng pauseId value ih hrun

/-- Every world that sessions of one registry lead to from a resumable world
whose tickets are admitted keeps its tickets admitted. -/
theorem admits (h₀ : w₀.Resumable) (ha₀ : w₀.AdmitsResumes reg) (h : w₀.ReachesWith reg w) :
    w.AdmitsResumes reg := by
  induction h with
  | refl => exact ha₀
  | run eng heng d init _ hrun ih => exact Engine.run_admits heng d init ih hrun
  | resume eng heng pauseId value hreach hrun ih =>
    exact Engine.resume_admits heng pauseId value (hreach.reaches.resumable h₀) ih hrun

end World.ReachesWith

end Flowline
