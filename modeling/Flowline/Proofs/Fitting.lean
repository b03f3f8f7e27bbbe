import Flowline.Proofs.Tampering
set_option autoImplicit false

/-!
# Sessions of engines a definition fits

A store's tickets fit an engine (`World.TicketsFit`) when each can be
followed, its failures are allowed, and its definition validates with its
empty sub-flows within the depth limit; a resume from such a store reports
only allowed failures (`Engine.resume_safe`). Runs and resumes by engines
with the same registry and limits keep the tickets fitting, whether they
succeed or fail, as long as every definition run keeps its empty sub-flows
within the limit (`World.ReachesFitting.ticketsFit`): a run saves a ticket
only for a definition that validates, and a resume claims a ticket that
fits. So runs and resumes of valid definitions, over whole sessions from an
empty store, report only allowed failures (`Engine.valid_runs_fail_allowed`).
-/

namespace Flowline

/-- Whether a store's tickets fit an engine depends only on its registry and
its limits. -/
theorem World.TicketsFit.of_engine {w : World} {eng eng' : Engine} (h : w.TicketsFit eng)
    (hreg : eng'.registry = eng.registry) (hconfig : eng'.config = eng.config) : w.TicketsFit eng' := by
  obtain ⟨slots, hstore, hall⟩ := h
  exact ⟨slots, hstore, fun k p hk => by rw [hreg, hconfig]; exact hall k p hk⟩

/-- A store whose slots are among those of a store whose tickets fit. -/
theorem World.TicketsFit.of_sub {w w' : World} {eng : Engine}
    {slots rest : List (String × Option PausedExecution)} (hw : w.TicketsFit eng)
    (hstore : w.store = .memory slots) (hsub : ∀ k q, (k, some q) ∈ rest → (k, some q) ∈ slots)
    (hstore' : w'.store = .memory rest) : w'.TicketsFit eng := by
  obtain ⟨slots', hs, hall⟩ := hw
  rw [hstore] at hs
  cases hs
  exact ⟨rest, hstore', fun k q hq => hall k q (hsub k q hq)⟩

namespace Engine

variable (eng : Engine)

/-- Driving the walk over a definition that validates, with its empty
sub-flows within the depth limit, from a grown execution whose failures are
allowed, keeps the tickets of the store fitting: a suspension saves one that
can be followed, with allowed failures, of that definition. -/
theorem drive_ticketsFit (d : FlowDefinition) {e : Execution} {resume : Option Resume}
    (hg : e.Grown) (hres : ∀ r, resume = some r → Frame.Descends e r.frames) (hfa : e.FailuresAllowed)
    (hvalid : (Logged.collect (validateFlow d eng.registry eng.config)).1.valid = true)
    (hempty : ∀ n ∈ d.nodes, n.EmptyWithin eng.config.maxDepth 0) {w : World}
    (hw : w.TicketsFit eng) :
    Run.Ensures (eng.drive eng.runStep d e resume) w fun _ w' => w'.TicketsFit eng := by
  unfold drive
  have hroot : e.DepthAtMost e.rootId 0 := by
    obtain ⟨r, hr, -, hdepth⟩ := hg.linked.root
    exact ⟨r, hr, by omega⟩
  refine Run.Ensures.next (Ensures.run
    (((walk_safe eng eng.runStep (runStep_grows eng) (runStep_safe eng)).1 _ _ _ _ _ 0 e w hg hres
      hfa hroot (fits_of_valid eng hvalid hempty)).and
      ((runBlock_unwinds (runStep_grows eng) e w hres).and
        ((walk_keepsStore eng eng.runStep (runStep_keepsStore eng)).1 _ _ _ _ _ e w).2)))
    fun p w₁ h₁ => ?_
  obtain ⟨outcome, e₁⟩ := p
  obtain ⟨⟨hfa₁, -⟩, ⟨hg₁, hatop⟩, hstore₁⟩ := h₁
  obtain ⟨slots, hslots, hall⟩ := hw
  dsimp only at hfa₁ hatop hstore₁ ⊢
  split
  · -- The saved ticket can be followed, its failures are allowed, and its
    -- definition fits.
    rename_i frames pause
    have hkeep : Execution.KeepsPlace fun i => { i with status := InstanceStatus.paused } :=
      fun _ => ⟨rfl, rfl, rfl⟩
    refine (suspend_saves eng d e₁ _ pause (hstore₁.trans hslots)).mono
      fun _ w₂ ⟨ticket, _, _, h₂⟩ => ⟨_, h₂, fun k q hq => ?_⟩
    rcases mem_putSlot hq with hq | rfl
    · exact hall k q hq
    have hgrows := Execution.Grows.foldl_modify hkeep (Cursor.ofUnwound frames).instanceIds e₁
    exact ⟨⟨(hg.grows hg₁).grows hgrows, ((hatop frames pause rfl).grows hgrows).descends⟩,
      hfa₁.foldl_status .paused _, hvalid, hempty⟩
  · -- Otherwise the store is as it was.
    refine Run.Ensures.after_tame (Tame.run (finishInstance_tame eng _ _) e₁) fun _ w₂ h₂ => ?_
    split <;> exact Run.Ensures.after_tame (Run.log_tame _ _ _) fun _ w₃ h₃ =>
      Run.Ensures.after_tame (record_tame eng _) fun _ w₄ h₄ =>
        Run.Ensures.pure ⟨slots, h₄.trans (h₃.trans (h₂.trans (hstore₁.trans hslots))), hall⟩

/-- A run of a definition whose empty sub-flows lie within the depth limit
keeps the tickets of the store fitting, whether it succeeds or fails: it
saves a ticket only for a definition that validates. -/
theorem run_ticketsFit (d : FlowDefinition) (init : Value)
    (hempty : ∀ n ∈ d.nodes, n.EmptyWithin eng.config.maxDepth 0) {w : World} (hw : w.TicketsFit eng)
    {r : Except FlowError ExecutionReport} {w' : World} (hrun : (eng.run d init).run.run w = (r, w')) :
    w'.TicketsFit eng := by
  obtain ⟨slots, hstore, hall⟩ := hw
  rcases r with err | R
  · rcases run_throws eng d init w err w' hrun with ⟨-, hs⟩ | ⟨-, dir, hdir⟩
    · exact ⟨slots, hs.trans hstore, hall⟩
    · rw [hstore] at hdir
      cases hdir
  · refine (?_ : Run.Ensures (eng.run d init) w fun _ w' => w'.TicketsFit eng) R w' hrun
    unfold run
    refine Run.Ensures.next ((start_valid eng d init w).and (start_keepsStore eng d init w).2)
      fun e w₁ ⟨⟨hg, hfa, hvalid⟩, h₁⟩ => ?_
    exact drive_ticketsFit eng d hg (fun _ h => by cases h) hfa hvalid hempty
      ⟨slots, h₁.trans hstore, hall⟩

/-- A resume keeps the tickets of a store fitting, whether it succeeds or
fails: the ticket it claims fits, and the others stay as they were. -/
theorem resume_ticketsFit (pauseId : String) (value : Value) {w : World} (hw : w.TicketsFit eng)
    {r : Except FlowError ExecutionReport} {w' : World}
    (hrun : (eng.resume pauseId value).run.run w = (r, w')) : w'.TicketsFit eng := by
  obtain ⟨slots, hstore, hall⟩ := hw
  rcases r with err | R
  · rcases resume_refused eng pauseId value hstore err w' hrun with ⟨-, rfl⟩ | ⟨-, p, rest, htake, hs⟩
    · exact ⟨slots, hstore, hall⟩
    · exact ⟨rest, hs, fun k q hq => hall k q (mem_of_takeSlot_rest htake hq)⟩
  · refine (?_ : Run.Ensures (eng.resume pauseId value) w fun _ w' => w'.TicketsFit eng) R w' hrun
    unfold resume
    refine Run.Ensures.next (Run.claimTicket_memory hstore pauseId)
      fun p w₁ ⟨hk, rest, h₁, hsub⟩ => ?_
    obtain ⟨⟨hg, hdesc⟩, hfa, hvalid, hempty⟩ := hall pauseId p hk
    refine Run.Ensures.after_tame (Run.info_tame _ _) fun _ w₂ h₂ => ?_
    -- Marking the waiting instances running keeps the execution grown, its
    -- failures and the store.
    refine Run.Ensures.next (Run.Ensures.forIn_store _ _
      (fun e => p.execution.Grows e ∧ e.FailuresAllowed) (fun id e' w' ⟨hge', hfa'⟩ =>
        Run.Ensures.after_tame (emitFor_tame eng _ _ _ _ _) fun _ _ h => Run.Ensures.pure
          ⟨⟨hge'.trans (.of_modify _ id fun _ => ⟨rfl, rfl, rfl⟩), hfa'.modify id fun _ hi => hi⟩, h⟩)
      ⟨.refl _, hfa⟩) fun e w₃ ⟨⟨hge, hfa₃⟩, h₃⟩ => ?_
    exact drive_ticketsFit eng _ (hg.grows hge) (fun r h => by cases h; exact hdesc.grows hge) hfa₃
      hvalid hempty ⟨rest, h₃.trans (h₂.trans h₁), fun k q hq => hall k q (hsub k q hq)⟩

end Engine

/-- The worlds that runs and resumes by engines with `eng`'s registry and
limits lead to from `w`, each succeeding or failing, where every definition
run has its empty sub-flows within the depth limit. -/
inductive World.ReachesFitting (eng : Engine) (w : World) : World → Prop where
  | refl : World.ReachesFitting eng w w
  | run {w₁ w₂ : World} {r : Except FlowError ExecutionReport} (eng' : Engine)
      (hreg : eng'.registry = eng.registry) (hconfig : eng'.config = eng.config) (d : FlowDefinition)
      (init : Value) (hempty : ∀ n ∈ d.nodes, n.EmptyWithin eng.config.maxDepth 0) :
      World.ReachesFitting eng w w₁ → (eng'.run d init).run.run w₁ = (r, w₂) →
      World.ReachesFitting eng w w₂
  | resume {w₁ w₂ : World} {r : Except FlowError ExecutionReport} (eng' : Engine)
      (hreg : eng'.registry = eng.registry) (hconfig : eng'.config = eng.config) (pauseId : String)
      (value : Value) :
      World.ReachesFitting eng w w₁ → (eng'.resume pauseId value).run.run w₁ = (r, w₂) →
      World.ReachesFitting eng w w₂

/-- Every world such sessions lead to from a store whose tickets fit keeps
its tickets fitting. -/
theorem World.ReachesFitting.ticketsFit {eng : Engine} {w₀ w : World} (h₀ : w₀.TicketsFit eng)
    (h : w₀.ReachesFitting eng w) : w.TicketsFit eng := by
  induction h with
  | refl => exact h₀
  | run eng' hreg hconfig d init hempty _ hrun ih =>
    refine (eng'.run_ticketsFit d init (by rw [hconfig]; exact hempty) (ih.of_engine hreg hconfig)
      hrun).of_engine hreg.symm hconfig.symm
  | resume eng' hreg hconfig pauseId value _ hrun ih =>
    exact (eng'.resume_ticketsFit pauseId value (ih.of_engine hreg hconfig) hrun).of_engine hreg.symm
      hconfig.symm

namespace Engine

/-- Runs and resumes of definitions that validate, with their empty
sub-flows within the depth limit, fail only as a run can go wrong: a step
times out, returns an error or exits through an edge it does not declare, a
branch or a loop controller gets an edge it has no arm for, a loop runs past
its iteration limit, or the run is cancelled. No failure in the report, on an
instance or a step record, says that a step or its parameters did not
resolve or that the structure is wrong (`Failure.Allowed.code`). This holds
of a run from any world, and of a resume in every world that sessions of
such definitions, by engines with the same registry and limits, lead to from
a store whose tickets fit (an empty one, say). -/
theorem valid_runs_fail_allowed (eng : Engine) (d : FlowDefinition) (init : Value) (pauseId : String)
    (value : Value) (hempty : ∀ n ∈ d.nodes, n.EmptyWithin eng.config.maxDepth 0) :
    (∀ w, Run.Ensures (eng.run d init) w fun R _ => R.FailuresAllowed) ∧
    (∀ w₀ w : World, w₀.TicketsFit eng → w₀.ReachesFitting eng w →
      Run.Ensures (eng.resume pauseId value) w fun R _ => R.FailuresAllowed) :=
  ⟨run_safe eng d init hempty, fun _ _ h₀ h => resume_safe eng pauseId value (h.ticketsFit h₀)⟩

/-- The flow that asks twice keeps its empty sub-flows within the limit (it
has none); from an empty store its run suspends, and resuming its ticket in
the world the run left reports only allowed failures. -/
theorem asked_twice_resume_fails_allowed :
    (∀ n ∈ askTwiceDefinition.nodes, n.EmptyWithin askingEngine.config.maxDepth 0) ∧
    ({} : World).TicketsFit askingEngine ∧
    ∃ (R₁ : ExecutionReport) (w₁ : World) (t₁ : PauseTicket) (R₂ : ExecutionReport) (w₂ : World),
      (askingEngine.run askTwiceDefinition .null).run.run {} = (.ok R₁, w₁) ∧ R₁.pause = some t₁ ∧
      ({} : World).ReachesFitting askingEngine w₁ ∧
      (askingEngine.resume t₁.pauseId (.str "v")).run.run w₁ = (.ok R₂, w₂) ∧ R₂.FailuresAllowed := by
  have hempty : ∀ n ∈ askTwiceDefinition.nodes, n.EmptyWithin askingEngine.config.maxDepth 0 := by
    intro n hn
    simp only [askTwiceDefinition, List.mem_singleton] at hn
    subst hn
    refine .sequence (fun h => by cases h) fun c hc => ?_
    simp only [List.mem_cons, List.not_mem_nil, or_false] at hc
    rcases hc with rfl | rfl <;> exact .step
  have h₀ : ({} : World).TicketsFit askingEngine := ⟨[], rfl, fun _ _ h => absurd h List.not_mem_nil⟩
  obtain ⟨R₁, w₁, t₁, -, R₂, w₂, -, hR₁, ht₁, -, -, hR₂, -⟩ := askTwice_session
  have hreach : ({} : World).ReachesFitting askingEngine w₁ :=
    .run askingEngine rfl rfl askTwiceDefinition .null hempty .refl hR₁
  exact ⟨hempty, h₀, R₁, w₁, t₁, R₂, w₂, hR₁, ht₁, hreach, hR₂,
    (valid_runs_fail_allowed askingEngine askTwiceDefinition .null t₁.pauseId (.str "v") hempty).2
      {} w₁ h₀ hreach R₂ w₂ hR₂⟩

/-- A definition whose only node is an empty sub-flow. -/
def emptySubFlowDefinition : FlowDefinition := ⟨"", [.sequence []], none⟩

/-- With a depth limit of 0 the definition still validates, an empty
sub-flow being only a warning, yet its run fails because the sub-flow's
instance would lie one level down. -/
theorem emptySubFlow_fails_too_deep :
    (Logged.collect (validateFlow emptySubFlowDefinition {} { maxDepth := 0 })).1.valid = true ∧
    ∃ R w, ((({ registry := {}, config := { maxDepth := 0 } } : Engine).run emptySubFlowDefinition
      .null).run.run {}) = (.ok R, w) ∧ R.status = .failed ∧
      R.error.map Failure.code = some .invalidStructure := by
  refine ⟨by decide +kernel, ?_⟩
  -- the walk goes no further than the sub-flow, so unfolding it once is enough to run it
  obtain ⟨R, w, hR, hfacts⟩ := Run.exists_ok_of_any
    (x := (({ registry := {}, config := { maxDepth := 0 } } : Engine).run emptySubFlowDefinition
      .null).run.run {})
    (p := fun (R : ExecutionReport) _ =>
      decide (R.status = .failed ∧ R.error.map Failure.code = some .invalidStructure)) (by
    unfold Engine.run Engine.drive Engine.runBlock Engine.blockFrom Engine.runNode Engine.runChild
    decide +kernel)
  exact ⟨R, w, hR, of_decide_eq_true hfacts⟩

end Engine

end Flowline
