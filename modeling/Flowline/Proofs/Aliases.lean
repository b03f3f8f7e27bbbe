import Mathlib
import Flowline.Step.Registry
set_option autoImplicit false

/-!
# Resolving steps by identifier and alias

A registry keeps two indexes: its steps, found by identifier, and an alias
table from normalized display names to identifiers. `Registry.Indexed` says the
two agree: identifiers are distinct, and each alias lists, in registration
order, the identifiers of the steps whose display name normalizes to it
(`Registry.matching`).

A registration is refused, with nothing logged, when the definition's contract
has issues or its identifier is taken (`Registry.register_invalid`,
`Registry.register_duplicate`); otherwise it appends the step and files its
identifier under its alias (`Registry.register_fresh`). Each registration keeps
the indexes in agreement, so every registry that registrations build has it
(`Registry.Built.indexed`).

Over such a registry resolution goes by exact identifier first, and only then by
alias, where an alias shared by several steps is refused with their identifiers
sorted. The main statement is `registry_resolves_ids_then_unique_aliases`.
-/

namespace Flowline

/-- The sorted texts are in ascending order. -/
theorem sortTexts_sorted (xs : List String) : (sortTexts xs).Pairwise (· ≤ ·) := by
  refine (@List.pairwise_mergeSort _ (fun a b : String => !(b < a)) (fun a b c hab hbc => ?_)
    (fun a b => ?_) xs).imp fun hab => ?_
  · simp only [Bool.not_eq_eq_eq_not, Bool.not_true, decide_eq_false_iff_not, not_lt] at hab hbc ⊢
    exact le_trans hab hbc
  · simp only [Bool.or_eq_true, Bool.not_eq_eq_eq_not, Bool.not_true, decide_eq_false_iff_not,
      not_lt]
    exact le_total a b
  · simpa only [Bool.not_eq_eq_eq_not, Bool.not_true, decide_eq_false_iff_not, not_lt] using hab

/-- Sorting keeps the texts. -/
theorem sortTexts_perm (xs : List String) : (sortTexts xs).Perm xs :=
  List.mergeSort_perm _ _

namespace Registry

/-- The steps whose display name is filed under `key`, in registration order. -/
def matching (r : Registry) (key : String) : List StepDefinition :=
  r.steps.filter fun s => aliasKey s.name == key

/-- The registry's two indexes agree with its steps. -/
structure Indexed (r : Registry) : Prop where
  /-- No two steps share an identifier. -/
  ids_nodup : (r.steps.map (·.id)).Nodup
  /-- An alias lists the identifiers of the steps filed under it, oldest first. -/
  aliasIds_eq : ∀ key, r.aliasIds key = (r.matching key).map (·.id)

/-- Registries built from the empty one by registrations that succeeded. A
refused registration gives no registry and logs nothing, so these are the
registries any sequence of registrations leaves. -/
inductive Built : Registry → Prop
  | empty : Built {}
  | register {r r' : Registry} {d : StepDefinition} {log log' : Array LogRecord} :
      Built r → (r.register d).run.run log = (.ok r', log') → Built r'

variable {r : Registry} {d : StepDefinition} {x : String}

theorem find?_eq_none_iff : r.find? x = none ↔ x ∉ r.steps.map (·.id) := by
  simp [find?, List.find?_eq_none]

theorem contains_iff : r.contains x = true ↔ x ∈ r.steps.map (·.id) := by
  rw [contains, Option.isSome_iff_ne_none, Ne, find?_eq_none_iff, not_not]

/-- With distinct identifiers, a step is found under its own identifier. -/
theorem find?_of_mem (hn : (r.steps.map (·.id)).Nodup) (hd : d ∈ r.steps) :
    r.find? d.id = some d := by
  obtain ⟨s, hs⟩ := Option.isSome_iff_exists.1 (contains_iff.2 (List.mem_map_of_mem hd))
  have hsmem : s ∈ r.steps := List.mem_of_find?_eq_some hs
  have hsid : s.id = d.id := by simpa using List.find?_some hs
  rw [hs, List.inj_on_of_nodup_map hn hsmem hd hsid]

/-! ## Registration -/

/-- A definition whose contract has issues is refused, with the issues' messages. -/
theorem register_invalid (hd : d.issues ≠ []) (log : Array LogRecord) :
    (r.register d).run.run log =
      (.error (.invalidDefinition ("; ".intercalate (d.issues.map Issue.message))), log) := by
  simp [register, hd]
  rfl

/-- A valid definition whose identifier is taken is refused. -/
theorem register_duplicate (hd : d.issues = []) (hc : d.id ∈ r.steps.map (·.id))
    (log : Array LogRecord) : (r.register d).run.run log = (.error (.duplicateId d.id), log) := by
  simp [register, hd, contains_iff.2 hc]
  rfl

/-- Rewriting the entries of an alias table without touching their aliases keeps
where a lookup finds them. -/
theorem find?_map_of_fst {as : List (String × List String)}
    {f : String × List String → String × List String} (hf : ∀ e, (f e).1 = e.1) (k : String) :
    (as.map f).find? (·.1 == k) = (as.find? (·.1 == k)).map f := by
  rw [List.find?_map]
  congr 2
  funext e
  simp [hf]

/-- A valid definition with a free identifier is appended, and its identifier
filed last under its alias. -/
theorem register_fresh (hd : d.issues = []) (hc : d.id ∉ r.steps.map (·.id))
    (log : Array LogRecord) :
    ∃ r' log', (r.register d).run.run log = (.ok r', log') ∧ r'.steps = r.steps ++ [d] ∧
      ∀ k, r'.aliasIds k = if k = aliasKey d.name then r.aliasIds k ++ [d.id] else r.aliasIds k := by
  have hc' : r.contains d.id = false := Bool.eq_false_iff.2 fun h => hc (contains_iff.1 h)
  refine ⟨_, _, by simp only [register, hd, hc']; rfl, rfl, fun k => ?_⟩
  simp only [aliasIds]
  split_ifs with hany hk hk
  · -- The alias is filed already: its first entry grows by the new identifier.
    subst hk
    obtain ⟨e, he⟩ := Option.isSome_iff_exists.1 (List.find?_isSome.2 (List.any_eq_true.1 hany))
    have hek : e.1 = aliasKey d.name := by simpa using List.find?_some he
    rw [find?_map_of_fst (fun e => by split <;> rfl), he]
    simp [hek]
  · -- The entry of another alias is left alone.
    rw [find?_map_of_fst (fun e => by split <;> rfl)]
    cases he : r.aliases.find? (·.1 == k) with
    | none => rfl
    | some e =>
      have hek : e.1 = k := by simpa using List.find?_some he
      simp [hek, hk]
  · -- A new alias gets an entry at the end, and no earlier entry is its own.
    subst hk
    have hnone : r.aliases.find? (·.1 == aliasKey d.name) = none :=
      List.find?_eq_none.2 fun e hmem hek => hany (List.any_eq_true.2 ⟨e, hmem, hek⟩)
    simp [List.find?_append, hnone]
  · simp [List.find?_append, Ne.symm hk]

/-- What a successful registration did: the definition was valid and new, and
the registry grew as `register_fresh` says. -/
theorem register_ok {r' : Registry} {log log' : Array LogRecord}
    (h : (r.register d).run.run log = (.ok r', log')) :
    d.issues = [] ∧ d.id ∉ r.steps.map (·.id) ∧ r'.steps = r.steps ++ [d] ∧
      ∀ k, r'.aliasIds k = if k = aliasKey d.name then r.aliasIds k ++ [d.id] else r.aliasIds k := by
  by_cases hd : d.issues = []
  · by_cases hc : d.id ∈ r.steps.map (·.id)
    · rw [register_duplicate hd hc] at h
      cases h
    · obtain ⟨r'', log'', hrun, hsteps, haliases⟩ := register_fresh hd hc log
      rw [hrun, Prod.mk.injEq, Except.ok.injEq] at h
      obtain ⟨rfl, -⟩ := h
      exact ⟨hd, hc, hsteps, haliases⟩
  · rw [register_invalid hd] at h
    cases h

/-- The steps filed under an alias after appending a step. -/
theorem matching_append (key : String) (steps : List StepDefinition)
    (aliases : List (String × List String)) :
    ({ steps := steps ++ [d], aliases := aliases } : Registry).matching key =
      ({ steps := steps, aliases := aliases } : Registry).matching key ++
        if aliasKey d.name = key then [d] else [] := by
  simp only [matching, List.filter_append, List.filter_cons, List.filter_nil, beq_iff_eq]

/-- The empty registry's indexes agree. -/
theorem Indexed.empty : ({} : Registry).Indexed :=
  ⟨List.nodup_nil, fun _ => rfl⟩

/-- A registration keeps the indexes in agreement. -/
theorem Indexed.register {r' : Registry} {log log' : Array LogRecord} (hr : r.Indexed)
    (h : (r.register d).run.run log = (.ok r', log')) : r'.Indexed := by
  obtain ⟨-, hc, hsteps, haliases⟩ := register_ok h
  obtain ⟨steps, aliases⟩ := r'
  dsimp only at hsteps
  subst hsteps
  refine ⟨?_, fun k => ?_⟩
  · rw [List.map_append, List.nodup_append]
    exact ⟨hr.ids_nodup, List.nodup_singleton _, by simpa using hc⟩
  · rw [haliases, matching_append, hr.aliasIds_eq]
    by_cases hk : k = aliasKey d.name
    · simp [hk, matching]
    · simp [hk, Ne.symm hk, matching]

/-- Every registry registrations build keeps its indexes in agreement. -/
theorem Built.indexed (hr : r.Built) : r.Indexed := by
  induction hr with
  | empty => exact Indexed.empty
  | register _ h ih => exact ih.register h

theorem registerAll_cons_of_ok {ds : List StepDefinition} {r₁ : Registry}
    {log log₁ : Array LogRecord} (h : (r.register d).run.run log = (.ok r₁, log₁)) :
    (r.registerAll (d :: ds)).run.run log = (r₁.registerAll ds).run.run log₁ := by
  simp only [registerAll, List.foldlM_cons, ExceptT.run_bind, StateT.run_bind, h]
  rfl

theorem registerAll_cons_of_error {ds : List StepDefinition} {e : FlowError}
    {log log₁ : Array LogRecord} (h : (r.register d).run.run log = (.error e, log₁)) :
    (r.registerAll (d :: ds)).run.run log = (.error e, log₁) := by
  simp only [registerAll, List.foldlM_cons, ExceptT.run_bind, StateT.run_bind, h]
  rfl

/-- Registering steps in turn from a built registry builds a registry. -/
theorem Built.registerAll (ds : List StepDefinition) :
    ∀ {r r' : Registry} {log log' : Array LogRecord}, r.Built →
      (r.registerAll ds).run.run log = (.ok r', log') → r'.Built := by
  induction ds with
  | nil =>
    intro r r' log log' hr h
    have h' : ((.ok r, log) : Except FlowError Registry × Array LogRecord) = (.ok r', log') := h
    rw [Prod.mk.injEq, Except.ok.injEq] at h'
    exact h'.1 ▸ hr
  | cons d ds ih =>
    intro r r' log log' hr h
    -- The first registration either failed, which ends the run, or built the next registry.
    rcases h₁ : (r.register d).run.run log with ⟨e | r₁, log₁⟩
    · rw [registerAll_cons_of_error h₁] at h
      cases h
    · rw [registerAll_cons_of_ok h₁] at h
      exact ih (hr.register h₁) h

/-! ## Resolution -/

/-- A registered identifier resolves to its step. -/
theorem resolve_of_mem (hr : r.Indexed) (hd : d ∈ r.steps) : r.resolve d.id = .ok d := by
  simp only [resolve, find?_of_mem hr.ids_nodup hd]

/-- A name that is no identifier and whose alias files one step resolves to it. -/
theorem resolve_of_unique_alias (hr : r.Indexed) (hx : x ∉ r.steps.map (·.id))
    (hm : r.matching (aliasKey x) = [d]) : r.resolve x = .ok d := by
  have hd : d ∈ r.steps := List.mem_of_mem_filter (hm ▸ List.mem_singleton_self d)
  simp only [resolve, find?_eq_none_iff.2 hx, hr.aliasIds_eq, hm, List.map_cons, List.map_nil, get,
    find?_of_mem hr.ids_nodup hd]

/-- A name that is no identifier and whose alias files no step is unknown. -/
theorem resolve_of_no_alias (hr : r.Indexed) (hx : x ∉ r.steps.map (·.id))
    (hm : r.matching (aliasKey x) = []) : r.resolve x = .error (.unknownStep x) := by
  simp only [resolve, find?_eq_none_iff.2 hx, hr.aliasIds_eq, hm, List.map_nil]

/-- A name that is no identifier and whose alias files several steps is
ambiguous, and the error lists their identifiers sorted. -/
theorem resolve_of_shared_alias (hr : r.Indexed) (hx : x ∉ r.steps.map (·.id))
    (hm : 2 ≤ (r.matching (aliasKey x)).length) :
    r.resolve x = .error (.ambiguousAlias x (sortTexts ((r.matching (aliasKey x)).map (·.id)))) := by
  obtain ⟨a, b, rest, hab⟩ : ∃ a b rest, r.matching (aliasKey x) = a :: b :: rest := by
    rcases hlist : r.matching (aliasKey x) with _ | ⟨a, _ | ⟨b, rest⟩⟩
    · simp [hlist] at hm
    · simp [hlist] at hm
    · exact ⟨a, b, rest, rfl⟩
  simp only [resolve, find?_eq_none_iff.2 hx, hr.aliasIds_eq, hab, List.map_cons]

/-- A name is refused only as unknown or as ambiguous. -/
theorem resolve_error_code {err : FlowError} (h : r.resolve x = .error err) :
    err.code = .unknownStep ∨ err.code = .ambiguousAlias := by
  unfold resolve at h
  split at h
  · cases h
  · split at h
    · unfold get at h
      split at h
      · cases h
      · cases h
        exact .inl rfl
    · cases h
      exact .inl rfl
    · cases h
      exact .inr rfl

end Registry

/-- Registration and resolution over a registry built by registrations.

A registration is refused, with nothing logged, exactly when the definition's
contract has issues or its identifier is taken; otherwise the step is added.
Resolving a name gives the step with that identifier when there is one;
otherwise the one step whose display name files under the same alias, an
unknown-step error when there is none, and when there are several an
ambiguity error listing all their identifiers sorted. -/
theorem registry_resolves_ids_then_unique_aliases {r : Registry} (hr : r.Built) :
    (∀ (d : StepDefinition) (log : Array LogRecord),
      (d.issues ≠ [] → (r.register d).run.run log =
        (.error (.invalidDefinition ("; ".intercalate (d.issues.map Issue.message))), log)) ∧
      (d.issues = [] → d.id ∈ r.steps.map (·.id) →
        (r.register d).run.run log = (.error (.duplicateId d.id), log)) ∧
      (d.issues = [] → d.id ∉ r.steps.map (·.id) → ∃ r' log',
        (r.register d).run.run log = (.ok r', log') ∧ r'.steps = r.steps ++ [d] ∧ r'.Built)) ∧
    ∀ x : String,
      (∀ d ∈ r.steps, d.id = x → r.resolve x = .ok d) ∧
      (x ∉ r.steps.map (·.id) →
        (∀ d, r.matching (Registry.aliasKey x) = [d] → r.resolve x = .ok d) ∧
        (r.matching (Registry.aliasKey x) = [] → r.resolve x = .error (.unknownStep x)) ∧
        (2 ≤ (r.matching (Registry.aliasKey x)).length → ∃ ids,
          r.resolve x = .error (.ambiguousAlias x ids) ∧ ids.Pairwise (· ≤ ·) ∧
            ids.Perm ((r.matching (Registry.aliasKey x)).map (·.id)))) := by
  have hi := hr.indexed
  refine ⟨fun d log => ⟨fun hd => Registry.register_invalid hd log,
    fun hd hc => Registry.register_duplicate hd hc log, fun hd hc => ?_⟩,
    fun x => ⟨fun d hd hid => hid ▸ Registry.resolve_of_mem hi hd, fun hx => ⟨fun d hm =>
      Registry.resolve_of_unique_alias hi hx hm, Registry.resolve_of_no_alias hi hx, fun hm => ?_⟩⟩⟩
  · -- The new registry is one more registration away from the empty one.
    obtain ⟨r', log', hrun, hsteps, -⟩ := Registry.register_fresh hd hc log
    exact ⟨r', log', hrun, hsteps, hr.register hrun⟩
  · exact ⟨_, Registry.resolve_of_shared_alias hi hx hm, sortTexts_sorted _, sortTexts_perm _⟩

/-- Two steps named "Echo", registered in turn: a name whose alias is theirs,
blanks and case aside, resolves to neither, and the ambiguity lists both. -/
theorem shared_display_name_is_ambiguous :
    ∃ r log, (({} : Registry).registerAll
        [{ id := "b.echo", name := "Echo", behaviour := .echo },
         { id := "a.echo", name := "Echo", behaviour := .echo }]).run.run #[] = (.ok r, log) ∧
      " ECHO " ∉ r.steps.map (·.id) ∧
      (r.matching (Registry.aliasKey " ECHO ")).map (·.id) = ["b.echo", "a.echo"] ∧
      ∃ ids, r.resolve " ECHO " = .error (.ambiguousAlias " ECHO " ids) ∧ ids.Pairwise (· ≤ ·) ∧
        ids.Perm ["b.echo", "a.echo"] := by
  obtain ⟨r, log, hrun⟩ : ∃ r log, (({} : Registry).registerAll
      [{ id := "b.echo", name := "Echo", behaviour := .echo },
       { id := "a.echo", name := "Echo", behaviour := .echo }]).run.run #[] = (.ok r, log) :=
    ⟨_, _, rfl⟩
  have hB : r.Built := Registry.Built.registerAll _ .empty hrun
  -- The two registrations are evaluated once, for the facts the statement needs.
  have hfacts : r.steps.map (·.id) = ["b.echo", "a.echo"] ∧
      (r.matching (Registry.aliasKey " ECHO ")).map (·.id) = ["b.echo", "a.echo"] := by
    injection hrun with h
    injection h with h
    subst h
    constructor <;> cbv
  have hx : " ECHO " ∉ r.steps.map (·.id) := by
    rw [hfacts.1]
    decide
  have hm : 2 ≤ (r.matching (Registry.aliasKey " ECHO ")).length := by
    rw [← List.length_map (·.id), hfacts.2]
    decide
  obtain ⟨ids, hres, hsorted, hperm⟩ :=
    (((registry_resolves_ids_then_unique_aliases hB).2 " ECHO ").2 hx).2.2 hm
  exact ⟨r, log, hrun, hx, hfacts.2, ids, hres, hsorted, hfacts.2 ▸ hperm⟩

end Flowline
