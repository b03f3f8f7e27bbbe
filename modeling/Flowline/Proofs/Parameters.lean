import Mathlib
import Flowline.Proofs.Aliases
set_option autoImplicit false

/-!
# Resolving a step's parameters

`resolveParams` turns the parameters a flow writes for a step into those the
step runs with. Each declared input, in declaration order, takes a value
(`InputSpec.chosen`): the supplied member of its name when that is there and
either not null or the input takes any type, else the input's default. An
input accepts the parameters (`InputSpec.Accepts`) when it has a value if it
is required and the value it has passes its check; otherwise it refuses them
(`InputSpec.Refuses`), and the first input that refuses stops the resolution.

Registration refuses a step whose inputs repeat a name or whose defaults fail
their own input's check (`StepDefinition.inputsSound_of_issues`). Over a
registered step:

* resolution succeeds exactly when the parameters are null or an object and
  every input accepts them;
* what it returns holds, under each key, the chosen value of the input of
  that name, or else the supplied member (`resolvedAt`): undeclared members
  pass through, and an input without a value keeps what was supplied, which
  is nothing or a null it does not take;
* it fails at the first input in declaration order that refuses, and a value
  that fails its check is a supplied one, never a default.

The main statement is `resolution_follows_declared_inputs`.
-/

namespace Flowline

namespace InputSpec

/-- The value an input takes from the supplied members: the member of its
name when it is there and either not null or the input takes any type, else
its default. -/
def chosen (i : InputSpec) (fs : Fields) : Option Value :=
  match fs.find? i.name with
  | some v => if v.isNull = true ∧ i.kind ≠ .any then i.default else some v
  | none => i.default

/-- An input accepts the supplied members when it has a value if it is
required and the value it has passes its check. -/
structure Accepts (i : InputSpec) (fs : Fields) : Prop where
  present : i.required = true → (i.chosen fs).isSome
  passes : ∀ v, i.chosen fs = some v → i.check v = .ok ()

/-- How an input refuses the members supplied to step `step`: it is required
and has no value, or a supplied value fails its check. -/
inductive Refuses (step : String) (fs : Fields) (i : InputSpec) : FlowError → Prop
  | missing : i.required = true → i.chosen fs = none →
      Refuses step fs i (.missingRequiredInput step i.name)
  | invalid {v : Value} {m : String} : fs.find? i.name = some v → i.chosen fs = some v →
      i.check v = .error m → Refuses step fs i (.invalidParams step s!"input '{i.name}': {m}")

/-- An input without a value has no default, and what was supplied under its
name, if anything, is a null it does not take. -/
theorem chosen_eq_none {i : InputSpec} {fs : Fields} (h : i.chosen fs = none) :
    i.default = none ∧ ∀ v, fs.find? i.name = some v → v.isNull = true ∧ i.kind ≠ .any := by
  unfold chosen at h
  cases hv : fs.find? i.name with
  | none =>
    simp only [hv] at h
    exact ⟨h, fun v hv' => by cases hv'⟩
  | some v =>
    simp only [hv] at h
    by_cases hn : v.isNull = true ∧ i.kind ≠ .any
    · rw [if_pos hn] at h
      refine ⟨h, fun w hw => ?_⟩
      cases hw
      exact hn
    · rw [if_neg hn] at h
      cases h

/-- A value that is not the default came from the supplied members. -/
theorem find?_of_chosen {i : InputSpec} {fs : Fields} {v : Value} (h : i.chosen fs = some v)
    (hd : i.default ≠ some v) : fs.find? i.name = some v := by
  unfold chosen at h
  cases hv : fs.find? i.name with
  | none =>
    simp only [hv] at h
    exact absurd h hd
  | some w =>
    simp only [hv] at h
    split at h
    · exact absurd h hd
    · exact h

/-- An input that accepts and has no value is optional. -/
theorem Accepts.required_eq_false {i : InputSpec} {fs : Fields} (ha : i.Accepts fs)
    (hc : i.chosen fs = none) : i.required = false := by
  cases hr : i.required with
  | false => rfl
  | true => simpa [hc] using ha.present hr

end InputSpec

/-- What registration checks of a step's inputs: their names do not repeat,
and every default passes its own input's check. -/
structure InputsSound (inputs : List InputSpec) : Prop where
  names_nodup : (inputs.map (·.name)).Nodup
  defaults_pass : ∀ i ∈ inputs, ∀ v, i.default = some v → i.check v = .ok ()

namespace StepDefinition

/-- The input half of `issues`, run from the names already seen: it finds
nothing only when no input name repeats, none is among those seen, and every
default passes its input's check. -/
theorem inputFold_clean {F : List String × List Issue → InputSpec → List String × List Issue}
    {l : List InputSpec} {p : List String × List Issue} (h : (l.foldl F p).2 = [])
    (hF : ∀ q i, (F q i).1 = (if q.1.contains i.name then q.1 else q.1 ++ [i.name]) ∧
      ((F q i).2 = [] ↔ q.2 = [] ∧ q.1.contains i.name = false ∧
        ∀ v, i.default = some v → i.check v = .ok ())) :
    p.2 = [] ∧ (∀ i ∈ l, i.name ∉ p.1) ∧ (l.map (·.name)).Nodup ∧
      ∀ i ∈ l, ∀ v, i.default = some v → i.check v = .ok () := by
  induction l generalizing p with
  | nil => exact ⟨h, by simp, List.nodup_nil, by simp⟩
  | cons i rest ih =>
    rw [List.foldl_cons] at h
    obtain ⟨hnil, hfresh, hnodup, hpass⟩ := ih h
    obtain ⟨hseen, hclean⟩ := hF p i
    obtain ⟨hacc, hnew, hdefault⟩ := hclean.1 hnil
    have hnotin : i.name ∉ p.1 := by simpa using hnew
    rw [hseen, if_neg (ne_true_of_eq_false hnew)] at hfresh
    refine ⟨hacc, ?_, ?_, ?_⟩
    · intro j hj
      rcases List.mem_cons.1 hj with rfl | hj
      · exact hnotin
      · exact fun hin => hfresh j hj (List.mem_append_left _ hin)
    · refine List.nodup_cons.2 ⟨fun hmem => ?_, hnodup⟩
      obtain ⟨j, hj, hname⟩ := List.mem_map.1 hmem
      exact hfresh j hj (by simp [hname])
    · intro j hj
      rcases List.mem_cons.1 hj with rfl | hj
      · exact hdefault
      · exact hpass j hj

/-- A step whose contract has no issues has sound inputs. -/
theorem inputsSound_of_issues {d : StepDefinition} (h : d.issues = []) : InputsSound d.inputs := by
  unfold StepDefinition.issues at h
  split at h
  · cases h
  · split at h
    rename_i seen inputIssues hinputs
    split at h
    have hnil : inputIssues = [] := (List.append_eq_nil_iff.1 h).1
    have hclean := inputFold_clean (p := ([], [])) (by rw [hinputs]; exact hnil) ?_
    · exact ⟨hclean.2.2.1, hclean.2.2.2⟩
    · -- One input's turn adds a repetition issue and a default issue, each
      -- only when there is one.
      intro q i
      obtain ⟨seen, acc⟩ := q
      refine ⟨rfl, ?_⟩
      dsimp only
      rcases hd : i.default with _ | v
      · cases seen.contains i.name <;> simp
      · rcases hv : i.check v with m | ⟨⟩
        · cases seen.contains i.name <;> simp [hv]
        · cases seen.contains i.name <;> simp [hv]
end StepDefinition

/-- The members written as a step's parameters: those of an object, none
for anything else. -/
def suppliedMembers : Value → Fields
  | .obj fs => fs
  | _ => []

/-- What a resolution leaves under a key: the chosen value of the input of
that name if it has one, else the supplied member. -/
def resolvedAt (inputs : List InputSpec) (fs : Fields) (k : String) : Option Value :=
  match inputs.find? (·.name == k) with
  | some i => (i.chosen fs).or (fs.find? k)
  | none => fs.find? k

/-! ## One input's turn -/

/-- Where `resolveParams` starts: the members of an object, none for null,
and a refusal for anything else. -/
def startMembers (step : String) (params : Value) : Except FlowError Fields :=
  match params with
  | .null => pure []
  | .obj fs => pure fs
  | other => throw (.invalidParams step s!"parameters must be an object, found {other.compact}")

/-- One input's turn in `resolveParams`: take a value from the members so far
or the default, check it, and write it under the input's name. -/
def resolveInput (step : String) (values : Fields) (input : InputSpec) :
    Except FlowError Fields := do
  let supplied := (Fields.find? values input.name).filter fun v =>
    !v.isNull || input.kind == .any
  match supplied.or input.default with
  | none =>
    if input.required then throw (.missingRequiredInput step input.name)
    else pure values
  | some value =>
    match input.check value with
    | .error m => throw (.invalidParams step s!"input '{input.name}': {m}")
    | .ok () => pure (Fields.insert values input.name value)

/-- Resolution is the start followed by one turn per input. -/
theorem resolveParams_eq (step : String) (inputs : List InputSpec) (params : Value) :
    resolveParams step inputs params =
      startMembers step params >>= fun start => inputs.foldlM (resolveInput step) start := by
  cases params <;> rfl

/-- The members after an input's turn that succeeded: its chosen value, if
any, written under its name. -/
def writeChosen (fs values : Fields) (i : InputSpec) : Fields :=
  match i.chosen fs with
  | some v => values.insert i.name v
  | none => values

section Turn

variable {step : String} {fs values : Fields} {i : InputSpec}

/-- While the members so far agree with the supplied ones at an input's
name, the turn takes the input's chosen value. -/
theorem supplied_or_default (h : values.find? i.name = fs.find? i.name) :
    ((values.find? i.name).filter fun v => !v.isNull || i.kind == .any).or i.default =
      i.chosen fs := by
  rw [h, InputSpec.chosen]
  cases fs.find? i.name with
  | none => rfl
  | some v =>
    by_cases hn : v.isNull = true ∧ i.kind ≠ .any
    · have hf : (!v.isNull || i.kind == .any) = false := by simp [hn.1, hn.2]
      simp [Option.filter, hn]
    · have hf : (!v.isNull || i.kind == .any) = true := by
        by_cases hv : v.isNull = true
        · simpa [hv] using hn
        · simp [hv]
      simp [Option.filter, hf, hn]

/-- A turn succeeds for an input that accepts, writing its chosen value. -/
theorem resolveInput_of_accepts (h : values.find? i.name = fs.find? i.name) (ha : i.Accepts fs) :
    resolveInput step values i = .ok (writeChosen fs values i) := by
  unfold resolveInput writeChosen
  simp only [supplied_or_default h]
  cases hc : i.chosen fs with
  | none =>
    simp [ha.required_eq_false hc]
    rfl
  | some v =>
    simp only [ha.passes v hc]
    rfl

/-- A turn that succeeds was an input that accepts, and it wrote the
chosen value. -/
theorem accepts_of_resolveInput (h : values.find? i.name = fs.find? i.name) {vs : Fields}
    (hr : resolveInput step values i = .ok vs) : i.Accepts fs ∧ vs = writeChosen fs values i := by
  unfold resolveInput at hr
  simp only [supplied_or_default h] at hr
  unfold writeChosen
  cases hc : i.chosen fs with
  | none =>
    simp only [hc] at hr
    cases hreq : i.required with
    | true => simp [hreq] at hr
    | false =>
      simp only [hreq] at hr
      injection hr with hr
      refine ⟨⟨fun h' => ?_, fun v hv => ?_⟩, hr.symm⟩
      · rw [hreq] at h'
        cases h'
      · rw [hc] at hv
        cases hv
  | some v =>
    simp only [hc] at hr
    cases hv : i.check v with
    | error m => simp [hv] at hr
    | ok u =>
      simp only [hv] at hr
      injection hr with hr
      refine ⟨⟨fun _ => by rw [hc]; rfl, fun w hw => ?_⟩, hr.symm⟩
      rw [hc] at hw
      cases hw
      exact hv

/-- A turn that fails names its input: the input is required and has no
value, or a supplied value fails its check, since a default passes it. -/
theorem refuses_of_resolveInput (h : values.find? i.name = fs.find? i.name)
    (hdefault : ∀ v, i.default = some v → i.check v = .ok ()) {e : FlowError}
    (hr : resolveInput step values i = .error e) : i.Refuses step fs e := by
  unfold resolveInput at hr
  simp only [supplied_or_default h] at hr
  cases hc : i.chosen fs with
  | none =>
    simp only [hc] at hr
    cases hreq : i.required with
    | true =>
      simp only [hreq, if_true] at hr
      injection hr with hr
      rw [← hr]
      exact .missing hreq hc
    | false =>
      simp only [hreq] at hr
      cases hr
  | some v =>
    simp only [hc] at hr
    cases hv : i.check v with
    | error m =>
      simp only [hv] at hr
      injection hr with hr
      rw [← hr]
      -- The failing value is not the default, which passes the check.
      have hnd : i.default ≠ some v := fun hd => by
        rw [hdefault v hd] at hv
        cases hv
      exact .invalid (InputSpec.find?_of_chosen hc hnd) hc hv
    | ok u =>
      simp only [hv] at hr
      cases hr

/-- Writing an input's value leaves the other names alone. -/
theorem find?_writeChosen_ne {k : String} (hk : k ≠ i.name) :
    (writeChosen fs values i).find? k = values.find? k := by
  unfold writeChosen
  cases i.chosen fs with
  | none => rfl
  | some v => exact Fields.find?_insert_ne values v hk

/-- Writing an input's value puts the chosen value, if any, at its name. -/
theorem find?_writeChosen_self :
    (writeChosen fs values i).find? i.name = (i.chosen fs).or (values.find? i.name) := by
  unfold writeChosen
  cases i.chosen fs with
  | none => rfl
  | some v => exact Fields.find?_insert_self values i.name v

/-- After an input's turn the members still agree with the supplied ones at
the names of the inputs after it, which differ from its own. -/
theorem agree_writeChosen {rest : List InputSpec} (hfresh : i.name ∉ rest.map (·.name))
    (hagree : ∀ j ∈ i :: rest, values.find? j.name = fs.find? j.name) :
    ∀ j ∈ rest, (writeChosen fs values i).find? j.name = fs.find? j.name := by
  intro j hj
  have hne : j.name ≠ i.name := fun he => hfresh (he ▸ List.mem_map_of_mem hj)
  rw [find?_writeChosen_ne hne]
  exact hagree j (List.mem_cons_of_mem i hj)

end Turn

/-! ## The inputs in turn -/

section Fold

variable {step : String} {fs : Fields}

/-- Over inputs with distinct names, starting from members that agree with
the supplied ones at those names, the turns succeed exactly when every input
accepts, and then every chosen value is written. -/
theorem foldlM_resolveInput_eq_ok : ∀ {inputs : List InputSpec} {values : Fields},
    (inputs.map (·.name)).Nodup → (∀ i ∈ inputs, values.find? i.name = fs.find? i.name) →
    ∀ r, (inputs.foldlM (resolveInput step) values = .ok r ↔
      (∀ i ∈ inputs, i.Accepts fs) ∧ r = inputs.foldl (writeChosen fs) values)
  | [], values, _, _, r => by
    simp only [List.foldlM_nil, List.not_mem_nil, false_implies, implies_true, true_and,
      List.foldl_nil]
    exact ⟨fun h => (Except.ok.inj h).symm, fun h => h ▸ rfl⟩
  | i :: rest, values, hnd, hagree, r => by
    rw [List.map_cons, List.nodup_cons] at hnd
    have hi := hagree i List.mem_cons_self
    have hrest := agree_writeChosen hnd.1 hagree
    rw [List.foldlM_cons, List.foldl_cons, List.forall_mem_cons]
    cases hr : resolveInput step values i with
    | error e =>
      -- `i` refuses, so it does not accept.
      constructor
      · intro h
        cases h
      · intro h
        rw [resolveInput_of_accepts hi h.1.1] at hr
        cases hr
    | ok vs =>
      obtain ⟨ha, rfl⟩ := accepts_of_resolveInput hi hr
      change rest.foldlM (resolveInput step) (writeChosen fs values i) = .ok r ↔ _
      rw [foldlM_resolveInput_eq_ok hnd.2 hrest r]
      exact ⟨fun h => ⟨⟨ha, h.1⟩, h.2⟩, fun h => ⟨h.1.2, h.2⟩⟩

/-- Over inputs with distinct names whose defaults pass, a failed turn is
the first input in order that refuses, every input before it accepting. -/
theorem refuses_of_foldlM : ∀ {inputs : List InputSpec} {values : Fields},
    (inputs.map (·.name)).Nodup → (∀ i ∈ inputs, values.find? i.name = fs.find? i.name) →
    (∀ i ∈ inputs, ∀ v, i.default = some v → i.check v = .ok ()) → ∀ e,
    inputs.foldlM (resolveInput step) values = .error e →
    ∃ pre i post, inputs = pre ++ i :: post ∧ (∀ j ∈ pre, j.Accepts fs) ∧ i.Refuses step fs e
  | [], _, _, _, _, e, h => by cases h
  | i :: rest, values, hnd, hagree, hpass, e, h => by
    rw [List.map_cons, List.nodup_cons] at hnd
    have hi := hagree i List.mem_cons_self
    rw [List.foldlM_cons] at h
    cases hr : resolveInput step values i with
    | error e' =>
      -- `i` itself refuses.
      rw [hr] at h
      cases h
      exact ⟨[], i, rest, rfl, by simp, refuses_of_resolveInput hi (hpass i List.mem_cons_self) hr⟩
    | ok vs =>
      -- `i` accepts, and a later input refuses.
      rw [hr] at h
      obtain ⟨ha, rfl⟩ := accepts_of_resolveInput hi hr
      obtain ⟨pre, j, post, rfl, hpre, hj⟩ :=
        refuses_of_foldlM hnd.2 (agree_writeChosen hnd.1 hagree) (fun j hj => hpass j (List.mem_cons_of_mem i hj)) e h
      refine ⟨i :: pre, j, post, rfl, ?_, hj⟩
      exact List.forall_mem_cons.2 ⟨ha, hpre⟩

/-- Over inputs with distinct names, writing every chosen value leaves
under each key the chosen value of the input of that name, if it has one,
and the old member otherwise. -/
theorem find?_foldl_writeChosen : ∀ {inputs : List InputSpec} {values : Fields},
    (inputs.map (·.name)).Nodup → ∀ k, (inputs.foldl (writeChosen fs) values).find? k =
      match inputs.find? (·.name == k) with
      | some i => (i.chosen fs).or (values.find? k)
      | none => values.find? k
  | [], _, _, k => rfl
  | i :: rest, values, hnd, k => by
    rw [List.map_cons, List.nodup_cons] at hnd
    rw [List.foldl_cons, find?_foldl_writeChosen hnd.2 k, List.find?_cons]
    by_cases hk : i.name = k
    · -- `k` is `i`'s name, which no later input has.
      subst hk
      have hnone : rest.find? (·.name == i.name) = none :=
        List.find?_eq_none.2 fun j hj hjk => hnd.1 (by
          rw [← beq_iff_eq.1 hjk]
          exact List.mem_map_of_mem hj)
      simp only [hnone, beq_self_eq_true]
      exact find?_writeChosen_self
    · have hne : (i.name == k) = false := beq_false_of_ne hk
      rw [hne]
      simp only [find?_writeChosen_ne (Ne.symm hk)]

end Fold

/-! ## Resolution -/

/-- With distinct names, an input is the first found under its own name. -/
theorem find?_name_of_nodup {inputs : List InputSpec} (hn : (inputs.map (·.name)).Nodup)
    {i : InputSpec} (hi : i ∈ inputs) : inputs.find? (·.name == i.name) = some i := by
  obtain ⟨j, hj⟩ := Option.isSome_iff_exists.1
    ((List.find?_isSome (p := fun x => x.name == i.name)).2 ⟨i, hi, by simp⟩)
  have hjname : j.name = i.name := by simpa using List.find?_some hj
  rw [hj, List.inj_on_of_nodup_map hn (List.mem_of_find?_eq_some hj) hi hjname]

/-- How resolving parameters `p` for step `d` is refused: parameters that
are neither null nor an object, or else the first input in declaration order
that refuses them, every input before it accepting. -/
def ResolutionRefused (d : StepDefinition) (p : Value) (err : FlowError) : Prop :=
  (p.isNull = false ∧ p.isObject = false ∧
    err = .invalidParams d.id s!"parameters must be an object, found {p.compact}") ∨
  ((p.isNull = true ∨ p.isObject = true) ∧ ∃ pre i post, d.inputs = pre ++ i :: post ∧
    (∀ j ∈ pre, j.Accepts (suppliedMembers p)) ∧ i.Refuses d.id (suppliedMembers p) err)

section Resolution

variable {d : StepDefinition} {p : Value}

/-- Null or an object, the parameters start the turns with their members. -/
theorem resolve_eq_foldlM (hp : p.isNull = true ∨ p.isObject = true) :
    d.resolve p = d.inputs.foldlM (resolveInput d.id) (suppliedMembers p) := by
  rw [StepDefinition.resolve, resolveParams_eq]
  cases p <;> simp_all [Value.isNull, Value.isObject, startMembers, suppliedMembers]

/-- Any other parameters are refused before any input is looked at. -/
theorem resolve_eq_error (hn : p.isNull = false) (ho : p.isObject = false) :
    d.resolve p = .error (.invalidParams d.id s!"parameters must be an object, found {p.compact}") := by
  rw [StepDefinition.resolve, resolveParams_eq]
  cases p <;> simp_all [Value.isNull, Value.isObject, startMembers] <;> rfl

/-- A resolution that succeeds started from null or an object. -/
theorem isNull_or_isObject_of_resolve {ps : Fields} (h : d.resolve p = .ok ps) :
    p.isNull = true ∨ p.isObject = true := by
  by_contra hp
  simp only [not_or, Bool.not_eq_true] at hp
  rw [resolve_eq_error hp.1 hp.2] at h
  cases h

/-- An input's turn is refused only as a missing input or as a value of the
wrong type. -/
theorem resolveInput_error_code {step : String} {values : Fields} {input : InputSpec}
    {err : FlowError} (h : resolveInput step values input = .error err) :
    err.code = .missingRequiredInput ∨ err.code = .invalidParams := by
  unfold resolveInput at h
  extract_lets supplied at h
  split at h
  · split at h
    · cases h
      exact .inl rfl
    · cases h
  · split at h
    · cases h
      exact .inr rfl
    · cases h

/-- The turns fail only as one of them does. -/
theorem foldlM_resolveInput_error_code {step : String} : ∀ {inputs : List InputSpec}
    {values : Fields} {err : FlowError}, inputs.foldlM (resolveInput step) values = .error err →
      err.code = .missingRequiredInput ∨ err.code = .invalidParams
  | [], _, _, h => by cases h
  | i :: rest, values, err, h => by
    rw [List.foldlM_cons] at h
    cases hi : resolveInput step values i with
    | error e =>
      rw [hi] at h
      cases h
      exact resolveInput_error_code hi
    | ok v =>
      rw [hi] at h
      exact foldlM_resolveInput_error_code h

/-- Parameters are refused only as missing an input or as of the wrong type,
whatever the step declares. -/
theorem StepDefinition.resolve_error_code {err : FlowError} (h : d.resolve p = .error err) :
    err.code = .missingRequiredInput ∨ err.code = .invalidParams := by
  by_cases hp : p.isNull = true ∨ p.isObject = true
  · rw [resolve_eq_foldlM hp] at h
    exact foldlM_resolveInput_error_code h
  · simp only [not_or, Bool.not_eq_true] at hp
    rw [resolve_eq_error hp.1 hp.2] at h
    cases h
    exact .inr rfl

end Resolution

/-- Resolving the parameters of a registered step follows its declared
inputs in order. It succeeds exactly when the parameters are null or an
object and every input accepts them; what it returns holds the chosen value
of every input that has one, and the supplied member under every other key,
so an input without a value keeps only a supplied null it does not take, and
only when it is optional and has no default; and a refusal names the first
input that refuses, with a supplied value where a check failed. -/
theorem resolution_follows_declared_inputs {r r' : Registry} {d : StepDefinition}
    {log log' : Array LogRecord} (hreg : (r.register d).run.run log = (.ok r', log'))
    (p : Value) :
    ((∃ ps, d.resolve p = .ok ps) ↔
      (p.isNull = true ∨ p.isObject = true) ∧ ∀ i ∈ d.inputs, i.Accepts (suppliedMembers p)) ∧
    (∀ ps, d.resolve p = .ok ps → ∀ k, ps.find? k = resolvedAt d.inputs (suppliedMembers p) k) ∧
    (∀ ps, d.resolve p = .ok ps → ∀ i ∈ d.inputs, i.chosen (suppliedMembers p) = none →
      i.required = false ∧ i.default = none ∧
      ∀ v, ps.find? i.name = some v → v.isNull = true ∧ i.kind ≠ .any) ∧
    (∀ err, d.resolve p = .error err → ResolutionRefused d p err) := by
  have hsound := StepDefinition.inputsSound_of_issues (Registry.register_ok hreg).1
  have hagree : ∀ i ∈ d.inputs, (suppliedMembers p).find? i.name = (suppliedMembers p).find? i.name :=
    fun _ _ => rfl
  have hok : ∀ ps, (d.inputs.foldlM (resolveInput d.id) (suppliedMembers p) = .ok ps ↔ _) :=
    fun ps => foldlM_resolveInput_eq_ok hsound.names_nodup hagree ps
  -- What a successful resolution returns, key by key.
  have hread : ∀ ps, d.resolve p = .ok ps → ∀ k, ps.find? k = resolvedAt d.inputs (suppliedMembers p) k := by
    intro ps hps k
    have hp := isNull_or_isObject_of_resolve hps
    rw [resolve_eq_foldlM hp, hok] at hps
    rw [hps.2, find?_foldl_writeChosen hsound.names_nodup k, resolvedAt]
  refine ⟨⟨?_, ?_⟩, hread, ?_, ?_⟩
  · rintro ⟨ps, hps⟩
    have hp := isNull_or_isObject_of_resolve hps
    rw [resolve_eq_foldlM hp, hok] at hps
    exact ⟨hp, hps.1⟩
  · rintro ⟨hp, ha⟩
    exact ⟨_, (resolve_eq_foldlM hp).trans ((hok _).2 ⟨ha, rfl⟩)⟩
  · intro ps hps i hi hc
    obtain ⟨hdefault, hsupplied⟩ := InputSpec.chosen_eq_none hc
    -- The input accepts, so having no value it is optional.
    have hp := isNull_or_isObject_of_resolve hps
    have ha := ((hok ps).1 ((resolve_eq_foldlM hp).symm.trans hps)).1 i hi
    refine ⟨ha.required_eq_false hc, hdefault, fun v hv => hsupplied v ?_⟩
    -- What stays under the input's name is what was supplied there.
    have hfind := find?_name_of_nodup hsound.names_nodup hi
    simpa only [hread ps hps, resolvedAt, hfind, hc, Option.none_or] using hv
  · intro err herr
    by_cases hp : p.isNull = true ∨ p.isObject = true
    · rw [resolve_eq_foldlM hp] at herr
      exact .inr ⟨hp, refuses_of_foldlM hsound.names_nodup hagree hsound.defaults_pass err herr⟩
    · simp only [not_or, Bool.not_eq_true] at hp
      rw [resolve_eq_error hp.1 hp.2] at herr
      cases herr
      exact .inl ⟨hp.1, hp.2, rfl⟩

/-- A step with a defaulted mode and a required bound. -/
def boundedStep : StepDefinition :=
  { StepDefinition.make "s" .echo with
    inputs := [{ InputSpec.maybe "mode" .string with default := some (.str "count") },
      InputSpec.need "max" .integer] }

/-- Parameters giving the bound and a member no input declares. -/
def boundedParams : Value := .obj [("extra", .bool true), ("max", .ofNat 3)]

theorem bounded_step_resolution :
    (∃ r' log', (({} : Registry).register boundedStep).run.run #[] = (.ok r', log')) ∧
    ((∃ ps, boundedStep.resolve boundedParams = .ok ps) ↔
      (boundedParams.isNull = true ∨ boundedParams.isObject = true) ∧
      ∀ i ∈ boundedStep.inputs, i.Accepts (suppliedMembers boundedParams)) ∧
    (∀ ps, boundedStep.resolve boundedParams = .ok ps → ∀ k,
      ps.find? k = resolvedAt boundedStep.inputs (suppliedMembers boundedParams) k) ∧
    (∀ ps, boundedStep.resolve boundedParams = .ok ps → ∀ i ∈ boundedStep.inputs,
      i.chosen (suppliedMembers boundedParams) = none →
      i.required = false ∧ i.default = none ∧
      ∀ v, ps.find? i.name = some v → v.isNull = true ∧ i.kind ≠ .any) ∧
    (∀ err, boundedStep.resolve boundedParams = .error err →
      ResolutionRefused boundedStep boundedParams err) := by
  obtain ⟨r', log', hrun, -, -⟩ :=
    Registry.register_fresh (r := {}) (d := boundedStep) (by rfl) (by simp) #[]
  exact ⟨⟨r', log', hrun⟩, resolution_follows_declared_inputs hrun boundedParams⟩

example : boundedStep.resolve boundedParams =
    .ok [("extra", .bool true), ("max", .ofNat 3), ("mode", .str "count")] := by rfl

example : boundedStep.resolve (.obj [("max", .null)]) =
    .error (.missingRequiredInput "s" "max") := by rfl

end Flowline
