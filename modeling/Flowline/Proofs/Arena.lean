import Mathlib
import Flowline.Run.Instance
set_option autoImplicit false

/-!
# The instance arena

An execution keeps its instances in creation order. `get?` finds the latest
instance with an identifier and `modify` changes that same instance, so the
two agree however identifiers repeat. This module gives the lookup laws of
the operations that build and change the arena, and the invariant that state
reads and the engine's walk rely on:

* `Execution.Linked`: the root is there without a parent at depth 0, every
  parent link names an instance one level up, and only the root has no
  parent;
* `Execution.Chain`: the instances met by following parent links from an
  instance up to one without a parent.

An execution grown from `Execution.create` by spawns and by in-place changes
that keep identifiers, parents and depths (`Execution.Grown`) is linked
(`Execution.Grown.linked`); then every instance has exactly one chain, of
length its depth plus one, ending at the root (`Execution.exists_chain`,
`Execution.Chain.length_eq`, `Execution.Chain.last_root`).
-/

namespace Flowline

/-! ## Changing the latest match -/

section ModifyLast

variable {α : Type} (key : α → String) (f : α → α)

/-- Changing the first match of an identifier keeps what a search for any
identifier finds, up to the change itself. -/
theorem find?_modifyLast_go (hf : ∀ a, key (f a) = key a) (id x : String) (l : List α) :
    (modifyLast.go (fun a => key a == id) f l).find? (fun a => key a == x) =
      if x = id then (l.find? (fun a => key a == id)).map f
      else l.find? (fun a => key a == x) := by
  induction l with
  | nil => simp [modifyLast.go]
  | cons a rest ih =>
    by_cases hid : key a = id
    · -- The change hits `a`, which keeps its identifier.
      have hgo : modifyLast.go (fun a => key a == id) f (a :: rest) = f a :: rest := by
        simp [modifyLast.go, hid]
      rw [hgo, List.find?_cons, List.find?_cons, List.find?_cons, hf, hid]
      by_cases hx : x = id
      · subst hx
        simp
      · have hne : (id == x) = false := by simpa using Ne.symm hx
        simp [hne, hx]
    · -- The change happens further on, or nowhere.
      have hgo : modifyLast.go (fun a => key a == id) f (a :: rest) =
          a :: modifyLast.go (fun a => key a == id) f rest := by
        simp [modifyLast.go, hid]
      have hne : (key a == id) = false := by simpa using hid
      rw [hgo, List.find?_cons, List.find?_cons, List.find?_cons, ih, hne]
      by_cases hax : key a = x
      · have hx : ¬x = id := fun h => hid (hax.trans h)
        simp [hax, hx]
      · have hnx : (key a == x) = false := by simpa using hax
        simp [hnx]

/-- What the change leaves in a list is an old element or the changed one. -/
theorem mem_modifyLast_go {p : α → Bool} {l : List α} {b : α}
    (hb : b ∈ modifyLast.go p f l) : b ∈ l ∨ ∃ a ∈ l, b = f a := by
  induction l with
  | nil => simp [modifyLast.go] at hb
  | cons a rest ih =>
    simp only [modifyLast.go] at hb
    split at hb
    · rcases List.mem_cons.1 hb with rfl | hrest
      · exact Or.inr ⟨a, List.mem_cons_self, rfl⟩
      · exact Or.inl (List.mem_cons_of_mem a hrest)
    · rcases List.mem_cons.1 hb with rfl | hrest
      · exact Or.inl List.mem_cons_self
      · rcases ih hrest with hold | ⟨c, hc, rfl⟩
        · exact Or.inl (List.mem_cons_of_mem a hold)
        · exact Or.inr ⟨c, List.mem_cons_of_mem a hc, rfl⟩

end ModifyLast

/-- Induction over a list built by adding elements at its end. -/
theorem snoc_induction {α : Type} {motive : List α → Prop} (nil : motive [])
    (snoc : ∀ xs x, motive xs → motive (xs ++ [x])) (xs : List α) : motive xs := by
  rw [← List.reverse_reverse xs]
  induction xs.reverse with
  | nil => exact nil
  | cons x l ih =>
    rw [List.reverse_cons]
    exact snoc _ _ ih

namespace IdIndex

theorem find?_insert (ix : IdIndex) (k : String) (n : Nat) (id : String) :
    (ix.insert k n).find? id = if k = id then some n else ix.find? id := by
  by_cases hk : k = id <;> simp [insert, find?, hk]

/-- A position the index of a list records lies inside the list. -/
theorem lt_of_find?_build {ids : List String} {id : String} {n : Nat}
    (h : (build ids).find? id = some n) : n < ids.length := by
  induction ids using snoc_induction generalizing n with
  | nil => simp [build, find?] at h
  | snoc ids x ih =>
    rw [build_append, find?_insert] at h
    rw [List.length_append, List.length_singleton]
    split at h
    · cases h
      omega
    · have := ih h
      omega

/-- The index of a list records an identifier exactly when the list holds it. -/
theorem find?_build_isSome (ids : List String) (id : String) :
    ((build ids).find? id).isSome = ids.contains id := by
  induction ids using snoc_induction with
  | nil => rfl
  | snoc ids x ih =>
    rw [build_append, find?_insert, List.contains_append, ← ih]
    by_cases hx : x = id
    · simp [hx]
    · have hne : ¬id = x := fun h => hx h.symm
      simp [hx, hne]

/-- The index of a list leads an identifier to a position holding it. -/
theorem getElem?_of_find?_build {ids : List String} {id : String} {n : Nat}
    (h : (build ids).find? id = some n) : ids[n]? = some id := by
  induction ids using snoc_induction generalizing n with
  | nil => simp [build, find?] at h
  | snoc ids x ih =>
    rw [build_append, find?_insert] at h
    split at h
    · rename_i hx
      cases h
      simp [hx]
    · have hn := lt_of_find?_build h
      rw [List.getElem?_append_left hn]
      exact ih h

/-- With identifiers apart, the index of a list leads each identifier to
its position and nowhere else. -/
theorem find?_build_of_nodup {ids : List String} (hn : ids.Nodup) (id : String) (n : Nat) :
    (build ids).find? id = some n ↔ ids[n]? = some id := by
  refine ⟨getElem?_of_find?_build, fun h => ?_⟩
  induction ids using snoc_induction generalizing n with
  | nil => simp at h
  | snoc ids x ih =>
    rw [List.nodup_append] at hn
    rw [build_append, find?_insert]
    rcases Nat.lt_or_ge n ids.length with hlt | hge
    · -- An earlier position holds `id`, so the identifier added last is another.
      rw [List.getElem?_append_left hlt] at h
      have hne : x ≠ id := by
        rintro rfl
        exact hn.2.2 x (List.mem_of_getElem? h) x List.mem_cons_self rfl
      rw [if_neg hne]
      exact ih hn.1 n h
    · have hn' : n = ids.length := by
        have := (List.getElem?_eq_some_iff.1 h).1
        simp at this
        omega
      subst hn'
      simp at h
      rw [if_pos h]

end IdIndex

namespace Execution

/-! ## Lookup laws -/

/-- Through the index of a list of instances, an identifier leads to the
last instance holding it. -/
theorem bind_find?_build (xs : List FlowInstance) (id : String) :
    ((IdIndex.build (xs.map (·.id))).find? id).bind (fun n => xs[n]?) =
      xs.reverse.find? (·.id == id) := by
  induction xs using snoc_induction with
  | nil => rfl
  | snoc xs x ih =>
    rw [List.map_append, List.map_singleton, IdIndex.build_append, IdIndex.find?_insert,
      List.reverse_append, List.reverse_singleton, List.singleton_append, List.find?_cons]
    by_cases hx : x.id = id
    · simp [hx]
    · -- The position found before lies inside `xs`, where the new instance is not.
      have hne : (x.id == id) = false := by simpa using hx
      rw [if_neg hx, hne, ← ih]
      cases hfind : (IdIndex.build (xs.map (·.id))).find? id with
      | none => rfl
      | some n =>
        have hn := IdIndex.lt_of_find?_build hfind
        rw [List.length_map] at hn
        simp [List.getElem?_append_left hn]

/-- `get?` finds the last instance with the identifier. -/
theorem get?_eq_find (e : Execution) (id : String) :
    e.get? id = e.instances.reverse.find? (·.id == id) := by
  rw [get?, e.indexed, bind_find?_build]

/-- `has` says whether some instance holds the identifier. -/
theorem has_eq_any (e : Execution) (id : String) : e.has id = e.instances.any (·.id == id) := by
  rw [has, e.indexed, IdIndex.find?_build_isSome, List.contains_eq_any_beq, List.any_map]
  congr 1
  funext i
  exact BEq.comm

/-- An execution is its root identifier and its instances: the index follows. -/
theorem ext {e e' : Execution} (hroot : e.rootId = e'.rootId) (hinst : e.instances = e'.instances) :
    e = e' := by
  obtain ⟨r, is, ix, hix⟩ := e
  obtain ⟨r', is', ix', hix'⟩ := e'
  simp only at hroot hinst
  subst hroot hinst
  obtain rfl := hix.trans hix'.symm
  rfl

@[simp] theorem ofInstances_rootId (rootId : String) (is : List FlowInstance) :
    (ofInstances rootId is).rootId = rootId := rfl

@[simp] theorem ofInstances_instances (rootId : String) (is : List FlowInstance) :
    (ofInstances rootId is).instances = is := rfl

/-- An execution rebuilt from its own instances is itself. -/
theorem ofInstances_self (e : Execution) : ofInstances e.rootId e.instances = e :=
  ext rfl rfl

@[simp] theorem push_rootId (e : Execution) (c : FlowInstance) : (e.push c).rootId = e.rootId :=
  rfl

@[simp] theorem push_instances (e : Execution) (c : FlowInstance) :
    (e.push c).instances = e.instances ++ [c] := rfl

/-- A change that keeps identifiers is made as given. -/
theorem modify_instances {e : Execution} {id : String} {f : FlowInstance → FlowInstance}
    (hf : ∀ i, (f i).id = i.id) :
    (e.modify id f).instances = modifyLast (·.id == id) f e.instances := by
  have hkeep : (fun i => { f i with id := i.id }) = f := by
    funext i
    rw [← hf i]
  simp only [modify, hkeep]

/-- A change keeps the identifiers in place, whatever it does. -/
@[simp] theorem modify_ids (e : Execution) (id : String) (f : FlowInstance → FlowInstance) :
    (e.modify id f).instances.map (·.id) = e.instances.map (·.id) :=
  map_modifyLast (fun i => { f i with id := i.id }) (·.id) (fun _ => rfl) e.instances

/-- A found instance is in the arena and has the identifier asked for. -/
theorem mem_of_get? {e : Execution} {id : String} {i : FlowInstance} (h : e.get? id = some i) :
    i ∈ e.instances ∧ i.id = id := by
  rw [get?_eq_find] at h
  have hmem := List.mem_of_find?_eq_some h
  have hid := List.find?_some h
  exact ⟨List.mem_reverse.1 hmem, by simpa using hid⟩

/-- An identifier that is not taken finds nothing. -/
theorem get?_eq_none_of_has {e : Execution} {id : String} (h : e.has id = false) :
    e.get? id = none := by
  rw [get?_eq_find, List.find?_eq_none]
  intro i hi hid
  have htaken : e.has id = true := by
    rw [has_eq_any]
    exact List.any_eq_true.2 ⟨i, List.mem_reverse.1 hi, hid⟩
  rw [h] at htaken
  contradiction

/-- Every instance in the arena makes its identifier taken. -/
theorem has_of_mem {e : Execution} {i : FlowInstance} (hi : i ∈ e.instances) : e.has i.id = true := by
  rw [has_eq_any]
  exact List.any_eq_true.2 ⟨i, hi, by simp⟩

/-- Every instance in the arena makes its identifier found, possibly at a
later instance of the same identifier. -/
theorem get?_isSome_of_mem {e : Execution} {i : FlowInstance} (hi : i ∈ e.instances) :
    (e.get? i.id).isSome := by
  rw [get?_eq_find, List.find?_isSome]
  exact ⟨i, List.mem_reverse.2 hi, by simp⟩

/-- Adding an instance at the end makes it the one found for its identifier. -/
theorem get?_push (e : Execution) (c : FlowInstance) (x : String) :
    (e.push c).get? x = if c.id = x then some c else e.get? x := by
  rw [get?_eq_find, get?_eq_find]
  by_cases hc : c.id = x <;> simp [hc]

/-- A change that keeps identifiers changes exactly the instance found for
its identifier. -/
theorem get?_modify {e : Execution} {id : String} {f : FlowInstance → FlowInstance}
    (hf : ∀ i, (f i).id = i.id) (x : String) :
    (e.modify id f).get? x = if x = id then (e.get? x).map f else e.get? x := by
  have h := find?_modifyLast_go FlowInstance.id f hf id x e.instances.reverse
  rw [get?_eq_find, get?_eq_find, modify_instances hf]
  by_cases hx : x = id
  · subst hx
    simpa [modifyLast] using h
  · simpa [modifyLast, hx] using h

/-- The instances after a change are old ones or changed ones, which keep
their identifiers. -/
theorem mem_modify {e : Execution} {id : String} {f : FlowInstance → FlowInstance}
    {j : FlowInstance} (hj : j ∈ (e.modify id f).instances) :
    j ∈ e.instances ∨ ∃ i ∈ e.instances, j = { f i with id := i.id } := by
  simp only [modify, modifyLast, List.mem_reverse] at hj
  rcases mem_modifyLast_go _ hj with hold | ⟨i, hi, rfl⟩
  · exact Or.inl (List.mem_reverse.1 hold)
  · exact Or.inr ⟨i, List.mem_reverse.1 hi, rfl⟩

/-- The instances after a change that keeps identifiers are old ones or
changed ones. -/
theorem mem_modify_of_keeps_id {e : Execution} {id : String} {f : FlowInstance → FlowInstance}
    (hf : ∀ i, (f i).id = i.id) {j : FlowInstance} (hj : j ∈ (e.modify id f).instances) :
    j ∈ e.instances ∨ ∃ i ∈ e.instances, j = f i := by
  rcases mem_modify hj with hold | ⟨i, hi, rfl⟩
  · exact Or.inl hold
  · refine Or.inr ⟨i, hi, ?_⟩
    rw [← hf i]

@[simp] theorem modify_rootId (e : Execution) (id : String) (f : FlowInstance → FlowInstance) :
    (e.modify id f).rootId = e.rootId := rfl

/-! ## Spawning -/

section Spawn

variable {e : Execution} {parentId id : String} {branchType : BranchType}
  {iteration : Option Nat} {now : Timestamp}

/-- A spawn under an unknown parent fails, with the execution as it was. -/
theorem spawn_of_unknown (h : e.get? parentId = none) :
    e.spawn parentId id branchType iteration now =
      .error (.corruptCursor s!"unknown parent '{parentId}'") e := by
  simp [spawn, spawn.go, h, EStateM.run, bind, EStateM.bind, get, getThe, MonadStateOf.get,
    EStateM.get]
  rfl

/-- A spawn of a taken identifier fails, with the execution as it was. -/
theorem spawn_of_taken {parent : FlowInstance} (hp : e.get? parentId = some parent)
    (h : e.has id = true) :
    e.spawn parentId id branchType iteration now = .error (.duplicateId id) e := by
  simp [spawn, spawn.go, hp, h, EStateM.run, bind, EStateM.bind, get, getThe, MonadStateOf.get,
    EStateM.get]
  rfl

/-- A spawn of a free identifier under a known parent adds the new instance
at the end, one level below its parent. -/
theorem spawn_of_free {parent : FlowInstance} (hp : e.get? parentId = some parent)
    (h : e.has id = false) :
    let child : FlowInstance :=
      { id := id, parentId := some parentId, depth := parent.depth + 1,
        branchType := branchType, iteration := iteration, startedAt := now }
    e.spawn parentId id branchType iteration now = .ok child (e.push child) := by
  simp [spawn, spawn.go, hp, h, EStateM.run, bind, EStateM.bind, get, getThe, MonadStateOf.get,
    EStateM.get]
  rfl

/-- What a successful `spawn` did: the parent was found, the identifier was
free, and the new instance sits one level below its parent at the end. -/
theorem spawn_eq_ok {e' : Execution} {child : FlowInstance}
    (h : e.spawn parentId id branchType iteration now = .ok child e') :
    ∃ parent, e.get? parentId = some parent ∧ e.has id = false ∧
      child =
        { id := id, parentId := some parentId, depth := parent.depth + 1,
          branchType := branchType, iteration := iteration, startedAt := now } ∧
      e' = e.push child := by
  cases hp : e.get? parentId with
  | none =>
    rw [spawn_of_unknown hp] at h
    cases h
  | some parent =>
    cases hfree : e.has id with
    | true =>
      rw [spawn_of_taken hp hfree] at h
      cases h
    | false =>
      rw [spawn_of_free hp hfree] at h
      cases h
      exact ⟨parent, rfl, rfl, rfl, rfl⟩

/-- How a spawn fails: its parent is unknown, or its identifier is taken.
Both checks come before the change, so a failed spawn leaves the execution
as it was. -/
theorem spawn_eq_error {e' : Execution} {err : FlowError} :
    e.spawn parentId id branchType iteration now = .error err e' ↔ e' = e ∧
      ((e.get? parentId = none ∧ err = .corruptCursor s!"unknown parent '{parentId}'") ∨
        ((e.get? parentId).isSome ∧ e.has id = true ∧ err = .duplicateId id)) := by
  cases hp : e.get? parentId with
  | none =>
    rw [spawn_of_unknown hp]
    constructor
    · intro h
      cases h
      exact ⟨rfl, .inl ⟨rfl, rfl⟩⟩
    · rintro ⟨rfl, ⟨-, rfl⟩ | ⟨hsome, -⟩⟩
      · rfl
      · cases hsome
  | some parent =>
    cases hfree : e.has id with
    | true =>
      rw [spawn_of_taken hp hfree]
      constructor
      · intro h
        cases h
        exact ⟨rfl, .inr ⟨rfl, rfl, rfl⟩⟩
      · rintro ⟨rfl, ⟨hnone, -⟩ | ⟨-, -, rfl⟩⟩
        · cases hnone
        · rfl
    | false =>
      rw [spawn_of_free hp hfree]
      constructor
      · intro h
        cases h
      · rintro ⟨-, ⟨hnone, -⟩ | ⟨-, htaken, -⟩⟩
        · cases hnone
        · cases htaken

end Spawn

/-! ## Linked executions -/

/-- A change that leaves an instance where it is in the tree: its identifier,
its parent and its depth stay. State writes, statuses and step records are
such changes. -/
def KeepsPlace (f : FlowInstance → FlowInstance) : Prop :=
  ∀ i, (f i).id = i.id ∧ (f i).parentId = i.parentId ∧ (f i).depth = i.depth

/-- The shape of the instance tree that state reads and the walk rely on. -/
structure Linked (e : Execution) : Prop where
  /-- The root is there, without a parent, at depth 0. -/
  root : ∃ r, e.get? e.rootId = some r ∧ r.parentId = none ∧ r.depth = 0
  /-- Every parent link names an instance one level up. -/
  parent : ∀ i ∈ e.instances, ∀ p, i.parentId = some p →
    ∃ q, e.get? p = some q ∧ q.depth + 1 = i.depth
  /-- Only the root has no parent. -/
  orphan : ∀ i ∈ e.instances, i.parentId = none → i.id = e.rootId ∧ i.depth = 0

/-- A new execution is linked. -/
theorem linked_create (rootId : String) (seed : Value) (now : Timestamp) :
    (create rootId seed now).Linked where
  root := by simp [create, get?_eq_find]
  parent := by simp [create]
  orphan := by simp [create]

/-- Spawning keeps an execution linked. -/
theorem Linked.spawn {e e' : Execution} {parentId id : String} {branchType : BranchType}
    {iteration : Option Nat} {now : Timestamp} (h : e.Linked) {child : FlowInstance}
    (hs : e.spawn parentId id branchType iteration now = .ok child e') : e'.Linked := by
  obtain ⟨parent, hparent, hfree, rfl, rfl⟩ := spawn_eq_ok hs
  -- Every identifier already taken is still found at the same instance.
  have hold : ∀ x, e.has x = true → (e.push
      { id := id, parentId := some parentId, depth := parent.depth + 1,
        branchType := branchType, iteration := iteration, startedAt := now }).get? x = e.get? x := by
    intro x hx
    rw [get?_push]
    have hne : id ≠ x := by
      rintro rfl
      rw [hfree] at hx
      contradiction
    simp [hne]
  constructor
  · obtain ⟨r, hr, hrp, hrd⟩ := h.root
    have hroot : e.has e.rootId = true := by
      have := has_of_mem (mem_of_get? hr).1
      rwa [(mem_of_get? hr).2] at this
    exact ⟨r, (hold _ hroot).trans hr, hrp, hrd⟩
  · intro i hi p hp
    rcases List.mem_append.1 hi with hi | hi
    · obtain ⟨q, hq, hdepth⟩ := h.parent i hi p hp
      have htaken : e.has p = true := by
        have := has_of_mem (mem_of_get? hq).1
        rwa [(mem_of_get? hq).2] at this
      exact ⟨q, (hold p htaken).trans hq, hdepth⟩
    · simp only [List.mem_singleton] at hi
      subst hi
      simp only [Option.some.injEq] at hp
      subst hp
      have htaken : e.has parentId = true := by
        have := has_of_mem (mem_of_get? hparent).1
        rwa [(mem_of_get? hparent).2] at this
      exact ⟨parent, (hold _ htaken).trans hparent, rfl⟩
  · intro i hi hp
    rcases List.mem_append.1 hi with hi | hi
    · exact h.orphan i hi hp
    · simp only [List.mem_singleton] at hi
      subst hi
      contradiction

/-- A change that keeps every instance's place keeps an execution linked. -/
theorem Linked.modify {e : Execution} (h : e.Linked) (id : String) {f : FlowInstance → FlowInstance}
    (hf : KeepsPlace f) : (e.modify id f).Linked := by
  have hid : ∀ i, (f i).id = i.id := fun i => (hf i).1
  -- A lookup after the change finds an instance of the same depth as before.
  have hfind : ∀ x q, e.get? x = some q → ∃ q', (e.modify id f).get? x = some q' ∧ q'.depth = q.depth := by
    intro x q hq
    rw [get?_modify hid]
    by_cases hx : x = id
    · subst hx
      exact ⟨f q, by simp [hq], (hf q).2.2⟩
    · exact ⟨q, by simp [hx, hq], rfl⟩
  constructor
  · obtain ⟨r, hr, hrp, hrd⟩ := h.root
    by_cases hx : e.rootId = id
    · refine ⟨f r, ?_, ?_, ?_⟩
      · rw [get?_modify hid]
        simp only [modify_rootId, if_pos hx, hr, Option.map_some]
      · rw [(hf r).2.1, hrp]
      · rw [(hf r).2.2, hrd]
    · exact ⟨r, by rw [get?_modify hid]; simp [hx, hr], hrp, hrd⟩
  · intro j hj p hp
    rcases mem_modify_of_keeps_id hid hj with hj | ⟨i, hi, rfl⟩
    · obtain ⟨q, hq, hdepth⟩ := h.parent j hj p hp
      obtain ⟨q', hq', hdq⟩ := hfind p q hq
      exact ⟨q', hq', by rw [hdq, hdepth]⟩
    · rw [(hf i).2.1] at hp
      obtain ⟨q, hq, hdepth⟩ := h.parent i hi p hp
      obtain ⟨q', hq', hdq⟩ := hfind p q hq
      exact ⟨q', hq', by rw [hdq, hdepth, (hf i).2.2]⟩
  · intro j hj hp
    rcases mem_modify_of_keeps_id hid hj with hj | ⟨i, hi, rfl⟩
    · exact h.orphan j hj hp
    · rw [(hf i).2.1] at hp
      obtain ⟨hroot, hdepth⟩ := h.orphan i hi hp
      exact ⟨(hf i).1.trans hroot, (hf i).2.2.trans hdepth⟩

/-! ## Parent chains -/

/-- The instances met by following parent links from an instance, the
instance first, up to one without a parent. -/
inductive Chain (e : Execution) : FlowInstance → List FlowInstance → Prop where
  /-- An instance without a parent ends its chain. -/
  | last {i : FlowInstance} : i.parentId = none → Chain e i [i]
  /-- Otherwise the chain goes on from the instance the parent link finds. -/
  | up {i q : FlowInstance} {p : String} {c : List FlowInstance} :
      i.parentId = some p → e.get? p = some q → Chain e q c → Chain e i (i :: c)

namespace Chain

variable {e : Execution}

/-- A chain starts at its instance. -/
theorem head_eq {i : FlowInstance} {c : List FlowInstance} (h : Chain e i c) :
    ∃ rest, c = i :: rest := by
  cases h with
  | last _ => exact ⟨[], rfl⟩
  | up _ _ _ => exact ⟨_, rfl⟩

/-- Parent links decide the chain: an instance has at most one. -/
theorem unique {i : FlowInstance} {c c' : List FlowInstance} (h : Chain e i c) (h' : Chain e i c') :
    c = c' := by
  induction h generalizing c' with
  | last hnone =>
    cases h' with
    | last _ => rfl
    | up hp _ _ => rw [hnone] at hp; contradiction
  | up hp hq _ ih =>
    cases h' with
    | last hnone => rw [hp] at hnone; contradiction
    | up hp' hq' hc' =>
      rw [hp] at hp'
      simp only [Option.some.injEq] at hp'
      subst hp'
      rw [hq] at hq'
      simp only [Option.some.injEq] at hq'
      subst hq'
      rw [ih hc']

/-- In a linked execution, a chain from an instance of the arena stays in
the arena and is one longer than the instance's depth. -/
theorem length_eq (hl : e.Linked) {i : FlowInstance} {c : List FlowInstance} (h : Chain e i c)
    (hi : i ∈ e.instances) : c.length = i.depth + 1 ∧ ∀ j ∈ c, j ∈ e.instances := by
  induction h with
  | last hnone =>
    refine ⟨?_, by simpa using hi⟩
    rw [(hl.orphan _ hi hnone).2]
    rfl
  | @up i q p c hp hq _ ih =>
    obtain ⟨q', hq', hdepth⟩ := hl.parent i hi p hp
    rw [hq] at hq'
    simp only [Option.some.injEq] at hq'
    subst hq'
    obtain ⟨hlen, hmem⟩ := ih (mem_of_get? hq).1
    refine ⟨by simp [hlen, ← hdepth], ?_⟩
    intro j hj
    rcases List.mem_cons.1 hj with rfl | hj
    · exact hi
    · exact hmem j hj

/-- In a linked execution a chain ends at the root. -/
theorem last_root (hl : e.Linked) {i : FlowInstance} {c : List FlowInstance} (h : Chain e i c)
    (hi : i ∈ e.instances) : ∃ r, c.getLast? = some r ∧ r.id = e.rootId := by
  induction h with
  | @last i hnone => exact ⟨i, rfl, (hl.orphan _ hi hnone).1⟩
  | @up i q p c hp hq hc ih =>
    obtain ⟨r, hr, hroot⟩ := ih (mem_of_get? hq).1
    obtain ⟨rest, rfl⟩ := hc.head_eq
    exact ⟨r, by simpa [List.getLast?_cons] using hr, hroot⟩

end Chain

/-- In a linked execution every instance of the arena has its chain. -/
theorem exists_chain {e : Execution} (hl : e.Linked) {i : FlowInstance} (hi : i ∈ e.instances) :
    ∃ c, e.Chain i c := by
  -- The depth drops by one along each parent link, so it bounds the walk.
  have bounded : ∀ n, ∀ i ∈ e.instances, i.depth < n → ∃ c, e.Chain i c := by
    intro n
    induction n with
    | zero => intro i _ hd; omega
    | succ n ih =>
      intro i hi hd
      cases hp : i.parentId with
      | none => exact ⟨[i], .last hp⟩
      | some p =>
        obtain ⟨q, hq, hdepth⟩ := hl.parent i hi p hp
        obtain ⟨c, hc⟩ := ih q (mem_of_get? hq).1 (by omega)
        exact ⟨i :: c, .up hp hq hc⟩
  exact bounded (i.depth + 1) i hi (by omega)

/-! ## Grown executions -/

/-- The executions a run builds: a new one, then spawns and changes that
keep every instance's place. -/
inductive Grown : Execution → Prop where
  | create (rootId : String) (seed : Value) (now : Timestamp) : Grown (create rootId seed now)
  | spawn {e e' : Execution} {parentId id : String} {branchType : BranchType}
      {iteration : Option Nat} {now : Timestamp} {child : FlowInstance} :
      Grown e → e.spawn parentId id branchType iteration now = .ok child e' → Grown e'
  | modify {e : Execution} (id : String) {f : FlowInstance → FlowInstance} :
      Grown e → KeepsPlace f → Grown (e.modify id f)

/-- Every grown execution is linked. -/
theorem Grown.linked {e : Execution} (h : e.Grown) : e.Linked := by
  induction h with
  | create rootId seed now => exact linked_create rootId seed now
  | spawn _ hs ih => exact ih.spawn hs
  | modify id _ hf ih => exact ih.modify id hf

/-- A state write keeps an instance's place. -/
theorem keepsPlace_state (state : FlowInstance → Value) :
    KeepsPlace fun i => { i with state := state i } :=
  fun _ => ⟨rfl, rfl, rfl⟩

theorem Grown.setState {e : Execution} (h : e.Grown) (id path : String) (v : Value) :
    (e.setState id path v).Grown :=
  h.modify id (keepsPlace_state fun i => setPath i.state path v)

theorem Grown.setShared {e : Execution} (h : e.Grown) (path : String) (v : Value) :
    (e.setShared path v).Grown :=
  h.setState e.rootId path v

theorem Grown.removeState {e : Execution} (h : e.Grown) (id path : String) :
    (e.removeState id path).1.Grown := by
  unfold Execution.removeState
  split
  · exact h
  · -- The path's removal is split into the new state and what was there.
    split
    split
    · exact h
    · exact h.modify id (keepsPlace_state fun _ => _)

/-! ## Growing an execution -/

/-- `y` is a child of `x`: the instance found for `y` has `x` as its parent. -/
def IsChild (e : Execution) (y x : String) : Prop :=
  ∃ Y, e.get? y = some Y ∧ Y.parentId = some x

/-- A spawned instance is a child of its parent. -/
theorem isChild_spawn {e e' : Execution} {parentId id : String} {branchType : BranchType}
    {iteration : Option Nat} {now : Timestamp} {child : FlowInstance}
    (hs : e.spawn parentId id branchType iteration now = .ok child e') :
    e'.IsChild id parentId := by
  obtain ⟨_, _, _, rfl, rfl⟩ := spawn_eq_ok hs
  exact ⟨_, by rw [get?_push, if_pos rfl], rfl⟩

/-- `e'` is reached from `e` by spawns and by changes that keep every
instance's place: what running a flow does to its execution. -/
inductive Grows : Execution → Execution → Prop where
  | refl (e : Execution) : Grows e e
  | spawn {e e₁ e₂ : Execution} {parentId id : String} {branchType : BranchType}
      {iteration : Option Nat} {now : Timestamp} {child : FlowInstance} :
      Grows e e₁ → e₁.spawn parentId id branchType iteration now = .ok child e₂ → Grows e e₂
  | modify {e e₁ : Execution} (id : String) {f : FlowInstance → FlowInstance} :
      Grows e e₁ → KeepsPlace f → Grows e (e₁.modify id f)

namespace Grows

theorem trans {e₁ e₂ e₃ : Execution} (h₁ : Grows e₁ e₂) (h₂ : Grows e₂ e₃) : Grows e₁ e₃ := by
  induction h₂ with
  | refl => exact h₁
  | spawn _ hs ih => exact .spawn ih hs
  | modify id _ hf ih => exact .modify id ih hf

theorem of_modify (e : Execution) (id : String) {f : FlowInstance → FlowInstance}
    (hf : KeepsPlace f) : Grows e (e.modify id f) :=
  .modify id (.refl e) hf

theorem of_spawn {e e' : Execution} {parentId id : String} {branchType : BranchType}
    {iteration : Option Nat} {now : Timestamp} {child : FlowInstance}
    (hs : e.spawn parentId id branchType iteration now = .ok child e') : Grows e e' :=
  .spawn (.refl e) hs

theorem setState (e : Execution) (id path : String) (v : Value) : Grows e (e.setState id path v) :=
  of_modify e id (keepsPlace_state fun i => setPath i.state path v)

theorem setShared (e : Execution) (path : String) (v : Value) : Grows e (e.setShared path v) :=
  setState e e.rootId path v

theorem removeState (e : Execution) (id path : String) : Grows e (e.removeState id path).1 := by
  unfold Execution.removeState
  split
  · exact .refl e
  · split
    split
    · exact .refl e
    · exact of_modify e id (keepsPlace_state fun _ => _)

/-- Growing keeps the root's identifier. -/
theorem rootId_eq {e e' : Execution} (h : Grows e e') : e'.rootId = e.rootId := by
  induction h with
  | refl => rfl
  | spawn _ hs ih =>
    obtain ⟨_, _, _, rfl, rfl⟩ := spawn_eq_ok hs
    exact ih
  | modify _ _ _ ih => exact ih

/-- Growing keeps every instance found, with its parent and depth. -/
theorem get?_some {e e' : Execution} (h : Grows e e') {x : String} {X : FlowInstance}
    (hx : e.get? x = some X) :
    ∃ X', e'.get? x = some X' ∧ X'.parentId = X.parentId ∧ X'.depth = X.depth := by
  induction h with
  | refl => exact ⟨X, hx, rfl, rfl⟩
  | @spawn _ _ _ nid _ _ _ _ _ hs ih =>
    obtain ⟨X', hX', hp, hd⟩ := ih
    obtain ⟨_, _, hfree, rfl, rfl⟩ := spawn_eq_ok hs
    -- The new instance has a free identifier, so it is not `x`.
    have hne : ¬nid = x := by
      rintro rfl
      rw [get?_eq_none_of_has hfree] at hX'
      contradiction
    refine ⟨X', ?_, hp, hd⟩
    rw [get?_push]
    simp [hne, hX']
  | @modify _ id f _ hf ih =>
    obtain ⟨X', hX', hp, hd⟩ := ih
    rw [get?_modify fun i => (hf i).1]
    by_cases hxid : x = id
    · subst hxid
      refine ⟨f X', by simp [hX'], ?_, ?_⟩
      · rw [(hf X').2.1, hp]
      · rw [(hf X').2.2, hd]
    · exact ⟨X', by simp [hxid, hX'], hp, hd⟩

theorem isSome {e e' : Execution} (h : Grows e e') {x : String} (hx : (e.get? x).isSome) :
    (e'.get? x).isSome := by
  obtain ⟨X, hX⟩ := Option.isSome_iff_exists.1 hx
  obtain ⟨X', hX', -, -⟩ := h.get?_some hX
  simp [hX']

theorem isChild {e e' : Execution} (h : Grows e e') {y x : String} (hc : e.IsChild y x) :
    e'.IsChild y x := by
  obtain ⟨Y, hY, hp⟩ := hc
  obtain ⟨Y', hY', hp', -⟩ := h.get?_some hY
  exact ⟨Y', hY', hp'.trans hp⟩

end Grows

/-- A grown execution stays grown. -/
theorem Grown.grows {e e' : Execution} (h : e.Grown) (hg : Grows e e') : e'.Grown := by
  induction hg with
  | refl => exact h
  | spawn _ hs ih => exact .spawn ih hs
  | modify id _ hf ih => exact .modify id ih hf

end Execution

end Flowline
