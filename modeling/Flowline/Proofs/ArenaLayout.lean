import Mathlib
import Flowline.Proofs.Statuses
import Flowline.Proofs.Records
import Flowline.Proofs.Throws
set_option autoImplicit false

/-!
# The layout of the instance arena

An execution keeps its instances in one list, in creation order, and finds
an instance by its identifier. Everything the engine does with ancestry
rests on how that list is laid out (`Execution.Arranged`):

* no two instances share an identifier, so a lookup finds the one instance
  with the identifier asked for;
* the root comes first, at depth 0 and without a parent;
* every other instance comes after its parent and sits one level below it,
  so following parent links from any instance reaches the root after as
  many links as its depth.

The layout only depends on where each instance sits (`FlowInstance.linkage`),
so it survives every change that keeps places (`Arranged.of_layout`). An
execution built from `Execution.create` by spawns and such changes is laid
out this way, and so is every execution read back from its stored form
(`arena_stays_arranged`, which also says how a spawn fails and which
identifier `Execution.freshId` picks).
-/

namespace Flowline

/-- Where an instance sits in the tree: its identifier, its parent and its
depth. -/
def FlowInstance.linkage (i : FlowInstance) : String × Option String × Nat :=
  (i.id, i.parentId, i.depth)

theorem FlowInstance.linkage_eq_iff {i j : FlowInstance} :
    i.linkage = j.linkage ↔ i.id = j.id ∧ i.parentId = j.parentId ∧ i.depth = j.depth := by
  simp [FlowInstance.linkage]

namespace Execution

/-- The places of the instances, in creation order. -/
def layout (e : Execution) : List (String × Option String × Nat) :=
  e.instances.map FlowInstance.linkage

/-- The arena invariant: identifiers apart, the root first, and every other
instance after its parent, one level below it. -/
structure Arranged (e : Execution) : Prop where
  /-- No two instances share an identifier. -/
  ids_nodup : (e.instances.map (·.id)).Nodup
  /-- The root comes first, at depth 0 and without a parent. -/
  root_first : ∃ r rest, e.instances = r :: rest ∧ r.id = e.rootId ∧ r.parentId = none ∧
    r.depth = 0
  /-- Every later instance's parent comes before it, one level up. -/
  parent_before : ∀ pre i post, e.instances = pre ++ i :: post → pre ≠ [] →
    ∃ q ∈ pre, i.parentId = some q.id ∧ q.depth + 1 = i.depth

/-! ## The invariant depends on places only -/

/-- Two executions with the same root and the same places list the same
identifiers. -/
theorem ids_of_layout {e e' : Execution} (hl : e'.layout = e.layout) :
    e'.instances.map (·.id) = e.instances.map (·.id) := by
  have h := congrArg (List.map Prod.fst) hl
  simpa only [layout, List.map_map, Function.comp_def, FlowInstance.linkage] using h

/-- An instance of one execution has a twin, in the same place, at the same
position of another execution with the same places. -/
theorem split_of_layout {e e' : Execution} (hl : e'.layout = e.layout) {pre' post' : List FlowInstance}
    {i' : FlowInstance} (he' : e'.instances = pre' ++ i' :: post') :
    ∃ pre i post, e.instances = pre ++ i :: post ∧ pre.map FlowInstance.linkage =
      pre'.map FlowInstance.linkage ∧ i.linkage = i'.linkage := by
  rw [layout, layout, he', List.map_append, List.map_cons] at hl
  obtain ⟨pre, rest, hsplit, hpre, hrest⟩ := List.map_eq_append_iff.1 hl.symm
  obtain ⟨i, post, rfl, hi, -⟩ := List.map_eq_cons_iff.1 hrest
  exact ⟨pre, i, post, hsplit, hpre, hi⟩

/-- The invariant carries over to an execution with the same root and the
same places. -/
theorem Arranged.of_layout {e e' : Execution} (h : e.Arranged) (hroot : e'.rootId = e.rootId)
    (hl : e'.layout = e.layout) : e'.Arranged where
  ids_nodup := by
    rw [ids_of_layout hl]
    exact h.ids_nodup
  root_first := by
    obtain ⟨r, rest, hr, hid, hparent, hdepth⟩ := h.root_first
    cases he' : e'.instances with
    | nil =>
      rw [layout, layout, he', hr] at hl
      cases hl
    | cons r' rest' =>
      rw [layout, layout, he', hr, List.map_cons, List.map_cons] at hl
      obtain ⟨hid', hparent', hdepth'⟩ := FlowInstance.linkage_eq_iff.1 (List.cons.inj hl).1
      exact ⟨r', rest', rfl, by rw [hid', hid, hroot], hparent'.trans hparent, hdepth'.trans hdepth⟩
  parent_before := by
    intro pre' i' post' he' hpre'
    obtain ⟨pre, i, post, hsplit, hpre, hi⟩ := split_of_layout hl he'
    have hne : pre ≠ [] := by
      rintro rfl
      exact hpre' (List.map_eq_nil_iff.1 hpre.symm)
    obtain ⟨q, hq, hparent, hdepth⟩ := h.parent_before pre i post hsplit hne
    -- The parent's twin sits among the earlier instances of the other list.
    obtain ⟨q', hq', hlinkage⟩ := List.mem_map.1 (hpre ▸ List.mem_map_of_mem hq)
    obtain ⟨hid, -, hqdepth⟩ := FlowInstance.linkage_eq_iff.1 hlinkage
    obtain ⟨-, hiparent, hidepth⟩ := FlowInstance.linkage_eq_iff.1 hi
    exact ⟨q', hq', by rw [← hiparent, hparent, hid], by rw [hqdepth, ← hidepth, hdepth]⟩

/-! ## What the invariant gives -/

section Consequences

variable {e : Execution}

/-- Every instance is the root, first, or has its parent in the arena one
level up. -/
theorem Arranged.root_or_parent (h : e.Arranged) {i : FlowInstance} (hi : i ∈ e.instances) :
    (i.id = e.rootId ∧ i.parentId = none ∧ i.depth = 0) ∨
      ∃ q ∈ e.instances, i.parentId = some q.id ∧ q.depth + 1 = i.depth := by
  obtain ⟨pre, post, hsplit⟩ := List.append_of_mem hi
  obtain ⟨r, rest, hr, hroot⟩ := h.root_first
  cases pre with
  | nil =>
    rw [hr, List.nil_append, List.cons.injEq] at hsplit
    rw [← hsplit.1]
    exact .inl hroot
  | cons x pre =>
    obtain ⟨q, hq, hparent, hdepth⟩ := h.parent_before _ i post hsplit (List.cons_ne_nil x pre)
    exact .inr ⟨q, by rw [hsplit]; exact List.mem_append_left _ hq, hparent, hdepth⟩

/-- A lookup finds exactly the instance with the identifier asked for. -/
theorem Arranged.get?_eq_some_iff (h : e.Arranged) {x : String} {i : FlowInstance} :
    e.get? x = some i ↔ i ∈ e.instances ∧ i.id = x := by
  constructor
  · exact mem_of_get?
  · rintro ⟨hi, rfl⟩
    exact get?_of_mem h.ids_nodup hi

/-- The index leads each identifier to the position of its instance and
nowhere else. -/
theorem Arranged.index_find? (h : e.Arranged) (x : String) (n : Nat) :
    e.index.find? x = some n ↔ e.instances[n]?.map (·.id) = some x := by
  rw [e.indexed, IdIndex.find?_build_of_nodup h.ids_nodup, List.getElem?_map]

/-- An arranged execution is linked. -/
theorem Arranged.linked (h : e.Arranged) : e.Linked where
  root := by
    obtain ⟨r, rest, hr, hid, hparent, hdepth⟩ := h.root_first
    have hmem : r ∈ e.instances := by rw [hr]; exact List.mem_cons_self
    exact ⟨r, h.get?_eq_some_iff.2 ⟨hmem, hid⟩, hparent, hdepth⟩
  parent := by
    intro i hi p hp
    rcases h.root_or_parent hi with ⟨-, hnone, -⟩ | ⟨q, hq, hparent, hdepth⟩
    · rw [hnone] at hp
      cases hp
    · rw [hparent, Option.some.injEq] at hp
      exact ⟨q, h.get?_eq_some_iff.2 ⟨hq, hp⟩, hdepth⟩
  orphan := by
    intro i hi hnone
    rcases h.root_or_parent hi with ⟨hid, -, hdepth⟩ | ⟨q, -, hparent, -⟩
    · exact ⟨hid, hdepth⟩
    · rw [hparent] at hnone
      cases hnone

/-- Following parent links from an instance reaches the root after as many
links as the instance's depth. -/
theorem Arranged.chain_to_root (h : e.Arranged) {i : FlowInstance} (hi : i ∈ e.instances) :
    ∃ c, e.Chain i c ∧ c.length = i.depth + 1 ∧ ∃ r, c.getLast? = some r ∧ r.id = e.rootId := by
  obtain ⟨c, hc⟩ := exists_chain h.linked hi
  exact ⟨c, hc, (hc.length_eq h.linked hi).1, hc.last_root h.linked hi⟩

end Consequences

/-! ## Growing an arranged execution -/

/-- A new execution is arranged. -/
theorem arranged_create (rootId : String) (seed : Value) (now : Timestamp) :
    (create rootId seed now).Arranged where
  ids_nodup := List.nodup_singleton _
  root_first := ⟨_, [], rfl, rfl, rfl, rfl⟩
  parent_before := by
    intro pre i post hsplit hpre
    obtain ⟨x, pre, rfl⟩ := List.exists_cons_of_ne_nil hpre
    simp [create] at hsplit

/-- A list with one more instance at its end, split around one of its
instances: the split is at the new one, or inside the old list. -/
theorem split_concat {l pre post : List FlowInstance} {c i : FlowInstance}
    (h : l ++ [c] = pre ++ i :: post) :
    (pre = l ∧ i = c ∧ post = []) ∨ ∃ post', l = pre ++ i :: post' ∧ post = post' ++ [c] := by
  rcases List.eq_nil_or_concat post with rfl | ⟨post', x, rfl⟩
  · obtain ⟨hpre, hi⟩ := List.append_inj' h rfl
    exact .inl ⟨hpre.symm, (List.cons.inj hi).1.symm, rfl⟩
  · rw [List.concat_eq_append] at h ⊢
    rw [← List.cons_append, ← List.append_assoc] at h
    obtain ⟨hl, hx⟩ := List.append_inj' h rfl
    rw [List.cons.injEq] at hx
    exact .inr ⟨post', hl, by rw [hx.1]⟩

/-- A spawn keeps an execution arranged: the new instance comes last, after
its parent. -/
theorem Arranged.spawn {e e' : Execution} {parentId id : String} {branchType : BranchType}
    {iteration : Option Nat} {now : Timestamp} (h : e.Arranged) {child : FlowInstance}
    (hs : e.spawn parentId id branchType iteration now = .ok child e') : e'.Arranged := by
  obtain ⟨parent, hparent, hfree, rfl, rfl⟩ := spawn_eq_ok hs
  obtain ⟨hpmem, hpid⟩ := mem_of_get? hparent
  refine ⟨?_, ?_, ?_⟩
  · -- The new identifier is free.
    rw [push_instances, List.map_append, List.nodup_append]
    refine ⟨h.ids_nodup, List.nodup_singleton _, ?_⟩
    rintro a ha b hb rfl
    simp only [List.map_cons, List.map_nil, List.mem_singleton] at hb
    rw [← has_iff_mem_ids, hb, hfree] at ha
    cases ha
  · obtain ⟨r, rest, hr, hroot⟩ := h.root_first
    exact ⟨r, rest ++ [_], by rw [push_instances, hr, List.cons_append], hroot⟩
  · intro pre i post hsplit hpre
    rcases split_concat hsplit with ⟨rfl, rfl, -⟩ | ⟨post', hold, -⟩
    · exact ⟨parent, hpmem, by rw [hpid], rfl⟩
    · exact h.parent_before pre i post' hold hpre

/-- Changing instances in place keeps the places. -/
theorem layout_modify (e : Execution) (id : String) {f : FlowInstance → FlowInstance}
    (hf : KeepsPlace f) : (e.modify id f).layout = e.layout := by
  refine map_modifyLast (fun i => { f i with id := i.id }) FlowInstance.linkage (fun i => ?_)
    e.instances
  obtain ⟨-, hparent, hdepth⟩ := hf i
  exact FlowInstance.linkage_eq_iff.2 ⟨rfl, hparent, hdepth⟩

/-- Every grown execution is arranged. -/
theorem Grown.arranged {e : Execution} (h : e.Grown) : e.Arranged := by
  induction h with
  | create rootId seed now => exact arranged_create rootId seed now
  | spawn _ hs ih => exact ih.spawn hs
  | modify id _ hf ih => exact ih.of_layout (modify_rootId _ id _) (layout_modify _ id hf)

end Execution

/-! ## Reading the stored form back -/

/-- A bound computation succeeded because both of its parts did. -/
theorem Except.bind_eq_ok {ε α β : Type} {x : Except ε α} {f : α → Except ε β} {b : β} :
    x >>= f = .ok b ↔ ∃ a, x = .ok a ∧ f a = .ok b := by
  cases x <;> simp [bind, Except.bind]

theorem Except.pure_eq_ok {ε α : Type} {a b : α} : (pure a : Except ε α) = .ok b ↔ a = b := by
  simp [pure, Except.pure]

/-- A member is found in an object as in the last of the pairs that built
it. -/
theorem Fields.find?_foldl_insert (k : String) :
    ∀ (l : List (String × Value)) (acc : Fields),
      (l.foldl (fun acc p => acc.insert p.1 p.2) acc).find? k =
        ((l.reverse.find? (·.1 == k)).map (·.2)).or (acc.find? k)
  | [], acc => by simp
  | (k', v) :: rest, acc => by
    rw [List.foldl_cons, Fields.find?_foldl_insert k rest, List.reverse_cons, List.find?_append]
    by_cases hk : k' = k
    · subst hk
      rw [Fields.find?_insert_self]
      cases rest.reverse.find? (·.1 == k') <;> simp
    · simp [Fields.find?_insert_ne acc v (Ne.symm hk), hk]

/-- A member of an object built from pairs is the last pair with its key. -/
theorem Fields.find?_ofList (l : List (String × Value)) (k : String) :
    (Fields.ofList l).find? k = (l.reverse.find? (·.1 == k)).map (·.2) := by
  unfold Fields.ofList
  exact (Fields.find?_foldl_insert k l []).trans (by cases (l.reverse.find? (·.1 == k)) <;> rfl)

namespace Json.Tree

/-- The members of an object as a tree are its members, each as a tree. -/
theorem find?_ofFields (k : String) :
    ∀ fs : Fields, ((ofFields fs).find? (·.1 == k)).map (·.2) = (fs.find? k).map ofValue
  | [] => rfl
  | (k', v) :: rest => by
    by_cases hk : k' = k
    · subst hk
      simp [ofFields, Fields.find?]
    · simp [ofFields, Fields.find?, hk, find?_ofFields k rest]

end Json.Tree

namespace Decode

/-- Reading an object keeps, for each member the record knows, the value the
object gives it: members are taken in order, and one taken twice fails. -/
theorem find?_fromObject {src : Source} {members : List Member} {k : String}
    (hk : ∃ m ∈ members, m.name = k) :
    ∀ {acc found : List (String × Json.Tree)} (ms : List (String × Json.Tree)),
      fromObject src members acc ms = .ok found →
      found.find? (·.1 == k) = (acc.find? (·.1 == k)).or (ms.find? (·.1 == k))
  | acc, found, [], h => by
    rw [fromObject] at h
    split at h
    · cases h
    · cases h
      simp
  | acc, found, (k', v) :: rest, h => by
    rw [fromObject] at h
    split at h
    · -- A member the record does not know is skipped.
      rename_i hnone
      have hne : k' ≠ k := by
        rintro rfl
        obtain ⟨m, hm, hname⟩ := hk
        exact absurd (List.find?_eq_none.1 hnone m hm) (by simp [hname])
      rw [find?_fromObject hk rest h, List.find?_cons_of_neg (by simpa using hne)]
    · split at h
      · cases h
      · split at h
        · cases h
        · rename_i hfresh _ _
          rw [find?_fromObject hk rest h]
          by_cases hkk : k' = k
          · -- The member was not taken before.
            subst hkk
            have hacc : acc.find? (·.1 == k') = none := by
              rw [List.find?_eq_none]
              intro p hp hpk
              exact hfresh (List.any_eq_true.2 ⟨p, hp, hpk⟩)
            simp [hacc]
          · simp [hkk]

/-- A record read from an object finds each member it knows where the
object has it. -/
theorem tree?_record {expected : String} {members : List Member} {src : Source} {fs : Fields}
    {f : Found} (h : record expected members src (Json.Tree.ofValue (.obj fs)) = .ok f)
    {k : String} (hk : ∃ m ∈ members, m.name = k) :
    f.source = src ∧ f.tree? k = (fs.find? k).map Json.Tree.ofValue := by
  obtain ⟨found, hfound, rfl⟩ := Except.ok_of_map_eq_ok h
  refine ⟨rfl, ?_⟩
  rw [Found.tree?, find?_fromObject hk _ hfound, ← Json.Tree.find?_ofFields]
  simp

/-- A count reads back as the number written. -/
theorem count_ofNat_eq_ok {src : Source} {n m : Nat}
    (h : count src (Json.Tree.ofValue (.ofNat n)) = .ok m) : m = n := by
  unfold count natBelow64 at h
  -- A written natural number is non-negative; only its size is checked.
  split at h
  · rename_i k t hk
    cases hk
    split at h
    · exact (Except.ok.inj h).symm
    · cases h
  · rename_i hk
    exact absurd rfl (hk (Int.ofNat n))

end Decode

theorem find?_optionalMember {α : Type} (key k : String) (f : α → Value) (o : Option α) :
    (optionalMember key f o).reverse.find? (·.1 == k) =
      if key = k then o.map fun a => (key, f a) else none := by
  cases o <;> by_cases h : key = k <;> simp [optionalMember, h]

/-- The stored form of an instance names its place: its identifier, its
parent when it has one, and its depth. -/
theorem FlowInstance.toValue_linkage (i : FlowInstance) : ∃ fs, i.toValue = .obj fs ∧
    Fields.find? fs "id" = some (.str i.id) ∧ Fields.find? fs "parentId" = i.parentId.map .str ∧
    Fields.find? fs "depth" = some (.ofNat i.depth) := by
  refine ⟨_, rfl, ?_, ?_, ?_⟩ <;>
    simp [Fields.find?_ofList, List.find?_append, find?_optionalMember, Function.comp_def]

/-- An instance read back from its stored form sits where it sat. -/
theorem FlowInstance.linkage_of_decode {src : Source} {i i' : FlowInstance}
    (h : FlowInstance.decode src (Json.Tree.ofValue i.toValue) = .ok i') : i'.linkage = i.linkage := by
  obtain ⟨fs, hv, hid, hparent, hdepth⟩ := i.toValue_linkage
  rw [hv] at h
  simp only [FlowInstance.decode, Except.bind_eq_ok, Except.pure_eq_ok] at h
  obtain ⟨f, hf, id, hid', parent, hparent', depth, hdepth', _, -, _, -, _, -, _, -, _, -, _, -, _, -,
    _, -, _, -, rfl⟩ := h
  -- The three members are read where the stored form put them.
  obtain ⟨hsrc, hid''⟩ := Decode.tree?_record hf (k := "id") ⟨_, List.mem_cons_self, rfl⟩
  obtain ⟨-, hparent''⟩ := Decode.tree?_record hf (k := "parentId")
    ⟨_, List.mem_cons_of_mem _ List.mem_cons_self, rfl⟩
  obtain ⟨-, hdepth''⟩ := Decode.tree?_record hf (k := "depth")
    ⟨_, List.mem_cons_of_mem _ (List.mem_cons_of_mem _ List.mem_cons_self), rfl⟩
  rw [Decode.Found.get, hid'', hid] at hid'
  rw [Decode.Found.opt, hparent'', hparent] at hparent'
  rw [Decode.Found.get, hdepth'', hdepth] at hdepth'
  have hid₀ : i.id = id := Except.ok.inj hid'
  have hparent₀ : i.parentId = parent := by
    cases hp : i.parentId with
    | none =>
      rw [hp] at hparent'
      exact Except.ok.inj hparent'
    | some p =>
      rw [hp] at hparent'
      exact Except.ok.inj hparent'
  have hdepth₀ : i.depth = depth := (Decode.count_ofNat_eq_ok hdepth').symm
  exact FlowInstance.linkage_eq_iff.2 ⟨hid₀.symm, hparent₀.symm, hdepth₀.symm⟩

/-- Instances read back one by one keep their places. -/
theorem FlowInstance.linkages_of_mapM {src : Source} :
    ∀ {is is' : List FlowInstance},
      (Json.Tree.ofValues (is.map FlowInstance.toValue)).mapM (FlowInstance.decode src) = .ok is' →
      is'.map FlowInstance.linkage = is.map FlowInstance.linkage
  | [], is', h => by
    cases h
    rfl
  | i :: rest, is', h => by
    rw [List.map_cons, Json.Tree.ofValues, List.mapM_cons] at h
    simp only [Except.bind_eq_ok, Except.pure_eq_ok] at h
    obtain ⟨i', hi, rest', hrest, rfl⟩ := h
    rw [List.map_cons, List.map_cons, FlowInstance.linkage_of_decode hi, linkages_of_mapM hrest]

/-- The stored form of an execution names its root and lists its instances. -/
theorem Execution.toValue_members (e : Execution) : ∃ fs, e.toValue = .obj fs ∧
    Fields.find? fs "rootId" = some (.str e.rootId) ∧
    Fields.find? fs "instances" = some (.arr (e.instances.map FlowInstance.toValue)) := by
  refine ⟨_, rfl, ?_, ?_⟩ <;> simp [Fields.find?_ofList]

/-- An execution read back from its stored form has the same root and its
instances in the same places. -/
theorem Execution.layout_of_decode {src : Source} {e e' : Execution}
    (h : Execution.decode src (Json.Tree.ofValue e.toValue) = .ok e') :
    e'.rootId = e.rootId ∧ e'.layout = e.layout := by
  obtain ⟨fs, hv, hroot, hinstances⟩ := e.toValue_members
  rw [hv] at h
  simp only [Execution.decode, Except.bind_eq_ok, Except.pure_eq_ok] at h
  obtain ⟨f, hf, rootId, hroot', instances, hinstances', rfl⟩ := h
  obtain ⟨hsrc, hroot''⟩ := Decode.tree?_record hf (k := "rootId") ⟨_, List.mem_cons_self, rfl⟩
  obtain ⟨-, hinstances''⟩ := Decode.tree?_record hf (k := "instances")
    ⟨_, List.mem_cons_of_mem _ List.mem_cons_self, rfl⟩
  rw [Decode.Found.get, hroot'', hroot] at hroot'
  rw [Decode.Found.get, hinstances'', hinstances, hsrc] at hinstances'
  exact ⟨(Except.ok.inj hroot').symm, FlowInstance.linkages_of_mapM hinstances'⟩

/-! ## Spawning and fresh identifiers -/

namespace Execution

/-- The search through suffixes stops at the first free one it tries. -/
theorem freshId_go_least (e : Execution) (c : String) :
    ∀ (budget n : Nat), (∃ k, n ≤ k ∧ k < n + budget ∧ e.has s!"{c}-{k}" = false) →
      ∃ m, n ≤ m ∧ freshId.go e c n budget = s!"{c}-{m}" ∧ e.has s!"{c}-{m}" = false ∧
        ∀ j, n ≤ j → j < m → e.has s!"{c}-{j}" = true
  | 0, n, ⟨k, hk, hk', _⟩ => absurd hk' (by omega)
  | budget + 1, n, ⟨k, hk, hk', hfree⟩ => by
    rw [freshId.go]
    split
    · -- Suffix `n` is taken, so the free one lies further on.
      rename_i htaken
      have hkn : n + 1 ≤ k := by
        rcases Nat.eq_or_lt_of_le hk with rfl | hlt
        · rw [htaken] at hfree
          cases hfree
        · exact hlt
      obtain ⟨m, hm, hgo, hmfree, hleast⟩ :=
        freshId_go_least e c budget (n + 1) ⟨k, hkn, by omega, hfree⟩
      refine ⟨m, by omega, hgo, hmfree, fun j hj hjm => ?_⟩
      rcases Nat.eq_or_lt_of_le hj with rfl | hlt
      · exact htaken
      · exact hleast j hlt hjm
    · rename_i hfresh
      exact ⟨n, le_rfl, rfl, by simpa using hfresh, fun j hj hjm => absurd hjm (by omega)⟩

/-- The identifier `freshId` picks: the candidate when it is free, else the
candidate with the least suffix from `2` on that is free. -/
theorem freshId_least (e : Execution) (c : String) :
    (e.has c = false → e.freshId c = c) ∧
    (e.has c = true → ∃ n, 2 ≤ n ∧ e.freshId c = s!"{c}-{n}" ∧ e.has s!"{c}-{n}" = false ∧
      ∀ m, 2 ≤ m → m < n → e.has s!"{c}-{m}" = true) := by
  constructor
  · intro hc
    rw [freshId, if_neg (by rw [hc]; decide)]
  · intro hc
    obtain ⟨k, hk, hk', hfree⟩ := exists_free_suffix e hc
    obtain ⟨n, hn, hgo, hnfree, hleast⟩ :=
      freshId_go_least e c e.instances.length 2 ⟨k, hk, by omega, hfree⟩
    exact ⟨n, hn, by rw [freshId, if_pos hc, hgo], hnfree, hleast⟩

example : (Execution.create "run" .null ⟨0, false⟩).freshId "run" = "run-2" := by decide

end Execution

/-! ## The arena of a run -/

/-- Every execution a run builds, and every execution read back from its
stored form, is arranged: the index leads each identifier to the position of
its instance, so a lookup finds the one instance with the identifier asked
for, and parent links lead from each instance to the root in as many links
as its depth. A spawn fails only for an unknown parent or a taken
identifier, and then leaves the execution as it was; `freshId` picks the
candidate, or the candidate with its least free suffix from `2` on. -/
theorem arena_stays_arranged {e : Execution} (hg : e.Grown) :
    (∀ e', (e' = e ∨ ∃ src, Execution.decode src (Json.Tree.ofValue e.toValue) = .ok e') →
      e'.Arranged ∧ (∀ x n, e'.index.find? x = some n ↔ e'.instances[n]?.map (·.id) = some x) ∧
      (∀ x i, e'.get? x = some i ↔ i ∈ e'.instances ∧ i.id = x) ∧
      ∀ i ∈ e'.instances, ∃ c, e'.Chain i c ∧ c.length = i.depth + 1 ∧
        ∃ r, c.getLast? = some r ∧ r.id = e'.rootId) ∧
    (∀ parentId id branchType iteration now err e',
      e.spawn parentId id branchType iteration now = .error err e' ↔ e' = e ∧
        ((e.get? parentId = none ∧ err = .corruptCursor s!"unknown parent '{parentId}'") ∨
          ((e.get? parentId).isSome ∧ e.has id = true ∧ err = .duplicateId id))) ∧
    ∀ c, (e.has c = false → e.freshId c = c) ∧
      (e.has c = true → ∃ n, 2 ≤ n ∧ e.freshId c = s!"{c}-{n}" ∧ e.has s!"{c}-{n}" = false ∧
        ∀ m, 2 ≤ m → m < n → e.has s!"{c}-{m}" = true) := by
  -- A stored form read back has the root and the places of the execution.
  have hread : ∀ e', (e' = e ∨ ∃ src, Execution.decode src (Json.Tree.ofValue e.toValue) = .ok e') →
      e'.Arranged := by
    rintro e' (rfl | ⟨src, hdec⟩)
    · exact hg.arranged
    · obtain ⟨hroot, hl⟩ := Execution.layout_of_decode hdec
      exact hg.arranged.of_layout hroot hl
  refine ⟨fun e' he' => ?_, fun _ _ _ _ _ _ _ => Execution.spawn_eq_error,
    Execution.freshId_least e⟩
  have h := hread e' he'
  exact ⟨h, h.index_find?, fun _ _ => h.get?_eq_some_iff, fun _ hi => h.chain_to_root hi⟩

/-- A root with one child spawned below it. -/
theorem spawned_arena_arranged :
    ∃ c e, (Execution.create "run" .null ⟨0, false⟩).spawn "run" "run-a" .main none ⟨0, false⟩ =
      .ok c e ∧ e.Grown ∧
    (∀ e', (e' = e ∨ ∃ src, Execution.decode src (Json.Tree.ofValue e.toValue) = .ok e') →
      e'.Arranged ∧ (∀ x n, e'.index.find? x = some n ↔ e'.instances[n]?.map (·.id) = some x) ∧
      (∀ x i, e'.get? x = some i ↔ i ∈ e'.instances ∧ i.id = x) ∧
      ∀ i ∈ e'.instances, ∃ c, e'.Chain i c ∧ c.length = i.depth + 1 ∧
        ∃ r, c.getLast? = some r ∧ r.id = e'.rootId) ∧
    (∀ parentId id branchType iteration now err e',
      e.spawn parentId id branchType iteration now = .error err e' ↔ e' = e ∧
        ((e.get? parentId = none ∧ err = .corruptCursor s!"unknown parent '{parentId}'") ∨
          ((e.get? parentId).isSome ∧ e.has id = true ∧ err = .duplicateId id))) ∧
    ∀ c, (e.has c = false → e.freshId c = c) ∧
      (e.has c = true → ∃ n, 2 ≤ n ∧ e.freshId c = s!"{c}-{n}" ∧ e.has s!"{c}-{n}" = false ∧
        ∀ m, 2 ≤ m → m < n → e.has s!"{c}-{m}" = true) := by
  obtain ⟨c, e, hs⟩ : ∃ c e, (Execution.create "run" .null ⟨0, false⟩).spawn "run" "run-a" .main none
      ⟨0, false⟩ = .ok c e := ⟨_, _, rfl⟩
  have hg : e.Grown := .spawn (.create _ _ _) hs
  exact ⟨c, e, hs, hg, arena_stays_arranged hg⟩

end Flowline
