import Flowline.Proofs.Paths
set_option autoImplicit false

/-!
# Laws of the deep merge

`deepMerge base overlay` lays `overlay` over `base`: where both are objects
their members merge one by one, and anything else is replaced by the overlay
whole. So lists are never merged, and a scalar or a list on either side cuts
off what the other side holds below it.

Read through paths, for an overlay that is a document (`Value.Ordered`):

* what the overlay holds at a path is in the merge, merged over something
  (`Path.getAt_deepMerge_of_overlay`): a value that is not an object is kept as it
  is, and an object stays an object;
* where the overlay holds nothing, the merge holds only what the base holds
  there (`Path.getAt_deepMerge_of_overlay_none`), so the merge holds nothing that
  neither side held;
* where the overlay holds nothing and meets the base with objects at every
  prefix it reaches, the merge holds what the base holds
  (`Path.getAt_deepMerge_of_base`);
* a document merged over itself is itself (`deepMerge_self`).

`deep_merge_laws` states them for dotted paths.
-/

namespace Flowline

namespace Fields

theorem find?_eq_none {fs : Fields} {key : String} (h : key ∉ fs.map Prod.fst) :
    fs.find? key = none := by
  induction fs with
  | nil => rfl
  | cons m rest ih =>
    obtain ⟨k, v⟩ := m
    simp only [List.map_cons, List.mem_cons, not_or] at h
    simp [find?, Ne.symm h.1, ih h.2]

theorem find?_of_mem {fs : Fields} {key : String} {v : Value} (hnd : (fs.map Prod.fst).Nodup)
    (h : (key, v) ∈ fs) : fs.find? key = some v := by
  induction fs with
  | nil => cases h
  | cons m rest ih =>
    obtain ⟨k, u⟩ := m
    simp only [List.map_cons, List.nodup_cons] at hnd
    rcases List.mem_cons.1 h with he | hrest
    · obtain ⟨rfl, rfl⟩ := Prod.mk.inj he
      simp [find?]
    · have hne : k ≠ key := fun e => hnd.1 (e ▸ List.mem_map_of_mem hrest)
      simp [find?, hne, ih hnd.2 hrest]

/-- Storing a member that is already stored changes nothing in key order. -/
theorem insert_of_find? {fs : Fields} {key : String} {v : Value}
    (hs : fs.Pairwise fun a b => a.1 < b.1) (h : fs.find? key = some v) : fs.insert key v = fs := by
  induction fs with
  | nil => cases h
  | cons m rest ih =>
    obtain ⟨k, u⟩ := m
    obtain ⟨hfirst, hrest⟩ := List.pairwise_cons.1 hs
    by_cases hk : k = key
    · subst hk
      simp only [find?, if_pos, Option.some.injEq] at h
      subst h
      simp [insert]
    · simp only [find?, if_neg hk] at h
      -- `key` comes later in the order, past `k`.
      have hlt : k < key := hfirst (key, v) (mem_of_find? h)
      rw [insert, if_neg (lt_asymm hlt), if_neg (Ne.symm hk), ih hrest h]

end Fields

/-- A value that is an object is one. -/
theorem Value.exists_obj_of_isObject {v : Value} (h : v.isObject = true) : ∃ fs, v = .obj fs := by
  cases v <;> first | exact ⟨_, rfl⟩ | cases h

/-! ## One member at a time -/

/-- Unless both sides are objects, the overlay replaces the base. -/
theorem deepMerge_of_not_both {b o : Value} (h : ¬ (b.isObject = true ∧ o.isObject = true)) :
    deepMerge b o = o := by
  rw [deepMerge.eq_2]
  rintro base overlay rfl rfl
  exact h ⟨rfl, rfl⟩

theorem deepMerge_null (o : Value) : deepMerge .null o = o :=
  deepMerge_of_not_both (by simp [Value.isObject])

theorem deepMerge_of_isObject_false (b : Value) {o : Value} (h : o.isObject = false) :
    deepMerge b o = o :=
  deepMerge_of_not_both (by simp [h])

theorem deepMerge_of_base_isObject_false {b : Value} (o : Value) (h : b.isObject = false) :
    deepMerge b o = o :=
  deepMerge_of_not_both (by simp [h])

/-- A merge is an object exactly when its overlay is. -/
theorem deepMerge_isObject (b o : Value) : (deepMerge b o).isObject = o.isObject := by
  by_cases hboth : b.isObject = true ∧ o.isObject = true
  · obtain ⟨bfs, rfl⟩ := Value.exists_obj_of_isObject hboth.1
    obtain ⟨ofs, rfl⟩ := Value.exists_obj_of_isObject hboth.2
    rw [deepMerge]
    rfl
  · rw [deepMerge_of_not_both hboth]

/-- One overlay member merges into the base's member of its key, or into
nothing, which `null` stands for. -/
theorem mergeFields_cons (acc : Fields) (k : String) (v : Value) (rest : Fields) :
    deepMerge.mergeFields acc ((k, v) :: rest) =
      deepMerge.mergeFields (acc.insert k (deepMerge ((Fields.find? acc k).getD .null) v)) rest := by
  rw [deepMerge.mergeFields]
  cases Fields.find? acc k with
  | none => rw [Option.getD_none, deepMerge_null]
  | some e => rfl

/-- A key the overlay lacks keeps the base's member. -/
theorem find?_mergeFields_of_none (acc ov : Fields) {k : String} (h : Fields.find? ov k = none) :
    Fields.find? (deepMerge.mergeFields acc ov) k = Fields.find? acc k := by
  induction ov generalizing acc with
  | nil => rfl
  | cons m rest ih =>
    obtain ⟨k', v⟩ := m
    have hne : k' ≠ k := fun e => by simp [Fields.find?, e] at h
    have hrest : Fields.find? rest k = none := by simpa [Fields.find?, hne] using h
    rw [deepMerge.mergeFields, ih _ hrest, Fields.find?_insert_ne _ _ (Ne.symm hne)]

/-- A key of an overlay without repeated keys holds its member merged over the
base's member. -/
theorem find?_mergeFields_of_some {acc ov : Fields} {k : String} {o : Value}
    (hov : (ov.map Prod.fst).Nodup) (h : Fields.find? ov k = some o) :
    Fields.find? (deepMerge.mergeFields acc ov) k =
      some (deepMerge ((Fields.find? acc k).getD .null) o) := by
  induction ov generalizing acc with
  | nil => cases h
  | cons m rest ih =>
    obtain ⟨k', v⟩ := m
    simp only [List.map_cons, List.nodup_cons] at hov
    rw [mergeFields_cons]
    by_cases hk : k' = k
    · -- The key is merged here and the rest of the overlay does not hold it.
      subst hk
      simp only [Fields.find?, if_pos, Option.some.injEq] at h
      subst h
      rw [find?_mergeFields_of_none _ _ (Fields.find?_eq_none hov.1), Fields.find?_insert_self]
    · simp only [Fields.find?, if_neg hk] at h
      rw [ih hov.2 h, Fields.find?_insert_ne _ _ (Ne.symm hk)]

namespace Path

/-- Where the overlay has a child, the merge has it merged over the base's child
of that segment, or over nothing. -/
theorem child?_deepMerge_of_overlay {b o oc : Value} {s : String} (ho : o.Ordered)
    (h : child? o s = some oc) :
    ∃ bc, (child? b s = some bc ∨ bc = .null) ∧
      child? (deepMerge b o) s = some (deepMerge bc oc) := by
  by_cases hb : b.isObject = true
  · cases o with
    | obj ofs =>
      obtain ⟨bfs, rfl⟩ := Value.exists_obj_of_isObject hb
      refine ⟨(Fields.find? bfs s).getD .null, ?_, ?_⟩
      · cases hs : Fields.find? bfs s with
        | none => exact .inr rfl
        | some e => exact .inl (by simp [child?, hs])
      · exact find?_mergeFields_of_some ho.keys_nodup h
    | arr items =>
      -- A list in the overlay replaces the base whole.
      exact ⟨.null, .inr rfl, by rw [deepMerge_of_isObject_false b rfl, h, deepMerge_null]⟩
    | _ => cases h
  · rw [deepMerge_of_base_isObject_false o (by simpa using hb)]
    exact ⟨.null, .inr rfl, by rw [h, deepMerge_null]⟩

/-- Where the overlay has no child, a child of the merge is the base's. -/
theorem child?_deepMerge_of_overlay_none {b o m : Value} {s : String}
    (h : child? o s = none) (hm : child? (deepMerge b o) s = some m) :
    child? b s = some m := by
  by_cases hboth : b.isObject = true ∧ o.isObject = true
  · obtain ⟨bfs, rfl⟩ := Value.exists_obj_of_isObject hboth.1
    obtain ⟨ofs, rfl⟩ := Value.exists_obj_of_isObject hboth.2
    rw [deepMerge, child?, find?_mergeFields_of_none _ _ h] at hm
    exact hm
  · -- Otherwise the merge is the overlay, which has no such child.
    rw [deepMerge_of_not_both hboth, h] at hm
    cases hm

/-- What the overlay holds at a path is in the merge, merged over something. -/
theorem getAt_deepMerge_of_overlay {ps : List String} {b o oc : Value} (ho : o.Ordered)
    (h : getAt ps o = some oc) : ∃ bc, getAt ps (deepMerge b o) = some (deepMerge bc oc) := by
  induction ps generalizing b o with
  | nil =>
    obtain rfl : o = oc := Option.some.inj h
    exact ⟨b, rfl⟩
  | cons s rest ih =>
    rw [getAt] at h ⊢
    obtain ⟨o', ho', hrest⟩ := Option.bind_eq_some_iff.1 h
    obtain ⟨bc, -, hm⟩ := child?_deepMerge_of_overlay (b := b) ho ho'
    rw [hm, Option.bind_some]
    exact ih (ho.child ho') hrest

/-- Where the overlay holds nothing, whatever the merge holds is the base's. -/
theorem getAt_deepMerge_of_overlay_none {ps : List String} {b o m : Value} (ho : o.Ordered)
    (h : getAt ps o = none) (hm : getAt ps (deepMerge b o) = some m) : getAt ps b = some m := by
  induction ps generalizing b o with
  | nil => cases h
  | cons s rest ih =>
    rw [getAt] at h hm ⊢
    obtain ⟨m', hm', hrest⟩ := Option.bind_eq_some_iff.1 hm
    cases hoc : child? o s with
    | none => rw [child?_deepMerge_of_overlay_none hoc hm', Option.bind_some]; exact hrest
    | some o' =>
      rw [hoc, Option.bind_some] at h
      obtain ⟨bc, hbc, hmc⟩ := child?_deepMerge_of_overlay (b := b) ho hoc
      rw [hmc] at hm'
      obtain rfl := Option.some.inj hm'
      rcases hbc with hbc | rfl
      · rw [hbc, Option.bind_some]
        exact ih (ho.child hoc) h hrest
      · -- Over nothing the overlay's child is kept whole, and it holds nothing there.
        rw [deepMerge_null, h] at hrest
        cases hrest

/-- Where the overlay holds nothing and meets the base with objects at every
prefix where it holds something, the merge holds what the base holds. -/
theorem getAt_deepMerge_of_base {ps : List String} {b o y : Value} (ho : o.Ordered)
    (hb : getAt ps b = some y) (h : getAt ps o = none)
    (hobj : ∀ c, c <+: ps → ∀ oc, getAt c o = some oc →
      oc.isObject = true ∧ ∃ bc, getAt c b = some bc ∧ bc.isObject = true) :
    getAt ps (deepMerge b o) = some y := by
  induction ps generalizing b o with
  | nil => cases h
  | cons s rest ih =>
    -- At the start both sides are objects.
    obtain ⟨hoobj, bc, hbc, hbobj⟩ := hobj [] List.nil_prefix o rfl
    obtain rfl : b = bc := Option.some.inj hbc
    obtain ⟨bfs, rfl⟩ := Value.exists_obj_of_isObject hbobj
    obtain ⟨ofs, rfl⟩ := Value.exists_obj_of_isObject hoobj
    rw [getAt] at hb h ⊢
    obtain ⟨b', hb', hrest⟩ := Option.bind_eq_some_iff.1 hb
    rw [deepMerge, child?]
    cases hoc : Fields.find? ofs s with
    | none =>
      rw [find?_mergeFields_of_none _ _ hoc]
      exact hb ▸ rfl
    | some o' =>
      have hoc' : child? (.obj ofs) s = some o' := hoc
      rw [hoc', Option.bind_some] at h
      rw [find?_mergeFields_of_some ho.keys_nodup hoc]
      have hfind : (Fields.find? bfs s).getD .null = b' := by
        simp only [child?] at hb'
        rw [hb']
        rfl
      rw [hfind, Option.bind_some]
      refine ih (ho.child hoc') hrest h fun c hc oc hcoc => ?_
      -- A prefix below `s` is a prefix of the whole path, one segment longer.
      have hstep := hobj (s :: c) ((List.prefix_cons_inj s).2 hc) oc
        (by rw [getAt, hoc', Option.bind_some]; exact hcoc)
      rw [getAt, hb', Option.bind_some] at hstep
      exact hstep

end Path

/-- A document merged over itself is itself. -/
theorem deepMerge_self {x : Value} (hx : x.Ordered) : deepMerge x x = x := by
  induction hx with
  | null => rfl
  | bool b => rfl
  | num n => rfl
  | str s => rfl
  | arr _ _ => rfl
  | @obj fs hs _ ih =>
    rw [deepMerge]
    congr 1
    -- Each member merges with itself, in place.
    have hkeep : ∀ ov : Fields, (∀ m ∈ ov, m ∈ fs) → deepMerge.mergeFields fs ov = fs := by
      intro ov hov
      induction ov with
      | nil => rfl
      | cons m rest ihov =>
        obtain ⟨k, v⟩ := m
        have hmem := hov (k, v) List.mem_cons_self
        have hfind : Fields.find? fs k = some v :=
          Fields.find?_of_mem ((Value.Ordered.obj hs ‹_›).keys_nodup) hmem
        rw [mergeFields_cons, hfind, Option.getD_some, ih (k, v) hmem,
          Fields.insert_of_find? hs hfind]
        exact ihov fun m hm => hov m (List.mem_cons_of_mem _ hm)
    exact hkeep fs fun _ h => h

/-- The laws of the deep merge `m = deepMerge b o`, for an overlay `o` that is a
document and paths `p`:

* where `o` holds a value that is not an object, `m` holds it;
* where `o` holds nothing but `b` holds `y`, `m` holds `y`, provided that at
  every prefix of `p` where `o` holds something, `o` and `b` both hold objects;
* `m` holds a value only where `b` or `o` does;
* a document merged over itself is itself. -/
theorem deep_merge_laws (b o : Value) (ho : o.Ordered) :
    (∀ (p : String) (x : Value), getPath o p = some x → x.isObject = false →
      getPath (deepMerge b o) p = some x) ∧
    (∀ (p : String) (y : Value), getPath b p = some y → getPath o p = none →
      (∀ c, c <+: Path.segments p → ∀ oc, Path.getAt c o = some oc →
        oc.isObject = true ∧ ∃ bc, Path.getAt c b = some bc ∧ bc.isObject = true) →
      getPath (deepMerge b o) p = some y) ∧
    (∀ p : String, (getPath (deepMerge b o) p).isSome →
      (getPath b p).isSome ∨ (getPath o p).isSome) ∧
    ∀ x : Value, x.Ordered → deepMerge x x = x := by
  refine ⟨fun p x hx hobj => ?_, fun p y hy hn hobj => Path.getAt_deepMerge_of_base ho hy hn hobj,
    fun p hm => ?_, fun x hx => deepMerge_self hx⟩
  · obtain ⟨bc, h⟩ := Path.getAt_deepMerge_of_overlay (b := b) ho hx
    rwa [deepMerge_of_isObject_false bc hobj] at h
  · obtain ⟨m, hm⟩ := Option.isSome_iff_exists.1 hm
    cases hop : getPath o p with
    | some _ => exact .inr rfl
    | none => exact .inl (by rw [getPath, Path.getAt_deepMerge_of_overlay_none ho hop hm]; rfl)

/-- The library's own example, `{"a": {"x": 1, "y": 2}, "b": 1}` under
`{"a": {"y": 3}, "c": 4}`: `a.y` is read from the overlay and `a.x` from the
base, whose objects the overlay meets with objects. -/
theorem deep_merge_laws_on_nested_objects :
    (Value.obj [("a", .obj [("y", .ofNat 3)]), ("c", .ofNat 4)]).Ordered ∧
    getPath (deepMerge (.obj [("a", .obj [("x", .ofNat 1), ("y", .ofNat 2)]), ("b", .ofNat 1)])
      (.obj [("a", .obj [("y", .ofNat 3)]), ("c", .ofNat 4)])) "a.y" = some (.ofNat 3) ∧
    getPath (deepMerge (.obj [("a", .obj [("x", .ofNat 1), ("y", .ofNat 2)]), ("b", .ofNat 1)])
      (.obj [("a", .obj [("y", .ofNat 3)]), ("c", .ofNat 4)])) "a.x" = some (.ofNat 1) ∧
    deepMerge (.obj [("a", .obj [("x", .ofNat 1), ("y", .ofNat 2)]), ("b", .ofNat 1)])
      (.obj [("a", .obj [("x", .ofNat 1), ("y", .ofNat 2)]), ("b", .ofNat 1)]) =
      .obj [("a", .obj [("x", .ofNat 1), ("y", .ofNat 2)]), ("b", .ofNat 1)] := by
  have ho : (Value.obj [("a", .obj [("y", .ofNat 3)]), ("c", .ofNat 4)]).Ordered :=
    .obj (List.pairwise_pair.2 (by decide))
      (by simp [Value.ofNat, Value.Ordered.num, Value.Ordered.obj])
  have hinner : (Value.obj [("x", .ofNat 1), ("y", .ofNat 2)]).Ordered :=
    .obj (List.pairwise_pair.2 (by decide)) (by simp [Value.ofNat, Value.Ordered.num])
  have hb : (Value.obj [("a", .obj [("x", .ofNat 1), ("y", .ofNat 2)]), ("b", .ofNat 1)]).Ordered :=
    .obj (List.pairwise_pair.2 (by decide)) (by simp [Value.ofNat, Value.Ordered.num]; exact hinner)
  have laws := deep_merge_laws (.obj [("a", .obj [("x", .ofNat 1), ("y", .ofNat 2)]), ("b", .ofNat 1)])
    (.obj [("a", .obj [("y", .ofNat 3)]), ("c", .ofNat 4)]) ho
  have hay : Path.segments "a.y" = ["a", "y"] := by cbv
  have hax : Path.segments "a.x" = ["a", "x"] := by cbv
  refine ⟨ho, laws.1 "a.y" _ (by simp [getPath, hay, Path.getAt, Path.child?, Fields.find?]) rfl,
    laws.2.1 "a.x" _ (by simp [getPath, hax, Path.getAt, Path.child?, Fields.find?])
      (by simp [getPath, hax, Path.getAt, Path.child?, Fields.find?]) ?_, laws.2.2.2 _ hb⟩
  -- The overlay holds objects at the empty prefix and at `a`, and nothing at `a.x`.
  intro c hc oc hoc
  rw [hax] at hc
  rcases List.prefix_cons_iff.1 hc with rfl | ⟨t, rfl, ht⟩
  · obtain rfl := Option.some.inj hoc
    exact ⟨rfl, _, rfl, rfl⟩
  · rcases List.prefix_cons_iff.1 ht with rfl | ⟨t', rfl, ht'⟩
    · simp only [Path.getAt, Path.child?, Fields.find?, if_pos, Option.bind_some,
        Option.some.injEq] at hoc
      subst hoc
      exact ⟨rfl, _, rfl, rfl⟩
    · obtain rfl := List.prefix_nil.1 ht'
      simp [Path.getAt, Path.child?, Fields.find?] at hoc

end Flowline
