import Flowline.Proofs.WrittenForm
import Flowline.Data.Path
set_option autoImplicit false

/-!
# Laws of dotted paths

A path is followed segment by segment: `Path.child?` takes the member of an
object that a segment names, or the item of a list when the segment reads as
an index. Different segments can name the same item (`1`, `01` and `+1` all
read as index 1), so two paths are compared while they are walked
(`Path.sameChild`), and they part (`Path.fork?`) at the first value where
they name different children.

A write (`Path.setAt`) goes down its path and turns whatever is in its way
into an object, unless that is an object already or a list the segment
indexes (`Path.writesInPlace`). A removal (`Path.removeAt`) goes down its path
and takes a member out of the object at its end; it never removes a list item.

Main statements:

* a write is read back at its own path (`Path.getAt_setAt_self`);
* a path that parts from a write keeps its value when the write stays in
  place where they part (`Path.getAt_setAt_of_fork`);
* a removal succeeds exactly when a read finds the value in an object
  (`Path.removeAt_eq_some_iff`), leaves nothing at its path in a document
  (`Path.getAt_removeAt_self`), and changes no path that parts from it
  (`Path.getAt_removeAt_of_fork`);
* `dotted_path_laws` states them for dotted paths.
-/

namespace Flowline

namespace Fields

theorem mem_of_find? {fs : Fields} {key : String} {v : Value} (h : fs.find? key = some v) :
    (key, v) ∈ fs := by
  induction fs with
  | nil => cases h
  | cons m rest ih =>
    obtain ⟨k, u⟩ := m
    by_cases hk : k = key
    · subst hk
      simp only [find?, if_pos, Option.some.injEq] at h
      subst h
      exact List.mem_cons_self
    · simp only [find?, if_neg hk] at h
      exact List.mem_cons_of_mem _ (ih h)

theorem find?_erase_ne (fs : Fields) {key other : String} (h : other ≠ key) :
    (fs.erase key).find? other = fs.find? other := by
  induction fs with
  | nil => rfl
  | cons m rest ih =>
    obtain ⟨k, v⟩ := m
    by_cases hk : k = key
    · subst hk
      simp [erase, find?, Ne.symm h]
    · simp [erase, find?, hk, ih]

end Fields

/-- The keys of an object in key order are distinct. -/
theorem Value.Ordered.keys_nodup {fs : Fields} (h : (Value.obj fs).Ordered) :
    (fs.map Prod.fst).Nodup := by
  cases h with
  | obj hs _ => exact (List.pairwise_map.2 hs).imp ne_of_lt

/-- A child of a document is a document. -/
theorem Value.Ordered.child {v c : Value} {s : String} (h : v.Ordered) (hc : Path.child? v s = some c) :
    c.Ordered := by
  cases v with
  | obj fs => exact h.member (Fields.mem_of_find? hc)
  | arr items =>
    obtain ⟨i, -, hi⟩ := Option.bind_eq_some_iff.1 hc
    exact h.item (List.mem_of_getElem? hi)
  | _ => cases hc

namespace Path

/-- Two segments name the same child of `v`: they are equal, or `v` is a list
and both read as the same index. -/
def sameChild (v : Value) (s t : String) : Bool :=
  s == t || (v.isArray && (index? s).isSome && index? s == index? t)

/-- A write through segment `s` stays inside `v`: `v` is an object, or a list
that `s` indexes. Anything else is replaced by an object holding `s` alone. -/
def writesInPlace (v : Value) (s : String) : Bool :=
  match v with
  | .obj _ => true
  | .arr items => (index? s).any fun i => decide (i < items.length)
  | _ => false

/-- Where two segment lists part, walked together from `v`: the value their
common route reaches and the first two segments that name different children
of it. Nothing when one list runs out first. A missing child is walked on as
`null`, where only equal segments agree. -/
def fork? : Value → List String → List String → Option (Value × String × String)
  | v, s :: ps, t :: qs =>
    if sameChild v s t then fork? ((child? v s).getD .null) ps qs else some (v, s, t)
  | _, _, _ => none

@[simp] theorem sameChild_self (v : Value) (s : String) : sameChild v s s = true := by
  simp [sameChild]

theorem child?_eq_of_sameChild {v : Value} {s t : String} (h : sameChild v s t = true) :
    child? v s = child? v t := by
  simp only [sameChild, Bool.or_eq_true, Bool.and_eq_true, beq_iff_eq] at h
  rcases h with rfl | ⟨⟨harr, _⟩, hidx⟩
  · rfl
  · cases v with
    | arr items => simp only [child?, hidx]
    | _ => cases harr

/-- Where two segments name the same existing child, a write through the first
stays in place. -/
theorem writesInPlace_of_sameChild {v c : Value} {s t : String} (hst : sameChild v s t = true)
    (ht : child? v t = some c) : writesInPlace v s = true := by
  rw [← child?_eq_of_sameChild hst] at ht
  cases v with
  | obj fs => rfl
  | arr items =>
    obtain ⟨i, hi, hc⟩ := Option.bind_eq_some_iff.1 ht
    have hlt : i < items.length := (List.getElem?_eq_some_iff.1 hc).1
    simp [writesInPlace, hi, hlt]
  | _ => cases ht

/-- Storing a member changes what the segments naming it read, and nothing else. -/
theorem child?_obj_insert (fs : Fields) (s t : String) (u : Value) :
    child? (.obj (fs.insert s u)) t = if sameChild (.obj fs) s t then some u else child? (.obj fs) t := by
  by_cases hst : s = t
  · subst hst
    simp [child?, Fields.find?_insert_self]
  · have hne : t ≠ s := Ne.symm hst
    simp [child?, sameChild, hst, Value.isArray, Fields.find?_insert_ne fs u hne]

/-- Replacing an item changes what the segments indexing it read, and nothing else. -/
theorem child?_arr_set {items : List Value} {s : String} {i : Nat} (hs : index? s = some i)
    (hi : i < items.length) (t : String) (u : Value) :
    child? (.arr (items.set i u)) t =
      if sameChild (.arr items) s t then some u else child? (.arr items) t := by
  cases ht : index? t with
  | none =>
    have hst : s ≠ t := fun e => by rw [e, ht] at hs; cases hs
    simp [child?, sameChild, ht, hs, hst]
  | some j =>
    by_cases hij : i = j
    · subst hij
      simp [child?, sameChild, Value.isArray, ht, hs, hi]
    · have hst : s ≠ t := fun e => by rw [e, ht] at hs; exact hij (Option.some.inj hs).symm
      simp [child?, sameChild, ht, hs, hst, hij, List.getElem?_set_ne hij]

/-- Following a path in two parts follows the first part, then the second. -/
theorem getAt_append (c d : List String) (v : Value) :
    getAt (c ++ d) v = (getAt c v).bind (getAt d) := by
  induction c generalizing v with
  | nil => rfl
  | cons s rest ih => simp only [List.cons_append, getAt, ih, Option.bind_assoc]

/-- A path that leads somewhere passes through every prefix. -/
theorem exists_getAt_of_prefix {c ps : List String} {v x : Value} (hc : c <+: ps)
    (h : getAt ps v = some x) : ∃ m, getAt c v = some m := by
  obtain ⟨d, rfl⟩ := hc
  rw [getAt_append] at h
  obtain ⟨m, hm, -⟩ := Option.bind_eq_some_iff.1 h
  exact ⟨m, hm⟩

/-! ## Writes -/

/-- A write that stays in place changes only the child its first segment
names, which is written below (read as `null` when missing). -/
theorem child?_setAt {v : Value} {s : String} (rest : List String) (value : Value)
    (hv : writesInPlace v s = true) (t : String) :
    child? (setAt (s :: rest) v value) t =
      if sameChild v s t then some (setAt rest ((child? v s).getD .null) value) else child? v t := by
  cases v with
  | obj fs =>
    rw [setAt, child?_obj_insert]
    rfl
  | arr items =>
    obtain ⟨i, hi, hlt⟩ : ∃ i, index? s = some i ∧ i < items.length := by
      simpa [writesInPlace, Option.any_eq_true] using hv
    have hget : (child? (.arr items) s).getD .null = items.get ⟨i, hlt⟩ := by
      simp [child?, hi, hlt]
    rw [setAt, hi]
    dsimp only
    rw [dif_pos hlt, child?_arr_set hi hlt, hget]
  | _ => cases hv

/-- A write always holds its first segment, over the child that was there
(`null` when missing). -/
theorem child?_setAt_self (s : String) (rest : List String) (v value : Value) :
    child? (setAt (s :: rest) v value) s = some (setAt rest ((child? v s).getD .null) value) := by
  by_cases hv : writesInPlace v s = true
  · rw [child?_setAt rest value hv, if_pos (sameChild_self v s)]
  · -- Otherwise the value is replaced by an object holding `s` alone.
    cases v with
    | obj fs => exact absurd rfl hv
    | arr items =>
      cases hi : index? s with
      | none => simp [setAt, hi, child?, Fields.find?]
      | some i =>
        have hlt : ¬ i < items.length := by simpa [writesInPlace, hi] using hv
        simp [setAt, hi, hlt, child?, Fields.find?]
    | _ => simp [setAt, child?, Fields.find?]

/-- A write is read back at its own path. -/
theorem getAt_setAt_self (ps : List String) (v value : Value) :
    getAt ps (setAt ps v value) = some value := by
  induction ps generalizing v with
  | nil => rfl
  | cons s rest ih => rw [getAt, child?_setAt_self, Option.bind_some, ih]

/-- A write keeps the value of every path that parts from it, when the write
stays in place where they part. -/
theorem getAt_setAt_of_fork {ps qs : List String} {v w x : Value} {s t : String}
    (value : Value) (hf : fork? v ps qs = some (w, s, t)) (hw : writesInPlace w s = true)
    (hq : getAt qs v = some x) : getAt qs (setAt ps v value) = some x := by
  induction ps generalizing qs v with
  | nil => cases qs <;> cases hf
  | cons s' ps ih =>
    cases qs with
    | nil => cases hf
    | cons t' qs =>
      rw [getAt] at hq
      obtain ⟨c, hc, hqc⟩ := Option.bind_eq_some_iff.1 hq
      rw [getAt]
      by_cases hst : sameChild v s' t' = true
      · -- The paths go on together into the same child.
        have hcs : (child? v s').getD .null = c := by rw [child?_eq_of_sameChild hst, hc]; rfl
        rw [fork?, if_pos hst, hcs] at hf
        rw [child?_setAt ps value (writesInPlace_of_sameChild hst hc), if_pos hst, hcs,
          Option.bind_some]
        exact ih hf hqc
      · -- They part here, where the write stays in place.
        rw [fork?, if_neg hst, Option.some.injEq, Prod.mk.injEq, Prod.mk.injEq] at hf
        obtain ⟨rfl, rfl, rfl⟩ := hf
        rw [child?_setAt ps value hw, if_neg hst, hc, Option.bind_some]
        exact hqc

/-! ## Removals -/

/-- The last step of a removal takes a member out of an object. -/
theorem removeAt_singleton_eq_some {s : String} {v v' x : Value}
    (h : removeAt [s] v = some (v', x)) :
    ∃ fs, v = .obj fs ∧ Fields.find? fs s = some x ∧ v' = .obj (Fields.erase fs s) := by
  cases v with
  | obj fs =>
    obtain ⟨u, hu, he⟩ := Option.map_eq_some_iff.1 (by rw [removeAt] at h; exact h)
    simp only [Prod.mk.injEq] at he
    obtain ⟨rfl, rfl⟩ := he
    exact ⟨fs, rfl, hu, rfl⟩
  | _ => simp [removeAt] at h

/-- A removal below the first segment prunes the child that segment names and
puts it back; the other children stay. -/
theorem removeAt_cons_cons_eq_some {s s₂ : String} {rest : List String} {v v' x : Value}
    (h : removeAt (s :: s₂ :: rest) v = some (v', x)) :
    ∃ c u, child? v s = some c ∧ removeAt (s₂ :: rest) c = some (u, x) ∧
      ∀ t, child? v' t = if sameChild v s t then some u else child? v t := by
  cases v with
  | obj fs =>
    rw [removeAt.eq_4 _ _ _ (fun e => List.cons_ne_nil _ _ e)] at h
    obtain ⟨c, hc, h⟩ := Option.bind_eq_some_iff.1 h
    obtain ⟨⟨u, r⟩, hu, h⟩ := Option.bind_eq_some_iff.1 h
    simp only [pure, Option.some.injEq, Prod.mk.injEq] at h
    obtain ⟨rfl, rfl⟩ := h
    exact ⟨c, u, hc, hu, (child?_obj_insert fs s · u)⟩
  | arr items =>
    rw [removeAt.eq_5 _ _ _ (fun e => List.cons_ne_nil _ _ e)] at h
    obtain ⟨i, hi, h⟩ := Option.bind_eq_some_iff.1 h
    obtain ⟨c, hc, h⟩ := Option.bind_eq_some_iff.1 h
    obtain ⟨⟨u, r⟩, hu, h⟩ := Option.bind_eq_some_iff.1 h
    simp only [pure, Option.some.injEq, Prod.mk.injEq] at h
    obtain ⟨rfl, rfl⟩ := h
    have hlt : i < items.length := (List.getElem?_eq_some_iff.1 hc).1
    exact ⟨c, u, by simp [child?, hi, hc], hu, (child?_arr_set hi hlt · u)⟩
  | _ => simp [removeAt] at h

/-- A removal through an existing child succeeds when its rest does. -/
theorem removeAt_cons_cons_of {s s₂ : String} {rest : List String} {v c u x : Value}
    (hc : child? v s = some c) (hu : removeAt (s₂ :: rest) c = some (u, x)) :
    ∃ v', removeAt (s :: s₂ :: rest) v = some (v', x) := by
  cases v with
  | obj fs =>
    rw [removeAt.eq_4 _ _ _ (fun e => List.cons_ne_nil _ _ e)]
    simp only [child?] at hc
    exact ⟨.obj (Fields.insert fs s u), by simp [hc, hu, pure]⟩
  | arr items =>
    rw [removeAt.eq_5 _ _ _ (fun e => List.cons_ne_nil _ _ e)]
    obtain ⟨i, hi, hci⟩ := Option.bind_eq_some_iff.1 hc
    exact ⟨.arr (items.set i u), by simp [hi, hci, hu, pure]⟩
  | _ => cases hc

/-- A removal succeeds exactly when a read finds the value and the value
holding the last segment is an object. -/
theorem removeAt_eq_some_iff {ps : List String} (hps : ps ≠ []) (v x : Value) :
    (∃ v', removeAt ps v = some (v', x)) ↔
      getAt ps v = some x ∧ ∃ fs, getAt ps.dropLast v = some (.obj fs) := by
  induction ps generalizing v with
  | nil => exact absurd rfl hps
  | cons s rest ih =>
    cases rest with
    | nil =>
      constructor
      · rintro ⟨v', h⟩
        obtain ⟨fs, rfl, hx, -⟩ := removeAt_singleton_eq_some h
        exact ⟨by simp [getAt, child?, hx], fs, rfl⟩
      · rintro ⟨hx, fs, hfs⟩
        obtain rfl : v = .obj fs := Option.some.inj hfs
        simp only [getAt, child?, Option.bind_eq_some_iff, Option.some.injEq] at hx
        obtain ⟨u, hu, rfl⟩ := hx
        exact ⟨_, by rw [removeAt, hu]; rfl⟩
    | cons s₂ rest =>
      have ih := ih (List.cons_ne_nil _ _)
      rw [List.dropLast_cons_cons, getAt, getAt]
      constructor
      · rintro ⟨v', h⟩
        obtain ⟨c, u, hc, hu, -⟩ := removeAt_cons_cons_eq_some h
        obtain ⟨hx, fs, hfs⟩ := (ih c).1 ⟨u, hu⟩
        exact ⟨by rw [hc]; exact hx, fs, by rw [hc]; exact hfs⟩
      · rintro ⟨hx, fs, hfs⟩
        obtain ⟨c, hc, hcx⟩ := Option.bind_eq_some_iff.1 hx
        rw [hc, Option.bind_some] at hfs
        obtain ⟨u, hu⟩ := (ih c).2 ⟨hcx, fs, hfs⟩
        exact removeAt_cons_cons_of hc hu

/-- After a removal from a document, nothing is left at its path. -/
theorem getAt_removeAt_self {ps : List String} {v v' x : Value} (hv : v.Ordered)
    (h : removeAt ps v = some (v', x)) : getAt ps v' = none := by
  induction ps generalizing v v' with
  | nil => cases h
  | cons s rest ih =>
    cases rest with
    | nil =>
      obtain ⟨fs, rfl, -, rfl⟩ := removeAt_singleton_eq_some h
      simp [getAt, child?, Fields.find?_erase_self fs s hv.keys_nodup]
    | cons s₂ rest =>
      obtain ⟨c, u, hc, hu, hchild⟩ := removeAt_cons_cons_eq_some h
      rw [getAt, hchild, if_pos (sameChild_self v s), Option.bind_some]
      exact ih (hv.child hc) hu

/-- A removal changes no path that parts from it. -/
theorem getAt_removeAt_of_fork {ps qs : List String} {v v' x w : Value} {s t : String}
    (h : removeAt ps v = some (v', x)) (hf : fork? v ps qs = some (w, s, t)) :
    getAt qs v' = getAt qs v := by
  induction ps generalizing qs v v' with
  | nil => cases h
  | cons s' rest ih =>
    cases qs with
    | nil => cases hf
    | cons t' qs =>
      cases rest with
      | nil =>
        -- The last segment parts at once: the member taken out is not `t'`.
        obtain ⟨fs, rfl, -, rfl⟩ := removeAt_singleton_eq_some h
        have hst : sameChild (.obj fs) s' t' = false := by
          cases hb : sameChild (.obj fs) s' t'
          · rfl
          · rw [fork?, if_pos hb] at hf
            cases qs <;> cases hf
        have hne : t' ≠ s' := fun e => by simp [sameChild, e] at hst
        simp only [getAt, child?, Fields.find?_erase_ne fs hne]
      | cons s₂ rest =>
        obtain ⟨c, u, hc, hu, hchild⟩ := removeAt_cons_cons_eq_some h
        rw [getAt, getAt, hchild]
        by_cases hst : sameChild v s' t' = true
        · -- The paths go on together into the pruned child.
          rw [fork?, if_pos hst, hc, Option.getD_some] at hf
          rw [if_pos hst, ← child?_eq_of_sameChild hst, hc, Option.bind_some, Option.bind_some]
          exact ih hu hf
        · rw [if_neg hst]

end Path

/-- What a removal hands back is what `Path.removeAt` takes out. -/
theorem removePath_snd (d : Value) (p : String) :
    (removePath d p).2 = (Path.removeAt (Path.segments p) d).map Prod.snd := by
  unfold removePath
  cases Path.removeAt (Path.segments p) d with
  | none => rfl
  | some r => rfl

/-- The document a removal leaves is the one `Path.removeAt` builds, or the
document itself when nothing was removed. -/
theorem removePath_fst (d : Value) (p : String) :
    (removePath d p).1 = ((Path.removeAt (Path.segments p) d).map Prod.fst).getD d := by
  unfold removePath
  cases Path.removeAt (Path.segments p) d with
  | none => rfl
  | some r => rfl

/-- The laws of dotted paths, in a document `d` written with `v` at path `p`:

* the write is read back at `p`;
* a path `q` that parts from `p` where the write stays in place (at an object,
  or at a list that `p`'s next segment indexes) keeps what it read;
* with at least one segment, the removal at `p` takes out `x` exactly when a
  read finds `x` at `p` and the value holding `p`'s last segment is an
  object; in a document nothing is left at `p` afterwards, and every path
  that parts from `p` reads what it read before. -/
theorem dotted_path_laws (d v : Value) (p : String) :
    getPath (setPath d p v) p = some v ∧
    (∀ (q : String) (w x : Value) (s t : String), getPath d q = some x →
      Path.fork? d (Path.segments p) (Path.segments q) = some (w, s, t) →
      Path.writesInPlace w s = true → getPath (setPath d p v) q = some x) ∧
    (Path.segments p ≠ [] → ∀ x : Value, ((removePath d p).2 = some x ↔
      getPath d p = some x ∧ ∃ fs, Path.getAt (Path.segments p).dropLast d = some (.obj fs))) ∧
    (d.Ordered → ∀ x : Value, (removePath d p).2 = some x → getPath (removePath d p).1 p = none) ∧
    (∀ (q : String) (w : Value) (s t : String),
      Path.fork? d (Path.segments p) (Path.segments q) = some (w, s, t) →
      getPath (removePath d p).1 q = getPath d q) := by
  refine ⟨Path.getAt_setAt_self _ d v, fun q w x s t hq hf hw => ?_, fun hps x => ?_,
    fun hd x hx => ?_, fun q w s t hf => ?_⟩
  · exact Path.getAt_setAt_of_fork v hf hw hq
  · rw [removePath_snd, Option.map_eq_some_iff]
    constructor
    · rintro ⟨⟨d', x'⟩, h, rfl⟩
      exact (Path.removeAt_eq_some_iff hps d x').1 ⟨d', h⟩
    · intro h
      obtain ⟨d', h'⟩ := (Path.removeAt_eq_some_iff hps d x).2 h
      exact ⟨(d', x), h', rfl⟩
  · rw [removePath_snd, Option.map_eq_some_iff] at hx
    obtain ⟨⟨d', x'⟩, h, -⟩ := hx
    rw [removePath_fst, h]
    exact Path.getAt_removeAt_self hd h
  · rw [removePath_fst]
    cases h : Path.removeAt (Path.segments p) d with
    | none => rfl
    | some r =>
      obtain ⟨d', x⟩ := r
      exact Path.getAt_removeAt_of_fork h hf

/-- Two members of one object: a write and a removal of `a` leave what `b.01`
reads (the second item of `b`, its index written with a leading zero). -/
theorem dotted_path_laws_on_members :
    (Value.obj [("a", .ofNat 1), ("b", .arr [.bool true, .bool false])]).Ordered ∧
    getPath (.obj [("a", .ofNat 1), ("b", .arr [.bool true, .bool false])]) "b.01" =
      some (.bool false) ∧
    Path.fork? (.obj [("a", .ofNat 1), ("b", .arr [.bool true, .bool false])])
        (Path.segments "a") (Path.segments "b.01") =
      some (.obj [("a", .ofNat 1), ("b", .arr [.bool true, .bool false])], "a", "b") ∧
    getPath (setPath (.obj [("a", .ofNat 1), ("b", .arr [.bool true, .bool false])]) "a" .null)
        "b.01" = some (.bool false) ∧
    (removePath (.obj [("a", .ofNat 1), ("b", .arr [.bool true, .bool false])]) "a").2 =
      some (.ofNat 1) ∧
    getPath (removePath (.obj [("a", .ofNat 1), ("b", .arr [.bool true, .bool false])]) "a").1
      "a" = none := by
  have hord : (Value.obj [("a", .ofNat 1), ("b", .arr [.bool true, .bool false])]).Ordered :=
    .obj (List.pairwise_pair.2 (by decide))
      (by simp [Value.ofNat, Value.Ordered.num, Value.Ordered.arr, Value.Ordered.bool])
  -- Segments are cut by evaluation; the index is read in the kernel.
  have ha : Path.segments "a" = ["a"] := by cbv
  have hb : Path.segments "b.01" = ["b", "01"] := by cbv
  have hidx : Path.index? "01" = some 1 := by decide +kernel
  have hq : getPath (.obj [("a", .ofNat 1), ("b", .arr [.bool true, .bool false])]) "b.01" =
      some (.bool false) := by
    simp [getPath, hb, Path.getAt, Path.child?, hidx, Fields.find?]
  have hf : Path.fork? (.obj [("a", .ofNat 1), ("b", .arr [.bool true, .bool false])])
      (Path.segments "a") (Path.segments "b.01") =
      some (.obj [("a", .ofNat 1), ("b", .arr [.bool true, .bool false])], "a", "b") := by
    simp [ha, hb, Path.fork?, Path.sameChild, Value.isArray]
  have laws := dotted_path_laws (.obj [("a", .ofNat 1), ("b", .arr [.bool true, .bool false])])
    .null "a"
  have hx : (removePath (.obj [("a", .ofNat 1), ("b", .arr [.bool true, .bool false])]) "a").2 =
      some (.ofNat 1) :=
    (laws.2.2.1 (by rw [ha]; exact List.cons_ne_nil _ _) _).2
      ⟨by simp [getPath, ha, Path.getAt, Path.child?, Fields.find?, Value.ofNat], _, by rw [ha]; rfl⟩
  exact ⟨hord, hq, hf, laws.2.1 _ _ _ _ _ hq hf rfl, hx, laws.2.2.2.1 hord _ hx⟩

end Flowline
