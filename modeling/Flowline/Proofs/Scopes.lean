import Flowline.Proofs.Merging
import Flowline.Run.Instance
set_option autoImplicit false

/-!
# What a scope sees

A step reads state through its instance. `Execution.lookup` takes the value
at a path from the nearest instance of the lineage that holds the path, and
`Execution.snapshot` lays the lineage's states over each other with
`deepMerge`, the root at the bottom.

The two do not agree everywhere. A read takes the nearest value whole, while
the snapshot merges: at a path holding an object the snapshot shows the
members of every scope (at the empty path a read gives the instance's own
state, the snapshot everything visible). And the snapshot loses what a
nearer scope shadows: a scalar or a list in a nearer scope, or a nearer
object over a farther list, cuts off what farther scopes hold below it,
where a read still finds it (`nearer_scalar_hides_what_reads_find`).

Over scopes listed nearest first, `Path.layered` is the snapshot and
`Path.readNearest` the read. The main statement,
`snapshot_agrees_with_reads_off_shadows`, says that over documents the two
agree wherever the snapshot holds a value that is not an object
(`Path.readNearest_of_getAt_layered`), wherever the read finds nothing
(`Path.getAt_layered_of_readNearest_none`), and wherever the read finds a
value that is not an object in a scope no nearer scope shadows
(`Path.Unshadowed`, `Path.getAt_layered_of_unshadowed`).
-/

namespace Flowline

namespace Path

/-- The states of scopes listed nearest first, laid over each other: the
farthest at the bottom, over an empty object. -/
def layered (scopes : List Value) : Value :=
  scopes.foldr (fun s merged => deepMerge merged s) Value.empty

/-- The value at a route in the nearest scope that holds it. -/
def readNearest (scopes : List Value) (ps : List String) : Option Value :=
  scopes.findSome? (getAt ps)

/-- A read from scope `s`, with the scopes `nearer` in front of it, is not
shadowed in their merge: any two scopes from the nearest up to `s` that both
hold a value at the same prefix of `ps` hold objects there. -/
def Unshadowed (ps : List String) (nearer : List Value) (s : Value) : Prop :=
  ∀ c, c <+: ps → (nearer ++ [s]).Pairwise fun a b =>
    ∀ va vb, getAt c a = some va → getAt c b = some vb → va.isObject = true ∧ vb.isObject = true

theorem layered_cons (s : Value) (rest : List Value) :
    layered (s :: rest) = deepMerge (layered rest) s := rfl

theorem getAt_empty {ps : List String} (h : ps ≠ []) : getAt ps Value.empty = none := by
  cases ps with
  | nil => exact absurd rfl h
  | cons s rest => rfl

/-- The read from a scope that holds the route is that scope's value. -/
theorem readNearest_cons_of_some {s : Value} {rest : List Value} {ps : List String} {w : Value}
    (h : getAt ps s = some w) : readNearest (s :: rest) ps = some w := by
  simp [readNearest, h]

/-- A scope without the route passes the read on. -/
theorem readNearest_cons_of_none {s : Value} (rest : List Value) {ps : List String}
    (h : getAt ps s = none) : readNearest (s :: rest) ps = readNearest rest ps := by
  simp [readNearest, h]

/-- Whether the merge holds an object at a route is decided by the nearest scope
holding the route. -/
theorem isObject_of_getAt_layered {ss : List Value} (hss : ∀ s ∈ ss, s.Ordered)
    {c : List String} {m w : Value} (hm : getAt c (layered ss) = some m)
    (hw : readNearest ss c = some w) : m.isObject = w.isObject := by
  induction ss with
  | nil => cases hw
  | cons t rest ih =>
    have ht := hss t List.mem_cons_self
    rw [layered_cons] at hm
    cases htc : getAt c t with
    | some w' =>
      rw [readNearest_cons_of_some htc, Option.some.injEq] at hw
      subst hw
      obtain ⟨β, hβ⟩ := getAt_deepMerge_of_overlay (b := layered rest) ht htc
      rw [hβ, Option.some.injEq] at hm
      rw [← hm, deepMerge_isObject]
    | none =>
      rw [readNearest_cons_of_none rest htc] at hw
      exact ih (fun s hs => hss s (List.mem_cons_of_mem _ hs))
        (getAt_deepMerge_of_overlay_none ht htc hm) hw

/-- A value of the merge that is not an object is what the read returns. -/
theorem readNearest_of_getAt_layered {ss : List Value} (hss : ∀ s ∈ ss, s.Ordered)
    {ps : List String} {v : Value} (h : getAt ps (layered ss) = some v)
    (hv : v.isObject = false) : readNearest ss ps = some v := by
  induction ss with
  | nil =>
    -- The empty merge holds an object at the empty route and nothing below it.
    cases ps with
    | nil =>
      obtain rfl := Option.some.inj h
      cases hv
    | cons s rest => cases h
  | cons t rest ih =>
    have ht := hss t List.mem_cons_self
    rw [layered_cons] at h
    cases htc : getAt ps t with
    | some w =>
      obtain ⟨β, hβ⟩ := getAt_deepMerge_of_overlay (b := layered rest) ht htc
      rw [hβ, Option.some.injEq] at h
      subst h
      rw [deepMerge_isObject] at hv
      rw [readNearest_cons_of_some htc, deepMerge_of_isObject_false β hv]
    | none =>
      rw [readNearest_cons_of_none rest htc]
      exact ih (fun s hs => hss s (List.mem_cons_of_mem _ hs))
        (getAt_deepMerge_of_overlay_none ht htc h)

/-- Where no scope holds a route below the top, neither does their merge. -/
theorem getAt_layered_of_readNearest_none {ss : List Value} (hss : ∀ s ∈ ss, s.Ordered)
    {ps : List String} (hps : ps ≠ []) (h : readNearest ss ps = none) :
    getAt ps (layered ss) = none := by
  induction ss with
  | nil => exact getAt_empty hps
  | cons t rest ih =>
    have ht := hss t List.mem_cons_self
    have htc : getAt ps t = none := by
      cases htc : getAt ps t with
      | none => rfl
      | some w => rw [readNearest_cons_of_some htc] at h; cases h
    rw [readNearest_cons_of_none rest htc] at h
    have hrest := ih (fun s hs => hss s (List.mem_cons_of_mem _ hs)) h
    cases hm : getAt ps (layered (t :: rest)) with
    | none => rfl
    | some m =>
      rw [layered_cons] at hm
      rw [getAt_deepMerge_of_overlay_none ht htc hm] at hrest
      cases hrest

/-- Behind the scopes `nearer`, a read that reaches `s` at a route finds there a
value of `nearer` or of `s`. -/
theorem readNearest_append_of_some (nearer farther : List Value) {s : Value} {c : List String}
    {ws : Value} (hs : getAt c s = some ws) :
    ∃ u w, u ∈ nearer ++ [s] ∧ getAt c u = some w ∧ readNearest (nearer ++ s :: farther) c = some w := by
  rw [readNearest, List.findSome?_append]
  cases hn : nearer.findSome? (getAt c) with
  | some w =>
    obtain ⟨u, hu, huw⟩ := List.exists_of_findSome?_eq_some hn
    exact ⟨u, w, List.mem_append_left _ hu, huw, rfl⟩
  | none =>
    refine ⟨s, ws, List.mem_append_right _ (List.mem_singleton_self s), hs, ?_⟩
    simp [hs]

/-- A read from a scope that no nearer scope shadows is in the merge, merged over
something. -/
theorem getAt_layered_of_unshadowed {nearer farther : List Value} {s x : Value}
    {ps : List String} (hss : ∀ t ∈ nearer ++ s :: farther, t.Ordered)
    (hnone : ∀ t ∈ nearer, getAt ps t = none) (hs : getAt ps s = some x)
    (hsh : Unshadowed ps nearer s) :
    ∃ β, getAt ps (layered (nearer ++ s :: farther)) = some (deepMerge β x) := by
  induction nearer with
  | nil =>
    exact getAt_deepMerge_of_overlay (hss s (List.mem_cons_self)) hs
  | cons t nearer ih =>
    have hord : ∀ u ∈ nearer ++ s :: farther, u.Ordered :=
      fun u hu => hss u (List.mem_cons_of_mem _ hu)
    have ht : t.Ordered := hss t List.mem_cons_self
    -- The scopes behind `t` merge to a value holding `x` at the route.
    obtain ⟨β, hβ⟩ := ih hord (fun u hu => hnone u (List.mem_cons_of_mem _ hu))
      fun c hc => (List.pairwise_cons.1 (hsh c hc)).2
    refine ⟨β, ?_⟩
    rw [List.cons_append, layered_cons]
    refine getAt_deepMerge_of_base ht hβ (hnone t List.mem_cons_self) fun c hc oc hoc => ?_
    -- Where `t` holds something on the way, it and the scope read behind it at
    -- that prefix hold objects, so the merge behind it holds an object there.
    have hpair := (List.pairwise_cons.1 (hsh c hc)).1
    obtain ⟨ws, hws⟩ := exists_getAt_of_prefix hc hs
    obtain ⟨u, w, hu, huw, hread⟩ := readNearest_append_of_some nearer farther hws
    obtain ⟨m, hm⟩ := exists_getAt_of_prefix hc hβ
    have hobj := hpair u hu oc w hoc huw
    refine ⟨hobj.1, m, hm, ?_⟩
    rw [isObject_of_getAt_layered hord hm hread]
    exact hobj.2

end Path

namespace Execution

/-- The snapshot is the lineage's states laid over each other. -/
theorem snapshot_eq_layered (e : Execution) (x : String) :
    e.snapshot x = Path.layered ((e.lineage x).map (·.state)) := by
  rw [snapshot, List.foldl_reverse, Path.layered, List.foldr_map]

/-- A read is the read of the nearest state of the lineage holding the path. -/
theorem lookup_eq_readNearest (e : Execution) (x p : String) :
    e.lookup x p = Path.readNearest ((e.lineage x).map (·.state)) (Path.segments p) := by
  rw [lookup, Path.readNearest, List.findSome?_map]
  rfl

/-- The lineage walk keeps what it has already collected. -/
theorem lineage_walk_prefix (e : Execution) :
    ∀ (fuel : Nat) (chain : List FlowInstance) (o : Option FlowInstance),
      chain <+: lineage.walk e fuel chain o := by
  intro fuel
  induction fuel with
  | zero => intro chain o; exact List.prefix_refl _
  | succ fuel ih =>
    intro chain o
    cases o with
    | none => exact List.prefix_refl _
    | some i =>
      rw [lineage.walk]
      split
      · exact List.prefix_append _ _
      · exact (List.prefix_append _ _).trans (ih _ _)

/-- The lineage of an instance starts with the instance. -/
theorem lineage_head {e : Execution} {x : String} {X : FlowInstance} (hX : e.get? x = some X) :
    ∃ rest, e.lineage x = X :: rest := by
  have hpre : [X] <+: e.lineage x := by
    rw [lineage, hX, lineage.walk]
    split
    · exact List.prefix_refl _
    · exact lineage_walk_prefix e _ _ _
  obtain ⟨rest, hrest⟩ := hpre
  exact ⟨rest, hrest.symm⟩

end Execution

/-- Over an instance whose lineage holds documents, the snapshot and a read
agree at a path `p` (`getPath (snapshot x) p = lookup x p`) when

* the snapshot holds there a value that is not an object, or
* the read finds nothing there, or
* the read finds a value that is not an object in a scope `s` of the lineage
  that no nearer scope shadows: any two scopes from the instance up to `s`
  that both hold a value at the same prefix of `p` hold objects there.

Elsewhere they may differ: at a path holding an object the snapshot merges the
objects of every scope, and a nearer scalar or list, or a nearer object over a
farther list, hides from the snapshot what a read still finds. -/
theorem snapshot_agrees_with_reads_off_shadows {e : Execution} {x : String} {X : FlowInstance}
    (hX : e.get? x = some X) (hdocs : ∀ i ∈ e.lineage x, i.state.Ordered) (p : String) :
    (∀ v, getPath (e.snapshot x) p = some v → v.isObject = false →
      getPath (e.snapshot x) p = e.lookup x p) ∧
    (e.lookup x p = none → getPath (e.snapshot x) p = e.lookup x p) ∧
    (∀ (nearer farther : List Value) (s v : Value),
      (e.lineage x).map (·.state) = nearer ++ s :: farther →
      (∀ t ∈ nearer, getPath t p = none) → getPath s p = some v → v.isObject = false →
      Path.Unshadowed (Path.segments p) nearer s → getPath (e.snapshot x) p = e.lookup x p) := by
  have hss : ∀ s ∈ (e.lineage x).map (·.state), s.Ordered := by
    intro s hs
    obtain ⟨i, hi, rfl⟩ := List.mem_map.1 hs
    exact hdocs i hi
  rw [Execution.snapshot_eq_layered, Execution.lookup_eq_readNearest]
  refine ⟨fun v hv hobj => ?_, fun hnone => ?_, fun nearer farther s v hsplit hnear hs hobj hsh => ?_⟩
  · rw [hv, Path.readNearest_of_getAt_layered hss hv hobj]
  · -- At the empty path the instance's own state is found, so the path has segments.
    have hps : Path.segments p ≠ [] := by
      intro hnil
      obtain ⟨rest, hrest⟩ := Execution.lineage_head hX
      rw [hrest, hnil, List.map_cons, Path.readNearest_cons_of_some (rfl : Path.getAt [] X.state = _)]
        at hnone
      cases hnone
    rw [hnone, getPath, Path.getAt_layered_of_readNearest_none hss hps hnone]
  · rw [hsplit] at hss ⊢
    obtain ⟨β, hβ⟩ := Path.getAt_layered_of_unshadowed hss hnear hs hsh
    rw [getPath, hβ, deepMerge_of_isObject_false β hobj, Path.readNearest, List.findSome?_append,
      (List.findSome?_eq_none_iff (p := Path.getAt (Path.segments p))).2 hnear, Option.none_or,
      List.findSome?_cons]
    simp only [getPath] at hs
    rw [hs]

namespace Execution

/-- A root holding `k` and a child `c` of it with nothing of its own. -/
def rootWithChild : EStateM.Result FlowError Execution Unit :=
  (discard <| spawn.go "r" "c" .sequence none (Timestamp.ofNanos 0)).run
    (create "r" (Value.object [("k", .str "v")]) (Timestamp.ofNanos 0))

/-- Below a root holding `k`, the child reads the root's scalar, and its
snapshot holds the same value there. -/
theorem snapshot_agrees_with_inherited_scalar :
    ∃ e, rootWithChild = .ok () e ∧ getPath (e.snapshot "c") "k" = some (.str "v") ∧
      getPath (e.snapshot "c") "k" = e.lookup "c" "k" := by
  have hdocs : ∀ e, rootWithChild = .ok () e → ∀ i ∈ e.lineage "c", i.state.Ordered := by
    intro e he i hi
    have hstates : (e.lineage "c").map (·.state) =
        [Value.empty, Value.object [("k", .str "v")]] := by
      injection he with _ he
      subst he
      cbv
    have hm := List.mem_map_of_mem (f := fun i : FlowInstance => i.state) hi
    rw [hstates] at hm
    rcases List.mem_pair.1 hm with h | h <;> rw [h]
    · exact .obj List.Pairwise.nil (by simp)
    · exact .obj (List.pairwise_singleton _ _)
        (by simp [Fields.ofList, Fields.insert, Value.Ordered.str])
  have hscalar : ∀ e, rootWithChild = .ok () e → getPath (e.snapshot "c") "k" = some (.str "v") := by
    intro e he
    injection he with _ he
    subst he
    cbv
  exact ⟨_, rfl, hscalar _ rfl, (snapshot_agrees_with_reads_off_shadows (x := "c") rfl
    (hdocs _ rfl) "k").1 (.str "v") (hscalar _ rfl) rfl⟩

/-- A root holding `a.b` and a child `c` of it that wrote the scalar `1` at `a`. -/
def shadowedByScalar : EStateM.Result FlowError Execution Unit :=
  (do
    discard <| spawn.go "r" "c" .sequence none (Timestamp.ofNanos 0)
    set ((← get).setState "c" "a" (.num (.int 1)))).run
    (create "r" (Value.object [("a", Value.object [("b", .num (.int 2))])]) (Timestamp.ofNanos 0))

/-- The child's scalar at `a` shadows the root's object there. A read of `a.b`
from the child passes over the child, which holds nothing below a scalar, and
finds the root's `2`; the snapshot lays the child's `1` over the root's object
at `a`, so it holds nothing at `a.b`. -/
theorem nearer_scalar_hides_what_reads_find :
    ∃ e, shadowedByScalar = .ok () e ∧ e.lookup "c" "a.b" = some (.num (.int 2)) ∧
      getPath (e.snapshot "c") "a.b" = none := by
  refine ⟨_, rfl, ?_, ?_⟩
  · cbv
  · cbv

end Execution

end Flowline
