import Flowline.Proofs.Arena
set_option autoImplicit false

/-!
# Reading state through the lineage

A step reads state through its instance: `Execution.lookup` takes the value
at a path from the nearest instance of `Execution.lineage` that has it, and
`Execution.snapshot` merges the states of the lineage, root first.

`lineage` follows parent links, but it stops as soon as the list it built is
longer than the depth of the instance it just reached plus one. Along a
chain of parent links the depth falls by one per link while the list grows
by one, so the check fires about halfway up: from an instance at depth `d`
the walk keeps the first `lineageLength d = min (d + 1) (d / 2 + 2)`
instances of the chain (`Execution.lineage_eq_take`). That is the whole
chain exactly up to depth 2 (`lineageLength_eq_iff`). From depth 3 on the
top of the chain is out of sight, the root first, so what the initial state
and shared writes put there cannot be read from below
(`Execution.reads_through_chain_prefix`, and its instance at depth 3,
`Execution.root_unread_at_depth_three`, where the root's key cannot be read,
`Execution.root_key_unreadable_from_iteration`).
-/

namespace Flowline

/-- How many instances of its chain `lineage` keeps from an instance at
depth `d`. -/
def lineageLength (d : Nat) : Nat := min (d + 1) (d / 2 + 2)

/-- `lineage` keeps the whole chain exactly up to depth 2. -/
theorem lineageLength_eq_iff (d : Nat) : lineageLength d = d + 1 ↔ d ≤ 2 := by
  unfold lineageLength
  omega

theorem lineageLength_pos (d : Nat) : 0 < lineageLength d := by
  unfold lineageLength
  omega

theorem lineageLength_le (d : Nat) : lineageLength d ≤ d + 1 := by
  unfold lineageLength
  omega

namespace Execution

/-- The running maximum of a fold bounds every element and the start. -/
theorem le_foldl_max (l : List FlowInstance) (m : Nat) :
    m ≤ l.foldl (fun m i => max m i.depth) m ∧
      ∀ i ∈ l, i.depth ≤ l.foldl (fun m i => max m i.depth) m := by
  induction l generalizing m with
  | nil => simp
  | cons a rest ih =>
    obtain ⟨hm, hrest⟩ := ih (max m a.depth)
    refine ⟨by simp only [List.foldl_cons]; omega, ?_⟩
    intro i hi
    rcases List.mem_cons.1 hi with rfl | hi
    · simp only [List.foldl_cons]
      omega
    · exact hrest i hi

theorem depth_le_maxDepth {e : Execution} {i : FlowInstance} (hi : i ∈ e.instances) :
    i.depth ≤ e.maxDepth :=
  (le_foldl_max e.instances 0).2 i hi

/-- The walk of `lineage` from the instance at position `acc.length + 1` of a
chain whose first instance has depth `D`: it adds the rest of the chain up to
position `lineageLength D`. Along the chain the position and the depth add
up to `D`, which is what makes the depth check fire at that position. -/
theorem lineage_walk {e : Execution} (hl : e.Linked) {D : Nat} :
    ∀ (fuel : Nat) (acc c : List FlowInstance) (i : FlowInstance), e.Chain i c →
      i ∈ e.instances → acc.length + i.depth = D → acc.length < lineageLength D →
      lineageLength D ≤ acc.length + fuel →
      lineage.walk e fuel acc (some i) = acc ++ c.take (lineageLength D - acc.length) := by
  intro fuel
  induction fuel with
  | zero =>
    intro acc c i _ _ _ hlt hfuel
    omega
  | succ fuel ih =>
    intro acc c i hc hi hD hlt hfuel
    obtain ⟨rest, rfl⟩ := hc.head_eq
    have hlen : (acc ++ [i]).length = acc.length + 1 := by simp
    simp only [lineage.walk, hlen]
    by_cases hstop : acc.length + 1 > i.depth + 1
    · -- The depth check fires: `i` is the last instance kept.
      have hone : lineageLength D - acc.length = 1 := by
        unfold lineageLength at hlt ⊢
        omega
      rw [if_pos hstop, hone]
      simp
    · rw [if_neg hstop]
      cases hc with
      | last hnone =>
        -- `i` is the root: the walk ends with it.
        have hmore : 0 < lineageLength D - acc.length := by omega
        obtain ⟨n, hn⟩ : ∃ n, lineageLength D - acc.length = n + 1 :=
          ⟨_, (Nat.succ_pred_eq_of_pos hmore).symm⟩
        rw [hnone, hn]
        cases fuel <;> simp [lineage.walk]
      | @up _ q p _ hp hq hrest =>
        -- The walk goes on to the parent, one position further and one level up.
        obtain ⟨q', hq', hdepth⟩ := hl.parent i hi p hp
        rw [hq] at hq'
        simp only [Option.some.injEq] at hq'
        subst hq'
        have hnext : lineageLength D - acc.length = (lineageLength D - (acc.length + 1)) + 1 := by
          unfold lineageLength at hlt ⊢
          omega
        have hwalk := ih (acc ++ [i]) rest q hrest (mem_of_get? hq).1
          (by rw [hlen]; omega) (by rw [hlen]; unfold lineageLength at hlt ⊢; omega)
          (by rw [hlen]; omega)
        rw [hp, Option.bind_some, hq, hwalk, hlen, hnext]
        simp

/-- From an instance at depth `d`, `lineage` is the first `lineageLength d`
instances of its chain. -/
theorem lineage_eq_take {e : Execution} (hl : e.Linked) {x : String} {X : FlowInstance}
    (hX : e.get? x = some X) {c : List FlowInstance} (hc : e.Chain X c) :
    e.lineage x = c.take (lineageLength X.depth) := by
  have hmem := (mem_of_get? hX).1
  have hbound := depth_le_maxDepth hmem
  have hwalk := lineage_walk hl (D := X.depth) (e.maxDepth + 2) [] c X hc hmem (by simp)
    (by simpa using lineageLength_pos X.depth)
    (by have := lineageLength_le X.depth; simp only [List.length_nil]; omega)
  simpa [lineage, hX] using hwalk

/-- Reads from an instance of a grown execution follow a prefix of its chain
of parent links: the chain has one instance per level up to the root, the
lineage is its first `lineageLength` instances, `lookup` and `snapshot` read
exactly those, and the lineage is the whole chain exactly when the instance
is at most two levels down. -/
theorem reads_through_chain_prefix {e : Execution} (he : e.Grown) {x : String}
    {X : FlowInstance} (hX : e.get? x = some X) :
    ∃ c, e.Chain X c ∧ c.length = X.depth + 1 ∧
      e.lineage x = c.take (lineageLength X.depth) ∧
      (∀ path, e.lookup x path =
        (c.take (lineageLength X.depth)).findSome? fun i => getPath i.state path) ∧
      e.snapshot x = (c.take (lineageLength X.depth)).reverse.foldl
        (fun merged i => deepMerge merged i.state) Value.empty ∧
      (e.lineage x = c ↔ X.depth ≤ 2) := by
  have hl := he.linked
  have hmem := (mem_of_get? hX).1
  obtain ⟨c, hc⟩ := exists_chain hl hmem
  have hlen := (hc.length_eq hl hmem).1
  have hline := lineage_eq_take hl hX hc
  refine ⟨c, hc, hlen, hline, ?_, ?_, ?_⟩
  · intro path
    rw [lookup, hline]
  · rw [snapshot, hline]
  · -- A prefix is the whole list exactly when it is as long.
    rw [hline, ← lineageLength_eq_iff]
    constructor
    · intro htake
      have := congrArg List.length htake
      rw [List.length_take, hlen] at this
      have := lineageLength_le X.depth
      omega
    · intro heq
      rw [heq, ← hlen, List.take_length]

/-- A root holding `k`, with a sub-flow, a loop inside it and an iteration of
the loop below: the instance at depth 3 the engine builds for an action of a
loop inside a sub-flow. -/
def loopInSubFlow : EStateM.Result FlowError Execution Unit :=
  let t := Timestamp.ofNanos 0
  (do
    discard <| spawn.go "r" "a" .sequence none t
    discard <| spawn.go "a" "b" .loop none t
    discard <| spawn.go "b" "c" .loopActions (some 0) t).run
    (create "r" (Value.object [("k", .str "v")]) t)

/-- At depth 3 the lineage stops one short of the root: from the iteration
`c` it is `c`, `b`, `a`, so nothing only the root holds can be read there. -/
theorem root_unread_at_depth_three :
    ∃ e X, loopInSubFlow = .ok () e ∧ e.Grown ∧ e.get? "c" = some X ∧ X.depth = 3 ∧
      (e.lineage "c").map (·.id) = ["c", "b", "a"] ∧
      ∃ c, e.Chain X c ∧ c.length = X.depth + 1 ∧
        e.lineage "c" = c.take (lineageLength X.depth) ∧
        (∀ path, e.lookup "c" path =
          (c.take (lineageLength X.depth)).findSome? fun i => getPath i.state path) ∧
        e.snapshot "c" = (c.take (lineageLength X.depth)).reverse.foldl
          (fun merged i => deepMerge merged i.state) Value.empty ∧
        (e.lineage "c" = c ↔ X.depth ≤ 2) := by
  have hgrown : ∀ e, loopInSubFlow = .ok () e → e.Grown := by
    intro e he
    injection he with _ he
    subst he
    exact @Grown.spawn _ _ "b" "c" .loopActions (some 0) (Timestamp.ofNanos 0) _
      (@Grown.spawn _ _ "a" "b" .loop none (Timestamp.ofNanos 0) _
        (@Grown.spawn _ _ "r" "a" .sequence none (Timestamp.ofNanos 0) _
          (.create "r" (Value.object [("k", .str "v")]) (Timestamp.ofNanos 0)) rfl) rfl) rfl
  exact ⟨_, _, rfl, hgrown _ rfl, rfl, rfl, by decide, reads_through_chain_prefix (hgrown _ rfl) rfl⟩

/-- What the root holds is lost below the loop: the root holds `k`, but it
is not on the lineage of the iteration `c`, and the snapshot from `c` is
empty. -/
theorem root_key_unreadable_from_iteration :
    ∃ e R, loopInSubFlow = .ok () e ∧ e.get? "r" = some R ∧
      R.state = Value.object [("k", .str "v")] ∧ "r" ∉ (e.lineage "c").map (·.id) ∧
      e.snapshot "c" = Value.empty :=
  ⟨_, _, rfl, rfl, rfl, by decide, rfl⟩

end Execution

end Flowline
