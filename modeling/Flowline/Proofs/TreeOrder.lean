import Mathlib.Data.List.Nodup
import Mathlib.Tactic.SplitIfs
import Flowline.Run.Tree
set_option autoImplicit false

/-!
# Execution trees do not depend on the order of events

`ExecutionTree.ofEvents` takes events in whatever order they arrive. Its
tree is the same for every order of the same events, as long as no two
events share a sequence number and the events of one instance agree on where
it sits (`FlowEvent.Consistent`): the nodes, statuses and step counts, the
roots and the order of every node's children (`ExecutionTree.ofEvents_perm`).

Seen from one instance, taking in events is a fold (`ExecutionTree.get?_ofEvents`):
its first event creates the node and every event of the instance applies to
it (`TreeNode.track`). Two events with different sequence numbers apply in
either order (`TreeNode.apply_comm`): the first sequence is a minimum, the
step count a sum, and the status that of the status-carrying event with the
highest sequence number, whenever it arrived (`TreeNode.latest_comm`). Roots
and children are ordered by first sequence number, which each node takes
from one of its own events, so no two nodes share one and the order is fixed.
-/

namespace Flowline

/-- Events a tree can take in any order: no two share a sequence number, and
the events of one instance agree on its parent, depth and branch type. -/
def FlowEvent.Consistent (events : List FlowEvent) : Prop :=
  (events.map (·.sequence)).Nodup ∧
    ∀ a ∈ events, ∀ b ∈ events, a.instanceId = b.instanceId →
      a.parentId = b.parentId ∧ a.depth = b.depth ∧ a.branchType = b.branchType

theorem FlowEvent.Consistent.perm {events events' : List FlowEvent}
    (hp : events.Perm events') (h : FlowEvent.Consistent events) :
    FlowEvent.Consistent events' :=
  ⟨(hp.map _).nodup_iff.1 h.1, fun a ha b hb => h.2 a (hp.mem_iff.2 ha) b (hp.mem_iff.2 hb)⟩

namespace TreeNode

/-! ## One node, one event at a time -/

/-- The node the first event of an instance creates, before the event applies
to it. -/
def first (e : FlowEvent) : TreeNode :=
  { id := e.instanceId, parentId := e.parentId, depth := e.depth, branchType := e.branchType,
    firstSequence := e.sequence }

@[simp] theorem first_id (e : FlowEvent) : (first e).id = e.instanceId := rfl

@[simp] theorem first_firstSequence (e : FlowEvent) : (first e).firstSequence = e.sequence := rfl

/-- The status a node holds after an event, with the sequence number that set
it: a status-carrying event at least as recent as the status replaces it. -/
def latest (current : InstanceStatus × Nat) (e : FlowEvent) : InstanceStatus × Nat :=
  match statusOf e with
  | some s => if current.2 ≤ e.sequence then (s, e.sequence) else current
  | none => current

/-- What an event does to a node, field by field. -/
theorem apply_eq (n : TreeNode) (e : FlowEvent) :
    n.apply e =
      { n with
        firstSequence := min n.firstSequence e.sequence
        steps := if e.kind == .flowStep then n.steps + 1 else n.steps
        status := (latest (n.status, n.statusSequence) e).1
        statusSequence := (latest (n.status, n.statusSequence) e).2 } := by
  unfold apply latest
  cases statusOf e with
  | none => cases e.kind == .flowStep <;> rfl
  | some s =>
    by_cases hc : n.statusSequence ≤ e.sequence <;> cases e.kind == .flowStep <;> simp [hc]

@[simp] theorem apply_id (n : TreeNode) (e : FlowEvent) : (n.apply e).id = n.id := by
  rw [apply_eq]

@[simp] theorem apply_parentId (n : TreeNode) (e : FlowEvent) :
    (n.apply e).parentId = n.parentId := by
  rw [apply_eq]

@[simp] theorem apply_firstSequence (n : TreeNode) (e : FlowEvent) :
    (n.apply e).firstSequence = min n.firstSequence e.sequence := by
  rw [apply_eq]

/-- The latest status does not depend on the order two events with different
sequence numbers arrive in. Ties with the status already held are harmless:
the event that ties wins in either order. -/
theorem latest_comm (current : InstanceStatus × Nat) {a b : FlowEvent}
    (h : a.sequence ≠ b.sequence) :
    latest (latest current a) b = latest (latest current b) a := by
  unfold latest
  cases statusOf a <;> cases statusOf b <;> simp only
  split_ifs <;> simp_all <;> omega

/-- Two events with different sequence numbers apply to a node in either
order. -/
theorem apply_comm (n : TreeNode) {a b : FlowEvent} (h : a.sequence ≠ b.sequence) :
    (n.apply a).apply b = (n.apply b).apply a := by
  have hs := latest_comm (n.status, n.statusSequence) h
  simp only [apply_eq, hs]
  congr 1
  · split_ifs <;> omega
  · omega

/-- Created by either of two events that place it alike, a node ends the same
once both applied. -/
theorem first_apply_comm {a b : FlowEvent} (h : a.sequence ≠ b.sequence)
    (hid : a.instanceId = b.instanceId) (hparent : a.parentId = b.parentId)
    (hdepth : a.depth = b.depth) (hbranch : a.branchType = b.branchType) :
    ((first a).apply a).apply b = ((first b).apply b).apply a := by
  have hs := latest_comm (.running, 0) h
  simp only [apply_eq, first, hs, hid, hparent, hdepth, hbranch]
  congr 1
  · split_ifs <;> omega
  · omega

/-- What an event does to the node of instance `id`: the node it creates or
changes if the event is about `id`, else nothing. -/
def track (id : String) (n : Option TreeNode) (e : FlowEvent) : Option TreeNode :=
  if e.instanceId = id then some ((n.getD (first e)).apply e) else n

/-- Two events that place their instances alike and have different sequence
numbers change the node of any instance in either order. -/
theorem track_comm {a b : FlowEvent} (h : a.sequence ≠ b.sequence)
    (hplace : a.instanceId = b.instanceId →
      a.parentId = b.parentId ∧ a.depth = b.depth ∧ a.branchType = b.branchType)
    (id : String) (n : Option TreeNode) :
    track id (track id n a) b = track id (track id n b) a := by
  unfold track
  by_cases ha : a.instanceId = id <;> by_cases hb : b.instanceId = id
  · -- Both events are about `id`.
    obtain ⟨hparent, hdepth, hbranch⟩ := hplace (ha.trans hb.symm)
    simp only [ha, hb, if_true, Option.getD_some]
    cases n with
    | some n => rw [Option.getD_some, Option.getD_some, apply_comm n h]
    | none =>
      rw [Option.getD_none, Option.getD_none,
        first_apply_comm h (ha.trans hb.symm) hparent hdepth hbranch]
  all_goals simp [ha, hb]

end TreeNode

namespace ExecutionTree

open TreeNode

/-! ## Taking in events, seen from one instance -/

@[simp] theorem get?_empty (id : String) : ({} : ExecutionTree).get? id = none := rfl

/-- Whether a tree has a node for an instance. -/
theorem any_eq_isSome (t : ExecutionTree) (id : String) :
    t.nodes.any (·.id == id) = (t.get? id).isSome := by
  unfold get?
  rw [List.isSome_find?]

/-- What taking in an event does to a tree: it changes the node of the
event's instance, or adds one for it last. -/
theorem ingest_eq (t : ExecutionTree) (e : FlowEvent) :
    t.ingest e =
      if (t.get? e.instanceId).isSome then
        ⟨t.nodes.map fun n => if n.id == e.instanceId then n.apply e else n⟩
      else ⟨t.nodes ++ [(first e).apply e]⟩ := by
  unfold ingest
  rw [any_eq_isSome]
  rfl

/-- Taking in an event changes at most the node of the instance it is about. -/
theorem get?_ingest (t : ExecutionTree) (e : FlowEvent) (id : String) :
    (t.ingest e).get? id = track id (t.get? id) e := by
  rw [ingest_eq]
  unfold track
  split
  · rename_i hany
    -- The node of the event's instance is there, and only it changes.
    change (t.nodes.map fun n => if n.id == e.instanceId then n.apply e else n).find? _ = _
    rw [List.find?_map]
    have hp : ((fun x : TreeNode => x.id == id) ∘ fun n => if n.id == e.instanceId then n.apply e else n) =
        fun x => x.id == id := by
      funext n
      simp only [Function.comp_apply]
      split <;> simp
    rw [hp]
    change (t.get? id).map _ = _
    split
    · rename_i hid
      subst hid
      obtain ⟨n, hn⟩ := Option.isSome_iff_exists.1 hany
      have hnid : n.id = e.instanceId := by simpa using List.find?_some hn
      simp [hn, hnid]
    · rename_i hid
      cases hn : t.get? id with
      | none => rfl
      | some n =>
        have hnid : n.id = id := by simpa using List.find?_some hn
        simp [hnid, Ne.symm hid]
  · rename_i hany
    change (t.nodes ++ [(first e).apply e]).find? _ = _
    rw [List.find?_append]
    change (t.get? id).or _ = _
    split
    · rename_i hid
      subst hid
      have hnone : t.get? e.instanceId = none := by simpa using hany
      simp [hnone]
    · rename_i hid
      simp [hid]

/-- Seen from one instance, taking in a list of events is a fold of `track`. -/
theorem get?_foldl (events : List FlowEvent) (t : ExecutionTree) (id : String) :
    (events.foldl ingest t).get? id = events.foldl (track id) (t.get? id) := by
  induction events generalizing t with
  | nil => rfl
  | cons e rest ih => rw [List.foldl_cons, List.foldl_cons, ih, get?_ingest]

theorem get?_ofEvents (events : List FlowEvent) (id : String) :
    (ofEvents events).get? id = events.foldl (track id) none :=
  get?_foldl events {} id

/-! ## What every tree built from events satisfies -/

/-- A tree built from `seen`: one node per instance, each with a first
sequence number taken from one of its own events. -/
structure Built (t : ExecutionTree) (seen : List FlowEvent) : Prop where
  nodup : (t.nodes.map (·.id)).Nodup
  first : ∀ n ∈ t.nodes, ∃ e ∈ seen, e.instanceId = n.id ∧ e.sequence = n.firstSequence

theorem Built.ingest {t : ExecutionTree} {seen : List FlowEvent} (h : t.Built seen)
    (e : FlowEvent) : (t.ingest e).Built (seen ++ [e]) := by
  -- An event seen before keeps witnessing what it witnessed.
  have hold : ∀ n ∈ t.nodes, ∃ e' ∈ seen ++ [e], e'.instanceId = n.id ∧
      e'.sequence = n.firstSequence := fun n hn => by
    obtain ⟨e', he', hid, hseq⟩ := h.first n hn
    exact ⟨e', List.mem_append_left _ he', hid, hseq⟩
  rw [ingest_eq]
  split
  · rename_i hany
    refine ⟨?_, fun n hn => ?_⟩
    · rw [List.map_map]
      convert h.nodup using 2
      funext n
      simp only [Function.comp_apply]
      split <;> simp
    · obtain ⟨m, hm, rfl⟩ := List.mem_map.1 hn
      split
      · rename_i hmid
        -- The first sequence is the older one or the event's own.
        rw [apply_firstSequence, apply_id]
        obtain ⟨e', he', hid, hseq⟩ := hold m hm
        rcases Nat.le_total m.firstSequence e.sequence with hle | hle
        · exact ⟨e', he', hid, by rw [hseq, Nat.min_eq_left hle]⟩
        · refine ⟨e, List.mem_append_right _ (List.mem_singleton_self e), ?_,
            (Nat.min_eq_right hle).symm⟩
          simpa using (beq_iff_eq.1 hmid).symm
      · exact hold m hm
  · rename_i hany
    refine ⟨?_, fun n hn => ?_⟩
    · rw [List.map_append, List.nodup_append]
      refine ⟨h.nodup, by simp, ?_⟩
      simp only [List.map_cons, List.map_nil, List.mem_singleton, apply_id, first_id]
      rintro x hx y rfl rfl
      obtain ⟨m, hm, hmid⟩ := List.mem_map.1 hx
      rw [← any_eq_isSome] at hany
      exact hany (List.any_eq_true.2 ⟨m, hm, by simp [hmid]⟩)
    · rcases List.mem_append.1 hn with hn | hn
      · exact hold n hn
      · rw [List.mem_singleton] at hn
        subst hn
        exact ⟨e, List.mem_append_right _ (List.mem_singleton_self e), by simp, by simp⟩

theorem built_ofEvents (events : List FlowEvent) : (ofEvents events).Built events := by
  suffices h : ∀ (t : ExecutionTree) (seen : List FlowEvent), t.Built seen →
      (events.foldl ingest t).Built (seen ++ events) by
    simpa [ofEvents] using h {} [] ⟨List.nodup_nil, fun _ h => absurd h List.not_mem_nil⟩
  induction events with
  | nil => intro t seen h; simpa using h
  | cons e rest ih =>
    intro t seen h
    simpa using ih _ _ (h.ingest e)

/-- In a tree with one node per instance, a node is there exactly when it is
the one found for its instance. -/
theorem mem_iff_get? {t : ExecutionTree} (hn : (t.nodes.map (·.id)).Nodup) (n : TreeNode) :
    n ∈ t.nodes ↔ t.get? n.id = some n := by
  constructor
  · intro hm
    obtain ⟨m, hfound, hmid⟩ : ∃ m, t.get? n.id = some m ∧ m.id = n.id := by
      have hsome : (t.get? n.id).isSome := by
        rw [← any_eq_isSome]
        exact List.any_eq_true.2 ⟨n, hm, by simp⟩
      obtain ⟨m, hfound⟩ := Option.isSome_iff_exists.1 hsome
      exact ⟨m, hfound, by simpa using List.find?_some hfound⟩
    have hmem : m ∈ t.nodes := List.mem_of_find?_eq_some hfound
    rw [hfound, List.inj_on_of_nodup_map hn hmem hm hmid]
  · intro h
    exact List.mem_of_find?_eq_some h

/-- Trees built from events with distinct sequence numbers give their nodes
distinct first sequence numbers. -/
theorem Built.firstSequence_inj {t : ExecutionTree} {seen : List FlowEvent} (h : t.Built seen)
    (hseq : (seen.map (·.sequence)).Nodup) :
    ∀ a ∈ t.nodes, ∀ b ∈ t.nodes, a.firstSequence = b.firstSequence → a = b := by
  intro a ha b hb hab
  obtain ⟨ea, hea, hida, hsa⟩ := h.first a ha
  obtain ⟨eb, heb, hidb, hsb⟩ := h.first b hb
  have heq : ea = eb := List.inj_on_of_nodup_map hseq hea heb (by rw [hsa, hsb, hab])
  subst heq
  exact List.inj_on_of_nodup_map h.nodup ha hb (hida.symm.trans hidb)

/-! ## Ordering by first sequence -/

/-- The roots are the nodes whose parent, if any, has no node. -/
theorem roots_eq (t : ExecutionTree) :
    t.roots = bySequence (t.nodes.filter fun n => n.parentId.all fun p => !(t.get? p).isSome) := by
  unfold roots
  congr 1
  apply List.filter_congr
  intro n _
  split <;> simp_all [any_eq_isSome]

/-- Sorting by first sequence number gives one order for every arrangement of
nodes that no two share a first sequence number. -/
theorem bySequence_eq_of_perm {l l' : List TreeNode} (hp : l.Perm l')
    (hinj : ∀ a ∈ l, ∀ b ∈ l, a.firstSequence = b.firstSequence → a = b) :
    bySequence l = bySequence l' := by
  have hsorted : ∀ m : List TreeNode,
      (bySequence m).Pairwise fun a b => decide (a.firstSequence ≤ b.firstSequence) = true :=
    fun m => List.pairwise_mergeSort (fun _ _ _ h₁ h₂ => by simp at *; omega)
      (fun a b => by simp only [Bool.or_eq_true, decide_eq_true_eq]; omega) m
  refine List.Perm.eq_of_pairwise (fun a b ha hb hab hba => ?_) (hsorted l) (hsorted l')
    (((List.mergeSort_perm l _).trans hp).trans (List.mergeSort_perm l' _).symm)
  have ha' : a ∈ l := (List.mergeSort_perm l _).mem_iff.1 ha
  have hb' : b ∈ l := hp.mem_iff.2 ((List.mergeSort_perm l' _).mem_iff.1 hb)
  simp only [decide_eq_true_eq] at hab hba
  exact hinj a ha' b hb' (by omega)

/-- Two trees built from the same events, in any order, have their nodes in
some order of each other. -/
theorem nodes_perm {events events' : List FlowEvent}
    (hget : ∀ id, (ofEvents events).get? id = (ofEvents events').get? id) :
    (ofEvents events).nodes.Perm (ofEvents events').nodes := by
  have hn := (built_ofEvents events).nodup
  have hn' := (built_ofEvents events').nodup
  refine (List.perm_ext_iff_of_nodup (List.Nodup.of_map _ hn) (List.Nodup.of_map _ hn')).2
    fun n => ?_
  rw [mem_iff_get? hn, mem_iff_get? hn', hget]

/-- The tree of a list of events does not depend on the order of the events,
when no two events share a sequence number and the events of one instance
place it alike: every node with its status and step count, the number of
nodes, the roots and every node's children, in order, and so the rendering. -/
theorem ofEvents_perm {events events' : List FlowEvent} (hp : events.Perm events')
    (hc : FlowEvent.Consistent events) :
    (∀ id, (ofEvents events).get? id = (ofEvents events').get? id) ∧
      (ofEvents events).len = (ofEvents events').len ∧
      (ofEvents events).roots = (ofEvents events').roots ∧
      (∀ id, (ofEvents events).children id = (ofEvents events').children id) ∧
      (ofEvents events).render = (ofEvents events').render := by
  -- Per instance, the fold of `track` commutes on the events given.
  have hget : ∀ id, (ofEvents events).get? id = (ofEvents events').get? id := by
    intro id
    rw [get?_ofEvents, get?_ofEvents]
    refine hp.foldl_eq' (fun a ha b hb z => ?_) none
    by_cases hab : a = b
    · rw [hab]
    · exact track_comm (fun hs => hab (List.inj_on_of_nodup_map hc.1 ha hb hs))
        (hc.2 a ha b hb) id z
  have hperm := nodes_perm hget
  have hinj := (built_ofEvents events).firstSequence_inj hc.1
  have hroots : (ofEvents events).roots = (ofEvents events').roots := by
    -- Whether a parent is known is the same in both trees.
    rw [roots_eq, roots_eq]
    simp only [hget]
    exact bySequence_eq_of_perm (hperm.filter _)
      fun a ha b hb => hinj a ((List.mem_filter.1 ha).1) b ((List.mem_filter.1 hb).1)
  have hchildren : ∀ id, (ofEvents events).children id = (ofEvents events').children id :=
    fun id => bySequence_eq_of_perm (hperm.filter _)
      fun a ha b hb => hinj a ((List.mem_filter.1 ha).1) b ((List.mem_filter.1 hb).1)
  have hlen : (ofEvents events).len = (ofEvents events').len := by
    unfold len
    exact hperm.length_eq
  refine ⟨hget, hlen, hroots, hchildren, ?_⟩
  -- The rendering reads only the roots, the children and the node count.
  have hnode : ∀ fuel n indent,
      (ofEvents events).renderNode fuel n indent = (ofEvents events').renderNode fuel n indent := by
    intro fuel
    induction fuel with
    | zero => intro n indent; rfl
    | succ fuel ih =>
      intro n indent
      simp only [renderNode, hchildren, ih]
  unfold render
  rw [hroots, hlen]
  simp only [hnode]

end ExecutionTree

end Flowline
