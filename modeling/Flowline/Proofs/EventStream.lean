import Flowline.Proofs.TreeOrder
import Flowline.Proofs.Invariant
import Flowline.Proofs.Settling
set_option autoImplicit false

/-!
# Events describe the execution they come from

An execution publishes an event whenever an instance starts, records a step,
pauses, resumes or ends, and a listener rebuilds the instance tree from
those events alone (`ExecutionTree.ofEvents`). This module shows that the
rebuilt tree is faithful: for an execution run and then resumed any number
of times with its tickets kept in memory (`Engine.Session`), the events of
the execution can be taken in any order (`FlowEvent.Consistent`), and their
tree has one node per instance of the last report, with the instance's
parent, depth, branch type and status, and children in creation order.

The invariant is `Traced k e w`: the events the world `w` published from
position `k` on describe execution `e`. Each is about an instance of `e` and
placed as that instance is, their sequence numbers increase, and the tree
they build has one node per instance, in creation order, with the instance's
place and status (`Traced.outlines`). Publishing one more event keeps it
(`Traced.push`, `Traced.push_fresh`), as long as the event's status is the
one the execution now holds; quiet changes of the world keep it
(`Traced.quiet`), and so do changes of the execution that keep every
instance's place and status (`Traced.congr`). The walk keeps it by
`Engine.walk_maintains`, once its primitives do.
-/

namespace Flowline

/-! ## Places and outlines -/

/-- Where an instance sits in the tree: its identifier, parent, depth and
branch type. Every event about an instance carries its place. -/
structure Place where
  id : String
  parentId : Option String
  depth : Nat
  branchType : BranchType

/-- The place of an instance. -/
def FlowInstance.place (i : FlowInstance) : Place := ⟨i.id, i.parentId, i.depth, i.branchType⟩

/-- The place an event gives its instance. -/
def FlowEvent.place (e : FlowEvent) : Place := ⟨e.instanceId, e.parentId, e.depth, e.branchType⟩

/-- The place of a rebuilt node. -/
def TreeNode.place (n : TreeNode) : Place := ⟨n.id, n.parentId, n.depth, n.branchType⟩

/-- An instance's place and status: what a tree rebuilt from events shows of
it. -/
def FlowInstance.outline (i : FlowInstance) : Place × InstanceStatus := (i.place, i.status)

/-- A rebuilt node's place and status. -/
def TreeNode.outline (n : TreeNode) : Place × InstanceStatus := (n.place, n.status)

@[simp] theorem FlowInstance.place_id (i : FlowInstance) : i.place.id = i.id := rfl

@[simp] theorem TreeNode.place_id (n : TreeNode) : n.place.id = n.id := rfl

@[simp] theorem FlowEvent.place_id (e : FlowEvent) : e.place.id = e.instanceId := rfl

namespace FlowEvent

variable (sequence : Nat) (kind : EventKind) (x : String) (i : FlowInstance) (payload : Value)
  (error : Option Failure) (t : Timestamp)

@[simp] theorem place_about : (about sequence kind x i payload error t).place = i.place := rfl

@[simp] theorem sequence_about : (about sequence kind x i payload error t).sequence = sequence :=
  rfl

@[simp] theorem executionId_about : (about sequence kind x i payload error t).executionId = x :=
  rfl

@[simp] theorem instanceId_about : (about sequence kind x i payload error t).instanceId = i.id :=
  rfl

@[simp] theorem kind_about : (about sequence kind x i payload error t).kind = kind := rfl

@[simp] theorem payload_about : (about sequence kind x i payload error t).payload = payload := rfl

@[simp] theorem error_about : (about sequence kind x i payload error t).error = error := rfl

end FlowEvent

namespace TreeNode

@[simp] theorem place_apply (n : TreeNode) (e : FlowEvent) : (n.apply e).place = n.place := by
  rw [apply_eq]
  rfl

@[simp] theorem place_first (e : FlowEvent) : (first e).place = e.place := rfl

/-- An event no older than anything a node has seen keeps the node's first
sequence number and sets its status, if it reports one. -/
theorem apply_late {n : TreeNode} {e : FlowEvent} (hf : n.firstSequence ≤ e.sequence)
    (hs : n.statusSequence ≤ e.sequence) :
    (n.apply e).firstSequence = n.firstSequence ∧ (n.apply e).status = (statusOf e).getD n.status ∧
      (n.apply e).statusSequence ≤ e.sequence := by
  rw [apply_eq]
  unfold latest
  cases statusOf e with
  | none => exact ⟨Nat.min_eq_left hf, rfl, hs⟩
  | some s => simp [Nat.min_eq_left hf, hs]

end TreeNode

/-! ## Changing one instance -/

/-- Without repeated keys, changing the first element with a key changes
every element with it. -/
theorem modifyLast_go_eq_map {α : Type} (key : α → String) (f : α → α) (id : String) :
    ∀ l : List α, (l.map key).Nodup →
      modifyLast.go (fun a => key a == id) f l = l.map fun a => if key a = id then f a else a
  | [], _ => rfl
  | a :: rest, hn => by
    rw [List.map_cons, List.nodup_cons] at hn
    by_cases ha : key a = id
    · -- The rest holds no other element with the key.
      have hrest : ∀ b ∈ rest, key b ≠ id := fun b hb hb' =>
        hn.1 (ha ▸ hb' ▸ List.mem_map_of_mem hb)
      simp only [modifyLast.go, ha, beq_self_eq_true, if_true, List.map_cons, List.cons.injEq,
        true_and]
      exact (List.map_congr_left fun b hb => if_neg (hrest b hb)).trans (List.map_id' rest) |>.symm
    · have hne : (key a == id) = false := by simpa using ha
      simp only [modifyLast.go, hne, List.map_cons, if_neg ha, Bool.false_eq_true, if_false]
      rw [modifyLast_go_eq_map key f id rest hn.2]

namespace Execution

/-- Without repeated identifiers, changing an instance is a change of the
instance list at that identifier. -/
theorem instances_modify {e : Execution} (hn : (e.instances.map (·.id)).Nodup) (id : String)
    {f : FlowInstance → FlowInstance} (hf : ∀ i, (f i).id = i.id) :
    (e.modify id f).instances = e.instances.map fun i => if i.id = id then f i else i := by
  have hrev : (e.instances.reverse.map (·.id)).Nodup := by
    rw [List.map_reverse]
    exact List.nodup_reverse.2 hn
  rw [modify_instances hf, modifyLast, modifyLast_go_eq_map FlowInstance.id f id _ hrev,
    List.map_reverse, List.reverse_reverse]

/-- A change that keeps what `key` reads of every instance, the identifier
kept, keeps the list of what it reads. -/
theorem map_modify {β : Type} (key : FlowInstance → β) {f : FlowInstance → FlowInstance}
    (hf : ∀ i, key { f i with id := i.id } = key i) (e : Execution) (id : String) :
    (e.modify id f).instances.map key = e.instances.map key :=
  map_modifyLast (fun i => { f i with id := i.id }) key hf e.instances

/-- The execution as an event that reports status `s` of instance `id`, if it
reports one, leaves it. -/
def reportStatus (e : Execution) (id : String) : Option InstanceStatus → Execution
  | none => e
  | some s => e.modify id fun i => { i with status := s }

@[simp] theorem rootId_reportStatus (e : Execution) (id : String) (s : Option InstanceStatus) :
    (e.reportStatus id s).rootId = e.rootId := by
  cases s <;> rfl

theorem places_reportStatus (e : Execution) (id : String) (s : Option InstanceStatus) :
    (e.reportStatus id s).instances.map FlowInstance.place = e.instances.map FlowInstance.place := by
  cases s with
  | none => rfl
  | some s =>
    exact map_modify FlowInstance.place (f := fun i => { i with status := s }) (fun _ => rfl) e id

/-- An event about no instance of the execution leaves it as it is. -/
theorem reportStatus_of_not_mem {e : Execution} (hn : (e.instances.map (·.id)).Nodup) {id : String}
    (hid : id ∉ e.instances.map (·.id)) (s : Option InstanceStatus) : e.reportStatus id s = e := by
  cases s with
  | none => rfl
  | some s =>
    have hkeep : ∀ i ∈ e.instances, (if i.id = id then { i with status := s } else i) = i :=
      fun i hi => if_neg fun (h : i.id = id) => hid (h ▸ List.mem_map_of_mem hi)
    refine ext rfl ?_
    rw [reportStatus, instances_modify hn id (f := fun i => { i with status := s }) fun _ => rfl,
      List.map_congr_left hkeep, List.map_id']

end Execution

/-- What an event reporting status `s` of instance `id` does to an outline. -/
def reportOutline (id : String) (s : Option InstanceStatus) (o : Place × InstanceStatus) :
    Place × InstanceStatus :=
  if o.1.id = id then (o.1, s.getD o.2) else o

theorem Execution.outlines_reportStatus {e : Execution} (hn : (e.instances.map (·.id)).Nodup)
    (id : String) (s : Option InstanceStatus) :
    (e.reportStatus id s).instances.map FlowInstance.outline =
      (e.instances.map FlowInstance.outline).map (reportOutline id s) := by
  rw [List.map_map]
  cases s with
  | none =>
    refine List.map_congr_left fun i _ => ?_
    simp [reportOutline]
  | some s =>
    rw [reportStatus, instances_modify hn id (f := fun i => { i with status := s }) fun _ => rfl,
      List.map_map]
    refine List.map_congr_left fun i _ => ?_
    by_cases hi : i.id = id <;> simp [hi, reportOutline, FlowInstance.outline, FlowInstance.place]

/-! ## Events that describe an execution -/

/-- The events a world published from position `k` on. -/
def World.since (w : World) (k : Nat) : List FlowEvent := w.events.toList.drop k

theorem World.since_push {w : World} {k : Nat} (hk : k ≤ w.events.size) (ev : FlowEvent) :
    (w.events.push ev).toList.drop k = w.since k ++ [ev] := by
  rw [Array.toList_push, List.drop_append_of_le_length (by simpa using hk)]
  rfl

/-- The events world `w` published from position `k` on describe execution
`e`: each is about an instance of `e`, in `e`'s execution, and placed as that
instance is; their sequence numbers increase and stay below the next one;
and the tree they build has one node per instance of `e`, in creation order,
with the instance's place and status, its first and status sequence numbers
below the next one. -/
structure Traced (k : Nat) (e : Execution) (w : World) : Prop where
  start : k ≤ w.events.size
  about : ∀ ev ∈ w.since k, ev.executionId = e.rootId ∧ ev.place ∈ e.instances.map FlowInstance.place
  increasing : (w.since k).Pairwise fun a b => a.sequence < b.sequence
  below : ∀ ev ∈ w.since k, ev.sequence < w.nextSequence
  outlines : (ExecutionTree.ofEvents (w.since k)).nodes.map TreeNode.outline =
    e.instances.map FlowInstance.outline
  ordered : (ExecutionTree.ofEvents (w.since k)).nodes.Pairwise
    fun a b => a.firstSequence < b.firstSequence
  statusBelow : ∀ n ∈ (ExecutionTree.ofEvents (w.since k)).nodes, n.statusSequence < w.nextSequence

namespace Traced

variable {k : Nat} {e : Execution} {w : World}

/-- Before anything is published, the events describe an execution without
instances. -/
theorem empty (rootId : String) (hk : w.events.size = k) :
    Traced k (Execution.ofInstances rootId []) w := by
  have hnil : w.since k = [] := List.drop_eq_nil_of_le (by simp [← hk])
  refine ⟨hk.ge, ?_, ?_, ?_, ?_, ?_, ?_⟩ <;> simp [hnil, ExecutionTree.ofEvents]

/-- Only the events and the next sequence number matter. -/
theorem of_eq {w' : World} (h : Traced k e w) (he : w'.events = w.events)
    (hn : w'.nextSequence = w.nextSequence) : Traced k e w' := by
  have hs : w'.since k = w.since k := by rw [World.since, World.since, he]
  exact ⟨he ▸ h.start, hs ▸ h.about, hs ▸ h.increasing, hs ▸ hn ▸ h.below, hs ▸ h.outlines,
    hs ▸ h.ordered, hs ▸ hn ▸ h.statusBelow⟩

theorem quiet {w' : World} (h : Traced k e w) (hq : w.Quiet w') : Traced k e w' :=
  h.of_eq hq.events hq.nextSequence

/-- Changes of the execution that keep every instance's place and status,
and the execution's identifier, keep what the events describe. -/
theorem congr {e' : Execution} (h : Traced k e w) (hroot : e'.rootId = e.rootId)
    (hout : e'.instances.map FlowInstance.outline = e.instances.map FlowInstance.outline) :
    Traced k e' w := by
  have hplaces : e'.instances.map FlowInstance.place = e.instances.map FlowInstance.place := by
    have := congrArg (List.map Prod.fst) hout
    simpa [List.map_map, Function.comp_def, FlowInstance.outline] using this
  refine ⟨h.start, fun ev hev => ?_, h.increasing, h.below, h.outlines.trans hout.symm, h.ordered,
    h.statusBelow⟩
  rw [hroot, hplaces]
  exact h.about ev hev

/-- The tree's nodes are the instances, identifier by identifier. -/
theorem ids (h : Traced k e w) :
    (ExecutionTree.ofEvents (w.since k)).nodes.map (·.id) = e.instances.map (·.id) := by
  have := congrArg (List.map fun o : Place × InstanceStatus => o.1.id) h.outlines
  simpa [List.map_map, Function.comp_def, TreeNode.outline, FlowInstance.outline] using this

/-- No two instances of a described execution share an identifier. -/
theorem nodup (h : Traced k e w) : (e.instances.map (·.id)).Nodup :=
  h.ids ▸ (ExecutionTree.built_ofEvents _).nodup

/-- Every node's first sequence number is that of one of the events, so below
the next one. -/
theorem firstBelow (h : Traced k e w) :
    ∀ n ∈ (ExecutionTree.ofEvents (w.since k)).nodes, n.firstSequence < w.nextSequence := by
  intro n hn
  obtain ⟨ev, hev, -, hseq⟩ := (ExecutionTree.built_ofEvents _).first n hn
  exact hseq ▸ h.below ev hev

/-- An instance of the execution has a node. -/
theorem isSome_get? (h : Traced k e w) {id : String} (hid : id ∈ e.instances.map (·.id)) :
    ((ExecutionTree.ofEvents (w.since k)).get? id).isSome := by
  rw [← ExecutionTree.any_eq_isSome, List.any_eq_true]
  rw [← h.ids] at hid
  obtain ⟨n, hn, rfl⟩ := List.mem_map.1 hid
  exact ⟨n, hn, by simp⟩

/-- An identifier that no instance has has no node. -/
theorem get?_eq_none (h : Traced k e w) {id : String} (hid : id ∉ e.instances.map (·.id)) :
    (ExecutionTree.ofEvents (w.since k)).get? id = none := by
  cases hn : (ExecutionTree.ofEvents (w.since k)).get? id with
  | none => rfl
  | some n =>
    have hnid : n.id = id := by simpa using List.find?_some hn
    have hmem : n ∈ (ExecutionTree.ofEvents (w.since k)).nodes := List.mem_of_find?_eq_some hn
    exact absurd (h.ids ▸ hnid ▸ List.mem_map_of_mem hmem) hid

/-- Publishing one more event about an instance of the execution, numbered
with the next sequence number, keeps the events describing the execution,
now with the status the event reports. -/
theorem push (h : Traced k e w) {ev : FlowEvent} (hx : ev.executionId = e.rootId)
    (hseq : ev.sequence = w.nextSequence) (hplace : ev.place ∈ e.instances.map FlowInstance.place)
    {w' : World} (hev : w'.events = w.events.push ev) (hn : w'.nextSequence = w.nextSequence + 1) :
    Traced k (e.reportStatus ev.instanceId (statusOf ev)) w' := by
  have hsince : w'.since k = w.since k ++ [ev] := by
    rw [World.since, hev]
    exact World.since_push h.start ev
  have hid : ev.instanceId ∈ e.instances.map (·.id) := by
    obtain ⟨i, hi, hpi⟩ := List.mem_map.1 hplace
    exact List.mem_map.2 ⟨i, hi, by rw [← FlowInstance.place_id, hpi, FlowEvent.place_id]⟩
  -- Every node has seen only older events, so the event applies as the newest.
  have hlate : ∀ n ∈ (ExecutionTree.ofEvents (w.since k)).nodes,
      n.firstSequence ≤ ev.sequence ∧ n.statusSequence ≤ ev.sequence := fun n hn =>
    ⟨by have := h.firstBelow n hn; omega, by have := h.statusBelow n hn; omega⟩
  have htree : ExecutionTree.ofEvents (w'.since k) =
      ⟨(ExecutionTree.ofEvents (w.since k)).nodes.map
        fun n => if n.id == ev.instanceId then n.apply ev else n⟩ := by
    rw [hsince, ExecutionTree.ofEvents, List.foldl_append, List.foldl_cons, List.foldl_nil,
      ← ExecutionTree.ofEvents, ExecutionTree.ingest_eq, if_pos (h.isSome_get? hid)]
  have hfirst : ∀ n ∈ (ExecutionTree.ofEvents (w.since k)).nodes,
      (if n.id == ev.instanceId then n.apply ev else n).firstSequence = n.firstSequence := by
    intro n hn
    split
    · exact (TreeNode.apply_late (hlate n hn).1 (hlate n hn).2).1
    · rfl
  refine ⟨?_, ?_, ?_, ?_, ?_, ?_, ?_⟩
  · rw [hev, Array.size_push]
    exact Nat.le_succ_of_le h.start
  · intro ev' hev'
    rw [hsince, List.mem_append, List.mem_singleton] at hev'
    rw [Execution.rootId_reportStatus, Execution.places_reportStatus]
    rcases hev' with hold | rfl
    · exact h.about ev' hold
    · exact ⟨hx, hplace⟩
  · rw [hsince, List.pairwise_append]
    refine ⟨h.increasing, List.pairwise_singleton _ _, fun a ha b hb => ?_⟩
    rw [List.mem_singleton] at hb
    subst hb
    have := h.below a ha
    omega
  · intro ev' hev'
    rw [hsince, List.mem_append, List.mem_singleton] at hev'
    rw [hn]
    rcases hev' with hold | rfl
    · have := h.below ev' hold
      omega
    · omega
  · -- The event's node takes the reported status; the other nodes stay.
    rw [htree, Execution.outlines_reportStatus h.nodup, ← h.outlines, List.map_map, List.map_map]
    refine List.map_congr_left fun n hn => ?_
    by_cases hnid : n.id = ev.instanceId
    · have hstatus := (TreeNode.apply_late (hlate n hn).1 (hlate n hn).2).2.1
      simp [hnid, reportOutline, TreeNode.outline, hstatus]
    · simp [hnid, reportOutline, TreeNode.outline]
  · rw [htree, List.pairwise_map]
    exact h.ordered.imp_of_mem fun ha hb hab => by rw [hfirst _ ha, hfirst _ hb]; exact hab
  · intro n' hn'
    rw [htree] at hn'
    obtain ⟨n, hmem, rfl⟩ := List.mem_map.1 hn'
    rw [hn]
    split
    · have := (TreeNode.apply_late (hlate n hmem).1 (hlate n hmem).2).2.2
      omega
    · have := h.statusBelow n hmem
      omega

/-- Publishing the start of a new instance, numbered with the next sequence
number, keeps the events describing the execution with the instance added. -/
theorem push_fresh (h : Traced k e w) {c : FlowInstance} (hfresh : c.id ∉ e.instances.map (·.id))
    (hc : c.status = .running) {ev : FlowEvent} (hx : ev.executionId = e.rootId)
    (hseq : ev.sequence = w.nextSequence) (hplace : ev.place = c.place)
    (hstart : statusOf ev = some .running) {w' : World} (hev : w'.events = w.events.push ev)
    (hn : w'.nextSequence = w.nextSequence + 1) :
    Traced k (e.push c) w' := by
  have hsince : w'.since k = w.since k ++ [ev] := by
    rw [World.since, hev]
    exact World.since_push h.start ev
  have hid : ev.instanceId = c.id := by
    rw [← FlowEvent.place_id, hplace, FlowInstance.place_id]
  have htree : ExecutionTree.ofEvents (w'.since k) =
      ⟨(ExecutionTree.ofEvents (w.since k)).nodes ++ [(TreeNode.first ev).apply ev]⟩ := by
    rw [hsince, ExecutionTree.ofEvents, List.foldl_append, List.foldl_cons, List.foldl_nil,
      ← ExecutionTree.ofEvents, ExecutionTree.ingest_eq, h.get?_eq_none (hid ▸ hfresh)]
    rfl
  -- The new node starts at the event and is running.
  obtain ⟨hfs, hstatus, hss⟩ :=
    TreeNode.apply_late (n := TreeNode.first ev) (e := ev) (Nat.le_refl _) (Nat.zero_le _)
  rw [hstart] at hstatus
  refine ⟨?_, ?_, ?_, ?_, ?_, ?_, ?_⟩
  · rw [hev, Array.size_push]
    exact Nat.le_succ_of_le h.start
  · intro ev' hev'
    rw [hsince, List.mem_append, List.mem_singleton] at hev'
    rw [Execution.push_instances, List.map_append, List.mem_append]
    rcases hev' with hold | rfl
    · exact ⟨(h.about ev' hold).1, .inl (h.about ev' hold).2⟩
    · exact ⟨hx, .inr (by simp [hplace])⟩
  · rw [hsince, List.pairwise_append]
    refine ⟨h.increasing, List.pairwise_singleton _ _, fun a ha b hb => ?_⟩
    rw [List.mem_singleton] at hb
    subst hb
    have := h.below a ha
    omega
  · intro ev' hev'
    rw [hsince, List.mem_append, List.mem_singleton] at hev'
    rw [hn]
    rcases hev' with hold | rfl
    · have := h.below ev' hold
      omega
    · omega
  · rw [htree, Execution.push_instances, List.map_append, List.map_append, h.outlines]
    simp [TreeNode.outline, FlowInstance.outline, hstatus, hc, hplace]
  · rw [htree, List.pairwise_append]
    refine ⟨h.ordered, List.pairwise_singleton _ _, fun a ha b hb => ?_⟩
    rw [List.mem_singleton] at hb
    subst hb
    have := h.firstBelow a ha
    rw [hfs, TreeNode.first_firstSequence]
    omega
  · intro n hmem
    rw [htree, List.mem_append, List.mem_singleton] at hmem
    rw [hn]
    rcases hmem with hold | rfl
    · have := h.statusBelow n hold
      omega
    · omega

end Traced

/-! ## What each primitive publishes -/

/-- A step event reports no status. -/
theorem statusOf_flowStep {ev : FlowEvent} (hk : ev.kind = .flowStep) : statusOf ev = none := by
  simp [statusOf, hk]

/-- An end event reports the status its payload names. -/
theorem statusOf_flowEnd {ev : FlowEvent} (hk : ev.kind = .flowEnd) {s : InstanceStatus}
    {r : Value} (hp : ev.payload = Value.object [("status", .str s.name), ("result", r)]) :
    statusOf ev = some s := by
  have hfield : ev.payload.field? "status" = some (.str s.name) := by
    rw [hp]
    show Fields.find? (Fields.ofList _) "status" = _
    simp only [Fields.ofList, List.foldl_cons, List.foldl_nil]
    rw [Fields.find?_insert_ne _ _ (by decide), Fields.find?_insert_self]
  have hfind : InstanceStatus.all.find? (·.name == s.name) = some s := by
    cases s <;> decide
  simp [statusOf, hk, hfield, hfind]

/-- Editing states keeps every instance's place and status. -/
theorem Execution.Edits.outlines {e e' : Execution} (h : e.Edits e') :
    e'.rootId = e.rootId ∧
      e'.instances.map FlowInstance.outline = e.instances.map FlowInstance.outline := by
  induction h with
  | refl => exact ⟨rfl, rfl⟩
  | state id v _ ih =>
    exact ⟨ih.1, (Execution.map_modify FlowInstance.outline (f := fun i => { i with state := v i })
      (fun _ => rfl) _ id).trans ih.2⟩

namespace Engine

variable (eng : Engine) {k : Nat}

/-- `emitFor` publishes nothing about an instance it does not find, and
otherwise one event about it, numbered with the next sequence number. -/
theorem emitFor_spec (e : Execution) (id : String) (kind : EventKind) (payload : Value)
    (error : Option Failure) (w : World) :
    Run.Ensures (eng.emitFor e id kind payload error) w fun _ w' =>
      (e.get? id = none ∧ w' = w) ∨
      ∃ i t, e.get? id = some i ∧
        w'.events = w.events.push (FlowEvent.about w.nextSequence kind e.rootId i payload error t) ∧
        w'.nextSequence = w.nextSequence + 1 := by
  unfold emitFor
  split
  · rename_i hnone
    exact Run.Ensures.pure (.inl ⟨hnone, rfl⟩)
  · rename_i i hi
    refine Run.Ensures.bind (Run.Ensures.get ?_)
    refine Run.Ensures.next (Run.now_quiet w).2 fun t w₁ hq₁ => ?_
    refine Run.Ensures.bind (Run.Ensures.modify ?_)
    -- Logging the event, if the engine does, changes neither events nor numbering.
    refine (Run.Quiet.ite (Run.log_quiet _ _ _) (Run.Quiet.pure ()) _).2.mono
      fun _ w₂ hq₂ => .inr ⟨i, t, hi, ?_, ?_⟩
    · rw [hq₂.events]
      show w₁.events.push _ = _
      rw [hq₁.events]
    · rw [hq₂.nextSequence]

/-- Publishing an event about an instance of an execution with the places of
the described one keeps the events describing it, with the status the event
reports, whatever execution the event was read from. -/
theorem emitFor_traced {e eₑ : Execution} {w : World} (ht : Traced k e w)
    (hroot : eₑ.rootId = e.rootId)
    (hplaces : eₑ.instances.map FlowInstance.place = e.instances.map FlowInstance.place)
    {id : String} {kind : EventKind} {payload : Value} {error : Option Failure}
    {s : Option InstanceStatus}
    (hs : ∀ ev : FlowEvent, ev.kind = kind → ev.payload = payload → ev.error = error →
      statusOf ev = s) :
    Run.Ensures (eng.emitFor eₑ id kind payload error) w fun _ w' =>
      Traced k (e.reportStatus id s) w' := by
  have hids : eₑ.instances.map (·.id) = e.instances.map (·.id) := by
    have := congrArg (List.map Place.id) hplaces
    simpa [List.map_map, Function.comp_def] using this
  refine (emitFor_spec eng eₑ id kind payload error w).mono fun _ w' h => ?_
  rcases h with ⟨hnone, rfl⟩ | ⟨i, t, hi, hev, hn⟩
  · -- Nothing is published, and nothing of `e` is reported on.
    have hid : id ∉ e.instances.map (·.id) := fun hmem => by
      rw [← hids] at hmem
      obtain ⟨j, hj, rfl⟩ := List.mem_map.1 hmem
      have hsome := Execution.get?_isSome_of_mem hj
      rw [hnone] at hsome
      cases hsome
    rw [Execution.reportStatus_of_not_mem ht.nodup hid]
    exact ht
  · obtain ⟨hmem, rfl⟩ := Execution.mem_of_get? hi
    have h := ht.push (by exact hroot) (by rfl) (hplaces ▸ List.mem_map_of_mem hmem) hev hn
    rwa [hs _ rfl rfl rfl] at h

/-- Publishing an event that reports no status about an instance of an
execution with the described one's places and statuses. -/
theorem emitFor_steady {e eₑ : Execution} {w : World} (ht : Traced k e w)
    (hroot : eₑ.rootId = e.rootId)
    (hout : eₑ.instances.map FlowInstance.outline = e.instances.map FlowInstance.outline)
    (id : String) (payload : Value) (error : Option Failure) :
    Run.Ensures (eng.emitFor eₑ id .flowStep payload error) w fun _ w' => Traced k eₑ w' := by
  have hplaces : eₑ.instances.map FlowInstance.place = e.instances.map FlowInstance.place := by
    have := congrArg (List.map Prod.fst) hout
    simpa [List.map_map, Function.comp_def, FlowInstance.outline] using this
  exact (emitFor_traced eng ht hroot hplaces fun _ hk _ _ => statusOf_flowStep hk).mono
    fun _ _ h => h.congr hroot hout

/-- Publishing the start of an instance added to the execution. -/
theorem emitFor_fresh {e : Execution} {w : World} (ht : Traced k e w) {c : FlowInstance}
    (hfresh : e.has c.id = false) (hc : c.status = .running) (payload : Value)
    (error : Option Failure) :
    Run.Ensures (eng.emitFor (e.push c) c.id .flowStart payload error) w
      fun _ w' => Traced k (e.push c) w' := by
  have hc' : (e.push c).get? c.id = some c := by
    rw [Execution.get?_push, if_pos rfl]
  refine (emitFor_spec eng _ c.id .flowStart payload error w).mono fun _ w' h => ?_
  rcases h with ⟨hnone, -⟩ | ⟨i, t, hi, hev, hn⟩
  · rw [hc'] at hnone
    cases hnone
  · rw [hc'] at hi
    cases hi
    exact ht.push_fresh (fun hmem => by rw [Execution.has_iff_mem_ids.2 hmem] at hfresh; cases hfresh)
      hc rfl rfl rfl rfl hev hn

/-! ## The walk keeps the events describing its execution -/

/-- Quiet changes keep the events describing an execution. -/
theorem traced_quiet {α : Type} {r : Run α} (h : Run.Quiet r) :
    Maintains (Traced k) (liftM r : Drive α) :=
  Maintains.quiet (fun _ _ _ ht hq => ht.quiet hq) h

theorem pushRecord_traced (id : String) (r : StepRecord) :
    Maintains (Traced k) (eng.pushRecord id r) := by
  intro e w ht
  unfold pushRecord
  refine Ensures.bind (Ensures.get ?_)
  dsimp only
  split
  · rename_i e' hreq
    unfold Execution.require at hreq
    split at hreq
    · injection hreq with hreq
      subst hreq
      -- Adding a record keeps every instance's place and status.
      refine Ensures.bind (Ensures.set (Ensures.lift (emitFor_steady eng ht ?_ ?_ id _ _)))
      · rfl
      · exact Execution.map_modify _ (fun _ => by rfl) e id
    · contradiction
  · exact Ensures.throw

theorem failStep_traced (id : String) (attempt : StepRecord) (err : FlowError) :
    Maintains (Traced k) (eng.failStep id attempt err) := by
  unfold failStep
  exact Maintains.bind (traced_quiet (Run.error_quiet _ _)) fun _ =>
    Maintains.bind (traced_quiet Run.now_quiet) fun _ =>
      Maintains.bind (pushRecord_traced eng id _) fun _ => Maintains.pure _

theorem completePausedStep_traced (id : String) (output : StepOutput) :
    Maintains (Traced k) (eng.completePausedStep id output) := by
  intro e w ht
  unfold completePausedStep
  refine Ensures.bind (Ensures.get ?_)
  split
  · exact Ensures.throw
  · split
    · exact Ensures.throw
    · refine Ensures.bind (Ensures.lift ((Run.now_quiet w).2.mono fun t w₁ hq₁ => ?_))
      refine Ensures.bind (Ensures.set (Ensures.bind
        (Ensures.lift ((Run.debug_quiet _ _ w₁).2.mono fun _ w₂ hq₂ => ?_))))
      -- Completing the record keeps every instance's place and status.
      refine Ensures.lift (emitFor_steady eng ((ht.quiet hq₁).quiet hq₂) ?_ ?_ id _ _)
      · rfl
      · exact Execution.map_modify _ (fun _ => by rfl) e id

theorem openInstance_traced (parentId id : String) (branchType : BranchType)
    (iteration : Option Nat) :
    Maintains (Traced k) (eng.openInstance parentId id branchType iteration) := by
  intro e w ht
  unfold openInstance
  refine Ensures.bind (Ensures.lift ((Run.now_quiet w).2.mono fun t w₁ hq₁ => ?_))
  refine Ensures.bind (Ensures.get ?_)
  split
  · rename_i e' hspawn
    obtain ⟨parent, -, hfree, rfl, rfl⟩ := Execution.spawn_eq_ok hspawn
    refine Ensures.bind (Ensures.set (Ensures.bind
      (Ensures.lift ((Run.debug_quiet _ _ w₁).2.mono fun _ w₂ hq₂ => ?_))))
    exact Ensures.lift (emitFor_fresh eng ((ht.quiet hq₁).quiet hq₂) hfree rfl _ _)
  · exact Ensures.throw

theorem finishInstance_traced (id : String) (outcome : Outcome) :
    Maintains (Traced k) (eng.finishInstance id outcome) := by
  intro e w ht
  unfold finishInstance
  rcases outcome.final id with _ | ⟨status, result, error⟩
  · exact Ensures.pure ht
  · refine Ensures.bind (Ensures.lift ((Run.now_quiet w).2.mono fun t w₁ hq₁ => ?_))
    refine Ensures.bind (Ensures.get ?_)
    refine Ensures.bind (Ensures.set (Ensures.lift ?_))
    -- The end event reports the status the instance now holds.
    refine (emitFor_traced eng (ht.quiet hq₁) ?_ ?_ (s := some status)
      fun _ hk hp _ => statusOf_flowEnd hk hp).mono fun _ w₂ h₂ => ?_
    · rfl
    · exact Execution.map_modify _ (fun _ => by rfl) e id
    refine h₂.congr rfl ?_
    rw [Execution.reportStatus, Execution.instances_modify ht.nodup,
      Execution.instances_modify ht.nodup, List.map_map, List.map_map]
    · refine List.map_congr_left fun i _ => ?_
      by_cases hi : i.id = id <;> simp [hi, FlowInstance.outline, FlowInstance.place]
    all_goals exact fun _ => rfl

theorem settle_traced (id path : String) (step : StepDefinition) (limit : Option Nat)
    (attempt : StepRecord) (result : StepResult) :
    Maintains (Traced k) (eng.settle id path step limit attempt result) := by
  cases result with
  | timedOut =>
    rw [settle]
    exact Maintains.bind (traced_quiet (Run.warn_quiet _ _)) fun _ => failStep_traced eng _ _ _
  | finished r =>
    rcases r with se | (⟨edge, value⟩ | ⟨details, resumeEdge⟩) <;> rw [settle]
    · exact Maintains.bind (traced_quiet (Run.debug_quiet _ _)) fun _ => failStep_traced eng _ _ _
    · refine Maintains.ite (failStep_traced eng _ _ _) ?_
      exact Maintains.bind (traced_quiet Run.now_quiet) fun _ =>
        Maintains.bind (pushRecord_traced eng id _) fun _ => Maintains.pure _
    · refine Maintains.ite (failStep_traced eng _ _ _) ?_
      exact Maintains.bind (traced_quiet Run.freshUuid_quiet) fun _ =>
        Maintains.bind (traced_quiet (Run.info_quiet _ _)) fun _ =>
          Maintains.bind (pushRecord_traced eng id _) fun _ => Maintains.pure _

theorem runStepWith_traced (adjust : StepResult → StepResult) (id : String) (node : FlowNode)
    (path : String) (previous : Option StepOutput) :
    Maintains (Traced k) (eng.runStepWith adjust id node path previous) := by
  intro e w ht
  unfold runStepWith
  refine Ensures.bind (Ensures.lift ((Run.now_quiet w).2.mono fun startedAt w₁ hq₁ => ?_))
  have ht₁ := ht.quiet hq₁
  dsimp only
  split
  · exact failStep_traced eng id _ _ e w₁ ht₁
  · split
    · exact failStep_traced eng id _ _ e w₁ ht₁
    · refine Ensures.bind (Ensures.lift ((Run.debug_quiet _ _ w₁).2.mono fun _ w₂ hq₂ => ?_))
      refine Ensures.bind (Ensures.get ?_)
      refine Ensures.bind (Ensures.lift fun ran w₃ hran => ?_)
      -- The step edits states and changes the world quietly.
      have hedits : e.Edits ran.2.execution :=
        StepRun.perform_keeps _ _ _ _ {execution := e} _ .refl ran.1 ran.2 w₃ hran
      have hq₃ : w₂.Quiet w₃ := StepRun.perform_quiet _ _ _ _ {execution := e} w₂ ran.1 ran.2 w₃ hran
      obtain ⟨result, scope⟩ := ran
      refine Ensures.bind (Ensures.set ?_)
      exact settle_traced eng id path _ _ _ _ scope.execution w₃
        (((ht₁.quiet hq₂).quiet hq₃).congr hedits.outlines.1 hedits.outlines.2)

/-- The walk keeps the events describing its execution. -/
theorem walk_traced (id : String) (nodes : List FlowNode) (base : String)
    (entry : Option StepOutput) (resume : Option Resume) :
    Maintains (Traced k) (eng.runBlock eng.runStep id nodes base entry resume) :=
  (walk_maintains eng eng.runStep (fun _ _ _ ht hq => ht.quiet hq)
    (fun id node path previous => runStepWith_traced eng _ id node path previous)
    (completePausedStep_traced eng) (openInstance_traced eng) (finishInstance_traced eng)).1
    id nodes base entry resume

end Engine

/-! ## Sessions -/

namespace Run

/-- Saving a ticket in memory publishes nothing. -/
theorem storeTicket_events (p : PausedExecution) {w : World}
    {slots : List (String × Option PausedExecution)} (hstore : w.store = .memory slots) :
    Run.Ensures (Run.storeTicket p) w fun _ w' =>
      w'.events = w.events ∧ w'.nextSequence = w.nextSequence := by
  unfold Run.storeTicket
  refine Run.Ensures.bind (Run.Ensures.get ?_)
  rw [hstore]
  exact Run.Ensures.modify ⟨rfl, rfl⟩

/-- Claiming a ticket from memory gives what its slot holds and publishes
nothing. -/
theorem claimTicket_take {w : World} {slots : List (String × Option PausedExecution)}
    (hstore : w.store = .memory slots) {id : String} {p : PausedExecution}
    {rest : List (String × Option PausedExecution)} (htake : takeSlot slots id = .ok (p, rest)) :
    Run.Ensures (Run.claimTicket id) w fun p' w' =>
      p' = p ∧ w'.events = w.events ∧ w'.nextSequence = w.nextSequence ∧
        w'.store = .memory rest := by
  unfold Run.claimTicket
  refine Run.Ensures.bind (Run.Ensures.get ?_)
  rw [hstore]
  dsimp only
  rw [htake]
  exact Run.Ensures.bind (Run.Ensures.modify (Run.Ensures.pure ⟨rfl, rfl, rfl, rfl⟩))

end Run

/-- A ticket just saved in memory is the one its identifier takes. -/
theorem takeSlot_putSlot (slots : List (String × Option PausedExecution)) (p : PausedExecution) :
    ∃ rest, takeSlot (putSlot slots p) p.ticket.pauseId = .ok (p, rest) := by
  have hfind : (putSlot slots p).find? (·.1 == p.ticket.pauseId) = some (p.ticket.pauseId, some p) := by
    unfold putSlot
    split
    · rename_i hany
      -- Filling every slot of the identifier keeps the keys, so the first one found is filled.
      rw [List.find?_map]
      obtain ⟨⟨k, s⟩, hks⟩ := Option.isSome_iff_exists.1 (by rw [List.isSome_find?]; exact hany :
        (slots.find? (·.1 == p.ticket.pauseId)).isSome)
      have hk : k = p.ticket.pauseId := by simpa using List.find?_some hks
      have hsame : ((fun x : String × Option PausedExecution => x.1 == p.ticket.pauseId) ∘
          fun x => match x with
            | (k, s) => if k == p.ticket.pauseId then (k, some p) else (k, s)) =
          fun x => x.1 == p.ticket.pauseId := by
        funext ⟨k', s'⟩
        simp only [Function.comp_apply]
        split <;> simp_all
      rw [hsame, hks]
      simp [hk]
    · rename_i hany
      have hnone : slots.find? (·.1 == p.ticket.pauseId) = none := by
        rw [← Option.not_isSome_iff_eq_none, List.isSome_find?]
        exact hany
      rw [List.find?_append, hnone]
      simp
  unfold takeSlot
  rw [hfind]
  exact ⟨_, rfl⟩

/-- A report whose execution the events published since `k` describe, with
the pause store in memory and, when the report is paused, the execution
saved under its ticket so that resuming the ticket claims it. -/
structure ReportTraced (k : Nat) (R : ExecutionReport) (w : World) : Prop where
  traced : Traced k R.execution w
  memory : ∃ slots, w.store = .memory slots
  saved : ∀ t, R.pause = some t → ∃ slots p, w.store = .memory (putSlot slots p) ∧ p.ticket = t ∧
    p.execution = R.execution

namespace Engine

variable (eng : Engine) {k : Nat}

/-- Marking leaves every instance where it is. -/
theorem places_markAll (ids : List String) (s : InstanceStatus) (e : Execution) :
    (Execution.markAll ids s e).instances.map FlowInstance.place = e.instances.map FlowInstance.place := by
  induction ids generalizing e with
  | nil => rfl
  | cons id rest ih =>
    exact (ih _).trans (Execution.map_modify _ (fun _ => by rfl) e id)

/-- Suspending publishes a pause event for each instance it marks paused. -/
theorem suspend_traced (d : FlowDefinition) {e : Execution} (cursor : Cursor)
    (pause : PendingPause) {w : World} {slots : List (String × Option PausedExecution)}
    (ht : Traced k e w) (hstore : w.store = .memory slots) :
    Run.Ensures (eng.suspend d e cursor pause) w fun _ w' =>
      Traced k (Execution.markAll cursor.instanceIds .paused e) w' := by
  unfold suspend
  refine Run.Ensures.next (Run.now_quiet w).2 fun t w₁ hq₁ => ?_
  refine Run.Ensures.next (Run.storeTicket_events _ (hq₁.store.trans hstore))
    fun _ w₂ ⟨he₂, hn₂⟩ => ?_
  refine Run.Ensures.bind (Run.Ensures.modify ?_)
  -- The pause events, one per marked instance, each report the marked status.
  refine Run.Ensures.next (Run.Ensures.forIn_fold _ _
    (fun s id => s.modify id fun i => { i with status := .paused })
    (fun s _ w => Traced k s w ∧ s.rootId = e.rootId ∧
      s.instances.map FlowInstance.place = e.instances.map FlowInstance.place) e ?_
    ⟨((ht.quiet hq₁).of_eq he₂ hn₂).of_eq rfl rfl, rfl, rfl⟩) fun _ w₄ h₄ => ?_
  · intro id _ s w' ⟨hts, hroot, hplaces⟩
    refine Run.Ensures.bind ((emitFor_traced eng hts ?_ ?_ (s := some .paused)
      fun _ hk _ _ => by simp [statusOf, hk]).mono fun _ w'' h => Run.Ensures.pure ⟨_, rfl, h,
        hroot, (Execution.map_modify _ (fun _ => by rfl) s id).trans hplaces⟩)
    · rw [Execution.rootId_foldl_modify, hroot]
    · rw [places_markAll, hplaces]
  refine Run.Ensures.next (Run.info_quiet _ _ w₄).2 fun _ w₅ hq₅ => ?_
  refine Run.Ensures.next (eng.record_quiet _ w₅).2 fun _ w₆ hq₆ => ?_
  exact Run.Ensures.pure ((h₄.1.quiet hq₅).quiet hq₆)

/-- Driving the walk from an execution the events describe reports an
execution they describe, saved under the ticket if the report is paused. -/
theorem drive_traced (d : FlowDefinition) {e : Execution} {resume : Option Resume} {w : World}
    {slots : List (String × Option PausedExecution)} (ht : Traced k e w)
    (hstore : w.store = .memory slots) :
    Run.Ensures (eng.drive eng.runStep d e resume) w fun R w' => ReportTraced k R w' := by
  unfold drive
  refine Run.Ensures.next (Ensures.run ((walk_traced eng _ _ _ _ _ e w ht).and
    ((walk_keepsStore eng eng.runStep (runStep_keepsStore eng)).1 _ _ _ _ _ e w).2))
    fun q w₁ h₁ => ?_
  obtain ⟨outcome, e₁⟩ := q
  obtain ⟨ht₁, hs₁⟩ := h₁
  dsimp only at ht₁ hs₁ ⊢
  split
  · -- The execution is saved, marked paused, under a new ticket.
    rename_i frames pause
    refine ((suspend_traced eng d _ pause ht₁ (hs₁.trans hstore)).and
      (suspend_saves eng d e₁ _ pause (hs₁.trans hstore))).mono
      fun R w₂ ⟨ht₂, ticket, _, hR, h₂⟩ => ?_
    subst hR
    refine ⟨by rw [ExecutionReport.execution_ofExecution]; exact ht₂, ⟨_, h₂⟩,
      fun t ht => ⟨slots, _, h₂, ?_, (ExecutionReport.execution_ofExecution _ _ _).symm⟩⟩
    cases ht
    rfl
  · -- The root ends; what is logged and recorded changes no event.
    refine Run.Ensures.next ((Ensures.run (finishInstance_traced eng _ outcome e₁ w₁ ht₁)).and
      (Tame.run (finishInstance_tame eng _ _) e₁ w₁).2) fun q w₂ ⟨ht₂, hs₂⟩ => ?_
    obtain ⟨⟨⟩, e₂⟩ := q
    have hdone : ∀ {w₃ : World}, w₂.Quiet w₃ →
        Run.Ensures (eng.record (ExecutionReport.ofExecution d.name e₂ none) >>= fun _ =>
          pure (ExecutionReport.ofExecution d.name e₂ none)) w₃ fun R w' => ReportTraced k R w' :=
      fun hq₃ => Run.Ensures.next ((eng.record_quiet _ _).2) fun _ w₄ hq₄ =>
        Run.Ensures.pure ⟨by rw [ExecutionReport.execution_ofExecution]; exact (ht₂.quiet hq₃).quiet hq₄,
          ⟨slots, hq₄.store.trans (hq₃.store.trans (hs₂.trans (hs₁.trans hstore)))⟩,
          fun t ht => by cases ht⟩
    dsimp only
    split <;> exact Run.Ensures.next ((Run.log_quiet _ _ _) w₂).2 fun _ w₃ hq₃ => hdone hq₃

/-- A run opens its execution with the root's start event, the first event it
publishes. -/
theorem start_traced (d : FlowDefinition) (init : Value) (w : World) :
    Run.Ensures (eng.start d init) w fun e w' => Traced w.events.size e w' ∧ w'.store = w.store := by
  unfold start
  refine Run.Ensures.next (Run.logged_quiet _ w).2 fun report w₁ hq₁ => ?_
  dsimp only
  split
  · exact Run.Ensures.after fun _ _ => Run.Ensures.bind Run.Ensures.throw
  · refine Run.Ensures.next (Run.freshUuid_quiet w₁).2 fun id w₂ hq₂ => ?_
    refine Run.Ensures.next (Run.now_quiet w₂).2 fun t w₃ hq₃ => ?_
    refine Run.Ensures.next (Run.info_quiet _ _ w₃).2 fun _ w₄ hq₄ => ?_
    have hq : w.Quiet w₄ := hq₁.trans (hq₂.trans (hq₃.trans hq₄))
    refine Run.Ensures.next ((emitFor_fresh eng (Traced.empty id (k := w.events.size)
      (w := w₄) (by rw [hq.events])) (rfl : (Execution.ofInstances id []).has id = false) rfl _ none).and
      (emitFor_tame eng _ _ _ _ _ w₄).2) fun _ w₅ ⟨ht₅, hs₅⟩ => ?_
    exact Run.Ensures.pure ⟨ht₅, hs₅.trans hq.store⟩

/-- A run reports an execution the events it published describe. -/
theorem run_traced (d : FlowDefinition) (init : Value) {w : World}
    {slots : List (String × Option PausedExecution)} (hstore : w.store = .memory slots) :
    Run.Ensures (eng.run d init) w fun R w' => ReportTraced w.events.size R w' := by
  unfold run
  exact Run.Ensures.next (start_traced eng d init w) fun e w₁ ⟨ht₁, hs₁⟩ =>
    drive_traced eng d ht₁ (hs₁.trans hstore)

/-- Resuming the execution saved last under its ticket publishes a resume
event for each instance it marks running, and reports an execution the
events describe. -/
theorem resume_traced (value : Value) {p : PausedExecution} {w : World}
    {slots : List (String × Option PausedExecution)} (ht : Traced k p.execution w)
    (hstore : w.store = .memory (putSlot slots p)) :
    Run.Ensures (eng.resume p.ticket.pauseId value) w fun R w' => ReportTraced k R w' := by
  obtain ⟨rest, htake⟩ := takeSlot_putSlot slots p
  unfold resume
  refine Run.Ensures.next (Run.claimTicket_take hstore htake) fun p' w₁ ⟨hp', he₁, hn₁, hs₁⟩ => ?_
  subst p'
  refine Run.Ensures.next (Run.info_quiet _ _ w₁).2 fun _ w₂ hq₂ => ?_
  -- Each resume event reports the status just set.
  refine Run.Ensures.next (Run.Ensures.forIn_fold _ _
    (fun s id => s.modify id fun i => { i with status := .running })
    (fun s b w => b = s ∧ Traced k s w ∧ w.store = .memory rest) p.execution ?_
    ⟨rfl, (ht.of_eq he₁ hn₁).quiet hq₂, hq₂.store.trans hs₁⟩) fun e w₃ ⟨he, ht₃, hs₃⟩ => ?_
  · intro id b s w' ⟨hb, hts, hsw⟩
    subst hb
    refine Run.Ensures.bind (((emitFor_traced eng hts ?_ ?_ (s := some .running)
      fun _ hk _ _ => by simp [statusOf, hk]).and (emitFor_tame eng _ _ _ _ _ w').2).mono
        fun _ w'' ⟨h, hs⟩ => Run.Ensures.pure ⟨_, rfl, rfl, h, hs.trans hsw⟩)
    · rfl
    · exact Execution.map_modify _ (fun _ => by rfl) b id
  subst he
  exact drive_traced eng _ ht₃ hs₃

end Engine

/-! ## What the described events rebuild -/

/-- The events world `w` published from position `k` on about one
execution. -/
def World.eventsOf (w : World) (k : Nat) (executionId : String) : List FlowEvent :=
  (w.since k).filter (·.executionId == executionId)

namespace Traced

variable {k : Nat} {e : Execution} {w : World}

/-- Every event since `k` is about the described execution. -/
theorem eventsOf_eq (h : Traced k e w) : w.eventsOf k e.rootId = w.since k :=
  List.filter_eq_self.2 fun ev hev => by simp [(h.about ev hev).1]

/-- The events can be taken in any order: their sequence numbers increase,
and two events about one instance both carry its place. -/
theorem consistent (h : Traced k e w) : FlowEvent.Consistent (w.since k) := by
  refine ⟨?_, fun a ha b hb hab => ?_⟩
  · rw [List.Nodup, List.pairwise_map]
    exact h.increasing.imp Nat.ne_of_lt
  · obtain ⟨i, hi, hia⟩ := List.mem_map.1 (h.about a ha).2
    obtain ⟨j, hj, hjb⟩ := List.mem_map.1 (h.about b hb).2
    -- The two instances share the identifier, so they are one.
    have hij : i = j := List.inj_on_of_nodup_map h.nodup hi hj (by
      rw [← FlowInstance.place_id, hia, ← FlowInstance.place_id, hjb, FlowEvent.place_id,
        FlowEvent.place_id, hab])
    subst hij
    have hpl : a.place = b.place := hia.symm.trans hjb
    simp only [FlowEvent.place, Place.mk.injEq] at hpl
    exact ⟨hpl.2.1, hpl.2.2.1, hpl.2.2.2⟩

/-- Every instance has a node with its place and status. -/
theorem get?_outline (h : Traced k e w) {i : FlowInstance} (hi : i ∈ e.instances) :
    ∃ n, (ExecutionTree.ofEvents (w.since k)).get? i.id = some n ∧ n.outline = i.outline := by
  obtain ⟨n, hn⟩ := Option.isSome_iff_exists.1 (h.isSome_get? (List.mem_map_of_mem hi))
  refine ⟨n, hn, ?_⟩
  have hmem : n ∈ (ExecutionTree.ofEvents (w.since k)).nodes := List.mem_of_find?_eq_some hn
  have hnid : n.id = i.id := by simpa using List.find?_some hn
  -- The node's outline is that of the instance with its identifier.
  have hout : n.outline ∈ e.instances.map FlowInstance.outline :=
    h.outlines ▸ List.mem_map_of_mem hmem
  obtain ⟨j, hj, hjn⟩ := List.mem_map.1 hout
  have hji : j = i := List.inj_on_of_nodup_map h.nodup hj hi (by
    have := congrArg (fun o : Place × InstanceStatus => o.1.id) hjn
    simpa [FlowInstance.outline, TreeNode.outline, hnid] using this)
  rw [← hjn, hji]

/-- A node's children are the instance's children, in creation order: first
sequence numbers increase along the nodes, so ordering by them keeps the
order. -/
theorem children (h : Traced k e w) (id : String) :
    ((ExecutionTree.ofEvents (w.since k)).children id).map (·.id) =
      (e.instances.filter (·.parentId == some id)).map (·.id) := by
  have hsorted : ((ExecutionTree.ofEvents (w.since k)).nodes.filter (·.parentId == some id)).Pairwise
      fun a b => decide (a.firstSequence ≤ b.firstSequence) = true :=
    (h.ordered.filter _).imp fun hlt => decide_eq_true (Nat.le_of_lt hlt)
  rw [ExecutionTree.children, ExecutionTree.bySequence, List.mergeSort_of_pairwise hsorted]
  -- Both sides read identifiers off the outlines of the children.
  calc ((ExecutionTree.ofEvents (w.since k)).nodes.filter (·.parentId == some id)).map (·.id)
      = (((ExecutionTree.ofEvents (w.since k)).nodes.map TreeNode.outline).filter
          (·.1.parentId == some id)).map (·.1.id) := by
        rw [List.filter_map, List.map_map]
        rfl
    _ = ((e.instances.map FlowInstance.outline).filter (·.1.parentId == some id)).map (·.1.id) := by
        rw [h.outlines]
    _ = (e.instances.filter (·.parentId == some id)).map (·.id) := by
        rw [List.filter_map, List.map_map]
        rfl

end Traced

/-- The reports of one execution driven in one world by one engine: the
report of its run, then of a resume of the ticket each paused report hands
out, with any value. -/
inductive Engine.Session (eng : Engine) (d : FlowDefinition) (init : Value) (w₀ : World) :
    World → ExecutionReport → Prop where
  | run {w : World} {R : ExecutionReport} :
      (eng.run d init).run.run w₀ = (.ok R, w) → eng.Session d init w₀ w R
  | resume {w w' : World} {R R' : ExecutionReport} {ticket : PauseTicket} (value : Value) :
      eng.Session d init w₀ w R → R.pause = some ticket →
      (eng.resume ticket.pauseId value).run.run w = (.ok R', w') → eng.Session d init w₀ w' R'

/-- Along a session from a world whose store is in memory, the events
published since it began describe each report's execution. -/
theorem Engine.Session.traced {eng : Engine} {d : FlowDefinition} {init : Value} {w₀ w : World}
    {R : ExecutionReport} (h : eng.Session d init w₀ w R)
    {slots : List (String × Option PausedExecution)} (hstore : w₀.store = .memory slots) :
    ReportTraced w₀.events.size R w := by
  induction h with
  | run hrun => exact eng.run_traced d init hstore _ _ hrun
  | resume value _ hpause hrun ih =>
    obtain ⟨slots', p, hs, hticket, hexec⟩ := ih.saved _ hpause
    have ht := ih.traced
    rw [← hexec] at ht
    rw [← hticket] at hrun
    exact eng.resume_traced value ht hs _ _ hrun

/-- The instance tree rebuilt from events is the execution's. Events with
distinct sequence numbers whose events of one instance agree on its place
build the same tree in any order: every node with its status and step count,
the node count, the roots, every node's children in order, and so the
rendering. And the events an execution publishes along a session run and
resumed with its tickets in memory are such events: their tree has one node
per instance of the last report, with the instance's parent, depth, branch
type and status, and each node's children are the instance's, in creation
order. -/
theorem event_streams_rebuild_the_tree :
    (∀ events events' : List FlowEvent, events.Perm events' → FlowEvent.Consistent events →
      (∀ id, (ExecutionTree.ofEvents events).get? id = (ExecutionTree.ofEvents events').get? id) ∧
      (ExecutionTree.ofEvents events).len = (ExecutionTree.ofEvents events').len ∧
      (ExecutionTree.ofEvents events).roots = (ExecutionTree.ofEvents events').roots ∧
      (∀ id, (ExecutionTree.ofEvents events).children id =
        (ExecutionTree.ofEvents events').children id) ∧
      (ExecutionTree.ofEvents events).render = (ExecutionTree.ofEvents events').render) ∧
    (∀ (eng : Engine) (d : FlowDefinition) (init : Value) (w₀ w : World) (R : ExecutionReport)
        (slots : List (String × Option PausedExecution)),
      w₀.store = .memory slots → eng.Session d init w₀ w R →
      FlowEvent.Consistent (w.eventsOf w₀.events.size R.executionId) ∧
      (ExecutionTree.ofEvents (w.eventsOf w₀.events.size R.executionId)).nodes.map (·.id) =
        R.instances.map (·.id) ∧
      (∀ i ∈ R.instances, ∃ n,
        (ExecutionTree.ofEvents (w.eventsOf w₀.events.size R.executionId)).get? i.id = some n ∧
        n.parentId = i.parentId ∧ n.depth = i.depth ∧ n.branchType = i.branchType ∧
        n.status = i.status) ∧
      ∀ id, ((ExecutionTree.ofEvents (w.eventsOf w₀.events.size R.executionId)).children id).map
        (·.id) = (R.instances.filter (·.parentId == some id)).map (·.id)) := by
  refine ⟨fun events events' hp hc => ExecutionTree.ofEvents_perm hp hc, ?_⟩
  intro eng d init w₀ w R slots hstore hs
  have ht := (hs.traced hstore).traced
  have hE : w.eventsOf w₀.events.size R.executionId = w.since w₀.events.size := ht.eventsOf_eq
  rw [hE]
  refine ⟨ht.consistent, ht.ids, fun i hi => ?_, ht.children⟩
  obtain ⟨n, hn, hout⟩ := ht.get?_outline hi
  simp only [TreeNode.outline, FlowInstance.outline, TreeNode.place, FlowInstance.place,
    Prod.mk.injEq, Place.mk.injEq] at hout
  exact ⟨n, hn, hout.1.2.1, hout.1.2.2.1, hout.1.2.2.2, hout.2⟩

/-- A session that suspends inside a sub-flow, is resumed and suspends there
again: the events of its two calls rebuild the tree of its last report, root
and sub-flow, each paused. -/
theorem resumed_session_events_rebuild_the_tree :
    ∃ w R, askingEngine.Session askTwiceDefinition .null {} w R ∧ R.status = .paused ∧
      FlowEvent.Consistent (w.eventsOf ({} : World).events.size R.executionId) ∧
      (ExecutionTree.ofEvents (w.eventsOf ({} : World).events.size R.executionId)).nodes.map (·.id) =
        R.instances.map (·.id) ∧
      (∀ i ∈ R.instances, ∃ n,
        (ExecutionTree.ofEvents (w.eventsOf ({} : World).events.size R.executionId)).get? i.id =
          some n ∧ n.parentId = i.parentId ∧ n.depth = i.depth ∧ n.branchType = i.branchType ∧
          n.status = i.status) ∧
      ∀ id, ((ExecutionTree.ofEvents (w.eventsOf ({} : World).events.size R.executionId)).children
        id).map (·.id) = (R.instances.filter (·.parentId == some id)).map (·.id) := by
  obtain ⟨R₁, w₁, t₁, -, R₂, w₂, -, hR₁, ht₁, -, -, hR₂, hpaused, -⟩ := askTwice_session
  have hs : askingEngine.Session askTwiceDefinition .null {} w₂ R₂ := .resume (.str "v") (.run hR₁) ht₁ hR₂
  exact ⟨w₂, R₂, hs, hpaused, event_streams_rebuild_the_tree.2 _ _ _ {} w₂ R₂ [] rfl hs⟩

end Flowline
