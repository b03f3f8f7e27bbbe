import Flowline.Proofs.Sessions
set_option autoImplicit false

/-!
# Instance statuses along runs and resumes

Statuses are written in four places: an instance opens running, the walk
finishes it with a terminal status when its block ends, a suspension marks the
instances on its cursor paused, and a resume marks them running again.

While the walk stands in instance `y`, the running instances are exactly the
lineage of `y`, its chain of ancestors from the root down
(`Execution.Lineage`), and every other instance is terminal
(`Execution.ActiveAt`). Opening a child moves the walk one level down,
finishing it one level up; a suspension leaves the lineage of the instance
that suspended running. The cursor's instances are that lineage
(`Execution.lineage_instanceIds`), so a paused report shows exactly them
paused and everything else terminal, a terminal report shows every instance
terminal, and no terminal status ever changes (`Execution.TerminalKept`).
-/

namespace Flowline

namespace Execution

/-- `ids` is the chain of instances from the root down to `y`, each a child of
the one before. -/
inductive Lineage (e : Execution) : String → List String → Prop where
  | root : (e.get? e.rootId).isSome → Lineage e e.rootId [e.rootId]
  | child {x y : String} {ids : List String} : Lineage e x ids → e.IsChild y x →
      Lineage e y (ids ++ [y])

namespace Lineage

variable {e : Execution}

theorem isSome {y : String} {ids : List String} (h : e.Lineage y ids) : (e.get? y).isSome := by
  cases h with
  | root hr => exact hr
  | child _ hc =>
    obtain ⟨Y, hY, -⟩ := hc
    simp [hY]

theorem getLast? {y : String} {ids : List String} (h : e.Lineage y ids) :
    ids.getLast? = some y := by
  cases h with
  | root => rfl
  | child => simp

theorem grows {e' : Execution} (hg : e.Grows e') {y : String} {ids : List String}
    (h : e.Lineage y ids) : e'.Lineage y ids := by
  induction h with
  | root hr =>
    rw [← hg.rootId_eq]
    exact .root (by rw [hg.rootId_eq]; exact hg.isSome hr)
  | child _ hc ih => exact .child ih (hg.isChild hc)

variable (hl : e.Linked)
include hl

/-- A child lies one level below its parent. -/
theorem depth_child {x y : String} (hc : e.IsChild y x) :
    ∃ X Y, e.get? x = some X ∧ e.get? y = some Y ∧ X.depth + 1 = Y.depth := by
  obtain ⟨Y, hY, hp⟩ := hc
  obtain ⟨X, hX, hd⟩ := hl.parent Y (mem_of_get? hY).1 x hp
  exact ⟨X, Y, hX, hY, hd⟩

/-- Every instance of a lineage lies no deeper than its last one. -/
theorem depth_le {y : String} {ids : List String} (h : e.Lineage y ids) :
    ∃ Y, e.get? y = some Y ∧ ∀ x ∈ ids, ∃ X, e.get? x = some X ∧ X.depth ≤ Y.depth := by
  induction h with
  | root hr =>
    obtain ⟨R, hR⟩ := Option.isSome_iff_exists.1 hr
    refine ⟨R, hR, fun x hx => ?_⟩
    rw [List.mem_singleton] at hx
    exact ⟨R, hx ▸ hR, le_refl _⟩
  | child _ hc ih =>
    obtain ⟨X, hX, hall⟩ := ih
    obtain ⟨X', Y, hX', hY, hd⟩ := depth_child hl hc
    rw [hX] at hX'
    cases hX'
    refine ⟨Y, hY, fun z hz => ?_⟩
    rcases List.mem_append.1 hz with hz | hz
    · obtain ⟨Z, hZ, hle⟩ := hall z hz
      exact ⟨Z, hZ, by omega⟩
    · rw [List.mem_singleton] at hz
      exact ⟨Y, hz ▸ hY, le_refl _⟩

/-- A child is not on its parent's lineage. -/
theorem not_mem_child {x y : String} {ids : List String} (h : e.Lineage x ids)
    (hc : e.IsChild y x) : y ∉ ids := by
  intro hy
  obtain ⟨X, hX, hall⟩ := depth_le hl h
  obtain ⟨Y, hY, hle⟩ := hall y hy
  obtain ⟨X', Y', hX', hY', hd⟩ := depth_child hl hc
  rw [hX] at hX'
  rw [hY] at hY'
  cases hX'
  cases hY'
  omega

/-- The root is nobody's child. -/
theorem not_isChild_root {x : String} : ¬e.IsChild e.rootId x := by
  rintro ⟨R, hR, hp⟩
  obtain ⟨R', hR', hnone, -⟩ := hl.root
  rw [hR] at hR'
  cases hR'
  rw [hp] at hnone
  cases hnone

/-- The lineage of a child is its parent's, then the child. -/
theorem of_child {x y : String} {ids : List String} (h : e.Lineage y ids) (hc : e.IsChild y x) :
    ∃ ids₀, ids = ids₀ ++ [y] ∧ e.Lineage x ids₀ := by
  cases h with
  | root => exact absurd hc (not_isChild_root hl)
  | child h' hc' =>
    obtain ⟨Y, hY, hp⟩ := hc
    obtain ⟨Y', hY', hp'⟩ := hc'
    rw [hY] at hY'
    cases hY'
    rw [hp] at hp'
    cases hp'
    exact ⟨_, rfl, h'⟩

/-- An instance has one lineage. -/
theorem unique {y : String} {ids ids' : List String} (h : e.Lineage y ids) (h' : e.Lineage y ids') :
    ids = ids' := by
  induction h generalizing ids' with
  | root =>
    cases h' with
    | root => rfl
    | child _ hc => exact absurd hc (not_isChild_root hl)
  | child _ hc ih =>
    obtain ⟨ids₀, rfl, h₀⟩ := of_child hl h' hc
    rw [ih h₀]

end Lineage

/-- The instances with status `s` are exactly the lineage of `y`, and every
other instance is terminal. -/
def ActiveAt (e : Execution) (s : InstanceStatus) (y : String) : Prop :=
  ∃ ids, e.Lineage y ids ∧ ∀ x X, e.get? x = some X →
    (x ∈ ids → X.status = s) ∧ (x ∉ ids → X.status.isTerminal = true)

/-- Every terminal status of `e` is still there in `e'`. -/
def TerminalKept (e e' : Execution) : Prop :=
  ∀ x X, e.get? x = some X → X.status.isTerminal = true →
    ∃ X', e'.get? x = some X' ∧ X'.status = X.status

/-- Every instance keeps its status, and none is added. -/
def SameStatuses (e e' : Execution) : Prop :=
  ∀ x, (e'.get? x).map (·.status) = (e.get? x).map (·.status)

namespace TerminalKept

theorem refl (e : Execution) : e.TerminalKept e := fun _ X hX _ => ⟨X, hX, rfl⟩

theorem trans {e₁ e₂ e₃ : Execution} (h₁ : e₁.TerminalKept e₂) (h₂ : e₂.TerminalKept e₃) :
    e₁.TerminalKept e₃ := by
  intro x X hX hterm
  obtain ⟨X₂, hX₂, hs₂⟩ := h₁ x X hX hterm
  obtain ⟨X₃, hX₃, hs₃⟩ := h₂ x X₂ hX₂ (hs₂ ▸ hterm)
  exact ⟨X₃, hX₃, hs₃.trans hs₂⟩

theorem of_same {e e' : Execution} (h : e.SameStatuses e') : e.TerminalKept e' := by
  intro x X hX _
  have hx := h x
  rw [hX] at hx
  obtain ⟨X', hX', hs⟩ := Option.map_eq_some_iff.1 hx
  exact ⟨X', hX', hs⟩

end TerminalKept

theorem SameStatuses.trans {e₁ e₂ e₃ : Execution} (h₁ : e₁.SameStatuses e₂)
    (h₂ : e₂.SameStatuses e₃) : e₁.SameStatuses e₃ :=
  fun x => (h₂ x).trans (h₁ x)

/-- A change that keeps identifiers and statuses keeps every status. -/
theorem sameStatuses_modify (e : Execution) (id : String) {g : FlowInstance → FlowInstance}
    (hg : ∀ i, (g i).id = i.id ∧ (g i).status = i.status) : e.SameStatuses (e.modify id g) := by
  intro x
  rw [get?_modify fun i => (hg i).1]
  split
  · rw [Option.map_map]
    exact Option.map_congr fun i _ => (hg i).2
  · rfl

namespace ActiveAt

variable {e : Execution} {s : InstanceStatus} {y : String}

theorem lineage (h : e.ActiveAt s y) : ∃ ids, e.Lineage y ids := by
  obtain ⟨ids, hl, -⟩ := h
  exact ⟨ids, hl⟩

theorem isSome (h : e.ActiveAt s y) : (e.get? y).isSome := by
  obtain ⟨ids, hl, -⟩ := h
  exact hl.isSome

/-- The instance the walk stands in has the status of its lineage. -/
theorem status (h : e.ActiveAt s y) {Y : FlowInstance} (hY : e.get? y = some Y) : Y.status = s := by
  obtain ⟨ids, hl, hall⟩ := h
  exact (hall y Y hY).1 (List.mem_of_getLast? hl.getLast?)

/-- Growing without touching a status keeps the running lineage. -/
theorem of_same {e' : Execution} (h : e.ActiveAt s y) (hg : e.Grows e') (hs : e.SameStatuses e') :
    e'.ActiveAt s y := by
  obtain ⟨ids, hl, hall⟩ := h
  refine ⟨ids, hl.grows hg, fun x X' hX' => ?_⟩
  have hx := hs x
  rw [hX'] at hx
  obtain ⟨X, hX, hst⟩ := Option.map_eq_some_iff.1 hx.symm
  rw [show X'.status = X.status from hst.symm]
  exact hall x X hX

/-- Opening a child of the instance the walk stands in moves the walk into
the child. -/
theorem spawn {e' : Execution} {c : String} {branchType : BranchType} {iteration : Option Nat}
    {now : Timestamp} (h : e.ActiveAt .running y) {child : FlowInstance}
    (hs : e.spawn y c branchType iteration now = .ok child e') : e'.ActiveAt .running c := by
  obtain ⟨ids, hl, hall⟩ := h
  have hlin : e'.Lineage c (ids ++ [c]) :=
    .child (hl.grows (Grows.of_spawn hs)) (isChild_spawn hs)
  obtain ⟨parent, -, hfree, rfl, rfl⟩ := spawn_eq_ok hs
  refine ⟨ids ++ [c], hlin, fun x X hX => ?_⟩
  rw [get?_push] at hX
  split at hX
  · rename_i hx
    cases hX
    exact ⟨fun _ => rfl, fun hn => absurd (List.mem_append_right _ (List.mem_singleton.2 hx.symm)) hn⟩
  · rename_i hx
    have hne : x ≠ c := fun h => hx h.symm
    refine ⟨fun hm => (hall x X hX).1 ?_, fun hm => (hall x X hX).2 fun h => hm ?_⟩
    · rcases List.mem_append.1 hm with hm | hm
      · exact hm
      · exact absurd (List.mem_singleton.1 hm) hne
    · exact List.mem_append_left _ h

/-- Finishing the running child `c` of `x` with a terminal status moves the
walk back up to `x`. -/
theorem finish (hl : e.Linked) {c x : String} (h : e.ActiveAt .running c) (hc : e.IsChild c x)
    {g : FlowInstance → FlowInstance} (hg : KeepsPlace g) (hterm : ∀ i, (g i).status.isTerminal = true) :
    (e.modify c g).ActiveAt .running x := by
  obtain ⟨ids, hlin, hall⟩ := h
  obtain ⟨ids₀, rfl, h₀⟩ := hlin.of_child hl hc
  have hnot := h₀.not_mem_child hl hc
  refine ⟨ids₀, h₀.grows (.of_modify e c hg), fun z Z hZ => ?_⟩
  rw [get?_modify fun i => (hg i).1] at hZ
  split at hZ
  · rename_i hz
    subst hz
    obtain ⟨C, -, rfl⟩ := Option.map_eq_some_iff.1 hZ
    exact ⟨fun hm => absurd hm hnot, fun _ => hterm C⟩
  · rename_i hz
    refine ⟨fun hm => (hall z Z hZ).1 (List.mem_append_left _ hm), fun hm => (hall z Z hZ).2 ?_⟩
    intro hm'
    rcases List.mem_append.1 hm' with hm' | hm'
    · exact hm hm'
    · exact hz (List.mem_singleton.1 hm')

end ActiveAt

/-! ## What the walk's primitives do to statuses -/

theorem SameStatuses.refl (e : Execution) : e.SameStatuses e := fun _ => rfl

/-- A running step edits states only, and keeps every status. -/
theorem Edits.sameStatuses {e e' : Execution} (h : e.Edits e') : e.SameStatuses e' := by
  induction h with
  | refl => exact .refl e
  | state id v _ ih => exact ih.trans (sameStatuses_modify _ id fun _ => ⟨rfl, rfl⟩)

theorem sameStatuses_record (e : Execution) (id : String) (r : StepRecord) :
    e.SameStatuses (e.record id r) :=
  sameStatuses_modify e id fun _ => ⟨rfl, rfl⟩

/-- Opening an instance keeps every status there was. -/
theorem TerminalKept.spawn {e e' : Execution} {parentId id : String} {branchType : BranchType}
    {iteration : Option Nat} {now : Timestamp} {child : FlowInstance}
    (hs : e.spawn parentId id branchType iteration now = .ok child e') : e.TerminalKept e' := by
  obtain ⟨_, _, hfree, rfl, rfl⟩ := spawn_eq_ok hs
  intro x X hX _
  -- The new identifier was free, so it is not one found before.
  have hne : id ≠ x := by
    rintro rfl
    rw [get?_eq_none_of_has hfree] at hX
    cases hX
  exact ⟨X, by rw [get?_push, if_neg hne, hX], rfl⟩

/-- Changing an instance that is not terminal keeps every terminal status. -/
theorem TerminalKept.modify {e : Execution} {c : String} {g : FlowInstance → FlowInstance}
    (hg : ∀ i, (g i).id = i.id) (hc : ∀ C, e.get? c = some C → C.status.isTerminal = false) :
    e.TerminalKept (e.modify c g) := by
  intro x X hX hterm
  by_cases hx : x = c
  · subst hx
    rw [hc X hX] at hterm
    cases hterm
  · exact ⟨X, by rw [get?_modify hg, if_neg hx, hX], rfl⟩

/-! ## Marking a lineage -/

section Mark

variable {e : Execution} {s : InstanceStatus} {y : String} {ids : List String}

/-- A suspension and a resume mark the instances of a lineage, all with one
status. -/
abbrev markAll (ids : List String) (s : InstanceStatus) (e : Execution) : Execution :=
  ids.foldl (fun e id => e.modify id fun i => { i with status := s }) e

/-- Marking the lineage the walk stands on with `s'` leaves exactly that
lineage with status `s'`. -/
theorem ActiveAt.mark (hl : e.Linked) (h : e.ActiveAt s y) (hids : e.Lineage y ids)
    (s' : InstanceStatus) : (markAll ids s' e).ActiveAt s' y := by
  obtain ⟨ids', hl', hall⟩ := h
  obtain rfl := hl'.unique hl hids
  refine ⟨ids', hl'.grows (Grows.foldl_modify (g := fun i => { i with status := s' })
    (fun _ => ⟨rfl, rfl, rfl⟩) ids' e), fun x X hX => ?_⟩
  rw [markAll, get?_foldl_modify (g := fun i => { i with status := s' }) (fun _ => rfl)
    (fun _ => rfl)] at hX
  split at hX
  · rename_i hx
    obtain ⟨X₀, -, rfl⟩ := Option.map_eq_some_iff.1 hX
    exact ⟨fun _ => rfl, fun hn => absurd hx hn⟩
  · rename_i hx
    exact ⟨fun hm => absurd hm hx, (hall x X hX).2⟩

/-- Marking a lineage whose status is not terminal keeps every terminal
status. -/
theorem TerminalKept.mark (hl : e.Linked) (h : e.ActiveAt s y) (hs : s.isTerminal = false)
    (hids : e.Lineage y ids) (s' : InstanceStatus) : e.TerminalKept (markAll ids s' e) := by
  obtain ⟨ids', hl', hall⟩ := h
  obtain rfl := hl'.unique hl hids
  intro x X hX hterm
  refine ⟨X, ?_, rfl⟩
  rw [markAll, get?_foldl_modify (g := fun i => { i with status := s' }) (fun _ => rfl)
    (fun _ => rfl), if_neg, hX]
  intro hx
  rw [(hall x X hX).1 hx, hs] at hterm
  cases hterm

end Mark

end Execution

/-! ## The cursor's instances -/

/-- A frame leads to a frame of its own instance or of a child of it. -/
theorem Frame.Leads.instanceId {e : Execution} {f g : Frame} (h : Frame.Leads e f g) :
    g.instanceId = f.instanceId ∨ e.IsChild g.instanceId f.instanceId :=
  match f, g, h with
  | .block _ _ _, _, h => .inr h
  | .loop _ _ _ .controller, .block _ _ _, h => .inl h
  | .loop _ _ _ .actions, .block _ _ _, h => .inr h

namespace Execution

/-- The root heads every lineage. -/
theorem Lineage.root_mem {e : Execution} {y : String} {ids : List String} (h : e.Lineage y ids) :
    e.rootId ∈ ids := by
  induction h with
  | root => exact List.mem_singleton_self _
  | child _ _ ih => exact List.mem_append_left _ ih

/-- A child is not its parent. -/
theorem Lineage.ne_of_isChild {e : Execution} (hl : e.Linked) {x y : String}
    (hc : e.IsChild y x) : y ≠ x := by
  rintro rfl
  obtain ⟨X, Y, hX, hY, hd⟩ := depth_child hl hc
  rw [hX] at hY
  cases hY
  omega

/-- Collecting the instances of frames that go down from a lineage, each
once in a row, extends it to the lineage of the last frame's instance. -/
theorem lineage_foldl {e : Execution} (hl : e.Linked) :
    ∀ (fs : List Frame) (f : Frame) (ids : List String), Frame.Descends e (f :: fs) →
      e.Lineage f.instanceId ids →
      e.Lineage ((f :: fs).getLast (List.cons_ne_nil f fs)).instanceId
        (fs.foldl (fun ids f =>
          if ids.getLast? == some f.instanceId then ids else ids ++ [f.instanceId]) ids)
  | [], _, _, _, h => h
  | g :: rest, f, ids, hd, h => by
    rw [List.foldl_cons, List.getLast_cons (List.cons_ne_nil g rest)]
    obtain ⟨hlead, hd⟩ := hd
    refine lineage_foldl hl rest g _ hd ?_
    rcases Frame.Leads.instanceId hlead with heq | hc
    · -- The next frame is of the same instance: nothing is collected.
      rw [if_pos (by rw [h.getLast?, heq]; simp), heq]
      exact h
    · rw [if_neg (by rw [h.getLast?]; simpa using (Lineage.ne_of_isChild hl hc).symm)]
      exact .child h hc

/-- The instances of a cursor that starts at the root's block and goes down,
each once in a row, are the lineage of the instance it ends at. -/
theorem lineage_instanceIds {e : Execution} (hl : e.Linked) {fs : List Frame} {y : String}
    (hatop : Frame.Atop e e.rootId fs) (hends : Frame.EndsAt fs y) :
    e.Lineage y (Cursor.mk fs).instanceIds := by
  obtain ⟨index, before, rest, rfl, hb⟩ := hatop
  obtain ⟨i, b, hlast⟩ := hends
  obtain ⟨r, hr, -⟩ := hl.root
  have h := lineage_foldl hl rest (.block e.rootId index before) [e.rootId]
    (Frame.descends_block.2 hb) (.root (by simp [hr]))
  rw [List.getLast?_eq_some_getLast (List.cons_ne_nil _ _), Option.some.injEq] at hlast
  rw [hlast] at h
  unfold Cursor.instanceIds
  rw [List.foldl_cons]
  exact h

/-! ## Identifiers apart -/

/-- In a grown execution no two instances share an identifier. -/
theorem Grown.nodup {e : Execution} (h : e.Grown) : (e.instances.map (·.id)).Nodup := by
  induction h with
  | create => exact List.nodup_singleton _
  | spawn _ hs ih =>
    obtain ⟨_, _, hfree, rfl, rfl⟩ := spawn_eq_ok hs
    rw [push_instances, List.map_append, List.nodup_append]
    refine ⟨ih, by simp, fun a ha b hb hab => ?_⟩
    simp only [List.map_cons, List.map_nil, List.mem_singleton] at hb
    obtain ⟨i, hi, rfl⟩ := List.mem_map.1 ha
    have htaken := has_of_mem hi
    rw [hab, hb] at htaken
    rw [htaken] at hfree
    cases hfree
  | modify id _ _ ih =>
    rw [modify_ids]
    exact ih

/-- With identifiers apart, an instance is the first found for its
identifier. -/
theorem find?_eq_of_nodup {l : List FlowInstance} (hn : (l.map (·.id)).Nodup) {i : FlowInstance}
    (hi : i ∈ l) : l.find? (·.id == i.id) = some i := by
  obtain ⟨j, hj⟩ := Option.isSome_iff_exists.1
    ((List.find?_isSome (p := fun x => x.id == i.id)).2 ⟨i, hi, by simp⟩)
  have hjid : j.id = i.id := by simpa using List.find?_some hj
  rw [hj, List.inj_on_of_nodup_map hn (List.mem_of_find?_eq_some hj) hi hjid]

/-- With identifiers apart, every instance is the one found for its
identifier. -/
theorem get?_of_mem {e : Execution} (hn : (e.instances.map (·.id)).Nodup) {i : FlowInstance}
    (hi : i ∈ e.instances) : e.get? i.id = some i := by
  rw [get?_eq_find]
  exact find?_eq_of_nodup (by rw [List.map_reverse]; exact List.nodup_reverse.2 hn)
    (List.mem_reverse.2 hi)

end Execution

end Flowline
