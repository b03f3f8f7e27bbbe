import Mathlib
import Flowline.Flow.Document
set_option autoImplicit false

/-!
# Written forms of nodes and definitions

A node is written as plain data (`FlowNode.toValue`) and read back by the
grammar of `FlowNode.ofValue`, which tells the shapes apart by arity alone: a
one-key object is a step call, a one-item list holding a list is a loop. Two
shapes that can be built have no written form, since they would read back as
another shape: a sub-flow whose only node is itself a list, and a branch with
one arm. `FlowNode.Unwritable` says that such a shape sits somewhere inside a
node.

A definition is written as a record of its name, its nodes and its initial
state. Documents keep the members of every object in key order, each key once
(`Value.Ordered`); a definition whose written form is such a document reads
back from it, save that a null initial state is read as no initial state.

Main statements:

* writing fails exactly for the unwritable nodes (`FlowNode.toValue_error_iff`);
* what is written reads back as the node (`FlowNode.ofValue_of_toValue`), and
  a node read from a value writes back as that value
  (`FlowNode.toValue_of_ofValue`);
* a definition reads back from its written form and from its canonical text
  (`written_form_round_trip`), and a null initial state is lost on the way
  (`null_initialState_reads_as_none`).
-/

namespace Flowline

/-- A result mapped to an answer came from a result. -/
theorem Except.ok_of_map_eq_ok {ε α β : Type} {f : α → β} {x : Except ε α} {b : β}
    (h : x.map f = .ok b) : ∃ a, x = .ok a ∧ b = f a := by
  cases x with
  | error e => cases h
  | ok a =>
    simp only [Except.map, Except.ok.injEq] at h
    exact ⟨a, rfl, h.symm⟩

/-- A mapped failure is the failure. -/
theorem Except.error_of_map_eq_error {ε α β : Type} {f : α → β} {x : Except ε α} {e : ε}
    (h : x.map f = .error e) : x = .error e := by
  cases x with
  | error e' =>
    simp only [Except.map, Except.error.injEq] at h
    rw [h]
  | ok a => cases h

/-- A result whose answer a test accepts is an answer the test accepts. -/
theorem Except.exists_ok_of_any {ε α : Type} {x : Except ε α} {p : α → Bool}
    (h : x.toOption.any p = true) : ∃ a, x = .ok a ∧ p a = true := by
  cases x with
  | error e => simp [Except.toOption] at h
  | ok a => exact ⟨a, rfl, by simpa [Except.toOption] using h⟩

namespace FlowNode

/-- Somewhere inside the node is a shape with no written form: a sub-flow
whose only node is a list (it would read back as a loop), or a branch with
one arm (it would read back as a step call). -/
inductive Unwritable : FlowNode → Prop where
  | listAlone {n : FlowNode} : n.isList = true → Unwritable (.sequence [n])
  | oneArm {edge : String} {n : FlowNode} : Unwritable (.branch [(edge, n)])
  | inSequence {nodes : List FlowNode} {n : FlowNode} : n ∈ nodes → Unwritable n →
      Unwritable (.sequence nodes)
  | inLoop {parts : List FlowNode} {n : FlowNode} : n ∈ parts → Unwritable n →
      Unwritable (.loop parts)
  | inBranch {arms : List (String × FlowNode)} {edge : String} {n : FlowNode} :
      (edge, n) ∈ arms → Unwritable n → Unwritable (.branch arms)

/-! ## Writing one node after another -/

theorem listValue_cons_eq_ok {n : FlowNode} {rest : List FlowNode} {vs : List Value}
    (h : toValue.listValue (n :: rest) = .ok vs) :
    ∃ v vs', n.toValue = .ok v ∧ toValue.listValue rest = .ok vs' ∧ vs = v :: vs' := by
  rw [toValue.listValue] at h
  rcases hn : n.toValue with e | v <;> rw [hn] at h
  · cases h
  rcases hr : toValue.listValue rest with e | vs' <;> rw [hr] at h
  · cases h
  cases h
  exact ⟨v, vs', rfl, rfl, rfl⟩

theorem armsValue_cons_eq_ok {edge : String} {n : FlowNode} {rest : List (String × FlowNode)}
    {fs : Fields} (h : toValue.armsValue ((edge, n) :: rest) = .ok fs) :
    ∃ v fs', n.toValue = .ok v ∧ toValue.armsValue rest = .ok fs' ∧
      fs = (edge, v) :: fs' := by
  rw [toValue.armsValue] at h
  rcases hn : n.toValue with e | v <;> rw [hn] at h
  · cases h
  rcases hr : toValue.armsValue rest with e | fs' <;> rw [hr] at h
  · cases h
  cases h
  exact ⟨v, fs', rfl, rfl, rfl⟩

theorem length_listValue : ∀ {nodes : List FlowNode} {vs : List Value},
    toValue.listValue nodes = .ok vs → vs.length = nodes.length
  | [], vs, h => by
    rw [toValue.listValue, Except.ok.injEq] at h
    rw [← h]
    rfl
  | n :: rest, vs, h => by
    obtain ⟨v, vs', -, hr, rfl⟩ := listValue_cons_eq_ok h
    simp [length_listValue hr]

theorem length_armsValue : ∀ {arms : List (String × FlowNode)} {fs : Fields},
    toValue.armsValue arms = .ok fs → fs.length = arms.length
  | [], fs, h => by
    rw [toValue.armsValue, Except.ok.injEq] at h
    rw [← h]
    rfl
  | (edge, n) :: rest, fs, h => by
    obtain ⟨v, fs', -, hr, rfl⟩ := armsValue_cons_eq_ok h
    simp [length_armsValue hr]

/-- Only a list node is written as a list. -/
theorem isList_of_toValue_arr {n : FlowNode} {items : List Value}
    (h : n.toValue = .ok (.arr items)) : n.isList = true := by
  cases n with
  | step id => cases h
  | call id params => cases h
  | sequence nodes => rfl
  | loop parts => rfl
  | branch arms =>
    rw [toValue] at h
    split at h
    · cases h
    · obtain ⟨fs, -, hfs⟩ := Except.ok_of_map_eq_ok h
      cases hfs

/-- A sub-flow or a loop is written as a list, in one of the two list
shapes. -/
theorem toValue_sequence_eq_ok {nodes : List FlowNode} {v : Value}
    (h : (FlowNode.sequence nodes).toValue = .ok v) :
    ∃ vs, toValue.listValue nodes = .ok vs ∧ v = .arr vs ∧
      ∀ n, nodes = [n] → n.isList = false := by
  by_cases hone : ∃ n, nodes = [n]
  · obtain ⟨n, rfl⟩ := hone
    rw [toValue.eq_3] at h
    split at h
    · cases h
    · rename_i hlist
      obtain ⟨vs, hvs, rfl⟩ := Except.ok_of_map_eq_ok h
      refine ⟨vs, hvs, rfl, fun m hm => ?_⟩
      cases hm
      simpa using hlist
  · rw [toValue.eq_4 nodes fun n hn => hone ⟨n, hn⟩] at h
    obtain ⟨vs, hvs, rfl⟩ := Except.ok_of_map_eq_ok h
    exact ⟨vs, hvs, rfl, fun m hm => absurd ⟨m, hm⟩ hone⟩

/-! ## Reading back what was written -/

mutual

/-- What a node writes reads back as the node. -/
theorem ofValue_of_toValue : ∀ {n : FlowNode} {v : Value}, n.toValue = .ok v → ofValue v = .ok n
  | .step id, v, h => by
    cases h
    rfl
  | .call id params, v, h => by
    cases h
    rfl
  | .sequence nodes, v, h => by
    obtain ⟨vs, hvs, rfl, hsingle⟩ := toValue_sequence_eq_ok h
    -- Written as a plain list, it is not mistaken for a loop: a lone item
    -- written as a list would be a lone list node.
    have hnot : ∀ parts, vs = [.arr parts] → False := by
      intro parts hparts
      subst hparts
      obtain ⟨n, rfl⟩ : ∃ n, nodes = [n] :=
        List.length_eq_one_iff.1 (by simpa using (length_listValue hvs).symm)
      obtain ⟨v, vs', hn, -, hv⟩ := listValue_cons_eq_ok hvs
      cases hv
      have hlist := isList_of_toValue_arr hn
      rw [hsingle n rfl] at hlist
      cases hlist
    rw [ofValue.eq_3 vs hnot, ofList_of_listValue hvs]
    rfl
  | .loop parts, v, h => by
    rw [toValue] at h
    obtain ⟨vs, hvs, rfl⟩ := Except.ok_of_map_eq_ok h
    rw [ofValue.eq_2, ofList_of_listValue hvs]
    rfl
  | .branch arms, v, h => by
    rw [toValue] at h
    split at h
    · cases h
    rename_i hlen
    obtain ⟨fs, hfs, rfl⟩ := Except.ok_of_map_eq_ok h
    -- As many members as arms, so not one: it is not mistaken for a call.
    have hnot : ∀ id params, fs = [(id, params)] → False := by
      intro id params hone
      have := length_armsValue hfs
      rw [hone] at this
      exact hlen this.symm
    rw [ofValue.eq_5 fs hnot, ofArms_of_armsValue hfs]
    rfl

/-- What a list of nodes writes reads back as the list. -/
theorem ofList_of_listValue : ∀ {nodes : List FlowNode} {vs : List Value},
    toValue.listValue nodes = .ok vs → ofValue.ofList vs = .ok nodes
  | [], vs, h => by
    rw [toValue.listValue, Except.ok.injEq] at h
    subst h
    rfl
  | n :: rest, vs, h => by
    obtain ⟨v, vs', hn, hr, rfl⟩ := listValue_cons_eq_ok h
    rw [ofValue.ofList, ofValue_of_toValue hn, ofList_of_listValue hr]
    rfl

/-- What the arms of a branch write read back as the arms. -/
theorem ofArms_of_armsValue : ∀ {arms : List (String × FlowNode)} {fs : Fields},
    toValue.armsValue arms = .ok fs → ofValue.ofArms fs = .ok arms
  | [], fs, h => by
    rw [toValue.armsValue, Except.ok.injEq] at h
    subst h
    rfl
  | (edge, n) :: rest, fs, h => by
    obtain ⟨v, fs', hn, hr, rfl⟩ := armsValue_cons_eq_ok h
    rw [ofValue.ofArms, ofValue_of_toValue hn, ofArms_of_armsValue hr]
    rfl

end

/-! ## Writing back what was read -/

theorem ofList_cons_eq_ok {v : Value} {rest : List Value} {nodes : List FlowNode}
    (h : ofValue.ofList (v :: rest) = .ok nodes) :
    ∃ n ns, ofValue v = .ok n ∧ ofValue.ofList rest = .ok ns ∧ nodes = n :: ns := by
  rw [ofValue.ofList] at h
  rcases hv : ofValue v with e | n <;> rw [hv] at h
  · cases h
  rcases hr : ofValue.ofList rest with e | ns <;> rw [hr] at h
  · cases h
  cases h
  exact ⟨n, ns, rfl, rfl, rfl⟩

theorem ofArms_cons_eq_ok {edge : String} {v : Value} {rest : Fields}
    {arms : List (String × FlowNode)} (h : ofValue.ofArms ((edge, v) :: rest) = .ok arms) :
    ∃ n ns, ofValue v = .ok n ∧ ofValue.ofArms rest = .ok ns ∧ arms = (edge, n) :: ns := by
  rw [ofValue.ofArms] at h
  rcases hv : ofValue v with e | n <;> rw [hv] at h
  · cases h
  rcases hr : ofValue.ofArms rest with e | ns <;> rw [hr] at h
  · cases h
  cases h
  exact ⟨n, ns, rfl, rfl, rfl⟩

theorem length_ofArms : ∀ {fs : Fields} {arms : List (String × FlowNode)},
    ofValue.ofArms fs = .ok arms → arms.length = fs.length
  | [], arms, h => by
    rw [ofValue.ofArms, Except.ok.injEq] at h
    rw [← h]
    rfl
  | (edge, v) :: rest, arms, h => by
    obtain ⟨n, ns, -, hr, rfl⟩ := ofArms_cons_eq_ok h
    simp [length_ofArms hr]

/-- A list node is only read from a list. -/
theorem eq_arr_of_ofValue {v : Value} {n : FlowNode} (h : ofValue v = .ok n)
    (hlist : n.isList = true) : ∃ items, v = .arr items := by
  match v, h with
  | .str id, h =>
    cases h
    cases hlist
  | .arr items, _ => exact ⟨items, rfl⟩
  | .obj fs, h =>
    by_cases hcall : ∃ id params, fs = [(id, params)]
    · obtain ⟨id, params, rfl⟩ := hcall
      cases h
      cases hlist
    · rw [ofValue.eq_5 fs fun id params hp => hcall ⟨id, params, hp⟩] at h
      obtain ⟨arms, -, rfl⟩ := Except.ok_of_map_eq_ok h
      cases hlist
  | .null, h => simp [ofValue] at h
  | .bool _, h => simp [ofValue] at h
  | .num _, h => simp [ofValue] at h

mutual

/-- A node read from a value writes back as that value. -/
theorem toValue_of_ofValue : ∀ {v : Value} {n : FlowNode}, ofValue v = .ok n → n.toValue = .ok v
  | .null, n, h => by simp [ofValue] at h
  | .bool _, n, h => by simp [ofValue] at h
  | .num _, n, h => by simp [ofValue] at h
  | .str id, n, h => by
    cases h
    rfl
  | .arr items, n, h => by
    by_cases hloop : ∃ parts, items = [.arr parts]
    · obtain ⟨parts, rfl⟩ := hloop
      rw [ofValue.eq_2] at h
      obtain ⟨ns, hns, rfl⟩ := Except.ok_of_map_eq_ok h
      rw [toValue.eq_5, listValue_of_ofList hns]
      rfl
    rw [ofValue.eq_3 items fun parts hp => hloop ⟨parts, hp⟩] at h
    obtain ⟨ns, hns, rfl⟩ := Except.ok_of_map_eq_ok h
    have hback := listValue_of_ofList hns
    -- A lone node read from a plain list is no list node: a list item alone
    -- would have been read as a loop.
    by_cases hone : ∃ m, ns = [m]
    · obtain ⟨m, rfl⟩ := hone
      have hlist : m.isList = false := by
        cases hm : m.isList with
        | false => rfl
        | true =>
          cases items with
          | nil => simp [ofValue.ofList] at hns
          | cons x xs =>
            obtain ⟨m', ns', hx, hxs, hcons⟩ := ofList_cons_eq_ok hns
            cases hcons
            obtain ⟨ys, rfl⟩ := eq_arr_of_ofValue hx hm
            cases xs with
            | nil => exact absurd ⟨ys, rfl⟩ hloop
            | cons y ys' =>
              obtain ⟨_, _, _, _, hnil⟩ := ofList_cons_eq_ok hxs
              cases hnil
      rw [toValue.eq_3, if_neg (by simp [hlist]), hback]
      rfl
    · rw [toValue.eq_4 ns fun m hm => hone ⟨m, hm⟩, hback]
      rfl
  | .obj fs, n, h => by
    by_cases hcall : ∃ id params, fs = [(id, params)]
    · obtain ⟨id, params, rfl⟩ := hcall
      cases h
      rfl
    rw [ofValue.eq_5 fs fun id params hp => hcall ⟨id, params, hp⟩] at h
    obtain ⟨arms, harms, rfl⟩ := Except.ok_of_map_eq_ok h
    -- As many arms as members, and one member would have been a call.
    have hlen : arms.length ≠ 1 := by
      rw [length_ofArms harms]
      intro hone
      obtain ⟨⟨id, params⟩, hfs⟩ := List.length_eq_one_iff.1 hone
      exact hcall ⟨id, params, hfs⟩
    rw [toValue.eq_6, if_neg hlen, armsValue_of_ofArms harms]
    rfl
termination_by v => sizeOf v

/-- A list of nodes read from values writes back as those values. -/
theorem listValue_of_ofList : ∀ {vs : List Value} {nodes : List FlowNode},
    ofValue.ofList vs = .ok nodes → toValue.listValue nodes = .ok vs
  | [], nodes, h => by
    rw [ofValue.ofList, Except.ok.injEq] at h
    subst h
    rfl
  | v :: rest, nodes, h => by
    obtain ⟨n, ns, hv, hr, rfl⟩ := ofList_cons_eq_ok h
    rw [toValue.listValue, toValue_of_ofValue hv, listValue_of_ofList hr]
    rfl
termination_by vs => sizeOf vs

/-- Branch arms read from members write back as those members. -/
theorem armsValue_of_ofArms : ∀ {fs : Fields} {arms : List (String × FlowNode)},
    ofValue.ofArms fs = .ok arms → toValue.armsValue arms = .ok fs
  | [], arms, h => by
    rw [ofValue.ofArms, Except.ok.injEq] at h
    subst h
    rfl
  | (edge, v) :: rest, arms, h => by
    obtain ⟨n, ns, hv, hr, rfl⟩ := ofArms_cons_eq_ok h
    rw [toValue.armsValue, toValue_of_ofValue hv, armsValue_of_ofArms hr]
    rfl
termination_by fs => sizeOf fs

end

/-! ## Which nodes have no written form -/

theorem listValue_error_of_mem : ∀ {nodes : List FlowNode} {n : FlowNode} {e : FlowError},
    n ∈ nodes → n.toValue = .error e → ∃ e', toValue.listValue nodes = .error e'
  | [], _, _, hmem, _ => absurd hmem List.not_mem_nil
  | m :: rest, n, e, hmem, hn => by
    rw [toValue.listValue]
    rcases List.mem_cons.1 hmem with rfl | hrest
    · rw [hn]
      exact ⟨e, rfl⟩
    · rcases hm : m.toValue with e' | v
      · exact ⟨e', rfl⟩
      · obtain ⟨e', he'⟩ := listValue_error_of_mem hrest hn
        rw [he']
        exact ⟨e', rfl⟩

theorem armsValue_error_of_mem : ∀ {arms : List (String × FlowNode)} {edge : String}
    {n : FlowNode} {e : FlowError},
    (edge, n) ∈ arms → n.toValue = .error e → ∃ e', toValue.armsValue arms = .error e'
  | [], _, _, _, hmem, _ => absurd hmem List.not_mem_nil
  | (edge', m) :: rest, edge, n, e, hmem, hn => by
    rw [toValue.armsValue]
    rcases List.mem_cons.1 hmem with h | hrest
    · cases h
      rw [hn]
      exact ⟨e, rfl⟩
    · rcases hm : m.toValue with e' | v
      · exact ⟨e', rfl⟩
      · obtain ⟨e', he'⟩ := armsValue_error_of_mem hrest hn
        rw [he']
        exact ⟨e', rfl⟩

/-- A node with a shape that has no written form somewhere inside fails to
be written. -/
theorem toValue_error_of_unwritable {n : FlowNode} (h : n.Unwritable) :
    ∃ e, n.toValue = .error e := by
  induction h with
  | listAlone hlist => exact ⟨_, by rw [toValue.eq_3, if_pos hlist]⟩
  | oneArm => exact ⟨_, by rw [toValue.eq_6, if_pos (by rfl)]⟩
  | @inSequence nodes n hmem _ ih =>
    obtain ⟨e, he⟩ := ih
    obtain ⟨e', he'⟩ := listValue_error_of_mem hmem he
    by_cases hone : ∃ m, nodes = [m]
    · obtain ⟨m, rfl⟩ := hone
      rw [toValue.eq_3]
      split
      · exact ⟨_, rfl⟩
      · rw [he']
        exact ⟨e', rfl⟩
    · rw [toValue.eq_4 nodes fun m hm => hone ⟨m, hm⟩, he']
      exact ⟨e', rfl⟩
  | inLoop hmem _ ih =>
    obtain ⟨e, he⟩ := ih
    obtain ⟨e', he'⟩ := listValue_error_of_mem hmem he
    rw [toValue.eq_5, he']
    exact ⟨e', rfl⟩
  | inBranch hmem _ ih =>
    obtain ⟨e, he⟩ := ih
    obtain ⟨e', he'⟩ := armsValue_error_of_mem hmem he
    rw [toValue.eq_6]
    split
    · exact ⟨_, rfl⟩
    · rw [he']
      exact ⟨e', rfl⟩

mutual

/-- A node that fails to be written has a shape without a written form
somewhere inside. -/
theorem unwritable_of_toValue_error : ∀ {n : FlowNode} {e : FlowError},
    n.toValue = .error e → n.Unwritable
  | .step _, _, h => by cases h
  | .call .., _, h => by cases h
  | .sequence nodes, _, h => by
    by_cases hone : ∃ m, nodes = [m]
    · obtain ⟨m, rfl⟩ := hone
      rw [toValue.eq_3] at h
      split at h
      · exact .listAlone ‹_›
      · obtain ⟨n, hn, hu⟩ := unwritable_of_listValue_error (Except.error_of_map_eq_error h)
        exact .inSequence hn hu
    · rw [toValue.eq_4 nodes fun m hm => hone ⟨m, hm⟩] at h
      obtain ⟨n, hn, hu⟩ := unwritable_of_listValue_error (Except.error_of_map_eq_error h)
      exact .inSequence hn hu
  | .loop parts, _, h => by
    rw [toValue.eq_5] at h
    obtain ⟨n, hn, hu⟩ := unwritable_of_listValue_error (Except.error_of_map_eq_error h)
    exact .inLoop hn hu
  | .branch arms, _, h => by
    rw [toValue.eq_6] at h
    split at h
    · obtain ⟨⟨edge, n⟩, rfl⟩ := List.length_eq_one_iff.1 ‹_›
      exact .oneArm
    · obtain ⟨edge, n, hn, hu⟩ :=
        unwritable_of_armsValue_error (Except.error_of_map_eq_error h)
      exact .inBranch hn hu
termination_by n => sizeOf n

/-- A list of nodes that fails to be written holds a node that fails. -/
theorem unwritable_of_listValue_error : ∀ {nodes : List FlowNode} {e : FlowError},
    toValue.listValue nodes = .error e → ∃ n ∈ nodes, n.Unwritable
  | [], _, h => by
    rw [toValue.listValue] at h
    cases h
  | n :: rest, _, h => by
    rw [toValue.listValue] at h
    rcases hn : n.toValue with e' | v
    · exact ⟨n, List.mem_cons_self, unwritable_of_toValue_error hn⟩
    · rw [hn] at h
      rcases hr : toValue.listValue rest with e'' | vs
      · obtain ⟨m, hm, hu⟩ := unwritable_of_listValue_error hr
        exact ⟨m, List.mem_cons_of_mem _ hm, hu⟩
      · rw [hr] at h
        cases h
termination_by nodes => sizeOf nodes

/-- Branch arms that fail to be written hold an arm that fails. -/
theorem unwritable_of_armsValue_error : ∀ {arms : List (String × FlowNode)} {e : FlowError},
    toValue.armsValue arms = .error e → ∃ edge n, (edge, n) ∈ arms ∧ n.Unwritable
  | [], _, h => by
    rw [toValue.armsValue] at h
    cases h
  | (edge, n) :: rest, _, h => by
    rw [toValue.armsValue] at h
    rcases hn : n.toValue with e' | v
    · exact ⟨edge, n, List.mem_cons_self, unwritable_of_toValue_error hn⟩
    · rw [hn] at h
      rcases hr : toValue.armsValue rest with e'' | fs
      · obtain ⟨edge', m, hm, hu⟩ := unwritable_of_armsValue_error hr
        exact ⟨edge', m, List.mem_cons_of_mem _ hm, hu⟩
      · rw [hr] at h
        cases h
termination_by arms => sizeOf arms

end

/-- Writing a node fails exactly when a shape without a written form sits
somewhere inside it. -/
theorem toValue_error_iff (n : FlowNode) : (∃ e, n.toValue = .error e) ↔ n.Unwritable :=
  ⟨fun ⟨_, h⟩ => unwritable_of_toValue_error h, toValue_error_of_unwritable⟩

end FlowNode

/-! ## Documents in key order -/

/-- Every object inside the value lists its members in key order, each key
once: the form documents hold values in. -/
inductive Value.Ordered : Value → Prop where
  | null : Value.Ordered .null
  | bool (b : Bool) : Value.Ordered (.bool b)
  | num (n : Number) : Value.Ordered (.num n)
  | str (s : String) : Value.Ordered (.str s)
  | arr {items : List Value} : (∀ v ∈ items, Value.Ordered v) → Value.Ordered (.arr items)
  | obj {fs : Fields} : fs.Pairwise (fun a b => a.1 < b.1) → (∀ m ∈ fs, Value.Ordered m.2) →
      Value.Ordered (.obj fs)

theorem Value.Ordered.member {fs : Fields} {k : String} {u : Value} (h : (Value.obj fs).Ordered)
    (hk : (k, u) ∈ fs) : u.Ordered := by
  cases h with
  | obj _ hm => exact hm (k, u) hk

theorem Value.Ordered.item {items : List Value} {u : Value} (h : (Value.arr items).Ordered)
    (hu : u ∈ items) : u.Ordered := by
  cases h with
  | arr hm => exact hm u hu

/-! ## Values without doubles

Doubles compare as doubles, so `==` is not equality on a value holding one:
`nan` differs from itself. On the other values `==` is equality, which lets a
read be checked against a value by evaluating `==`. -/

/-- No double sits anywhere inside the value. -/
def Value.exact : Value → Bool
  | .num (.float _) => false
  | .arr items => exactList items
  | .obj fs => exactFields fs
  | _ => true
where
  /-- No double inside any of the items. -/
  exactList : List Value → Bool
    | [] => true
    | v :: vs => v.exact && exactList vs
  /-- No double inside any of the members. -/
  exactFields : Fields → Bool
    | [] => true
    | (_, v) :: fs => v.exact && exactFields fs

mutual

/-- On a value without doubles, `==` is equality. -/
theorem Value.eq_of_beq : ∀ {v w : Value}, v.exact = true → v.beq w = true → v = w
  | .null, w, _, h => by cases w <;> simp_all [Value.beq]
  | .bool a, w, _, h => by cases w <;> simp_all [Value.beq]
  | .num (.int a), w, _, h => by
    rcases w with _ | _ | (_ | _) | _ | _ | _ <;> simp_all [Value.beq, Number.beq]
  | .num (.float _), _, hv, _ => by simp [Value.exact] at hv
  | .str a, w, _, h => by cases w <;> simp_all [Value.beq]
  | .arr xs, w, hv, h => by
    cases w with
    | arr ys =>
      simp only [Value.exact] at hv
      simp only [Value.beq] at h
      rw [Value.eq_of_beqList hv h]
    | _ => simp [Value.beq] at h
  | .obj fs, w, hv, h => by
    cases w with
    | obj gs =>
      simp only [Value.exact] at hv
      simp only [Value.beq] at h
      rw [Value.eq_of_beqFields hv h]
    | _ => simp [Value.beq] at h

/-- On items without doubles, `==` item by item is equality. -/
theorem Value.eq_of_beqList : ∀ {xs ys : List Value},
    Value.exact.exactList xs = true → Value.beq.beqList xs ys = true → xs = ys
  | [], ys, _, h => by cases ys <;> simp_all [Value.beq.beqList]
  | _ :: _, [], _, h => by simp [Value.beq.beqList] at h
  | x :: xs, y :: ys, hv, h => by
    simp only [Value.exact.exactList, Bool.and_eq_true] at hv
    simp only [Value.beq.beqList, Bool.and_eq_true] at h
    rw [Value.eq_of_beq hv.1 h.1, Value.eq_of_beqList hv.2 h.2]

/-- On members without doubles, `==` member by member is equality. -/
theorem Value.eq_of_beqFields : ∀ {fs gs : Fields},
    Value.exact.exactFields fs = true → Value.beq.beqFields fs gs = true → fs = gs
  | [], gs, _, h => by cases gs <;> simp_all [Value.beq.beqFields]
  | _ :: _, [], _, h => by simp [Value.beq.beqFields] at h
  | (k, v) :: fs, (l, w) :: gs, hv, h => by
    simp only [Value.exact.exactFields, Bool.and_eq_true] at hv
    simp only [Value.beq.beqFields, Bool.and_eq_true, beq_iff_eq] at h
    rw [h.1.1, Value.eq_of_beq hv.1 h.1.2, Value.eq_of_beqFields hv.2 h.2]

end

/-- A result whose answer is `==` to a value without doubles is that value. -/
theorem Except.eq_ok_of_beq {ε : Type} {x : Except ε Value} {v : Value} (hv : v.exact = true)
    (h : x.toOption.any v.beq = true) : x = .ok v := by
  obtain ⟨w, hw, hbeq⟩ := Except.exists_ok_of_any h
  rw [hw, Value.eq_of_beq hv hbeq]

/-- A key past every key of the members is stored last. -/
theorem Fields.insert_of_lt {fs : Fields} {key : String} (value : Value)
    (h : ∀ m ∈ fs, m.1 < key) : fs.insert key value = fs ++ [(key, value)] := by
  induction fs with
  | nil => rfl
  | cons m rest ih =>
    obtain ⟨k, v⟩ := m
    have hk : k < key := h (k, v) List.mem_cons_self
    have hne : key ≠ k := fun e => String.lt_irrefl k (e ▸ hk)
    rw [Fields.insert, if_neg (String.lt_asymm hk), if_neg hne,
      ih fun m hm => h m (List.mem_cons_of_mem _ hm)]
    rfl

namespace Json.Tree

mutual

/-- A document in key order is read back from its tree as itself. -/
theorem toValue_ofValue : ∀ {v : Value}, v.Ordered → (ofValue v).toValue = v
  | .null, _ => rfl
  | .bool _, _ => rfl
  | .num _, _ => rfl
  | .str _, _ => rfl
  | .arr items, h => by
    cases h with
    | arr h =>
      rw [ofValue, toValue, toValues_ofValues h]
  | .obj fs, h => by
    cases h with
    | obj hs hm =>
      rw [ofValue, toValue, toFields_ofFields hs hm (fun _ h => absurd h List.not_mem_nil)]
      rfl

theorem toValues_ofValues : ∀ {items : List Value}, (∀ v ∈ items, v.Ordered) →
    toValues (ofValues items) = items
  | [], _ => rfl
  | v :: rest, h => by
    rw [ofValues, toValues, toValue_ofValue (h v List.mem_cons_self),
      toValues_ofValues fun u hu => h u (List.mem_cons_of_mem _ hu)]

/-- Members in key order, each key past every key already collected, are
collected in order. -/
theorem toFields_ofFields : ∀ {fs acc : Fields}, fs.Pairwise (fun a b => a.1 < b.1) →
    (∀ m ∈ fs, m.2.Ordered) → (∀ a ∈ acc, ∀ b ∈ fs, a.1 < b.1) →
    toFields acc (ofFields fs) = acc ++ fs
  | [], acc, _, _, _ => by
    rw [ofFields, toFields, List.append_nil]
  | (k, v) :: rest, acc, hs, hm, hacc => by
    obtain ⟨hfirst, hrest⟩ := List.pairwise_cons.1 hs
    rw [ofFields, toFields, toValue_ofValue (hm (k, v) List.mem_cons_self),
      Fields.insert_of_lt v fun a ha => hacc a ha (k, v) List.mem_cons_self,
      toFields_ofFields hrest (fun m h => hm m (List.mem_cons_of_mem _ h)) ?_]
    · simp
    · intro a ha b hb
      rcases List.mem_append.1 ha with ha | ha
      · exact hacc a ha b (List.mem_cons_of_mem _ hb)
      · rw [List.mem_singleton] at ha
        subst ha
        exact hfirst b hb

end

end Json.Tree

namespace FlowDefinition

open FlowNode

/-- A list of nodes written and put in a tree reads back as the nodes. -/
theorem mapM_nodeDecode {nodes : List FlowNode} {vs : List Value}
    (h : FlowNode.toValue.listValue nodes = .ok vs) (hord : ∀ v ∈ vs, v.Ordered)
    (src : Source) :
    (Json.Tree.ofValues vs).mapM (nodeDecode src) = .ok nodes := by
  induction nodes generalizing vs with
  | nil =>
    rw [FlowNode.toValue.listValue, Except.ok.injEq] at h
    subst h
    rfl
  | cons n rest ih =>
    obtain ⟨v, vs', hn, hr, rfl⟩ := listValue_cons_eq_ok h
    rw [Json.Tree.ofValues, List.mapM_cons, ih hr fun u hu => hord u (List.mem_cons_of_mem _ hu)]
    simp [nodeDecode, Json.Tree.toValue_ofValue (hord v List.mem_cons_self),
      ofValue_of_toValue hn, Except.mapError, bind, Except.bind, pure, Except.pure]

/-- How a definition is written: its name, its nodes as written, and its
initial state when it has one. -/
theorem toValue_eq_ok {d : FlowDefinition} {v : Value} (h : d.toValue = .ok v) :
    ∃ vs, FlowNode.toValue.listValue d.nodes = .ok vs ∧
      v = Value.object ([("name", .str d.name), ("nodes", .arr vs)] ++
        match d.initialState with
        | some s => [("initialState", s)]
        | none => []) := by
  unfold FlowDefinition.toValue FlowDefinition.members at h
  rcases hn : FlowNode.toValue.listValue d.nodes with e | vs <;>
    simp only [hn, bind, Except.bind, pure, Except.pure] at h
  · cases h
  · cases h
    exact ⟨vs, rfl, rfl⟩

/-- A definition whose written form keeps every object in key order reads
back from it, except that a null initial state is read as no initial
state. -/
theorem parseDocument_toValue {d : FlowDefinition} {v : Value}
    (h : d.toValue = .ok v) (hord : v.Ordered) :
    parseDocument v = .ok { d with initialState := d.initialState.filter fun s => !s.isNull } := by
  obtain ⟨vs, hvs, rfl⟩ := toValue_eq_ok h
  obtain ⟨name, nodes, init⟩ := d
  -- the members are kept in key order: initial state, name, nodes
  have hnodes : ¬ ("nodes" : String) < "name" := by decide
  have hnodes' : ("nodes" : String) ≠ "name" := by decide
  have hinit : ("initialState" : String) < "name" := by decide
  have hitems : ∀ u ∈ vs, u.Ordered := fun u hu =>
    (hord.member (k := "nodes")
      (by cases init <;> simp [Fields.ofList, Fields.insert, hnodes, hnodes', hinit])).item hu
  -- The record is read member by member; only the initial state, read as
  -- any value, needs its own cases.
  cases init with
  | none =>
    simp [parseDocument, Value.object, Fields.ofList, Fields.insert, Fields.contains, Fields.find?,
      Decode.fromValue, decode, Decode.record, Json.Tree.ofValue, Json.Tree.ofFields,
      Decode.fromObject, Decode.opt, Decode.req, Decode.problem, Decode.string, Decode.list,
      Decode.Found.getD, Decode.Found.get, Decode.Found.opt, Decode.Found.tree?,
      mapM_nodeDecode hvs hitems, bind, Except.bind, Except.map, pure, Except.pure,
      Except.mapError, hnodes, hnodes']
  | some s =>
    have hback : (Json.Tree.ofValue s).toValue = s :=
      Json.Tree.toValue_ofValue
        (hord.member (k := "initialState")
          (by simp [Fields.ofList, Fields.insert, hnodes, hnodes', hinit]))
    cases s <;> simp [parseDocument, Value.object, Fields.ofList, Fields.insert, Fields.contains,
      Fields.find?, Decode.fromValue, decode, Decode.record, Json.Tree.ofValue,
      Json.Tree.ofFields, Decode.fromObject, Decode.opt, Decode.req, Decode.problem,
      Decode.string, Decode.list, Decode.Found.getD, Decode.Found.get, Decode.Found.opt,
      Decode.Found.tree?, mapM_nodeDecode hvs hitems, bind, Except.bind, Except.map, pure,
      Except.pure, Except.mapError, Decode.optional, Decode.any, Json.Tree.toValue,
      Value.isNull, hnodes, hnodes', hinit] at hback ⊢ <;>
      simp [Option.filter, hback]

/-- A text read as the written form of a definition reads back as the
definition, with a null initial state read as none. -/
theorem parseFlow_of_read {d : FlowDefinition} {v : Value} {t : String}
    (h : d.toValue = .ok v) (hord : v.Ordered) (hread : Yaml.read t = .ok v) :
    parseFlow t = .ok { d with initialState := d.initialState.filter fun s => !s.isNull } := by
  rw [parseFlow, hread]
  exact parseDocument_toValue h hord

end FlowDefinition

/-- Nodes and definitions read back from their written forms. A node fails to
be written exactly when a shape without a written form sits inside it; a
written node reads back as itself, and a node read from a value writes back
as that value. A definition whose written form keeps its objects in key order
reads back from it, and from its canonical text wherever that text is read as
the written form, save that a null initial state is read as none. -/
theorem written_form_round_trip (n : FlowNode) (d : FlowDefinition) (v : Value) :
    ((∃ e, n.toValue = .error e) ↔ n.Unwritable) ∧
    (n.toValue = .ok v → FlowNode.ofValue v = .ok n) ∧
    (FlowNode.ofValue v = .ok n → n.toValue = .ok v) ∧
    (d.toValue = .ok v → v.Ordered →
      parseDocument v = .ok { d with initialState := d.initialState.filter fun s => !s.isNull }) ∧
    (∀ t : String, d.toValue = .ok v → v.Ordered → d.canonical = .ok t → Yaml.read t = .ok v →
      parseFlow t = .ok { d with initialState := d.initialState.filter fun s => !s.isNull }) :=
  ⟨FlowNode.toValue_error_iff n, FlowNode.ofValue_of_toValue, FlowNode.toValue_of_ofValue,
    FlowDefinition.parseDocument_toValue, fun _ h hord _ hread => FlowDefinition.parseFlow_of_read h hord hread⟩

/-- A sub-flow of the three shapes that arity tells apart: a step call (an
object of one key), a branch of two arms (an object of two) and a loop (a list
holding one list). -/
def shapesNode : FlowNode :=
  .sequence [.call "x" (.obj [("k", .num (.int 1))]),
    .branch [("no", .step "b"), ("yes", .sequence [.step "c", .step "d"])],
    .loop [.step "ctl", .step "act"]]

/-- The written form of `shapesNode`. -/
def shapesValue : Value :=
  .arr [.obj [("x", .obj [("k", .num (.int 1))])],
    .obj [("no", .str "b"), ("yes", .arr [.str "c", .str "d"])],
    .arr [.arr [.str "ctl", .str "act"]]]

/-- The three shapes are written apart and read back as themselves, also
inside a definition; a sub-flow holding only a loop or only a sub-flow, and a
loop with a one-arm branch among its actions, have no written form. -/
theorem written_form_tells_shapes_apart :
    shapesNode.toValue = .ok shapesValue ∧ FlowNode.ofValue shapesValue = .ok shapesNode ∧
    (FlowNode.sequence [.loop [.step "a"]]).Unwritable ∧
    (FlowNode.sequence [.sequence [.step "a", .step "b"]]).Unwritable ∧
    (FlowNode.loop [.step "c", .branch [("only", .step "a")]]).Unwritable ∧
    parseDocument (.obj [("name", .str "flow"), ("nodes", .arr [shapesValue])]) =
      .ok ⟨"flow", [shapesNode], none⟩ := by
  have hwritten : shapesNode.toValue = .ok shapesValue := rfl
  -- The document lists its members in key order, and so does every object in it.
  have hord : (Value.obj [("name", .str "flow"), ("nodes", .arr [shapesValue])]).Ordered := by
    refine .obj (by decide) ?_
    simp only [List.forall_mem_cons, List.not_mem_nil, IsEmpty.forall_iff, implies_true, and_true]
    refine ⟨.str _, .arr ?_⟩
    simp only [shapesValue, List.forall_mem_cons, List.not_mem_nil, IsEmpty.forall_iff,
      implies_true, and_true]
    refine .arr ?_
    simp only [List.forall_mem_cons, List.not_mem_nil, IsEmpty.forall_iff, implies_true, and_true]
    refine ⟨.obj (by decide) ?_, .obj (by decide) ?_, .arr ?_⟩ <;>
      simp only [List.forall_mem_cons, List.not_mem_nil, IsEmpty.forall_iff, implies_true, and_true]
    · exact .obj (by decide) (by simp [Value.Ordered.num])
    · exact ⟨.str _, .arr (by simp [Value.Ordered.str])⟩
    · exact .arr (by simp [Value.Ordered.str])
  have hnode := written_form_round_trip shapesNode ⟨"flow", [shapesNode], none⟩ shapesValue
  have hdoc := written_form_round_trip shapesNode ⟨"flow", [shapesNode], none⟩
    (.obj [("name", .str "flow"), ("nodes", .arr [shapesValue])])
  have hloop := written_form_round_trip (.sequence [.loop [.step "a"]]) ⟨"flow", [], none⟩ shapesValue
  have hsub := written_form_round_trip (.sequence [.sequence [.step "a", .step "b"]])
    ⟨"flow", [], none⟩ shapesValue
  have harm := written_form_round_trip (.loop [.step "c", .branch [("only", .step "a")]])
    ⟨"flow", [], none⟩ shapesValue
  exact ⟨hwritten, hnode.2.1 hwritten, hloop.1.1 ⟨_, rfl⟩, hsub.1.1 ⟨_, rfl⟩, harm.1.1 ⟨_, rfl⟩,
    hdoc.2.2.2.1 rfl hord⟩

/-- A null initial state is lost: the definition with no name, no nodes and a
null initial state is written as a document in key order and as a canonical
text read as that document, and both read back with no initial state. -/
theorem null_initialState_reads_as_none :
    ∃ v t, (⟨"", [], some .null⟩ : FlowDefinition).toValue = .ok v ∧ v.Ordered ∧
      (⟨"", [], some .null⟩ : FlowDefinition).canonical = .ok t ∧ Yaml.read t = .ok v ∧
      parseDocument v = .ok ⟨"", [], none⟩ ∧ parseFlow t = .ok ⟨"", [], none⟩ ∧
      parseFlow t ≠ .ok ⟨"", [], some .null⟩ := by
  let t := "\x7b\n  \"name\": \"\",\n  \"nodes\": [],\n  \"initialState\": null\n\x7d"
  let v := Value.obj [("initialState", .null), ("name", .str ""), ("nodes", .arr [])]
  have hv : (⟨"", [], some .null⟩ : FlowDefinition).toValue = .ok v := rfl
  have hord : v.Ordered :=
    .obj (by decide) (by simp [Value.Ordered.null, Value.Ordered.str, Value.Ordered.arr])
  have hread : Yaml.read t = .ok v := Except.eq_ok_of_beq (by decide) (by decide +kernel)
  have hcanon : (⟨"", [], some .null⟩ : FlowDefinition).canonical = .ok t := by
    simp [t, FlowDefinition.canonical, FlowDefinition.members, FlowNode.toValue.listValue,
      Value.prettyAt.members, Value.prettyAt, Value.compact, Value.indentText, Json.quote,
      String.foldl, Json.escapeChar, bind, Except.bind, pure, Except.pure]
  have hdoc := FlowDefinition.parseDocument_toValue hv hord
  have hflow := FlowDefinition.parseFlow_of_read hv hord hread
  simp only [Option.filter, Value.isNull, Bool.not_true] at hdoc hflow
  refine ⟨v, t, hv, hord, hcanon, hread, hdoc, hflow, ?_⟩
  rw [hflow]
  simp

end Flowline
