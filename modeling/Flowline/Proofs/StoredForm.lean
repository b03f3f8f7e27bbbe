import Mathlib
import Flowline.Proofs.WrittenForm
import Flowline.Proofs.ArenaLayout
import Flowline.Proofs.InstantText
import Flowline.Proofs.Merging
set_option autoImplicit false

/-!
# Stored records read back

A paused execution is kept as a document: its ticket, the definition, the
execution with every instance and step record, and the cursor. This module
shows that each of these records is read back from the document it is
written as, member by member, whatever source the document came from.

The reading is exact except in three places, each a member that cannot
tell two values apart once written:

* an optional value that is present but null (an instance's result, a
  definition's initial state) is read as absent, since `Decode.Found.opt`
  takes a null member for a missing one;
* a branch arm named after one of the reserved names `main`, `sequence`,
  `loop` or `loop-actions` is read as that branch type;
* an instant that lies outside the years the reader takes, or a leap second
  that does not end a minute, is written but not read.

The main statement is `PausedExecution.decode_toValue`: a paused execution
that `PausedExecution.Storable` admits reads back from its written form as
`PausedExecution.restored` says. Every record is read by the same step,
`Decode.record_bind`: an object in key order whose members each pass their
check is read, and each member is found where the object has it.
-/

namespace Flowline

open Json (Tree)

/-! ## Objects built from pairs -/

namespace Fields

/-- Members in strictly increasing key order. -/
def Sorted (fs : Fields) : Prop := fs.Pairwise (fun a b => a.1 < b.1)

theorem sorted_insert : ∀ {fs : Fields} (key : String) (value : Value), fs.Sorted →
    (fs.insert key value).Sorted ∧ ∀ m ∈ fs.insert key value, m.1 = key ∨ ∃ v, (m.1, v) ∈ fs
  | [], key, value, _ => by simp [insert, Sorted]
  | (k, v) :: rest, key, value, hs => by
    obtain ⟨hfirst, hrest⟩ := List.pairwise_cons.1 hs
    unfold insert
    split
    · -- The new member goes first.
      rename_i hlt
      refine ⟨List.Pairwise.cons ?_ hs, ?_⟩
      · intro m hm
        rcases List.mem_cons.1 hm with rfl | hm
        · exact hlt
        · exact String.lt_trans hlt (hfirst m hm)
      · intro m hm
        rcases List.mem_cons.1 hm with rfl | hm
        · exact .inl rfl
        · exact .inr ⟨m.2, hm⟩
    · split
      · -- The new member replaces the first one.
        rename_i heq
        subst heq
        refine ⟨List.Pairwise.cons hfirst hrest, ?_⟩
        intro m hm
        rcases List.mem_cons.1 hm with rfl | hm
        · exact .inl rfl
        · exact .inr ⟨m.2, List.mem_cons_of_mem _ hm⟩
      · -- The new member goes further down.
        rename_i hnlt hne
        have hgt : k < key := lt_of_le_of_ne (not_lt.1 hnlt) (Ne.symm hne)
        obtain ⟨hs', hmem⟩ := sorted_insert key value hrest
        refine ⟨List.Pairwise.cons ?_ hs', ?_⟩
        · intro m hm
          rcases hmem m hm with hkey | ⟨u, hu⟩
          · exact hkey ▸ hgt
          · exact hfirst (m.1, u) hu
        · intro m hm
          rcases List.mem_cons.1 hm with rfl | hm
          · exact .inr ⟨v, List.mem_cons_self⟩
          · rcases hmem m hm with hkey | ⟨u, hu⟩
            · exact .inl hkey
            · exact .inr ⟨u, List.mem_cons_of_mem _ hu⟩

/-- An object built from pairs has its members in key order. -/
theorem sorted_ofList (pairs : List (String × Value)) : (Fields.ofList pairs).Sorted := by
  unfold Fields.ofList
  -- Each insertion keeps the members in order.
  suffices h : ∀ acc : Fields, acc.Sorted →
      (pairs.foldl (fun acc (p : String × Value) => acc.insert p.1 p.2) acc).Sorted from
    h [] List.Pairwise.nil
  induction pairs with
  | nil => exact fun acc h => h
  | cons p rest ih => exact fun acc h => ih _ (sorted_insert p.1 p.2 h).1

theorem keys_nodup {fs : Fields} (hs : fs.Sorted) : (fs.map Prod.fst).Nodup := by
  induction fs with
  | nil => exact List.nodup_nil
  | cons m rest ih =>
    obtain ⟨hfirst, hrest⟩ := List.pairwise_cons.1 hs
    refine List.nodup_cons.2 ⟨?_, ih hrest⟩
    intro hk
    obtain ⟨m', hm', he⟩ := List.mem_map.1 hk
    have hlt := hfirst m' hm'
    rw [he] at hlt
    exact String.lt_irrefl m.1 hlt

theorem sorted_erase {fs : Fields} (hs : fs.Sorted) (key : String) : (fs.erase key).Sorted := by
  refine List.Pairwise.sublist ?_ hs
  induction fs with
  | nil => exact List.Sublist.slnil
  | cons m rest ih =>
    obtain ⟨k, v⟩ := m
    unfold erase
    split
    · exact List.sublist_cons_self _ _
    · exact (ih (List.pairwise_cons.1 hs).2).cons_cons _

end Fields

namespace Json.Tree

theorem keys_ofFields : ∀ fs : Fields, (ofFields fs).map (·.1) = fs.map (·.1)
  | [] => rfl
  | (k, v) :: rest => by simp [ofFields, keys_ofFields rest]

theorem mem_ofFields {k : String} {t : Tree} :
    ∀ {fs : Fields}, (k, t) ∈ ofFields fs → ∃ v, (k, v) ∈ fs ∧ t = ofValue v
  | [], h => by cases h
  | (k', v) :: rest, h => by
    rw [ofFields, List.mem_cons] at h
    rcases h with heq | hm
    · cases heq
      exact ⟨v, List.mem_cons_self, rfl⟩
    · obtain ⟨u, hu, rfl⟩ := mem_ofFields hm
      exact ⟨u, List.mem_cons_of_mem _ hu, rfl⟩

theorem ofValues_eq_map : ∀ vs : List Value, ofValues vs = vs.map ofValue
  | [] => rfl
  | v :: rest => by rw [ofValues, ofValues_eq_map rest, List.map_cons]

end Json.Tree

/-! ## Records -/

namespace Decode

/-- Members taken from an object in order are all accepted when no key comes
twice, none was taken before, each passes its check, and every required
member is given or was taken. -/
theorem fromObject_ok {src : Source} {members : List Member} :
    ∀ (ms found : List (String × Tree)), (ms.map (·.1)).Nodup →
      (∀ p ∈ ms, ∀ q ∈ found, q.1 ≠ p.1) →
      (∀ p ∈ ms, ∀ m ∈ members, m.name = p.1 → m.check src p.2 = none) →
      (∀ m ∈ members, m.fallback = .required → (∃ q ∈ found, q.1 = m.name) ∨ ∃ p ∈ ms, p.1 = m.name) →
      ∃ found', fromObject src members found ms = .ok found'
  | [], found, _, _, _, hreq => by
    rw [fromObject]
    -- Every required member was taken.
    have hnone : members.find? (fun m => m.fallback = .required && !found.any (·.1 == m.name)) = none := by
      rw [List.find?_eq_none]
      intro m hm hmiss
      simp only [Bool.and_eq_true, decide_eq_true_eq, Bool.not_eq_true', List.any_eq_false,
        beq_iff_eq] at hmiss
      rcases hreq m hm hmiss.1 with ⟨q, hq, hname⟩ | ⟨p, hp, -⟩
      · exact hmiss.2 q hq hname
      · cases hp
    rw [hnone]
    exact ⟨found, rfl⟩
  | (k, t) :: rest, found, hnodup, hfresh, hcheck, hreq => by
    obtain ⟨hk, hnodup'⟩ := List.nodup_cons.1 hnodup
    rw [fromObject]
    split
    · -- A member the record does not know is skipped.
      rename_i hnone
      refine fromObject_ok rest found hnodup' (fun p hp => hfresh p (List.mem_cons_of_mem _ hp))
        (fun p hp => hcheck p (List.mem_cons_of_mem _ hp)) ?_
      intro m hm hr
      rcases hreq m hm hr with hq | ⟨p, hp, hname⟩
      · exact .inl hq
      · rcases List.mem_cons.1 hp with rfl | hp
        · exact absurd (List.find?_eq_none.1 hnone m hm) (by simp [← hname])
        · exact .inr ⟨p, hp, hname⟩
    · rename_i m hm
      have hmem := List.mem_of_find?_eq_some hm
      have hname : m.name = k := by simpa using List.find?_some hm
      have htaken : found.any (·.1 == k) = false := by
        rw [List.any_eq_false]
        intro q hq hqk
        exact hfresh (k, t) List.mem_cons_self q hq (by simpa using hqk)
      rw [htaken, if_neg Bool.false_ne_true, hcheck (k, t) List.mem_cons_self m hmem hname]
      -- The member is taken; the rest go on with it.
      refine fromObject_ok rest ((k, t) :: found) hnodup' ?_
        (fun p hp => hcheck p (List.mem_cons_of_mem _ hp)) ?_
      · intro p hp q hq
        rcases List.mem_cons.1 hq with rfl | hq
        · exact fun e => hk (List.mem_map.2 ⟨p, hp, e.symm⟩)
        · exact hfresh p (List.mem_cons_of_mem _ hp) q hq
      · intro m' hm' hr
        rcases hreq m' hm' hr with ⟨q, hq, hq'⟩ | ⟨p, hp, hp'⟩
        · exact .inl ⟨q, List.mem_cons_of_mem _ hq, hq'⟩
        · rcases List.mem_cons.1 hp with rfl | hp
          · exact .inl ⟨_, List.mem_cons_self, hp'⟩
          · exact .inr ⟨p, hp, hp'⟩

/-- What a member needs to be read from an object: the value the object
gives it passes the member's check, and a required member is given. -/
def Member.Given (src : Source) (fs : Fields) (m : Member) : Prop :=
  (∀ v, fs.find? m.name = some v → m.check src (Tree.ofValue v) = none) ∧
    (m.fallback = .required → (fs.find? m.name).isSome)

/-- A record written as an object is read when each member it knows is
given as it needs; each member is then found where the object has it. -/
theorem record_reads {expected : String} {members : List Member} {src : Source} {fs : Fields}
    (hs : fs.Sorted) (hgiven : ∀ m ∈ members, m.Given src fs) :
    ∃ f, record expected members src (Tree.ofValue (.obj fs)) = .ok f ∧ f.source = src ∧
      ∀ m ∈ members, f.tree? m.name = (fs.find? m.name).map Tree.ofValue := by
  have hok : ∃ found, fromObject src members [] (Tree.ofFields fs) = .ok found := by
    refine fromObject_ok _ [] ?_ (fun _ _ q hq => by cases hq) ?_ ?_
    · rw [Tree.keys_ofFields]
      exact Fields.keys_nodup hs
    · intro p hp m hm hname
      obtain ⟨v, hv, hpv⟩ := Tree.mem_ofFields (k := p.1) (t := p.2) hp
      rw [hpv]
      exact (hgiven m hm).1 v (hname ▸ Fields.find?_of_mem (Fields.keys_nodup hs) hv)
    · intro m hm hr
      obtain ⟨v, hv⟩ := Option.isSome_iff_exists.1 ((hgiven m hm).2 hr)
      have hfind := Tree.find?_ofFields m.name fs
      rw [hv] at hfind
      obtain ⟨p, hp, -⟩ := Option.map_eq_some_iff.1 hfind
      exact .inr ⟨p, List.mem_of_find?_eq_some hp, by simpa using List.find?_some hp⟩
  obtain ⟨found, hfound⟩ := hok
  have hrec : record expected members src (Tree.ofValue (.obj fs)) = .ok ⟨src, found⟩ := by
    simp only [record, Tree.ofValue, hfound]
    rfl
  refine ⟨_, hrec, rfl, fun m hm => (tree?_record hrec ⟨m, hm, rfl⟩).2⟩

/-- The step every record decoder takes: read the record, then build the
value from the members found. -/
theorem record_bind {β : Type} {expected : String} {members : List Member} {src : Source}
    {fs : Fields} {k : Found → Except String β} {b : β} (hs : fs.Sorted)
    (hgiven : ∀ m ∈ members, m.Given src fs)
    (hk : ∀ f : Found, f.source = src →
      (∀ m ∈ members, f.tree? m.name = (fs.find? m.name).map Tree.ofValue) → k f = .ok b) :
    (record expected members src (Tree.ofValue (.obj fs)) >>= k) = .ok b := by
  obtain ⟨f, hf, hsrc, htree⟩ := @record_reads expected members src fs hs hgiven
  rw [hf]
  exact hk f hsrc htree

theorem given_req {α : Type} {src : Source} {fs : Fields} {name : String} {d : Decode α} {v : Value}
    {a : α} (hf : fs.find? name = some v) (hd : d src (Tree.ofValue v) = .ok a) :
    (req name d).Given src fs := by
  refine ⟨fun u hu => ?_, fun _ => by simp [req, hf]⟩
  rw [req, hf, Option.some.injEq] at hu
  subst hu
  simp [req, problem, hd]

theorem given_opt {α : Type} {src : Source} {fs : Fields} {name : String} {d : Decode α}
    (hd : ∀ v, fs.find? name = some v → ∃ a, d src (Tree.ofValue v) = .ok a) :
    (opt name d).Given src fs := by
  refine ⟨fun u hu => ?_, fun h => by cases h⟩
  obtain ⟨a, ha⟩ := hd u hu
  simp [opt, problem, ha]

theorem given_opt_some {α : Type} {src : Source} {fs : Fields} {name : String} {d : Decode α}
    {v : Value} {a : α} (hf : fs.find? name = some v) (hd : d src (Tree.ofValue v) = .ok a) :
    (opt name d).Given src fs :=
  given_opt fun u hu => ⟨a, by rw [hf, Option.some.injEq] at hu; exact hu ▸ hd⟩

/-! ## Reading values -/

theorem unitVariant_str {α : Type} (choices : List (String × α)) (src : Source) (s : String) :
    unitVariant choices src (.str s) = pick choices s := by
  cases src <;> rfl

theorem string_str (src : Source) (s : String) : string src (Tree.ofValue (.str s)) = .ok s := rfl

theorem count_ofNat {n : Nat} (h : n < Nat.pow 2 64) (src : Source) :
    count src (Tree.ofValue (.ofNat n)) = .ok n := by
  have hrange : 0 ≤ (n : Int) ∧ (n : Int) < (Nat.pow 2 64 : Nat) := ⟨Int.natCast_nonneg n, by omega⟩
  simp only [count, natBelow64, Value.ofNat, Tree.ofValue, if_pos hrange, Int.toNat_natCast]

theorem any_ofValue {v : Value} (h : v.Ordered) (src : Source) : any src (Tree.ofValue v) = .ok v := by
  simp only [any, Tree.toValue_ofValue h]

theorem optional_ofValue {α : Type} {d : Decode α} {src : Source} {v : Value} {a : α}
    (hv : v.isNull = false) (hd : d src (Tree.ofValue v) = .ok a) :
    optional d src (Tree.ofValue v) = .ok (some a) := by
  cases v <;> simp_all [optional, Value.isNull, Tree.ofValue, Except.map]

/-- A member that may hold any value, null included, passes its check. -/
theorem given_optional_any {src : Source} {fs : Fields} {name : String} :
    (opt name (optional any)).Given src fs := by
  refine given_opt fun v _ => ?_
  cases v <;> exact ⟨_, rfl⟩

/-- An optional member written only when its value is set, and then not
null, passes its check. -/
theorem given_optional {α β : Type} {src : Source} {fs : Fields} {name : String} {d : Decode α}
    {o : Option β} {g : β → Value} {r : β → α} (hf : fs.find? name = o.map g)
    (hnull : ∀ b ∈ o, (g b).isNull = false) (hd : ∀ b ∈ o, d src (Tree.ofValue (g b)) = .ok (r b)) :
    (opt name (optional d)).Given src fs := by
  refine given_opt fun v hv => ?_
  rw [hf] at hv
  obtain ⟨b, hb, rfl⟩ := Option.map_eq_some_iff.1 hv
  exact ⟨some (r b), optional_ofValue (hnull b hb) (hd b hb)⟩

/-- Items written one by one are read one by one. -/
theorem list_map {α β : Type} {d : Decode α} {src : Source} {g : β → Value} {r : β → α} :
    ∀ {xs : List β}, (∀ x ∈ xs, d src (Tree.ofValue (g x)) = .ok (r x)) →
      list d src (Tree.ofValue (.arr (xs.map g))) = .ok (xs.map r)
  | [], _ => rfl
  | x :: rest, h => by
    have hrest : list d src (Tree.ofValue (.arr (rest.map g))) = .ok (rest.map r) :=
      list_map fun y hy => h y (List.mem_cons_of_mem _ hy)
    simp only [list, Tree.ofValue, Tree.ofValues_eq_map, List.map_map] at hrest ⊢
    rw [List.map_cons, List.map_cons, List.mapM_cons, Function.comp_apply, h x List.mem_cons_self, hrest]
    rfl

/-- A list member written only when it has items passes its check. -/
theorem given_list {α β : Type} {src : Source} {fs : Fields} {name : String} {d : Decode α}
    {xs : List β} {g : β → Value} {r : β → α}
    (hf : fs.find? name = if xs.isEmpty then none else some (.arr (xs.map g)))
    (hd : ∀ x ∈ xs, d src (Tree.ofValue (g x)) = .ok (r x)) : (opt name (list d)).Given src fs := by
  refine given_opt fun v hv => ?_
  rw [hf] at hv
  split at hv
  · cases hv
  · cases hv
    exact ⟨_, list_map hd⟩


namespace Found

variable {α : Type} {f : Found} {src : Source} {k : String} {d : Decode α}

theorem get_eq {v : Value} {a : α} (hsrc : f.source = src) (ht : f.tree? k = some (Tree.ofValue v))
    (hd : d src (Tree.ofValue v) = .ok a) : f.get k d = .ok a := by
  rw [get, ht, Option.getD_some, hsrc, hd]

theorem getD_some {v : Value} {a x : α} (hsrc : f.source = src)
    (ht : f.tree? k = some (Tree.ofValue v)) (hd : d src (Tree.ofValue v) = .ok a) :
    f.getD k d x = .ok a := by
  rw [getD, ht]
  exact hsrc ▸ hd

theorem getD_none {x : α} (ht : f.tree? k = none) : f.getD k d x = .ok x := by
  rw [getD, ht]

/-- An optional member written only when set is read as the value it was
written from. -/
theorem opt_eq {β : Type} {o : Option β} {g : β → Value} {r : β → α} (hsrc : f.source = src)
    (ht : f.tree? k = o.map fun b => Tree.ofValue (g b)) (hnull : ∀ b ∈ o, (g b).isNull = false)
    (hd : ∀ b ∈ o, d src (Tree.ofValue (g b)) = .ok (r b)) : f.opt k d = .ok (o.map r) := by
  cases o with
  | none => rw [opt, ht, Option.map_none, Option.map_none]
  | some b =>
    have hb := hd b rfl
    have hn := hnull b rfl
    simp only [Option.map_some] at ht ⊢
    -- The member is there and not null, so it is read.
    cases hg : g b <;> simp_all [opt, Tree.ofValue, Value.isNull, Except.map]

/-- A list member written only when it has items is read as its items, and
as no items when left out. -/
theorem getD_list {β : Type} {xs : List β} {g : β → Value} {r : β → α} (hsrc : f.source = src)
    (ht : f.tree? k = if xs = [] then none else some (Tree.ofValue (.arr (xs.map g))))
    (hd : ∀ x ∈ xs, d src (Tree.ofValue (g x)) = .ok (r x)) :
    f.getD k (list d) [] = .ok (xs.map r) := by
  cases xs with
  | nil => exact getD_none ht
  | cons x rest => exact getD_some hsrc ht (list_map hd)

/-- A value member that may be missing is read as the value, a null one as
missing. -/
theorem opt_any {o : Option Value} (ht : f.tree? k = o.map Tree.ofValue)
    (hord : ∀ v ∈ o, v.Ordered) : f.opt k any = .ok (o.filter fun v => !v.isNull) := by
  cases o with
  | none => rw [opt, ht, Option.map_none, Option.filter_none]
  | some v =>
    have hback := Tree.toValue_ofValue (hord v rfl)
    rw [Option.map_some] at ht
    cases v <;> simp_all [opt, Tree.ofValue, Value.isNull, Except.map, any, Option.filter]

end Found

/-! ## Tagged variants -/

/-- Once the tag is read, the other members are kept in order. -/
theorem scanTag_picked {α : Type} {src : Source} {tag : String} {variants : List (String × Decode α)}
    {d : Decode α} : ∀ (acc ms : List (String × Tree)), (∀ p ∈ ms, p.1 ≠ tag) →
      scanTag src tag variants (some d) acc ms = .ok (d, acc.reverse ++ ms)
  | acc, [], _ => by simp [scanTag]
  | acc, (k, t) :: rest, h => by
    have hk : (k == tag) = false := by simpa using h (k, t) List.mem_cons_self
    rw [scanTag, if_neg (by simp [hk]), scanTag_picked _ rest fun p hp => h p (List.mem_cons_of_mem _ hp)]
    simp

/-- In an object in key order, the tag member names the variant, and the
other members are handed on in order. -/
theorem scanTag_ofFields {α : Type} {src : Source} {tag name : String}
    {variants : List (String × Decode α)} {d : Decode α} (hpick : pick variants name = .ok d) :
    ∀ {fs : Fields} (acc : List (String × Tree)), fs.Sorted → fs.find? tag = some (.str name) →
      scanTag src tag variants none acc (Tree.ofFields fs) = .ok (d, acc.reverse ++ Tree.ofFields (fs.erase tag))
  | [], _, _, h => by cases h
  | (k, v) :: rest, acc, hs, h => by
    obtain ⟨hfirst, hrest⟩ := List.pairwise_cons.1 hs
    rw [Tree.ofFields, scanTag]
    by_cases hk : k = tag
    · -- The tag is the first member: its name picks the variant.
      subst hk
      simp only [Fields.find?, if_pos, Option.some.injEq] at h
      subst h
      have hafter : ∀ p ∈ Tree.ofFields rest, p.1 ≠ k := by
        intro p hp e
        obtain ⟨u, hu, -⟩ := Tree.mem_ofFields (k := p.1) (t := p.2) hp
        exact String.lt_irrefl k (e ▸ hfirst (p.1, u) hu)
      simp only [beq_self_eq_true, if_true, Option.isSome_none, Bool.false_eq_true, if_false]
      rw [show identifier src (Tree.ofValue (.str name)) = .ok name from rfl]
      simp only [bind, Except.bind, hpick, scanTag_picked _ _ hafter, Fields.erase, if_pos]
    · simp only [Fields.find?, if_neg hk] at h
      rw [if_neg (by simpa using hk), scanTag_ofFields hpick _ hrest h]
      simp [Fields.erase, hk, Tree.ofFields]

end Decode

theorem optionalMember_eq {α : Type} (key : String) (f : α → Value) (o : Option α) :
    (o.map fun a => [(key, f a)]).getD [] = optionalMember key f o := by
  cases o <;> rfl

theorem ErrorCode.decode_name (c : ErrorCode) (src : Source) :
    ErrorCode.decode src (Tree.ofValue (.str c.name)) = .ok c := by
  rw [ErrorCode.decode, Tree.ofValue, Decode.unitVariant_str]
  cases c <;> rfl

theorem StepStatus.decode_name (s : StepStatus) (src : Source) :
    StepStatus.decode src (Tree.ofValue (.str s.name)) = .ok s := by
  rw [StepStatus.decode, Tree.ofValue, Decode.unitVariant_str]
  cases s <;> rfl

theorem InstanceStatus.decode_name (s : InstanceStatus) (src : Source) :
    InstanceStatus.decode src (Tree.ofValue (.str s.name)) = .ok s := by
  rw [InstanceStatus.decode, Tree.ofValue, Decode.unitVariant_str]
  cases s <;> rfl

theorem LoopPhase.decode_name (phase : LoopPhase) (src : Source) :
    LoopPhase.decode src (Tree.ofValue (.str phase.name)) = .ok phase := by
  rw [LoopPhase.decode, Tree.ofValue, Decode.unitVariant_str]
  cases phase <;> rfl

/-- A branch type is read back from its name, which a branch arm shares
with a reserved branch type of the same name. -/
theorem BranchType.decode_name (b : BranchType) (src : Source) :
    BranchType.decode src (Tree.ofValue (.str b.name)) = .ok (BranchType.ofName b.name) := rfl

/-- A node is read back from its written form in key order. -/
theorem FlowDefinition.nodeDecode_written {n : FlowNode} {v : Value} (h : n.toValue = .ok v)
    (hord : v.Ordered) (src : Source) : FlowDefinition.nodeDecode src (Tree.ofValue v) = .ok n := by
  simp [FlowDefinition.nodeDecode, Json.Tree.toValue_ofValue hord, FlowNode.ofValue_of_toValue h,
    Except.mapError]

theorem recordedNode_eq {n : FlowNode} {v : Value} (h : n.toValue = .ok v) : recordedNode n = v := by
  rw [recordedNode, h]

theorem find?_memberUnless (key k : String) (c : Prop) [Decidable c] (v : Value) :
    (if c then [] else [(key, v)]).reverse.find? (·.1 == k) = if key = k ∧ ¬c then some (key, v) else none := by
  by_cases hc : c <;> by_cases hk : key = k <;> simp [hc, hk]

/-- A stored failure reads back as itself. -/
theorem Failure.decode_toValue (f : Failure) (src : Source) :
    Failure.decode src (Tree.ofValue f.toValue) = .ok f := by
  obtain ⟨code, message, nodeId, instanceId⟩ := f
  unfold Failure.decode Failure.toValue
  rw [optionalMember_eq, optionalMember_eq]
  refine Decode.record_bind (Fields.sorted_ofList _) ?_ fun F hsrc htree => ?_
  · simp only [List.forall_mem_cons]
    refine ⟨Decode.given_req ?_ (ErrorCode.decode_name code src), Decode.given_req ?_ (Decode.string_str src message),
      Decode.given_optional (o := nodeId) (r := id) ?_ (fun _ _ => rfl) (fun b _ => Decode.string_str src b),
      Decode.given_optional (o := instanceId) (r := id) ?_ (fun _ _ => rfl) (fun b _ => Decode.string_str src b),
      fun _ h => absurd h List.not_mem_nil⟩
    all_goals simp [Fields.find?_ofList, find?_optionalMember, Function.comp_def]
  · simp only [List.forall_mem_cons, Decode.req, Decode.opt] at htree
    obtain ⟨hc, hm, hn, hi, -⟩ := htree
    simp [Fields.find?_ofList, find?_optionalMember, Function.comp_def] at hc hm hn hi
    rw [Decode.Found.get_eq hsrc hc (ErrorCode.decode_name code src),
      Decode.Found.get_eq hsrc hm (Decode.string_str src message),
      Decode.Found.opt_eq (r := id) hsrc hn (fun _ _ => rfl) (fun b _ => Decode.string_str src b),
      Decode.Found.opt_eq (r := id) hsrc hi (fun _ _ => rfl) (fun b _ => Decode.string_str src b)]
    simp [bind, Except.bind, pure, Except.pure]

/-- A stored output reads back as itself when its value is in key order. -/
theorem StepOutput.decode_toValue {o : StepOutput} (hord : o.value.Ordered) (src : Source) :
    StepOutput.decode src (Tree.ofValue o.toValue) = .ok o := by
  obtain ⟨edges, value⟩ := o
  have hedges : Decode.list Decode.string src (Tree.ofValue (.arr (edges.map Value.str))) = .ok (edges.map id) :=
    Decode.list_map fun e _ => Decode.string_str src e
  rw [List.map_id] at hedges
  unfold StepOutput.decode StepOutput.toValue Value.strs
  refine Decode.record_bind (Fields.sorted_ofList _) ?_ fun F hsrc htree => ?_
  · simp only [List.forall_mem_cons]
    refine ⟨Decode.given_req ?_ hedges, Decode.given_req ?_ (Decode.any_ofValue hord src),
      fun _ h => absurd h List.not_mem_nil⟩
    all_goals simp [Fields.find?_ofList]
  · simp only [List.forall_mem_cons, Decode.req] at htree
    obtain ⟨he, hv, -⟩ := htree
    simp [Fields.find?_ofList] at he hv
    rw [Decode.Found.get_eq hsrc he hedges, Decode.Found.get_eq hsrc hv (Decode.any_ofValue hord src)]
    rfl

/-- A step record whose stored form reads back: its node has a written form
in key order, its number fits the stored count, the values it holds are in
key order, and its instants can be read. -/
structure StepRecord.Storable (r : StepRecord) : Prop where
  node : ∃ v, r.node.toValue = .ok v ∧ v.Ordered
  sequence : r.sequence < Nat.pow 2 64
  output : ∀ o ∈ r.output, o.value.Ordered
  emitted : ∀ v ∈ r.emitted, v.Ordered
  startedAt : r.startedAt.Readable
  finishedAt : ∀ t ∈ r.finishedAt, t.Readable

/-- A stored step record reads back as itself. -/
theorem StepRecord.decode_toValue {r : StepRecord} (h : r.Storable) (src : Source) :
    StepRecord.decode src (Tree.ofValue r.toValue) = .ok r := by
  obtain ⟨v, hv, hvord⟩ := h.node
  have hnode := FlowDefinition.nodeDecode_written hv hvord src
  have hseq := Decode.count_ofNat h.sequence src
  have houtput : ∀ o ∈ r.output, StepOutput.decode src (Tree.ofValue o.toValue) = .ok o :=
    fun o ho => StepOutput.decode_toValue (h.output o ho) src
  have herror : ∀ e ∈ r.error, Failure.decode src (Tree.ofValue e.toValue) = .ok e :=
    fun e _ => Failure.decode_toValue e src
  have hlogs : ∀ x ∈ r.logs, Decode.string src (Tree.ofValue (.str x)) = .ok (id x) :=
    fun x _ => Decode.string_str src x
  have hemitted : ∀ x ∈ r.emitted, Decode.any src (Tree.ofValue x) = .ok (id x) :=
    fun x hx => Decode.any_ofValue (h.emitted x hx) src
  have hstart : Timestamp.decode src (Tree.ofValue (.str r.startedAt.rfc3339)) = .ok r.startedAt :=
    Timestamp.decode_rfc3339 h.startedAt src
  have hfinish : ∀ t ∈ r.finishedAt, Timestamp.decode src (Tree.ofValue (.str t.rfc3339)) = .ok (id t) :=
    fun t ht => Timestamp.decode_rfc3339 (h.finishedAt t ht) src
  unfold StepRecord.decode StepRecord.toValue Value.strs
  rw [recordedNode_eq hv]
  refine Decode.record_bind (Fields.sorted_ofList _) ?_ fun F hsrc htree => ?_
  · simp only [List.forall_mem_cons]
    refine ⟨Decode.given_req ?_ hnode, Decode.given_req ?_ (Decode.string_str src r.path),
      Decode.given_req ?_ (Decode.string_str src r.stepId), Decode.given_opt_some ?_ hseq,
      Decode.given_req ?_ (StepStatus.decode_name r.status src),
      Decode.given_optional (o := r.output) ?_ (fun _ _ => rfl) houtput,
      Decode.given_optional (o := r.error) ?_ (fun _ _ => rfl) herror,
      Decode.given_list (g := Value.str) ?_ hlogs, Decode.given_list (g := fun x => x) ?_ hemitted,
      Decode.given_req (v := .str _) ?_ hstart,
      Decode.given_optional (o := r.finishedAt) ?_ (fun _ _ => rfl) hfinish,
      fun _ h => absurd h List.not_mem_nil⟩
    all_goals simp [Fields.find?_ofList, find?_optionalMember, find?_memberUnless, Function.comp_def]
    all_goals split <;> rfl
  · simp only [List.forall_mem_cons, Decode.req, Decode.opt] at htree
    obtain ⟨hn, hp, hs, hq, hst, ho, he, hl, hem, hsa, hf, -⟩ := htree
    simp [Fields.find?_ofList, find?_optionalMember, find?_memberUnless, Function.comp_def] at hn hp hs hq hst ho he hl hem hsa hf
    rw [Decode.Found.get_eq hsrc hn hnode, Decode.Found.get_eq hsrc hp (Decode.string_str src r.path),
      Decode.Found.get_eq hsrc hs (Decode.string_str src r.stepId), Decode.Found.getD_some hsrc hq hseq,
      Decode.Found.get_eq hsrc hst (StepStatus.decode_name r.status src),
      Decode.Found.opt_eq (g := StepOutput.toValue) hsrc ho (fun _ _ => rfl) houtput,
      Decode.Found.opt_eq (g := Failure.toValue) hsrc he (fun _ _ => rfl) herror,
      Decode.Found.getD_list hsrc (by rw [hl]; split <;> rfl) hlogs,
      Decode.Found.getD_list (g := fun x => x) hsrc (by rw [hem]; split <;> simp) hemitted,
      Decode.Found.get_eq (v := .str _) hsrc hsa hstart,
      Decode.Found.opt_eq (o := r.finishedAt) (g := fun t => .str t.rfc3339) hsrc hf (fun _ _ => rfl) hfinish]
    simp [bind, Except.bind, pure, Except.pure]

/-- An instance as it reads back from its stored form: a null result reads
as no result, and a branch arm named after a reserved branch type reads as
that branch type. -/
def FlowInstance.restored (i : FlowInstance) : FlowInstance :=
  { i with branchType := .ofName i.branchType.name, result := i.result.filter fun v => !v.isNull }

/-- An instance whose stored form reads back: its counts fit the stored
count, its step records read back, the values it holds are in key order and
its instants can be read. -/
structure FlowInstance.Storable (i : FlowInstance) : Prop where
  depth : i.depth < Nat.pow 2 64
  iteration : ∀ n ∈ i.iteration, n < Nat.pow 2 64
  steps : ∀ r ∈ i.steps, r.Storable
  result : ∀ v ∈ i.result, v.Ordered
  state : i.state.Ordered
  startedAt : i.startedAt.Readable
  finishedAt : ∀ t ∈ i.finishedAt, t.Readable

/-- A stored instance reads back as itself, restored. -/
theorem FlowInstance.decode_toValue {i : FlowInstance} (h : i.Storable) (src : Source) :
    FlowInstance.decode src (Tree.ofValue i.toValue) = .ok i.restored := by
  have hid := Decode.string_str src i.id
  have hparent : ∀ x ∈ i.parentId, Decode.string src (Tree.ofValue (.str x)) = .ok x :=
    fun x _ => Decode.string_str src x
  have hdepth := Decode.count_ofNat h.depth src
  have hiteration : ∀ n ∈ i.iteration, Decode.count src (Tree.ofValue (.ofNat n)) = .ok n :=
    fun n hn => Decode.count_ofNat (h.iteration n hn) src
  have hsteps : Decode.list StepRecord.decode src (Tree.ofValue (.arr (i.steps.map StepRecord.toValue))) =
      .ok (i.steps.map fun r => r) :=
    Decode.list_map fun r hr => StepRecord.decode_toValue (h.steps r hr) src
  have herror : ∀ e ∈ i.error, Failure.decode src (Tree.ofValue e.toValue) = .ok e :=
    fun e _ => Failure.decode_toValue e src
  have hstate := Decode.any_ofValue h.state src
  have hstart : Timestamp.decode src (Tree.ofValue (.str i.startedAt.rfc3339)) = .ok i.startedAt :=
    Timestamp.decode_rfc3339 h.startedAt src
  have hfinish : ∀ t ∈ i.finishedAt, Timestamp.decode src (Tree.ofValue (.str t.rfc3339)) = .ok t :=
    fun t ht => Timestamp.decode_rfc3339 (h.finishedAt t ht) src
  rw [List.map_id'] at hsteps
  unfold FlowInstance.decode FlowInstance.toValue
  refine Decode.record_bind (Fields.sorted_ofList _) ?_ fun F hsrc htree => ?_
  · simp only [List.forall_mem_cons]
    refine ⟨Decode.given_req ?_ hid, Decode.given_optional (o := i.parentId) (r := fun x => x) ?_ (fun _ _ => rfl) hparent,
      Decode.given_req ?_ hdepth, Decode.given_req ?_ (BranchType.decode_name i.branchType src),
      Decode.given_optional (o := i.iteration) (r := fun x => x) ?_ (fun _ _ => rfl) hiteration,
      Decode.given_req ?_ (InstanceStatus.decode_name i.status src), Decode.given_opt_some ?_ hsteps,
      Decode.given_optional_any, Decode.given_optional (o := i.error) ?_ (fun _ _ => rfl) herror,
      Decode.given_opt_some ?_ hstate, Decode.given_req (v := .str _) ?_ hstart,
      Decode.given_optional (o := i.finishedAt) (r := fun x => x) ?_ (fun _ _ => rfl) hfinish,
      fun _ h => absurd h List.not_mem_nil⟩
    all_goals simp [Fields.find?_ofList, find?_optionalMember, Function.comp_def]
  · simp only [List.forall_mem_cons, Decode.req, Decode.opt] at htree
    obtain ⟨hi, hp, hd, hb, hit, hst, hs, hr, he, hsta, hsa, hf, -⟩ := htree
    simp [Fields.find?_ofList, find?_optionalMember, Function.comp_def] at hi hp hd hb hit hst hs hr he hsta hsa hf
    rw [Decode.Found.get_eq hsrc hi hid, Decode.Found.opt_eq (r := fun x => x) hsrc hp (fun _ _ => rfl) hparent,
      Decode.Found.get_eq hsrc hd hdepth, Decode.Found.get_eq hsrc hb (BranchType.decode_name i.branchType src),
      Decode.Found.opt_eq (g := Value.ofNat) (r := fun x => x) hsrc hit (fun _ _ => rfl) hiteration,
      Decode.Found.get_eq hsrc hst (InstanceStatus.decode_name i.status src),
      Decode.Found.getD_some hsrc hs hsteps, Decode.Found.opt_any hr h.result,
      Decode.Found.opt_eq (g := Failure.toValue) hsrc he (fun _ _ => rfl) herror,
      Decode.Found.getD_some hsrc hsta hstate, Decode.Found.get_eq (v := .str _) hsrc hsa hstart,
      Decode.Found.opt_eq (o := i.finishedAt) (g := fun t => .str t.rfc3339) (r := fun x => x) hsrc hf
        (fun _ _ => rfl) hfinish]
    simp [bind, Except.bind, pure, Except.pure, FlowInstance.restored]

/-- An execution as it reads back from its stored form. -/
def Execution.restored (e : Execution) : Execution :=
  .ofInstances e.rootId (e.instances.map FlowInstance.restored)

/-- A stored execution reads back as itself, each instance restored. -/
theorem Execution.decode_toValue {e : Execution} (h : ∀ i ∈ e.instances, i.Storable) (src : Source) :
    Execution.decode src (Tree.ofValue e.toValue) = .ok e.restored := by
  have hroot := Decode.string_str src e.rootId
  have hinstances : Decode.list FlowInstance.decode src
      (Tree.ofValue (.arr (e.instances.map FlowInstance.toValue))) = .ok (e.instances.map FlowInstance.restored) :=
    Decode.list_map fun i hi => FlowInstance.decode_toValue (h i hi) src
  unfold Execution.decode Execution.toValue
  refine Decode.record_bind (Fields.sorted_ofList _) ?_ fun F hsrc htree => ?_
  · simp only [List.forall_mem_cons]
    refine ⟨Decode.given_req ?_ hroot, Decode.given_req ?_ hinstances, fun _ h => absurd h List.not_mem_nil⟩
    all_goals simp [Fields.find?_ofList]
  · simp only [List.forall_mem_cons, Decode.req] at htree
    obtain ⟨hr, hi, -⟩ := htree
    simp [Fields.find?_ofList] at hr hi
    rw [Decode.Found.get_eq hsrc hr hroot, Decode.Found.get_eq hsrc hi hinstances]
    rfl

/-- A frame whose stored form reads back: its count fits the stored count
and the outputs it holds have values in key order. -/
def Frame.Storable : Frame → Prop
  | .block _ index previous => index < Nat.pow 2 64 ∧ ∀ o ∈ previous, o.value.Ordered
  | .loop _ iteration output _ => iteration < Nat.pow 2 64 ∧ ∀ o ∈ output, o.value.Ordered

/-- A frame is read from its tag, the rest of its members buffered. -/
theorem Frame.decode_object {pairs : List (String × Value)} (name : String) {d : Decode Frame}
    (hkind : (Fields.ofList pairs).find? "kind" = some (.str name))
    (hpick : Decode.pick [("block", Frame.decodeBlock), ("loop", Frame.decodeLoop)] name = .ok d)
    (src : Source) :
    Frame.decode src (Tree.ofValue (Value.object pairs)) =
      d .buffered (Tree.ofValue (.obj ((Fields.ofList pairs).erase "kind"))) := by
  unfold Frame.decode Decode.tagged
  rw [Value.object, Tree.ofValue]
  dsimp only
  rw [Decode.scanTag_ofFields hpick [] (Fields.sorted_ofList pairs) hkind]
  rfl

/-- A stored frame reads back as itself. -/
theorem Frame.decode_toValue {f : Frame} (h : f.Storable) (src : Source) :
    Frame.decode src (Tree.ofValue f.toValue) = .ok f := by
  cases f with
  | block id index previous =>
    obtain ⟨hindex, hprevious⟩ := h
    have hcount := Decode.count_ofNat hindex .buffered
    have hout : ∀ o ∈ previous, StepOutput.decode .buffered (Tree.ofValue o.toValue) = .ok o :=
      fun o ho => StepOutput.decode_toValue (hprevious o ho) .buffered
    rw [Frame.toValue, Frame.decode_object "block" (by simp [Fields.find?_ofList, find?_optionalMember]) rfl]
    unfold Frame.decodeBlock
    refine Decode.record_bind (Fields.sorted_erase (Fields.sorted_ofList _) _) ?_ fun F hsrc htree => ?_
    · simp only [List.forall_mem_cons]
      refine ⟨Decode.given_req ?_ (Decode.string_str .buffered id), Decode.given_req ?_ hcount,
        Decode.given_optional (o := previous) (r := fun o => o) ?_ (fun _ _ => rfl) hout,
        fun _ h => absurd h List.not_mem_nil⟩
      all_goals simp [Fields.find?_erase_ne, Fields.find?_ofList, find?_optionalMember, Function.comp_def]
    · simp only [List.forall_mem_cons, Decode.req, Decode.opt] at htree
      obtain ⟨hi, hx, hp, -⟩ := htree
      simp [Fields.find?_erase_ne, Fields.find?_ofList, find?_optionalMember, Function.comp_def] at hi hx hp
      rw [Decode.Found.get_eq hsrc hi (Decode.string_str .buffered id), Decode.Found.get_eq hsrc hx hcount,
        Decode.Found.opt_eq (g := StepOutput.toValue) (r := fun o => o) hsrc hp (fun _ _ => rfl) hout]
      simp [bind, Except.bind, pure, Except.pure]
  | loop id iteration output phase =>
    obtain ⟨hiteration, houtput⟩ := h
    have hcount := Decode.count_ofNat hiteration .buffered
    have hout : ∀ o ∈ output, StepOutput.decode .buffered (Tree.ofValue o.toValue) = .ok o :=
      fun o ho => StepOutput.decode_toValue (houtput o ho) .buffered
    rw [Frame.toValue, Frame.decode_object "loop" (by simp [Fields.find?_ofList, find?_optionalMember]) rfl]
    unfold Frame.decodeLoop
    refine Decode.record_bind (Fields.sorted_erase (Fields.sorted_ofList _) _) ?_ fun F hsrc htree => ?_
    · simp only [List.forall_mem_cons]
      refine ⟨Decode.given_req ?_ (Decode.string_str .buffered id), Decode.given_req ?_ hcount,
        Decode.given_optional (o := output) (r := fun o => o) ?_ (fun _ _ => rfl) hout,
        Decode.given_req ?_ (LoopPhase.decode_name phase .buffered), fun _ h => absurd h List.not_mem_nil⟩
      all_goals simp [Fields.find?_erase_ne, Fields.find?_ofList, find?_optionalMember, Function.comp_def]
    · simp only [List.forall_mem_cons, Decode.req, Decode.opt] at htree
      obtain ⟨hi, hx, ho, hp, -⟩ := htree
      simp [Fields.find?_erase_ne, Fields.find?_ofList, find?_optionalMember, Function.comp_def] at hi hx ho hp
      rw [Decode.Found.get_eq hsrc hi (Decode.string_str .buffered id), Decode.Found.get_eq hsrc hx hcount,
        Decode.Found.opt_eq (g := StepOutput.toValue) (r := fun o => o) hsrc ho (fun _ _ => rfl) hout,
        Decode.Found.get_eq hsrc hp (LoopPhase.decode_name phase .buffered)]
      simp [bind, Except.bind, pure, Except.pure]

/-- A stored cursor reads back as itself. -/
theorem Cursor.decode_toValue {c : Cursor} (h : ∀ f ∈ c.frames, f.Storable) (src : Source) :
    Cursor.decode src (Tree.ofValue c.toValue) = .ok c := by
  have hframes : Decode.list Frame.decode src (Tree.ofValue (.arr (c.frames.map Frame.toValue))) =
      .ok (c.frames.map fun f => f) :=
    Decode.list_map fun f hf => Frame.decode_toValue (h f hf) src
  rw [List.map_id'] at hframes
  unfold Cursor.decode Cursor.toValue
  refine Decode.record_bind (Fields.sorted_ofList _) ?_ fun F hsrc htree => ?_
  · simp only [List.forall_mem_cons]
    refine ⟨Decode.given_req ?_ hframes, fun _ h => absurd h List.not_mem_nil⟩
    simp [Fields.find?_ofList]
  · simp only [List.forall_mem_cons, Decode.req] at htree
    obtain ⟨hf, -⟩ := htree
    simp [Fields.find?_ofList] at hf
    rw [Decode.Found.get_eq hsrc hf hframes]
    rfl

/-- A ticket whose stored form reads back: its details are in key order and
its instant can be read. -/
structure PauseTicket.Storable (t : PauseTicket) : Prop where
  details : t.details.Ordered
  createdAt : t.createdAt.Readable

/-- A stored ticket reads back as itself. -/
theorem PauseTicket.decode_toValue {t : PauseTicket} (h : t.Storable) (src : Source) :
    PauseTicket.decode src (Tree.ofValue t.toValue) = .ok t := by
  have hdetails := Decode.any_ofValue h.details src
  have hcreated : Timestamp.decode src (Tree.ofValue (.str t.createdAt.rfc3339)) = .ok t.createdAt :=
    Timestamp.decode_rfc3339 h.createdAt src
  unfold PauseTicket.decode PauseTicket.toValue
  refine Decode.record_bind (Fields.sorted_ofList _) ?_ fun F hsrc htree => ?_
  · simp only [List.forall_mem_cons]
    refine ⟨Decode.given_req ?_ (Decode.string_str src t.pauseId),
      Decode.given_req ?_ (Decode.string_str src t.executionId),
      Decode.given_req ?_ (Decode.string_str src t.instanceId), Decode.given_req ?_ hdetails,
      Decode.given_req (v := .str _) ?_ hcreated, fun _ h => absurd h List.not_mem_nil⟩
    all_goals simp [Fields.find?_ofList]
  · simp only [List.forall_mem_cons, Decode.req] at htree
    obtain ⟨hp, he, hi, hd, hc, -⟩ := htree
    simp [Fields.find?_ofList] at hp he hi hd hc
    rw [Decode.Found.get_eq hsrc hp (Decode.string_str src t.pauseId),
      Decode.Found.get_eq hsrc he (Decode.string_str src t.executionId),
      Decode.Found.get_eq hsrc hi (Decode.string_str src t.instanceId), Decode.Found.get_eq hsrc hd hdetails,
      Decode.Found.get_eq (v := .str _) hsrc hc hcreated]
    rfl

/-- The written form of a definition, its initial state as an optional
member. -/
theorem FlowDefinition.toValue_eq_object {d : FlowDefinition} {v : Value} (h : d.toValue = .ok v) :
    ∃ vs, FlowNode.toValue.listValue d.nodes = .ok vs ∧
      v = Value.object ([("name", .str d.name), ("nodes", .arr vs)] ++
        optionalMember "initialState" (fun s => s) d.initialState) := by
  obtain ⟨vs, hvs, rfl⟩ := FlowDefinition.toValue_eq_ok h
  refine ⟨vs, hvs, ?_⟩
  cases d.initialState <;> rfl

/-- A definition is read back from its written form in key order, whatever
source the form came from, save that a null initial state reads as none. -/
theorem FlowDefinition.decode_toValue {d : FlowDefinition} {v : Value} (h : d.toValue = .ok v)
    (hord : v.Ordered) (src : Source) :
    FlowDefinition.decode src (Tree.ofValue v) =
      .ok { d with initialState := d.initialState.filter fun s => !s.isNull } := by
  obtain ⟨vs, hvs, rfl⟩ := FlowDefinition.toValue_eq_object h
  -- The nodes and the initial state are members of the written form.
  have hitems : (Value.arr vs).Ordered :=
    hord.member (@Fields.mem_of_find? _ "nodes" _ (by simp [Fields.find?_ofList, find?_optionalMember]))
  have hinit : ∀ s ∈ d.initialState, s.Ordered := fun s hs =>
    hord.member (@Fields.mem_of_find? _ "initialState" _
      (by simpa [Fields.find?_ofList, find?_optionalMember] using hs))
  have hnodes : Decode.list FlowDefinition.nodeDecode src (Tree.ofValue (.arr vs)) = .ok d.nodes :=
    FlowDefinition.mapM_nodeDecode hvs (fun u hu => hitems.item hu) src
  have hname := Decode.string_str src d.name
  unfold FlowDefinition.decode
  refine Decode.record_bind (Fields.sorted_ofList _) ?_ fun F hsrc htree => ?_
  · simp only [List.forall_mem_cons]
    refine ⟨Decode.given_opt_some ?_ hname, Decode.given_req ?_ hnodes, Decode.given_optional_any,
      fun _ h => absurd h List.not_mem_nil⟩
    all_goals simp [Fields.find?_ofList, find?_optionalMember]
  · simp only [List.forall_mem_cons, Decode.req, Decode.opt] at htree
    obtain ⟨hn, hs, hi, -⟩ := htree
    simp [Fields.find?_ofList, find?_optionalMember, Function.comp_def] at hn hs hi
    rw [Decode.Found.getD_some hsrc hn hname, Decode.Found.get_eq hsrc hs hnodes,
      Decode.Found.opt_any hi hinit]
    rfl

/-- A paused execution as it reads back from its stored form: a null
initial state reads as none, and each instance is restored. -/
def PausedExecution.restored (p : PausedExecution) : PausedExecution :=
  { p with
    definition := { p.definition with initialState := p.definition.initialState.filter fun s => !s.isNull }
    execution := p.execution.restored }

/-- A paused execution whose stored form reads back: its ticket, its
definition's written form, its instances and its frames all read back. -/
structure PausedExecution.Storable (p : PausedExecution) : Prop where
  ticket : p.ticket.Storable
  definition : ∀ v, p.definition.toValue = .ok v → v.Ordered
  instances : ∀ i ∈ p.execution.instances, i.Storable
  frames : ∀ f ∈ p.cursor.frames, f.Storable

/-- The written form of a paused execution holds the written form of its
definition. -/
theorem PausedExecution.toValue_eq_object {p : PausedExecution} {v : Value} (h : p.toValue = .ok v) :
    ∃ dv, p.definition.toValue = .ok dv ∧
      v = Value.object [("ticket", p.ticket.toValue), ("resumeEdge", .str p.resumeEdge),
        ("definition", dv), ("execution", p.execution.toValue), ("cursor", p.cursor.toValue)] := by
  unfold PausedExecution.toValue at h
  obtain ⟨dv, hdv, hv⟩ := Except.bind_eq_ok.1 h
  exact ⟨dv, hdv, (Except.pure_eq_ok.1 hv).symm⟩

/-- A stored paused execution reads back as itself, restored. -/
theorem PausedExecution.decode_toValue {p : PausedExecution} {v : Value} (h : p.Storable)
    (hv : p.toValue = .ok v) (src : Source) :
    PausedExecution.decode src (Tree.ofValue v) = .ok p.restored := by
  obtain ⟨dv, hdv, rfl⟩ := PausedExecution.toValue_eq_object hv
  have hticket := PauseTicket.decode_toValue h.ticket src
  have hedge := Decode.string_str src p.resumeEdge
  have hdefinition := FlowDefinition.decode_toValue hdv (h.definition dv hdv) src
  have hexecution := Execution.decode_toValue h.instances src
  have hcursor := Cursor.decode_toValue h.frames src
  unfold PausedExecution.decode
  refine Decode.record_bind (Fields.sorted_ofList _) ?_ fun F hsrc htree => ?_
  · simp only [List.forall_mem_cons]
    refine ⟨Decode.given_req ?_ hticket, Decode.given_req ?_ hedge, Decode.given_req ?_ hdefinition,
      Decode.given_req ?_ hexecution, Decode.given_req ?_ hcursor, fun _ h => absurd h List.not_mem_nil⟩
    all_goals simp [Fields.find?_ofList]
  · simp only [List.forall_mem_cons, Decode.req] at htree
    obtain ⟨ht, he, hd, hx, hc, -⟩ := htree
    simp [Fields.find?_ofList] at ht he hd hx hc
    rw [Decode.Found.get_eq hsrc ht hticket, Decode.Found.get_eq hsrc he hedge,
      Decode.Found.get_eq hsrc hd hdefinition, Decode.Found.get_eq hsrc hx hexecution,
      Decode.Found.get_eq hsrc hc hcursor]
    rfl

end Flowline
