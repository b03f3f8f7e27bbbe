import Mathlib
import Flowline.Step.Builtin
set_option autoImplicit false

/-!
# The laws of value comparison

`logic.condition.if` compares two values with `compareValues`: `==` and
`!=` by `looseEq`, which takes numbers as doubles and everything else by
shape, the four orderings by `order?`, which orders two numbers as doubles
and two texts by code point, and `contains` by `looseEq` on the items of a
list. The two helpers are written apart, so this module shows that they fit
together (`condition_comparison_laws`):

* `==` is symmetric and `!=` is its negation, for any two values;
* an ordering succeeds exactly on two numbers or two texts, `>` and `>=`
  are `<` and `<=` with the sides exchanged, `>=` and `<=` hold together
  exactly when `==` does, and exactly one of `<`, `==` and `>` holds;
* a list contains a value when one of its items is `==` to it.

Doubles compare as IEEE 754 says, in the logical model of `Float`: a
comparison is `none` only when one side is not a number, and it turns around
when the sides are exchanged. Documents never hold a double that is not a
number, and no integer converts to one (`Ieee.ofInt_isNaN`), so the ordering
laws hold for every pair of values read from a document.
-/

namespace Flowline

/-! ## Doubles -/

namespace Ieee

open Float.Model UnpackedFloat

theorem sign_compare_swap (s t : Sign) : compare t s = (compare s t).swap := by
  cases s <;> cases t <;> rfl

/-- Exchanging the sides of a comparison turns its answer around. -/
theorem compare_swap (a b : UnpackedFloat) :
    b.compare a = (a.compare b).map Ordering.swap := by
  -- Finite floats compare by exponent and then by mantissa, the other way
  -- round when both are negative.
  rcases a with s | _ | s | ⟨s, m, e, hm⟩ <;> rcases b with t | _ | t | ⟨t, n, f, hn⟩ <;>
    (try cases s) <;> (try cases t) <;>
    simp [UnpackedFloat.compare, Ordering.swap_then, ← Std.OrientedOrd.eq_swap, ← sign_compare_swap]

/-- Two floats that are numbers are ordered. -/
theorem compare_isSome {a b : UnpackedFloat} (ha : a.isNaN = false) (hb : b.isNaN = false) :
    (a.compare b).isSome := by
  rcases a with s | _ | s | ⟨s, m, e, hm⟩ <;> rcases b with t | _ | t | ⟨t, n, f, hn⟩ <;>
    (try cases s) <;> (try cases t) <;> simp_all [UnpackedFloat.compare, UnpackedFloat.isNaN]

/-- The comparison a double's `<` makes. -/
theorem lt_iff (p q : Float) : p < q ↔ p.toModel.unpack.compare q.toModel.unpack = some .lt := by
  change Float.lt p q = true ↔ _
  simp [Float.lt, LT.lt, Float.Model.lt, UnpackedFloat.lt]

/-- The comparison a double's `==` makes. -/
theorem beq_eq (p q : Float) :
    (p == q) = (p.toModel.unpack.compare q.toModel.unpack == some .eq) :=
  rfl

/-- A double's `==` is symmetric. -/
theorem beq_comm (p q : Float) : (p == q) = (q == p) := by
  rw [beq_eq, beq_eq, compare_swap p.toModel.unpack q.toModel.unpack]
  cases p.toModel.unpack.compare q.toModel.unpack with
  | none => rfl
  | some o => cases o <;> rfl

/-! ### No integer converts to a double that is not a number -/

theorem roundWithAccuracy_isNaN (spec : Format) (s : Sign) (m : Nat) (e : Int) (acc : Accuracy) :
    (roundWithAccuracy spec s m e acc).isNaN = false := by
  unfold roundWithAccuracy
  dsimp only
  repeat' split
  all_goals rfl

theorem round_isNaN (spec : Format) (s : Sign) (m : Nat) (e : Int) :
    (UnpackedFloat.round spec s m e).isNaN = false := by
  unfold UnpackedFloat.round
  exact roundWithAccuracy_isNaN ..

theorem normalize_isNaN (spec : Format) (m e : Int) (s : Sign) :
    (UnpackedFloat.normalize spec m e s).isNaN = false := by
  unfold UnpackedFloat.normalize
  split
  · exact round_isNaN ..
  · rfl
  · exact round_isNaN ..

/-- A product with a finite float is a number when the other factor is. -/
theorem mul_finite_isNaN (spec : Format) {a : UnpackedFloat} (ha : a.isNaN = false) (s : Sign)
    (m : Nat) (e : Int) (hm : 0 < m) : (UnpackedFloat.mul spec a (.finite s m e hm)).isNaN = false := by
  rcases a with t | _ | t | ⟨t, n, f, hn⟩
  · rfl
  · cases ha
  · rfl
  · exact roundWithAccuracy_isNaN ..

theorem ofScientific_isNaN (spec : Format) (m : Nat) (e : Int) :
    (UnpackedFloat.ofScientific spec m e).isNaN = false := by
  unfold UnpackedFloat.ofScientific
  split
  · rfl
  split
  · rfl
  split
  · rfl
  split
  · exact roundWithAccuracy_isNaN ..
  · exact roundWithAccuracy_isNaN ..

theorem neg_isNaN {a : UnpackedFloat} (ha : a.isNaN = false) : a.neg.isNaN = false := by
  cases a with
  | notANumber => cases ha
  | _ => rfl

/-- Bits whose exponent is not all ones, or whose mantissa is clear, are a
number. -/
theorem unpack_packComponents_isNaN (spec : Format) (s : Sign) (E : BitVec spec.exponentBits)
    (M : BitVec spec.mantissaBitsWithoutImplicit) (h : E ≠ -1#_ ∨ M = 0#_) :
    (UnpackedFloat.unpack spec (packComponents spec s E M)).isNaN = false := by
  unfold UnpackedFloat.unpack
  simp only [unpackExponent_packComponents, unpackMantissa_packComponents]
  split
  · -- All exponent bits set: an infinity, as the mantissa is clear.
    rename_i hE
    rw [if_pos (h.resolve_left (not_not.2 hE))]
    rfl
  · repeat' split
    all_goals rfl

/-- Packing a number gives the bits of a number: a finite float too large
for the format becomes an infinity, never a NaN. -/
theorem unpack_pack_isNaN (spec : Format) {u : UnpackedFloat} (hu : u.isNaN = false) :
    (UnpackedFloat.unpack spec (UnpackedFloat.pack spec u)).isNaN = false := by
  have hallOnes : ∀ b, b + 1 < 2 ^ spec.exponentBits → BitVec.ofNat spec.exponentBits b ≠ -1#_ := by
    intro b hb h
    have := congrArg BitVec.toNat h
    simp [BitVec.neg_one_eq_allOnes, Nat.mod_eq_of_lt (by omega : b < 2 ^ spec.exponentBits)] at this
    omega
  unfold UnpackedFloat.pack
  split
  · cases hu
  · exact unpack_packComponents_isNaN spec _ _ _ (.inr rfl)
  · exact unpack_packComponents_isNaN spec _ _ _ (.inr rfl)
  · dsimp only
    split
    · exact unpack_packComponents_isNaN spec _ _ _ (.inr rfl)
    · -- A normal float keeps its exponent below all ones; a subnormal one has none.
      split
      · exact unpack_packComponents_isNaN spec _ _ _ (.inl (hallOnes _ (by omega)))
      · exact unpack_packComponents_isNaN spec _ _ _ (.inl (hallOnes 0 (by have := spec.he; omega)))

theorem pack_isNaN {u : UnpackedFloat} (hu : u.isNaN = false) :
    (Float.Model.pack u).unpack.isNaN = false :=
  unpack_pack_isNaN Format.binary64 hu

/-- The double `1.0` is a finite float. -/
theorem one_finite : ∃ s m e hm,
    (Float.ofBits 0x3FF0000000000000).toModel.unpack = .finite s m e hm :=
  ⟨_, _, _, _, rfl⟩

/-- A natural number converts to a number: below `2 ^ 53` as the product of
its exact double with `1.0`, above through the model's own conversion. -/
theorem ofNat_isNaN (n : Nat) : (Float.ofNat n).toModel.unpack.isNaN = false := by
  change (Float.ofScientific n false 0).toModel.unpack.isNaN = false
  unfold Float.ofScientific
  split
  · obtain ⟨s, m, e, hm, hone⟩ := one_finite
    simp only [Bool.false_eq_true, if_false]
    change (Float.Model.pack (UnpackedFloat.mul _ _ _)).unpack.isNaN = false
    have hten : (Float.exactlyRepresentablePowersOfTen[0]).toModel.unpack = .finite s m e hm := hone
    have hn : n.toUInt64.toFloat.toModel.unpack.isNaN = false := pack_isNaN (normalize_isNaN ..)
    rw [hten]
    exact pack_isNaN (mul_finite_isNaN _ hn s m e hm)
  · exact pack_isNaN (ofScientific_isNaN ..)

/-- No integer converts to a double that is not a number. -/
theorem ofInt_isNaN (i : Int) : (Float.ofInt i).toModel.unpack.isNaN = false := by
  cases i with
  | ofNat n => exact ofNat_isNaN n
  | negSucc n => exact pack_isNaN (neg_isNaN (ofNat_isNaN (n + 1)))

end Ieee

/-! ## Numbers and values -/

namespace Number

/-- Two numbers compared as doubles: `none` when either is not a number. -/
def compareAsDoubles (x y : Number) : Option Ordering :=
  x.toFloat.toModel.unpack.compare y.toFloat.toModel.unpack

/-- Whether a number is a double that is not a number; an integer never is. -/
def isNaN (x : Number) : Bool := x.toFloat.isNaN

theorem compareAsDoubles_swap (x y : Number) :
    y.compareAsDoubles x = (x.compareAsDoubles y).map Ordering.swap :=
  Ieee.compare_swap _ _

theorem compareAsDoubles_isSome {x y : Number} (hx : x.isNaN = false) (hy : y.isNaN = false) :
    (x.compareAsDoubles y).isSome :=
  Ieee.compare_isSome hx hy

theorem isNaN_int (i : Int) : (Number.int i).isNaN = false :=
  Ieee.ofInt_isNaN i

end Number

namespace Value

/-- Whether a value is a double that is not a number. A document read from
JSON never holds one. -/
def isNaN : Value → Bool
  | .num x => x.isNaN
  | _ => false

/-- Two values an ordering compares: two numbers or two texts. -/
def Orderable : Value → Value → Prop
  | .num _, .num _ => True
  | .str _, .str _ => True
  | _, _ => False

end Value

/-- Two numbers are ordered as doubles. -/
theorem order?_num (x y : Number) : order? (.num x) (.num y) = x.compareAsDoubles y := by
  have hlt : x.toFloat < y.toFloat ↔ x.compareAsDoubles y = some .lt := Ieee.lt_iff _ _
  have heq : (x.toFloat == y.toFloat) = (x.compareAsDoubles y == some .eq) := Ieee.beq_eq _ _
  -- `>` is `<` with the sides exchanged, so it is read off the turned answer.
  have hgt : x.toFloat > y.toFloat ↔ x.compareAsDoubles y = some .gt := by
    change y.toFloat < x.toFloat ↔ _
    rw [Ieee.lt_iff]
    change y.compareAsDoubles x = some .lt ↔ _
    rw [Number.compareAsDoubles_swap]
    cases x.compareAsDoubles y with
    | none => simp
    | some o => cases o <;> simp
  unfold order?
  dsimp only
  simp only [hlt, heq, hgt]
  cases x.compareAsDoubles y with
  | none => simp
  | some o => cases o <;> simp

/-- Two numbers are `==` when they are equal as doubles. -/
theorem looseEq_num (x y : Number) :
    looseEq (.num x) (.num y) = (x.compareAsDoubles y == some .eq) :=
  Ieee.beq_eq _ _

/-- Exchanging the sides of an ordering turns it around. -/
theorem order?_swap (a b : Value) : order? b a = (order? a b).map Ordering.swap := by
  cases a <;> cases b
  case num.num x y => rw [order?_num, order?_num, Number.compareAsDoubles_swap]
  case str.str x y => simp [order?, ← Std.OrientedOrd.eq_swap]
  all_goals rfl

/-- Values that are no NaN are ordered exactly when they are two numbers or
two texts. -/
theorem order?_isSome_iff {a b : Value} (ha : a.isNaN = false) (hb : b.isNaN = false) :
    (order? a b).isSome ↔ a.Orderable b := by
  cases a <;> cases b
  case num.num x y =>
    rw [order?_num]
    exact iff_of_true (Number.compareAsDoubles_isSome ha hb) trivial
  all_goals simp [order?, Value.Orderable]

/-- On two numbers or two texts, `==` is the ordering's `eq`. -/
theorem looseEq_eq_order? {a b : Value} (h : a.Orderable b) :
    looseEq a b = (order? a b == some .eq) := by
  cases a <;> cases b
  case num.num x y => rw [looseEq_num, order?_num]
  case str.str x y =>
    change (x == y) = (some (compare x y) == some .eq)
    by_cases hxy : x = y
    · subst hxy
      simp
    · have hne : compare x y ≠ .eq := fun hc => hxy (Std.compare_eq_iff_eq.1 hc)
      simp [hxy, hne]
  all_goals exact False.elim h

/-! ## Structural equality is symmetric -/

theorem Number.beq_comm (x y : Number) : x.beq y = y.beq x := by
  cases x <;> cases y
  case int.int i j => exact Bool.beq_comm
  case float.float p q => exact Ieee.beq_comm p q
  all_goals rfl

mutual

theorem Value.beq_comm : ∀ v w : Value, v.beq w = w.beq v
  | .null, w => by cases w <;> rfl
  | .bool a, w => by cases w <;> simp [Value.beq, Bool.beq_comm]
  | .num x, w => by
    cases w
    case num y => exact Number.beq_comm x y
    all_goals rfl
  | .str a, w => by cases w <;> simp [Value.beq, eq_comm]
  | .arr xs, w => by
    cases w
    case arr ys => exact Value.beqList_comm xs ys
    all_goals rfl
  | .obj fs, w => by
    cases w
    case obj gs => exact Value.beqFields_comm fs gs
    all_goals rfl

theorem Value.beqList_comm : ∀ xs ys : List Value, Value.beq.beqList xs ys = Value.beq.beqList ys xs
  | [], [] => rfl
  | [], _ :: _ => rfl
  | _ :: _, [] => rfl
  | x :: xs, y :: ys => by
    simp only [Value.beq.beqList, Value.beq_comm x y, Value.beqList_comm xs ys]

theorem Value.beqFields_comm : ∀ fs gs : Fields, Value.beq.beqFields fs gs = Value.beq.beqFields gs fs
  | [], [] => rfl
  | [], _ :: _ => rfl
  | _ :: _, [] => rfl
  | (k, x) :: fs, (l, y) :: gs => by
    simp only [Value.beq.beqFields, Value.beq_comm x y, Value.beqFields_comm fs gs, Bool.beq_comm (a := k)]

end

/-- `==` is symmetric. -/
theorem looseEq_comm (a b : Value) : looseEq a b = looseEq b a := by
  cases a <;> cases b
  case num.num x y => exact Ieee.beq_comm _ _
  all_goals exact Value.beq_comm _ _

/-! ## The operators -/

theorem compareValues_eq (a b : Value) : compareValues a "==" b = .ok (looseEq a b) := by
  simp [compareValues]

theorem compareValues_ne (a b : Value) : compareValues a "!=" b = .ok (!looseEq a b) := by
  simp [compareValues]

theorem compareValues_contains (items : List Value) (b : Value) :
    compareValues (.arr items) "contains" b = .ok (items.any fun item => looseEq item b) := by
  simp [compareValues]

/-- An ordering answers from `order?`. -/
theorem compareValues_of_order? {a b : Value} {o : Ordering} (h : order? a b = some o) :
    compareValues a "<" b = .ok (o == .lt) ∧ compareValues a "<=" b = .ok (o != .gt) ∧
      compareValues a ">" b = .ok (o == .gt) ∧ compareValues a ">=" b = .ok (o != .lt) := by
  simp [compareValues, h]

/-- An ordering of values `order?` does not order fails. -/
theorem compareValues_of_order?_none {a b : Value} (h : order? a b = none) {op : String}
    (hop : op ∈ ["<", "<=", ">", ">="]) (r : Bool) : compareValues a op b ≠ .ok r := by
  simp only [List.mem_cons, List.not_mem_nil, or_false] at hop
  rcases hop with rfl | rfl | rfl | rfl <;> simp [compareValues, h]

/-! ## The laws -/

/-- The comparison laws of `logic.condition.if`. `==` is symmetric and `!=`
is its negation, and a list contains a value when one of its items is `==`
to it, for any values. For values that are no NaN, as every value read from
a document is, an ordering succeeds exactly on two numbers or two texts; on
those, `>` and `>=` are `<` and `<=` with the sides exchanged, `>=` and `<=`
hold together exactly when `==` does, and exactly one of `<`, `==` and `>`
holds. -/
theorem condition_comparison_laws (a b : Value) :
    compareValues a "!=" b = (compareValues a "==" b).map (!·) ∧
    compareValues a "==" b = compareValues b "==" a ∧
    (∀ items : List Value, compareValues (.arr items) "contains" b = .ok true ↔
      ∃ e ∈ items, compareValues e "==" b = .ok true) ∧
    (a.isNaN = false → b.isNaN = false →
      (∀ op ∈ ["<", "<=", ">", ">="], (∃ r, compareValues a op b = .ok r) ↔ a.Orderable b) ∧
      (a.Orderable b →
        compareValues a ">" b = compareValues b "<" a ∧
        compareValues a ">=" b = compareValues b "<=" a ∧
        (compareValues a ">=" b = .ok true ∧ compareValues a "<=" b = .ok true ↔
          compareValues a "==" b = .ok true) ∧
        ∃ lt eq gt, compareValues a "<" b = .ok lt ∧ compareValues a "==" b = .ok eq ∧
          compareValues a ">" b = .ok gt ∧ [lt, eq, gt].count true = 1)) := by
  refine ⟨by rw [compareValues_ne, compareValues_eq]; rfl,
    by rw [compareValues_eq, compareValues_eq, looseEq_comm], fun items => ?_, fun ha hb => ?_⟩
  · rw [compareValues_contains]
    simp [compareValues_eq]
  -- An ordering answers exactly when `order?` does.
  have hsucceeds : ∀ op ∈ ["<", "<=", ">", ">="], (∃ r, compareValues a op b = .ok r) ↔
      (order? a b).isSome := by
    intro op hop
    cases ho : order? a b with
    | none => simpa using compareValues_of_order?_none ho hop
    | some o =>
      obtain ⟨hlt, hle, hgt, hge⟩ := compareValues_of_order? ho
      simp only [List.mem_cons, List.not_mem_nil, or_false] at hop
      rcases hop with rfl | rfl | rfl | rfl
      · exact iff_of_true ⟨_, hlt⟩ rfl
      · exact iff_of_true ⟨_, hle⟩ rfl
      · exact iff_of_true ⟨_, hgt⟩ rfl
      · exact iff_of_true ⟨_, hge⟩ rfl
  refine ⟨fun op hop => (hsucceeds op hop).trans (order?_isSome_iff ha hb), fun h => ?_⟩
  -- On two numbers or two texts every operator reads one ordering.
  obtain ⟨o, ho⟩ := Option.isSome_iff_exists.1 ((order?_isSome_iff ha hb).2 h)
  have hswap : order? b a = some o.swap := by rw [order?_swap, ho]; rfl
  obtain ⟨hlt, hle, hgt, hge⟩ := compareValues_of_order? ho
  obtain ⟨hlt', hle', -, -⟩ := compareValues_of_order? hswap
  have heq : compareValues a "==" b = .ok (o == .eq) := by
    rw [compareValues_eq, looseEq_eq_order? h, ho]
    cases o <;> rfl
  rw [hgt, hlt', hge, hle', hle, heq]
  refine ⟨by cases o <;> rfl, by cases o <;> rfl, by cases o <;> simp, ⟨_, _, _, hlt, rfl, rfl, ?_⟩⟩
  cases o <;> rfl

/-- Two integers, which are never NaN, obey the ordering laws. -/
theorem integer_comparison_laws :
    (Value.num (.int 1)).isNaN = false ∧ (Value.num (.int 2)).isNaN = false ∧
    (Value.num (.int 1)).Orderable (.num (.int 2)) ∧
    (compareValues (.num (.int 1)) "!=" (.num (.int 2)) =
        (compareValues (.num (.int 1)) "==" (.num (.int 2))).map (!·) ∧
      compareValues (.num (.int 1)) "==" (.num (.int 2)) =
        compareValues (.num (.int 2)) "==" (.num (.int 1)) ∧
      (∀ items : List Value, compareValues (.arr items) "contains" (.num (.int 2)) = .ok true ↔
        ∃ e ∈ items, compareValues e "==" (.num (.int 2)) = .ok true) ∧
      ((Value.num (.int 1)).isNaN = false → (Value.num (.int 2)).isNaN = false →
        (∀ op ∈ ["<", "<=", ">", ">="], (∃ r, compareValues (.num (.int 1)) op (.num (.int 2)) = .ok r) ↔
          (Value.num (.int 1)).Orderable (.num (.int 2))) ∧
        ((Value.num (.int 1)).Orderable (.num (.int 2)) →
          compareValues (.num (.int 1)) ">" (.num (.int 2)) =
            compareValues (.num (.int 2)) "<" (.num (.int 1)) ∧
          compareValues (.num (.int 1)) ">=" (.num (.int 2)) =
            compareValues (.num (.int 2)) "<=" (.num (.int 1)) ∧
          (compareValues (.num (.int 1)) ">=" (.num (.int 2)) = .ok true ∧
              compareValues (.num (.int 1)) "<=" (.num (.int 2)) = .ok true ↔
            compareValues (.num (.int 1)) "==" (.num (.int 2)) = .ok true) ∧
          ∃ lt eq gt, compareValues (.num (.int 1)) "<" (.num (.int 2)) = .ok lt ∧
            compareValues (.num (.int 1)) "==" (.num (.int 2)) = .ok eq ∧
            compareValues (.num (.int 1)) ">" (.num (.int 2)) = .ok gt ∧
            [lt, eq, gt].count true = 1))) :=
  ⟨Number.isNaN_int 1, Number.isNaN_int 2, trivial, condition_comparison_laws _ _⟩

end Flowline
