set_option autoImplicit false

/-!
# Document values

Everything the engine reads and writes at run time is a tree of JSON-shaped
values: flow documents, step parameters, instance state, step outputs and
pause details.

* Objects keep their members sorted by key, one member per key. Keys are
  ordered by the code points of their characters, which is also the byte
  order of their UTF-8 text. So two objects with the same members are the
  same value, and every printer writes members in key order.
* A number remembers whether it was written as an integer or as a double.
  Integers stay exact; a double never equals an integer, and doubles compare
  as doubles (so `0.0` equals `-0.0`).

The main operations are the member lookup `Value.field?`, the sorted member
insertion `Fields.insert` and its removal `Fields.erase`; `Fields.find?_insert`
and `Fields.find?_erase` say what they do to a lookup.
-/

namespace Flowline

/-- A number inside a document: an exact integer or a double. -/
inductive Number where
  /-- An integer written without fraction or exponent. -/
  | int (i : Int)
  /-- A double. -/
  | float (f : Float)
  deriving Inhabited

namespace Number

/-- Numbers are equal when they are of the same kind and equal as such;
doubles use the floating-point comparison. -/
def beq : Number → Number → Bool
  | .int a, .int b => a == b
  | .float a, .float b => a == b
  | _, _ => false

instance : BEq Number := ⟨beq⟩

/-- The number as a double: an integer is rounded to the nearest double. -/
def toFloat : Number → Float
  | .int i => Float.ofInt i
  | .float f => f

/-- The number as a non-negative integer, if it is one. -/
def toNat? : Number → Option Nat
  | .int (.ofNat n) => some n
  | _ => none

end Number

/-- A document value. Objects are kept sorted by key with distinct keys
(see `Fields.insert`). -/
inductive Value where
  | null
  | bool (b : Bool)
  | num (n : Number)
  | str (s : String)
  | arr (items : List Value)
  | obj (fields : List (String × Value))
  deriving Inhabited

/-- The members of an object, sorted by key. -/
abbrev Fields := List (String × Value)

namespace Fields

/-- The value stored under `key`. -/
def find? : Fields → String → Option Value
  | [], _ => none
  | (k, v) :: rest, key => if k = key then some v else find? rest key

/-- Stores `value` under `key`, replacing an earlier member of that key and
keeping the members sorted. -/
def insert : Fields → String → Value → Fields
  | [], key, value => [(key, value)]
  | (k, v) :: rest, key, value =>
    if key < k then (key, value) :: (k, v) :: rest
    else if key = k then (key, value) :: rest
    else (k, v) :: insert rest key value

/-- Removes the member stored under `key`. -/
def erase : Fields → String → Fields
  | [], _ => []
  | (k, v) :: rest, key => if k = key then rest else (k, v) :: erase rest key

/-- The keys, in order. -/
def keys (fs : Fields) : List String := fs.map Prod.fst

/-- Whether a member is stored under `key`. -/
def contains (fs : Fields) (key : String) : Bool := (fs.find? key).isSome

/-- Builds sorted members from pairs in any order; a later pair wins over an
earlier one of the same key. -/
def ofList (pairs : List (String × Value)) : Fields :=
  pairs.foldl (fun acc (k, v) => acc.insert k v) []

theorem find?_insert_self (fs : Fields) (key : String) (value : Value) :
    (fs.insert key value).find? key = some value := by
  induction fs with
  | nil => simp [insert, find?]
  | cons head rest ih =>
    obtain ⟨k, v⟩ := head
    simp only [insert]
    split
    · simp [find?]
    · split
      · simp [find?]
      · rename_i h1 h2
        simp [find?, Ne.symm h2, ih]

theorem find?_insert_ne (fs : Fields) {key other : String} (value : Value)
    (h : other ≠ key) : (fs.insert key value).find? other = fs.find? other := by
  induction fs with
  | nil => simp [insert, find?, Ne.symm h]
  | cons head rest ih =>
    obtain ⟨k, v⟩ := head
    simp only [insert]
    split
    · simp [find?, Ne.symm h]
    · split
      · rename_i h1 h2
        subst h2
        simp [find?, Ne.symm h]
      · simp [find?, ih]

theorem find?_erase_self (fs : Fields) (key : String) (h : (fs.map Prod.fst).Nodup) :
    (fs.erase key).find? key = none := by
  induction fs with
  | nil => simp [erase, find?]
  | cons head rest ih =>
    obtain ⟨k, v⟩ := head
    simp only [List.map_cons, List.nodup_cons] at h
    simp only [erase]
    split
    · rename_i hk
      subst hk
      clear ih
      induction rest with
      | nil => simp [find?]
      | cons head' rest' ih' =>
        obtain ⟨k', v'⟩ := head'
        simp only [List.map_cons, List.mem_cons, not_or] at h
        simp only [find?]
        have hne : k' ≠ k := fun e => h.1.1 e.symm
        simp only [hne, if_false]
        exact ih' ⟨h.1.2, (List.nodup_cons.1 h.2).2⟩
    · rename_i hk
      simp [find?, hk, ih h.2]

end Fields

namespace Value

/-- Values are equal when they have the same shape and equal leaves; see
`Number.beq` for numbers. -/
def beq : Value → Value → Bool
  | .null, .null => true
  | .bool a, .bool b => a == b
  | .num a, .num b => a.beq b
  | .str a, .str b => a == b
  | .arr xs, .arr ys => beqList xs ys
  | .obj xs, .obj ys => beqFields xs ys
  | _, _ => false
where
  /-- Pointwise equality of two lists of values. -/
  beqList : List Value → List Value → Bool
    | [], [] => true
    | x :: xs, y :: ys => beq x y && beqList xs ys
    | _, _ => false
  /-- Pointwise equality of two member lists, keys included. -/
  beqFields : Fields → Fields → Bool
    | [], [] => true
    | (k, x) :: xs, (l, y) :: ys => k == l && beq x y && beqFields xs ys
    | _, _ => false

instance : BEq Value := ⟨beq⟩

/-- An integer value. -/
def ofInt (i : Int) : Value := .num (.int i)

/-- A non-negative integer value. -/
def ofNat (n : Nat) : Value := .num (.int n)

/-- A double value. -/
def ofFloat (f : Float) : Value := .num (.float f)

/-- An object built from pairs in any order; a later pair wins. -/
def object (pairs : List (String × Value)) : Value := .obj (Fields.ofList pairs)

/-- The empty object. -/
def empty : Value := .obj []

/-- A list of strings. -/
def strs (xs : List String) : Value := .arr (xs.map .str)

def isNull : Value → Bool
  | .null => true
  | _ => false

def isObject : Value → Bool
  | .obj _ => true
  | _ => false

def isArray : Value → Bool
  | .arr _ => true
  | _ => false

def isString : Value → Bool
  | .str _ => true
  | _ => false

def isNumber : Value → Bool
  | .num _ => true
  | _ => false

def isBool : Value → Bool
  | .bool _ => true
  | _ => false

/-- The text of a string value. -/
def str? : Value → Option String
  | .str s => some s
  | _ => none

/-- The truth value of a boolean. -/
def bool? : Value → Option Bool
  | .bool b => some b
  | _ => none

/-- The items of an array. -/
def arr? : Value → Option (List Value)
  | .arr xs => some xs
  | _ => none

/-- The members of an object. -/
def obj? : Value → Option Fields
  | .obj fs => some fs
  | _ => none

/-- A number as a double. -/
def float? : Value → Option Float
  | .num n => some n.toFloat
  | _ => none

/-- A non-negative integer. -/
def nat? : Value → Option Nat
  | .num n => n.toNat?
  | _ => none

/-- Whether the value is an integer (of either sign). -/
def isInteger : Value → Bool
  | .num (.int _) => true
  | _ => false

/-- The member `key` of an object; nothing for other values. -/
def field? (v : Value) (key : String) : Option Value :=
  match v with
  | .obj fs => Fields.find? fs key
  | _ => none

/-- The member `key` of an object, or null. -/
def fieldOrNull (v : Value) (key : String) : Value := (v.field? key).getD .null

/-- Stores a member in an object. Other values are left alone. -/
def setField (v : Value) (key : String) (value : Value) : Value :=
  match v with
  | .obj fs => .obj (Fields.insert fs key value)
  | other => other

end Value

end Flowline
