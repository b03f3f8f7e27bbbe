import Flowline.Data.Value
set_option autoImplicit false

/-!
# JSON as written

A `Json.Tree` is JSON text read without losing anything a typed reader
can see: an object keeps its members in the order they were written, a
repeated key included. Records read from text refuse a repeated member and
report the first problem in written order, so they are read from trees.

`Tree.toValue` forgets the order and keeps the last of repeated members,
which is how a plain document is built; `Tree.ofValue` goes back, with the
members in key order.
-/

namespace Flowline

namespace Json

/-- JSON text as written. -/
inductive Tree where
  | null
  | bool (b : Bool)
  | num (n : Number)
  | str (s : String)
  | arr (items : List Tree)
  | obj (members : List (String × Tree))
  deriving Inhabited

namespace Tree

mutual

/-- The document a tree reads as: repeated members keep their last value. -/
def toValue : Tree → Value
  | .null => .null
  | .bool b => .bool b
  | .num n => .num n
  | .str s => .str s
  | .arr items => .arr (toValues items)
  | .obj members => .obj (toFields [] members)

/-- The documents of a list of trees. -/
def toValues : List Tree → List Value
  | [] => []
  | t :: rest => toValue t :: toValues rest

/-- Members added in order to `acc`, a later one replacing an earlier one. -/
def toFields (acc : Fields) : List (String × Tree) → Fields
  | [] => acc
  | (k, t) :: rest => toFields (acc.insert k (toValue t)) rest

end

mutual

/-- A document as a tree, members in key order. -/
def ofValue : Value → Tree
  | .null => .null
  | .bool b => .bool b
  | .num n => .num n
  | .str s => .str s
  | .arr items => .arr (ofValues items)
  | .obj fields => .obj (ofFields fields)

/-- The trees of a list of documents. -/
def ofValues : List Value → List Tree
  | [] => []
  | v :: rest => ofValue v :: ofValues rest

/-- The members of an object as tree members. -/
def ofFields : List (String × Value) → List (String × Tree)
  | [] => []
  | (k, v) :: rest => (k, ofValue v) :: ofFields rest

end

end Tree

end Json

end Flowline
