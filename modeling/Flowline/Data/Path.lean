import Flowline.Data.Value
import Flowline.Data.Text
set_option autoImplicit false

/-!
# Dotted paths into documents

State is a document addressed by dotted paths such as `user.address.city`.
Empty segments are ignored, so `a..b` is `a.b` and the empty path is the
whole document. A segment indexes a list when it reads as an unsigned
number (`items.1`, also `items.+1` and `items.01`).

* `getPath` follows the path and fails on anything missing.
* `setPath` writes, creating objects on the way: a member that is not an
  object or list is replaced by an object, and so is a list the segment
  cannot index.
* `removePath` takes a member out of an object; list items stay.
* `deepMerge` lays one document over another: objects merge member by
  member, anything else is replaced.
-/

namespace Flowline

namespace Path

/-- The non-empty segments of a dotted path. -/
def segments (path : String) : List String := (path.splitOn ".").filter fun s => !s.isEmpty

/-- A segment read as a list index. -/
def index? (segment : String) : Option Nat := Text.parseU64? segment

/-- The member or item a segment names. -/
def child? (v : Value) (segment : String) : Option Value :=
  match v with
  | .obj fs => Fields.find? fs segment
  | .arr items => (index? segment).bind fun i => items[i]?
  | _ => none

/-- The value at a list of segments. -/
def getAt : List String → Value → Option Value
  | [], v => some v
  | s :: rest, v => (child? v s).bind (getAt rest)

/-- Writes a value at a list of segments. -/
def setAt : List String → Value → Value → Value
  | [], _, value => value
  | s :: rest, current, value =>
    match current with
    | .arr items =>
      match index? s with
      | some i =>
        if h : i < items.length then .arr (items.set i (setAt rest (items.get ⟨i, h⟩) value))
        else .obj [(s, setAt rest .null value)]
      | none => .obj [(s, setAt rest .null value)]
    | .obj fs => .obj (Fields.insert fs s (setAt rest ((Fields.find? fs s).getD .null) value))
    | _ => .obj [(s, setAt rest .null value)]

/-- Removes the member at a list of segments; gives the new document and the
removed value. -/
def removeAt : List String → Value → Option (Value × Value)
  | [], _ => none
  | [last], .obj fs => (Fields.find? fs last).map fun v => (.obj (Fields.erase fs last), v)
  | [_], _ => none
  | s :: rest, .obj fs => do
    let child ← Fields.find? fs s
    let (updated, removed) ← removeAt rest child
    pure (.obj (Fields.insert fs s updated), removed)
  | s :: rest, .arr items => do
    let i ← index? s
    let child ← items[i]?
    let (updated, removed) ← removeAt rest child
    pure (.arr (items.set i updated), removed)
  | _, _ => none

end Path

/-- The value at a dotted path. -/
def getPath (root : Value) (path : String) : Option Value := Path.getAt (Path.segments path) root

/-- Writes a value at a dotted path. -/
def setPath (root : Value) (path : String) (value : Value) : Value :=
  Path.setAt (Path.segments path) root value

/-- Removes the member at a dotted path: the new document and what was
removed, if anything. -/
def removePath (root : Value) (path : String) : Value × Option Value :=
  match Path.removeAt (Path.segments path) root with
  | some (updated, removed) => (updated, some removed)
  | none => (root, none)

/-- Lays `overlay` over `base`: objects merge member by member, anything
else is replaced by the overlay. -/
def deepMerge : Value → Value → Value
  | .obj base, .obj overlay => .obj (mergeFields base overlay)
  | _, overlay => overlay
where
  /-- Merges overlay members into `acc`, in the overlay's order. -/
  mergeFields (acc : Fields) : Fields → Fields
    | [] => acc
    | (k, v) :: rest =>
      let merged := match Fields.find? acc k with
        | some existing => deepMerge existing v
        | none => v
      mergeFields (Fields.insert acc k merged) rest

end Flowline
