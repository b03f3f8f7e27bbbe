import Flowline.Json.Tree
import Flowline.Json.Writer
import Flowline.Unicode.Chars
set_option autoImplicit false

/-!
# Reading records out of documents

Stored runs (pause tickets, cursors, events) and step specifications are
documents that must have a given shape. A `Decode α` reads an `α` out of a
`Json.Tree`, or says why it cannot, in the wording used for stored data:

* `invalid type: integer `5`, expected a string`: a value of the wrong kind;
* `invalid value: integer `-1`, expected usize`: right kind, out of range;
* `missing field `nodes``, `duplicate field `kind``: a record's members;
* `invalid length 2, expected struct FlowEvent with 10 elements`: a record
  written as a list that is too short;
* `unknown variant `step`, expected `block` or `loop``: a bad name.

A record (`Decode.record`) may be written as an object or as the list of its
members in declaration order. An object is read member by member in the
order given; unknown members are skipped, a member given twice is refused,
and missing members are reported afterwards in declaration order. A list
fills the members in order; once it runs out, a member with a default takes
it and any other member is missing.

The `Source` of a document decides the rest of the wording. Text read
directly refuses a list longer than its record as trailing characters and
takes a name without data only as a string or as a one-member object whose
value is null. A document in memory reports a list's length instead. A part
buffered while its tag was looked for (`Decode.tagged`) reports how many
elements were used, and also takes an empty object as "no data".
-/

namespace Flowline

open Json (Tree)

/-- Where a document being read came from. -/
inductive Source where
  /-- JSON text read directly. -/
  | text
  /-- A document in memory. -/
  | value
  /-- Part of a document, buffered while its tag was looked for. -/
  | buffered
  deriving DecidableEq, Inhabited

/-- Reads an `α` out of a document from a given source, or says why not. -/
abbrev Decode (α : Type) := Source → Tree → Except String α

namespace Decode

/-- Reads a document held in memory. -/
def fromValue {α : Type} (d : Decode α) (v : Value) : Except String α := d .value (Tree.ofValue v)

/-- How a value is named when it is of the wrong kind. -/
def unexpected : Tree → String
  | .null => "null"
  | .bool b => s!"boolean `{b}`"
  | .num (.int i) => s!"integer `{i}`"
  | .num (.float f) => s!"floating point `{NumberLayout.document.render f}`"
  | .str s => s!"string {Unicode.quote s}"
  | .arr _ => "sequence"
  | .obj _ => "map"

/-- A value of the wrong kind. -/
def invalidType (t : Tree) (expected : String) : String :=
  s!"invalid type: {unexpected t}, expected {expected}"

/-- A value of the right kind but out of range. -/
def invalidValue (t : Tree) (expected : String) : String :=
  s!"invalid value: {unexpected t}, expected {expected}"

/-- A list of the wrong length. -/
def invalidLength (n : Nat) (expected : String) : String := s!"invalid length {n}, expected {expected}"

/-- A record without a required member. -/
def missingField (name : String) : String := s!"missing field `{name}`"

/-- A record with a member given twice. -/
def duplicateField (name : String) : String := s!"duplicate field `{name}`"

/-- A list of names in backquotes: `a`, `a` or `b`, one of `a`, `b`, `c`. -/
def oneOf (names : List String) : String :=
  match names with
  | [a] => s!"`{a}`"
  | [a, b] => s!"`{a}` or `{b}`"
  | _ => "one of " ++ ", ".intercalate (names.map fun n => s!"`{n}`")

/-- A name that names no variant. -/
def unknownVariant (tag : String) (expected : List String) : String :=
  if expected.isEmpty then s!"unknown variant `{tag}`, there are no variants"
  else s!"unknown variant `{tag}`, expected {oneOf expected}"

/-- Whether a refusal met while reading text directly is a fault of the text
itself (items past the end of a record, or no name where a variant was
expected) rather than of the document's shape. -/
def isTextFault (e : String) : Bool := e == "trailing characters" || e == "expected value"

/-- A count of elements: `1 element`, `3 elements`. -/
def elements (n : Nat) : String := if n = 1 then "1 element" else s!"{n} elements"

/-- Any value, as a document; a repeated member keeps its last value. -/
def any : Decode Value := fun _ t => .ok t.toValue

/-- A string. -/
def string : Decode String := fun _ t =>
  match t with
  | .str s => .ok s
  | t => .error (invalidType t "a string")

/-- A boolean. -/
def bool : Decode Bool := fun _ t =>
  match t with
  | .bool b => .ok b
  | t => .error (invalidType t "a boolean")

/-- A non-negative integer below `2^64`, named `expected` in messages
(`usize`, `u64`). -/
def natBelow64 (expected : String) : Decode Nat := fun _ t =>
  match t with
  | .num (.int i) =>
    if 0 ≤ i ∧ i < Nat.pow 2 64 then .ok i.toNat else .error (invalidValue t expected)
  | t => .error (invalidType t expected)

/-- A count (`usize`). -/
def count : Decode Nat := natBelow64 "usize"

/-- A double; an integer is taken as the nearest double. -/
def float : Decode Float := fun _ t =>
  match t with
  | .num n => .ok n.toFloat
  | t => .error (invalidType t "f64")

/-- A list, each item read by `item`. -/
def list {α : Type} (item : Decode α) : Decode (List α) := fun src t =>
  match t with
  | .arr xs => xs.mapM (item src)
  | t => .error (invalidType t "a sequence")

/-- An optional value: null gives nothing. -/
def optional {α : Type} (inner : Decode α) : Decode (Option α) := fun src t =>
  match t with
  | .null => .ok none
  | t => (inner src t).map some

/-- A name that picks a variant: a string only. -/
def identifier : Decode String := fun _ t =>
  match t with
  | .str s => .ok s
  | t => .error (invalidType t "variant identifier")

/-- Looks a name up among named choices. -/
def pick {α : Type} (choices : List (String × α)) (name : String) : Except String α :=
  match choices.find? (·.1 == name) with
  | some (_, a) => .ok a
  | none => .error (unknownVariant name (choices.map (·.1)))

/-- The data of a variant that carries none: null, or (when buffered) an
empty object. -/
def noData (src : Source) (t : Tree) : Except String Unit :=
  match t with
  | .null => .ok ()
  | .obj [] => if src = .buffered then .ok () else .error (invalidType t "unit")
  | t => .error (invalidType t "unit")

/-- One of a fixed set of names, each a variant without data: written as
the name, or as a one-member object from the name to null. -/
def unitVariant {α : Type} (choices : List (String × α)) : Decode α := fun src t =>
  match src, t with
  | _, .str s => pick choices s
  | .text, .obj ((k, v) :: rest) => do
    let a ← pick choices k
    noData .text v
    if rest.isEmpty then pure a else throw "expected value"
  | .text, _ => .error "expected value"
  | src, .obj [(k, v)] => do
    let a ← pick choices k
    noData src v
    pure a
  | _, .obj _ => .error (invalidValue (.obj []) "map with a single key")
  | _, t => .error (invalidType t "string or map")

/-- What a record member takes when it is not given. -/
inductive Fallback where
  /-- Nothing: the member must be given. -/
  | required
  /-- Its default value. -/
  | defaulted
  deriving DecidableEq

/-- A member rule of a record: its name, what it takes when not given, and
the check its value must pass. -/
structure Member where
  name : String
  fallback : Fallback
  check : Source → Tree → Option String

/-- The problem `d` finds with a value, if any. -/
def problem {α : Type} (d : Decode α) (src : Source) (t : Tree) : Option String :=
  match d src t with
  | .ok _ => none
  | .error e => some e

/-- A required member read by `d`. -/
def req {α : Type} (name : String) (d : Decode α) : Member := ⟨name, .required, problem d⟩

/-- A member with a default, read by `d` when given. -/
def opt {α : Type} (name : String) (d : Decode α) : Member := ⟨name, .defaulted, problem d⟩

/-- The members of a record that were given, and where they came from. -/
structure Found where
  source : Source
  members : List (String × Tree)

namespace Found

/-- The value given for a member. -/
def tree? (f : Found) (name : String) : Option Tree := (f.members.find? (·.1 == name)).map (·.2)

/-- A member read by `d`; one not given reads as null. -/
def get {α : Type} (f : Found) (name : String) (d : Decode α) : Except String α :=
  d f.source ((f.tree? name).getD .null)

/-- A member that may be missing or null, read by `d` otherwise. -/
def opt {α : Type} (f : Found) (name : String) (d : Decode α) : Except String (Option α) :=
  match f.tree? name with
  | none => .ok none
  | some .null => .ok none
  | some t => (d f.source t).map some

/-- A member with a default for when it is not given. -/
def getD {α : Type} (f : Found) (name : String) (d : Decode α) (default : α) : Except String α :=
  match f.tree? name with
  | none => .ok default
  | some t => d f.source t

end Found

/-- Takes the members of an object in the order given: skips unknown ones,
refuses repeated ones, then reports the first required member missing. -/
def fromObject (src : Source) (members : List Member) (found : List (String × Tree)) :
    List (String × Tree) → Except String (List (String × Tree))
  | [] =>
    match members.find? fun m => m.fallback = .required && !found.any (·.1 == m.name) with
    | some m => .error (missingField m.name)
    | none => .ok found
  | (k, v) :: rest =>
    match members.find? (·.name == k) with
    | none => fromObject src members found rest
    | some m =>
      if found.any (·.1 == k) then .error (duplicateField k)
      else match m.check src v with
        | some e => .error e
        | none => fromObject src members ((k, v) :: found) rest

/-- Fills members from the items of a list, in order; `index` counts the
items used. When the list runs out, members with defaults keep them and a
required member is missing. -/
def fromList (src : Source) (expected : String) (total index : Nat) (found : List (String × Tree)) :
    List Member → List Tree → Except String (List (String × Tree))
  | [], [] => .ok found
  | [], extra =>
    match src with
    | .text => .error "trailing characters"
    | .value => .error (invalidLength (index + extra.length) "fewer elements in array")
    | .buffered => .error (invalidLength (index + extra.length) s!"{elements index} in sequence")
  | m :: ms, t :: rest =>
    match m.check src t with
    | some e => .error e
    | none => fromList src expected total (index + 1) ((m.name, t) :: found) ms rest
  | m :: ms, [] =>
    if m.fallback = .required then .error (invalidLength index s!"{expected} with {elements total}")
    else fromList src expected total (index + 1) found ms []

/-- Reads a record named `expected` (such as `struct FlowEvent`), written as
an object or as the list of its members; gives the members found. -/
def record (expected : String) (members : List Member) : Decode Found := fun src t =>
  match t with
  | .obj ms => (fromObject src members [] ms).map (Found.mk src)
  | .arr items => (fromList src expected members.length 0 [] members items).map (Found.mk src)
  | t => .error (invalidType t expected)

/-- Finds the tag member of an object, reading its name on the spot;
gives the variant it picks and the other members, in order. -/
def scanTag {α : Type} (src : Source) (tag : String) (variants : List (String × Decode α))
    (picked : Option (Decode α)) (rest : List (String × Tree)) :
    List (String × Tree) → Except String (Decode α × List (String × Tree))
  | [] =>
    match picked with
    | some d => .ok (d, rest.reverse)
    | none => .error (missingField tag)
  | (k, v) :: more =>
    if k == tag then
      if picked.isSome then .error (duplicateField tag)
      else do
        let name ← identifier src v
        let d ← pick variants name
        scanTag src tag variants (some d) rest more
    else scanTag src tag variants picked ((k, v) :: rest) more

/-- A variant named by a tag inside it (`expected` is such as `internally
tagged enum Frame`): an object with the tag member `tag`, or a list whose
first item is the tag. The variant reads the rest as a buffered part. -/
def tagged {α : Type} (tag expected : String) (variants : List (String × Decode α)) : Decode α :=
  fun src t =>
    match t with
    | .obj ms => do
      let (d, rest) ← scanTag src tag variants none [] ms
      d .buffered (.obj rest)
    | .arr [] => .error (missingField tag)
    | .arr (first :: rest) => do
      let name ← identifier src first
      let d ← pick variants name
      d .buffered (.arr rest)
    | t => .error (invalidType t expected)

end Decode

end Flowline
