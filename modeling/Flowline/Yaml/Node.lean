import Flowline.Data.Value
import Flowline.Number.Round
set_option autoImplicit false

/-!
# YAML nodes and their values

A YAML document is first read into a tree of `Yaml.Node`s: scalars with
their text, style and tag, sequences and mappings. `Node.toValue` turns the
tree into a `Value` with the YAML 1.2 core schema:

* an untagged plain scalar is null (empty, `~`, `null`, `Null`, `NULL`),
  a boolean (`true`, `True`, `TRUE` and the three spellings of false), an
  integer (decimal, or `0x`, `0o`, `0b` with an optional sign; a decimal
  with a leading zero is text), a double (`.inf`, `.nan` and anything that
  reads as a finite decimal; infinities and NaN become null) or text;
* a quoted or block scalar is text;
* the tags `!!bool`, `!!int`, `!!float` and `!!null` force their kind or
  fail, any other global tag makes text, and a local tag (`!name`) is refused;
  a tag whose escapes do not spell UTF-8 is no name at all: on a plain
  scalar that starts with `!` it leaves the scalar read as if untagged, and
  otherwise it makes text;
* mapping keys are the texts of scalar keys; a collection as a key is
  refused, and a repeated key keeps its last value;
* an integer that fits 64 bits is kept; one that fits only 128 bits is
  refused; a longer one is read as a double;
* collections nested more than 128 deep are refused;
* an alias has the value of the node its anchor names, and a document whose
  aliases, expanded, come to more than a hundred per event of its text (a
  scalar, an alias, or the start or end of a collection) is refused; an alias
  inside the collection its anchor names has no value, its expansion never
  ending.
-/

namespace Flowline

namespace Yaml

/-- How a scalar was written. -/
inductive Style where
  | plain
  | singleQuoted
  | doubleQuoted
  | literal
  | folded
  deriving DecidableEq, Repr, Inhabited

/-- A resolved tag (`!!str` is `tag:yaml.org,2002:str`). The `%XX` escapes
of a tag are bytes; when the bytes spell UTF-8 the tag is that text,
otherwise all that counts is whether it is local, starting with `!`. -/
inductive Tag where
  | text (uri : String)
  | undecodable (isLocal : Bool)
  deriving DecidableEq, Repr, Inhabited

/-- The prefix of the core schema's tags. -/
def coreTag (name : String) : String := "tag:yaml.org,2002:" ++ name

namespace Tag

/-- The core schema's tag of a name. -/
def core (name : String) : Tag := .text (coreTag name)

/-- The tag that a sequence of bytes spells. -/
def ofBytes (bytes : List UInt8) : Tag :=
  match String.fromUTF8? (ByteArray.mk bytes.toArray) with
  | some uri => .text uri
  | none => .undecodable (bytes.head? == some 33)

/-- Whether the tag is a local name such as `!name`, which no plain value
takes. -/
def isLocalName : Tag → Bool
  | .text uri => uri.startsWith "!"
  | .undecodable _ => false

end Tag

/-- A node of a YAML document. An alias keeps the node its anchor names,
with the number of alias expansions that reading that node makes; an alias
met inside the collection its anchor names is a `cycle`. -/
inductive Node where
  | scalar (text : String) (style : Style) (tag : Option Tag)
  | seq (items : List Node) (tag : Option Tag)
  | map (pairs : List (Node × Node)) (tag : Option Tag)
  | alias (name : String) (target : Node) (expansions : Nat)
  | cycle (name : String)
  deriving Inhabited

/-- The null spellings. -/
def isNullWord (s : String) : Bool := s == "null" || s == "Null" || s == "NULL" || s == "~"

/-- The boolean spellings. -/
def boolWord? (s : String) : Option Bool :=
  if s == "true" || s == "True" || s == "TRUE" then some true
  else if s == "false" || s == "False" || s == "FALSE" then some false
  else none

/-- The value of a digit in `radix`, letters in either case. -/
def digitIn (radix : Nat) (c : Char) : Option Nat :=
  let d :=
    if '0' ≤ c ∧ c ≤ '9' then some (c.toNat - 48)
    else if 'a' ≤ c ∧ c ≤ 'z' then some (c.toNat - 87)
    else if 'A' ≤ c ∧ c ≤ 'Z' then some (c.toNat - 55)
    else none
  d.bind fun v => if v < radix then some v else none

/-- Reads digits in `radix`; nothing for an empty or bad text. -/
def readRadix (radix : Nat) (cs : List Char) : Option Nat :=
  if cs.isEmpty then none
  else cs.foldlM (fun n c => (digitIn radix c).map (n * radix + ·)) 0

/-- Digits with a leading zero, such as `007` or `-01`: text, not a number. -/
def leadingZeroDigits (s : String) : Bool :=
  let cs := match s.toList with
    | '-' :: rest => rest
    | '+' :: rest => rest
    | cs => cs
  cs.length > 1 && cs.head? == some '0' && cs.all Char.isDigit

/-- Whether a text starts with a sign. -/
def startsWithSign (cs : List Char) : Bool := cs.head? == some '+' || cs.head? == some '-'

/-- Reads a radix prefix (`0x`, `0o`, `0b`) and its digits. -/
def readPrefixed (cs : List Char) : Option Nat :=
  match cs with
  | '0' :: 'x' :: rest => if startsWithSign rest then none else readRadix 16 rest
  | '0' :: 'o' :: rest => if startsWithSign rest then none else readRadix 8 rest
  | '0' :: 'b' :: rest => if startsWithSign rest then none else readRadix 2 rest
  | _ => none

/-- The magnitude of an unsigned integer text: one optional `+`, then a
radix prefix or decimal digits. -/
def unsignedMagnitude (s : String) : Option Nat :=
  let cs := s.toList
  let body := match cs with
    | '+' :: rest => if startsWithSign rest then none else some rest
    | _ => some cs
  body.bind fun body =>
    match readPrefixed body with
    | some n => some n
    | none =>
      if startsWithSign body || leadingZeroDigits s then none
      else readRadix 10 body

/-- The magnitude of a negative integer text: `-`, then a radix prefix or
decimal digits. -/
def negativeMagnitude (s : String) : Option Nat :=
  match s.toList with
  | '-' :: rest =>
    if startsWithSign rest then none
    else match readPrefixed rest with
      | some n => some n
      | none => if leadingZeroDigits s then none else readRadix 10 rest
  | _ => none

/-- The outcome of reading an integer text. -/
inductive IntReading where
  | value (i : Int)
  | outOfRange
  | notInteger

/-- Reads an integer text: 64-bit values are kept, 128-bit ones are out of
range, anything else is no integer. -/
def readInteger (s : String) : IntReading :=
  match unsignedMagnitude s with
  | some n =>
    if n < Nat.pow 2 64 then .value n
    else if n < Nat.pow 2 128 then .outOfRange
    else readNegative
  | none => readNegative
where
  /-- The negative reading, tried when the unsigned one gives nothing. -/
  readNegative : IntReading :=
    match negativeMagnitude s with
    | some n =>
      if n ≤ Nat.pow 2 63 then .value (-(n : Int))
      else if n ≤ Nat.pow 2 127 then .outOfRange
      else .notInteger
    | none => .notInteger

/-- Reads a decimal number text `[+-]digits[.digits][(e|E)[+-]digits]`, at
least one digit before or after the point; the words `inf`, `infinity` and
`nan` in any case give non-finite results. -/
def readDecimalText (cs : List Char) : Option Float :=
  let (negative, body) := match cs with
    | '-' :: rest => (true, rest)
    | '+' :: rest => (false, rest)
    | _ => (false, cs)
  let word := String.ofList (body.map Char.toLower)
  if word == "inf" || word == "infinity" then
    some (if negative then -(1.0 / 0.0) else 1.0 / 0.0)
  else if word == "nan" then some (0.0 / 0.0)
  else
    let whole := body.takeWhile Char.isDigit
    let afterWhole := body.drop whole.length
    let (fraction, afterFraction) := match afterWhole with
      | '.' :: rest => (rest.takeWhile Char.isDigit, rest.drop (rest.takeWhile Char.isDigit).length)
      | _ => ([], afterWhole)
    if whole.isEmpty && fraction.isEmpty then none
    else
      let exponent : Option Int := match afterFraction with
        | [] => some 0
        | e :: rest =>
          if e = 'e' ∨ e = 'E' then
            let (sign, digits) : Int × List Char := match rest with
              | '+' :: more => (1, more)
              | '-' :: more => (-1, more)
              | more => (1, more)
            if digits.isEmpty || !digits.all Char.isDigit then none
            else some (sign * ((readRadix 10 digits).getD 0 : Int))
          else none
      exponent.bind fun exp =>
        let mantissa := (readRadix 10 (whole ++ fraction)).getD 0
        match (Decimal.mk mantissa (exp - fraction.length)).toFloat? negative with
        | some f => some f
        | none => some (if negative then -(1.0 / 0.0) else 1.0 / 0.0)

/-- Reads a double text of the core schema: `.inf` forms, `.nan` forms, or
a finite decimal. -/
def readFloat (s : String) : Option Float :=
  let cs := s.toList
  let body := match cs with
    | '+' :: rest => if startsWithSign rest then none else some rest
    | _ => some cs
  body.bind fun body =>
    let unsigned := String.ofList body
    if unsigned == ".inf" || unsigned == ".Inf" || unsigned == ".INF" then some (1.0 / 0.0)
    else if s == "-.inf" || s == "-.Inf" || s == "-.INF" then some (-(1.0 / 0.0))
    else if s == ".nan" || s == ".NaN" || s == ".NAN" then some (0.0 / 0.0)
    else match readDecimalText body with
      | some f => if f.isFinite then some f else none
      | none => none

/-- A double as a value: non-finite doubles become null. -/
def floatValue (f : Float) : Value := if f.isFinite then .num (.float f) else .null

/-- The value of an untagged plain scalar. -/
def plainValue (s : String) : Except String Value :=
  if s.isEmpty || isNullWord s then .ok .null
  else match boolWord? s with
    | some b => .ok (.bool b)
    | none =>
      match readInteger s with
      | .value i => .ok (.num (.int i))
      | .outOfRange => .error s!"integer out of range: {s}"
      | .notInteger =>
        if leadingZeroDigits s then .ok (.str s)
        else match readFloat s with
          | some f => .ok (floatValue f)
          | none => .ok (.str s)

/-- The value of a scalar with a tag. -/
def taggedValue (tag : Tag) (style : Style) (s : String) : Except String Value :=
  match tag with
  | .undecodable isLocal => if isLocal && style = .plain then plainValue s else .ok (.str s)
  | .text tag =>
    if tag.startsWith "!" then .error s!"unsupported tag {tag}"
    else if tag == coreTag "bool" then
      match boolWord? s with
      | some b => .ok (.bool b)
      | none => .error s!"invalid boolean {s}"
    else if tag == coreTag "int" then
      match readInteger s with
      | .value i => .ok (.num (.int i))
      | _ => .error s!"invalid integer {s}"
    else if tag == coreTag "float" then
      match readFloat s with
      | some f => .ok (floatValue f)
      | none => .error s!"invalid float {s}"
    else if tag == coreTag "null" then
      if isNullWord s then .ok .null else .error s!"invalid null {s}"
    else .ok (.str s)

/-- The largest nesting of collections a document may have. -/
def depthLimit : Nat := 128

namespace Node

/-- The node an alias stands for; any other node itself. -/
def resolve : Node → Node
  | .alias _ target _ => target
  | n => n

/-- The events of a node as written: one for a scalar or an alias, two for a
collection around those of its members. An alias is not followed. -/
def events : Node → Nat
  | .scalar .. => 1
  | .alias .. => 1
  | .cycle _ => 1
  | .seq items _ => 2 + eventsAll items
  | .map pairs _ => 2 + eventsPairs pairs
where
  /-- The events of sequence items. -/
  eventsAll : List Node → Nat
    | [] => 0
    | n :: rest => events n + eventsAll rest
  /-- The events of mapping entries. -/
  eventsPairs : List (Node × Node) → Nat
    | [] => 0
    | (k, v) :: rest => events k + events v + eventsPairs rest

/-- The alias expansions that reading a whole node makes: each alias is
one, plus those of reading the node it names. -/
def expansions : Node → Nat
  | .scalar .. => 0
  | .alias _ _ inner => 1 + inner
  | .cycle _ => 1
  | .seq items _ => expansionsAll items
  | .map pairs _ => expansionsPairs pairs
where
  /-- The expansions of sequence items. -/
  expansionsAll : List Node → Nat
    | [] => 0
    | n :: rest => expansions n + expansionsAll rest
  /-- The expansions of mapping entries. -/
  expansionsPairs : List (Node × Node) → Nat
    | [] => 0
    | (k, v) :: rest => expansions k + expansions v + expansionsPairs rest

/-- Whether reading a document expands aliases more than a hundred times
per event of the document, the bound that stops documents whose aliases
multiply. -/
def repeatsTooOften (n : Node) : Bool := n.expansions > 100 * n.events

/-- The value of a node, `depth` collections deep. An alias has the value
of the node it names, at the same depth. -/
def toValueAt (depth : Nat) : Node → Except String Value
  | .alias _ target _ => toValueAt depth target
  | .cycle _ => .error "recursion limit exceeded"
  | .scalar s style tag =>
    match tag with
    | some t => taggedValue t style s
    | none => if style = .plain then plainValue s else .ok (.str s)
  | .seq items tag =>
    if tag.any Tag.isLocalName then .error "unsupported tag"
    else if depth ≥ depthLimit then .error "recursion limit exceeded"
    else (itemsValue (depth + 1) items).map .arr
  | .map pairs tag =>
    if tag.any Tag.isLocalName then .error "unsupported tag"
    else if depth ≥ depthLimit then .error "recursion limit exceeded"
    else (pairsValue (depth + 1) [] pairs).map .obj
where
  /-- The values of sequence items. -/
  itemsValue (depth : Nat) : List Node → Except String (List Value)
    | [] => .ok []
    | n :: rest => do
      let v ← toValueAt depth n
      let vs ← itemsValue depth rest
      pure (v :: vs)
  /-- The members of a mapping, added in order. -/
  pairsValue (depth : Nat) (acc : Fields) : List (Node × Node) → Except String Fields
    | [] => .ok acc
    | (k, v) :: rest => do
      let key ← match k.resolve with
        | .scalar s _ _ => pure s
        | _ => throw "a mapping key must be a scalar"
      let value ← toValueAt depth v
      pairsValue depth (acc.insert key value) rest

/-- The value of a document's root node; a document whose aliases repeat
too often is refused (`repeatsTooOften`). -/
def toValue (n : Node) : Except String Value :=
  if n.repeatsTooOften then .error "repetition limit exceeded" else n.toValueAt 0

end Node

end Yaml

end Flowline
