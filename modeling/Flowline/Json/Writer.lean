import Flowline.Data.Value
import Flowline.Number.Layout
set_option autoImplicit false

/-!
# Writing values as JSON text

Two layouts of the same grammar:

* `Value.compact`: no blanks at all, `{"a":1,"b":[true,null]}`;
* `Value.pretty`: each member and item on its own line, indented by two
  spaces per level, a blank after each colon; empty containers stay `[]`
  and `{}`.

Strings are quoted with `"`; only the quote, the backslash and the control
characters below U+0020 are escaped, the five usual ones by name (`\n`, `\t`,
`\r`, `\b`, `\f`) and the others as `\u00xx` in lowercase hex. Integers are
written exactly; doubles by `NumberLayout.document`.
-/

namespace Flowline

namespace Json

/-- A hex digit in lowercase. -/
def hexDigit (n : Nat) : Char :=
  if n < 10 then Char.ofNat (48 + n) else Char.ofNat (87 + n)

/-- The escaped form of one character inside a quoted string. -/
def escapeChar (c : Char) : String :=
  if c = '"' then "\\\""
  else if c = '\\' then "\\\\"
  else if c = '\n' then "\\n"
  else if c = '\t' then "\\t"
  else if c = '\r' then "\\r"
  else if c.toNat = 8 then "\\b"
  else if c.toNat = 12 then "\\f"
  else if c.toNat < 32 then
    String.ofList ['\\', 'u', '0', '0', hexDigit (c.toNat / 16), hexDigit (c.toNat % 16)]
  else String.singleton c

/-- A string in quotes, escaped. -/
def quote (s : String) : String :=
  s.foldl (fun acc c => acc ++ escapeChar c) "\"" ++ "\""

/-- The text of a number. -/
def numberText : Number → String
  | .int i => toString i
  | .float f => NumberLayout.document.render f

end Json

namespace Value

/-- Compact JSON text: no blanks. -/
def compact : Value → String
  | .null => "null"
  | .bool true => "true"
  | .bool false => "false"
  | .num n => Json.numberText n
  | .str s => Json.quote s
  | .arr xs => "[" ++ items xs ++ "]"
  | .obj fs => "\x7b" ++ members fs ++ "\x7d"
where
  /-- Items separated by commas. -/
  items : List Value → String
    | [] => ""
    | [x] => compact x
    | x :: rest => compact x ++ "," ++ items rest
  /-- Members separated by commas. -/
  members : Fields → String
    | [] => ""
    | [(k, v)] => Json.quote k ++ ":" ++ compact v
    | (k, v) :: rest => Json.quote k ++ ":" ++ compact v ++ "," ++ members rest

/-- Two spaces per level. -/
def indentText (level : Nat) : String := String.ofList (List.replicate (2 * level) ' ')

/-- Pretty JSON text at nesting `level`: the first line is not indented, the
closing bracket is indented to `level`. -/
def prettyAt (level : Nat) : Value → String
  | .arr [] => "[]"
  | .obj [] => "\x7b\x7d"
  | .arr xs => "[\n" ++ items (level + 1) xs ++ "\n" ++ indentText level ++ "]"
  | .obj fs => "\x7b\n" ++ members (level + 1) fs ++ "\n" ++ indentText level ++ "\x7d"
  | v => v.compact
where
  /-- Items, one per line, at `level`. -/
  items (level : Nat) : List Value → String
    | [] => ""
    | [x] => indentText level ++ prettyAt level x
    | x :: rest => indentText level ++ prettyAt level x ++ ",\n" ++ items level rest
  /-- Members, one per line, at `level`. -/
  members (level : Nat) : Fields → String
    | [] => ""
    | [(k, v)] => indentText level ++ Json.quote k ++ ": " ++ prettyAt level v
    | (k, v) :: rest =>
      indentText level ++ Json.quote k ++ ": " ++ prettyAt level v ++ ",\n" ++ members level rest

/-- Pretty JSON text, two spaces per level. -/
def pretty (v : Value) : String := prettyAt 0 v

end Value

end Flowline
