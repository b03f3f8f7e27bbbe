import Flowline.Yaml.Node
import Flowline.Number.Layout
set_option autoImplicit false

/-!
# Writing YAML

`Yaml.write` writes a document in block style, the way flow files are
saved:

* a mapping writes `key: value` lines; a nested mapping goes on the lines
  below, indented by two, and a nested sequence goes below without extra
  indentation (`key:` then `- item`);
* a sequence writes `- item` lines; a nested collection starts on the item's
  own line (`- - a`, `- k: v`);
* empty collections are written `[]` and `{}`;
* null, booleans and numbers are written plainly; doubles with their
  shortest digits (`2.5`, `1.0`, `1e300`).

A string is written plainly unless that would read back as something else:
text that reads as null, a boolean or a number is single-quoted, and so is
text with a leading zero followed by digits. Text with a line break is a
literal block (`|-`). A style the text cannot be written in falls back:
plain to single-quoted (for indicator characters, surrounding blanks), and
single-quoted or literal to double-quoted (for characters outside the
printable set, or a blank next to a line break). Lines are never folded,
however long.
-/

namespace Flowline

namespace Yaml

/-- How a scalar is written. -/
inductive ScalarStyle where
  | plain
  | singleQuoted
  | doubleQuoted
  | literal
  deriving Inhabited, BEq, Repr

/-- Whether a character is printable in the sense of the YAML writer. -/
def printable (c : Char) : Bool :=
  let n := c.toNat
  n == 0x0A || (0x20 ≤ n && n ≤ 0x7E) || (0xA0 ≤ n && n ≤ 0xD7FF) ||
    (0xE000 ≤ n && n ≤ 0xFFFD && n != 0xFEFF)

/-- Whether a character breaks a line. -/
def isBreak (c : Char) : Bool :=
  c == '\n' || c == '\r' || c.toNat == 0x85 || c.toNat == 0x2028 || c.toNat == 0x2029

/-- Whether a character is blank: a space, a tab or a line break. -/
def isBlank (c : Char) : Bool := c == ' ' || c == '\t' || isBreak c

/-- What a scalar's text allows. -/
structure Analysis where
  multiline : Bool
  flowPlain : Bool
  blockPlain : Bool
  singleQuoted : Bool
  block : Bool
  deriving Inhabited

/-- The flags gathered while scanning a scalar. -/
structure ScanFlags where
  flowIndicators : Bool := false
  blockIndicators : Bool := false
  special : Bool := false
  lineBreaks : Bool := false
  leadingSpace : Bool := false
  leadingBreak : Bool := false
  trailingSpace : Bool := false
  trailingBreak : Bool := false
  breakSpace : Bool := false
  spaceBreak : Bool := false
  previousSpace : Bool := false
  previousBreak : Bool := false
  deriving Inhabited

/-- Scans the characters of a scalar; `first` marks its first character and
`before` says whether the character before is blank (or there is none). -/
def scan (first : Bool) (before : Bool) (f : ScanFlags) : List Char → ScanFlags
  | [] => f
  | c :: rest =>
    let after := match rest with
      | [] => true
      | d :: _ => isBlank d
    let last := rest.isEmpty
    let f := if first then
        let f := if "#,[]\x7b\x7d&*!|>'\"%@`".contains c then
            { f with flowIndicators := true, blockIndicators := true } else f
        let f := if c == '?' || c == ':' then
            { f with flowIndicators := true, blockIndicators := f.blockIndicators || after } else f
        if c == '-' && after then { f with flowIndicators := true, blockIndicators := true } else f
      else
        let f := if ",?[]\x7b\x7d".contains c then { f with flowIndicators := true } else f
        let f := if c == ':' then
            { f with flowIndicators := true, blockIndicators := f.blockIndicators || after } else f
        if c == '#' && before then { f with flowIndicators := true, blockIndicators := true } else f
    let f := if !printable c then { f with special := true } else f
    let f := if isBreak c then { f with lineBreaks := true } else f
    let f :=
      if c == ' ' then
        { f with leadingSpace := f.leadingSpace || first, trailingSpace := f.trailingSpace || last,
                 breakSpace := f.breakSpace || f.previousBreak, previousSpace := true,
                 previousBreak := false }
      else if isBreak c then
        { f with leadingBreak := f.leadingBreak || first, trailingBreak := f.trailingBreak || last,
                 spaceBreak := f.spaceBreak || f.previousSpace, previousSpace := false,
                 previousBreak := true }
      else { f with previousSpace := false, previousBreak := false }
    scan false (isBlank c) f rest

/-- What a scalar's text allows. -/
def analyze (s : String) : Analysis :=
  let cs := s.toList
  if cs.isEmpty then ⟨false, false, true, true, false⟩
  else
    let start : ScanFlags :=
      if s.startsWith "---" || s.startsWith "..." then
        { flowIndicators := true, blockIndicators := true } else {}
    let f := scan true true start cs
    let plainBlanks := !(f.leadingSpace || f.leadingBreak || f.trailingSpace || f.trailingBreak)
    let strict := !(f.spaceBreak || f.special)
    { multiline := f.lineBreaks
      flowPlain := plainBlanks && !f.breakSpace && strict && !f.lineBreaks && !f.flowIndicators
      blockPlain := plainBlanks && !f.breakSpace && strict && !f.lineBreaks && !f.blockIndicators
      singleQuoted := !f.breakSpace && strict
      block := !f.trailingSpace && strict }

/-- The style asked for a string: literal with a line break, single-quoted
when the plain text would read as another kind of value. -/
def requestedStyle (s : String) : ScalarStyle :=
  if s.contains '\n' then .literal
  else if leadingZeroDigits s then .singleQuoted
  else match plainValue s with
    | .ok (.str t) => if t == s then .plain else .singleQuoted
    | _ => .singleQuoted

/-- The style a scalar is written in, given what its text allows. -/
def selectStyle (requested : ScalarStyle) (a : Analysis) (simpleKey : Bool) (empty : Bool) :
    ScalarStyle :=
  let style := if simpleKey && a.multiline then .doubleQuoted else requested
  let style := if style == .plain && (!a.blockPlain || (empty && simpleKey)) then .singleQuoted
    else style
  let style := if style == .singleQuoted && !a.singleQuoted then .doubleQuoted else style
  if style == .literal && (!a.block || simpleKey) then .doubleQuoted else style

/-- The state of the writer. -/
structure Emitter where
  out : String := ""
  column : Nat := 0
  /-- Whether the last thing written was blank. -/
  whitespace : Bool := true
  /-- Whether only indentation was written on this line. -/
  indention : Bool := true
  indent : Int := -1
  deriving Inhabited

/-- Writing a document. -/
abbrev Emit := StateM Emitter

namespace Emit

/-- Writes text that holds no line break. -/
def text (s : String) : Emit Unit :=
  modify fun e => { e with out := e.out ++ s, column := e.column + s.length }

/-- Ends the line. -/
def newline : Emit Unit := modify fun e => { e with out := e.out.push '\n', column := 0 }

/-- Writes a line break of a scalar's text: a line feed as the line's end,
any other break character as it is, the line starting after it. -/
def lineBreak (c : Char) : Emit Unit :=
  if c == '\n' then newline
  else modify fun e => { e with out := e.out.push c, column := 0 }

/-- Goes to the start of a line at the current indentation. -/
def writeIndent : Emit Unit := do
  let e ← get
  let indent := e.indent.toNat
  if !e.indention || e.column > indent || (e.column == indent && !e.whitespace) then newline
  let e ← get
  text (String.ofList (List.replicate (indent - e.column) ' '))
  modify fun e => { e with whitespace := true, indention := true }

/-- Writes an indicator such as `-`, `:` or a quote. -/
def indicator (s : String) (needWhitespace isWhitespace isIndention : Bool) : Emit Unit := do
  if needWhitespace && !(← get).whitespace then text " "
  text s
  modify fun e => { e with whitespace := isWhitespace, indention := e.indention && isIndention }

/-- Opens an indentation level; gives the one to restore. -/
def increaseIndent (flow indentless : Bool) : Emit Int := do
  let e ← get
  let next := if e.indent < 0 then (if flow then 2 else 0) else if indentless then e.indent else e.indent + 2
  set { e with indent := next }
  pure e.indent

/-- Restores an indentation level. -/
def restoreIndent (i : Int) : Emit Unit := modify fun e => { e with indent := i }

/-- Writes a plain scalar. -/
def plain (s : String) : Emit Unit := do
  if !(← get).whitespace && !s.isEmpty then text " "
  text s
  modify fun e => { e with whitespace := false, indention := false }

/-- Writes the characters of a single-quoted scalar; `breaks` says the
last character broke the line. -/
def singleChars : Bool → List Char → Emit Unit
  | breaks, [] => if breaks then writeIndent else pure ()
  | breaks, c :: rest => do
    if isBreak c then
      if !breaks && c == '\n' then newline
      lineBreak c
      modify fun e => { e with indention := true }
      singleChars true rest
    else
      if breaks then writeIndent
      text (if c == '\'' then "''" else String.singleton c)
      modify fun e => { e with indention := false }
      singleChars false rest

/-- Writes a single-quoted scalar. -/
def singleQuoted (s : String) : Emit Unit := do
  indicator "'" true false false
  singleChars false s.toList
  indicator "'" false false false

/-- Upper-case hexadecimal digits of a number, `width` of them. -/
def hexDigits (width n : Nat) : String :=
  let ds := (Nat.toDigits 16 n).map Char.toUpper
  String.ofList (List.replicate (width - ds.length) '0' ++ ds)

/-- The escape of a character in a double-quoted scalar. -/
def escape (c : Char) : String :=
  let n := c.toNat
  if n == 0 then "\\0" else if n == 7 then "\\a" else if n == 8 then "\\b"
  else if n == 9 then "\\t" else if n == 10 then "\\n" else if n == 11 then "\\v"
  else if n == 12 then "\\f" else if n == 13 then "\\r" else if n == 0x1B then "\\e"
  else if n == 0x22 then "\\\"" else if n == 0x5C then "\\\\" else if n == 0x85 then "\\N"
  else if n == 0xA0 then "\\_" else if n == 0x2028 then "\\L" else if n == 0x2029 then "\\P"
  else if n ≤ 0xFF then "\\x" ++ hexDigits 2 n
  else if n ≤ 0xFFFF then "\\u" ++ hexDigits 4 n
  else "\\U" ++ hexDigits 8 n

/-- The text of a double-quoted scalar, escapes included. -/
def doubleText (s : String) : String :=
  s.foldl (fun acc c =>
    if !printable c || c.toNat == 0xFEFF || isBreak c || c == '"' || c == '\\' then acc ++ escape c
    else acc.push c) ""

/-- Writes a double-quoted scalar. -/
def doubleQuoted (s : String) : Emit Unit := do
  indicator "\"" true false false
  text (doubleText s)
  indicator "\"" false false false

/-- The indentation and chomping hints of a literal block. -/
def blockHints (s : String) : String :=
  let cs := s.toList
  let indentHint := match cs.head? with
    | some c => if c == ' ' || isBreak c then "2" else ""
    | none => ""
  let chomp := match cs.reverse with
    | [] => "-"
    | c :: before =>
      if !isBreak c then "-"
      else match before with
        | [] => "+"
        | d :: _ => if isBreak d then "+" else ""
  indentHint ++ chomp

/-- Writes the characters of a literal block. -/
def literalChars : Bool → List Char → Emit Unit
  | _, [] => pure ()
  | breaks, c :: rest => do
    if isBreak c then
      lineBreak c
      modify fun e => { e with indention := true }
      literalChars true rest
    else
      if breaks then writeIndent
      text (String.singleton c)
      modify fun e => { e with indention := false }
      literalChars false rest

/-- Writes a literal block scalar. -/
def literal (s : String) : Emit Unit := do
  indicator "|" true false false
  indicator (blockHints s) false false false
  newline
  modify fun e => { e with indention := true, whitespace := true }
  literalChars true s.toList

/-- Writes a scalar's text in a style chosen from the requested one. -/
def scalar (s : String) (requested : ScalarStyle) (simpleKey : Bool) : Emit Unit := do
  let style := selectStyle requested (analyze s) simpleKey s.isEmpty
  let saved ← increaseIndent true false
  match style with
  | .plain => plain s
  | .singleQuoted => singleQuoted s
  | .doubleQuoted => doubleQuoted s
  | .literal => literal s
  restoreIndent saved

/-- Writes an empty collection in flow style. -/
def emptyFlow (openText closeText : String) : Emit Unit := do
  indicator openText true true false
  indicator closeText false false false

end Emit

/-- The layout of doubles in YAML text. -/
def numberLayout : NumberLayout := { NumberLayout.document with plusExponent := false, nanText := ".nan", infText := ".inf" }

/-- The plain text of a scalar that is not a string. -/
def scalarText : Value → String
  | .null => "null"
  | .bool b => if b then "true" else "false"
  | .num (.int i) => toString i
  | .num (.float f) => numberLayout.render f
  | _ => ""

/-- Whether a key of this length can be written as a simple key. -/
def simpleKeyFits (key : String) : Bool := !key.contains '\n' && key.utf8ByteSize ≤ 128

mutual

/-- Writes a value; `inMapping` says it is a mapping's value. -/
def emitValue (inMapping : Bool) : Value → Emit Unit
  | .str s => Emit.scalar s (requestedStyle s) false
  | .arr [] => Emit.emptyFlow "[" "]"
  | .obj [] => Emit.emptyFlow "\x7b" "\x7d"
  | .arr items => do
    let saved ← Emit.increaseIndent false (inMapping && !(← get).indention)
    emitItems items
    Emit.restoreIndent saved
  | .obj fields => do
    let saved ← Emit.increaseIndent false false
    emitFields fields
    Emit.restoreIndent saved
  | v => Emit.scalar (scalarText v) .plain false

/-- Writes the items of a block sequence. -/
def emitItems : List Value → Emit Unit
  | [] => pure ()
  | item :: rest => do
    Emit.writeIndent
    Emit.indicator "-" true false true
    emitValue false item
    emitItems rest

/-- Writes the members of a block mapping. -/
def emitFields : List (String × Value) → Emit Unit
  | [] => pure ()
  | (key, value) :: rest => do
    Emit.writeIndent
    if simpleKeyFits key then
      Emit.scalar key (requestedStyle key) true
      Emit.indicator ":" false false false
    else
      Emit.indicator "?" true false true
      Emit.scalar key (requestedStyle key) false
      Emit.writeIndent
      Emit.indicator ":" true false true
    emitValue true value
    emitFields rest

end

/-- Writes a document in block style, ending with a line break. -/
def write (v : Value) : String :=
  let run : Emit Unit := do
    emitValue false v
    modify fun e => { e with indent := -1 }
    Emit.writeIndent
  (run.run {}).2.out

end Yaml

end Flowline
