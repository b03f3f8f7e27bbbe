import Flowline.Yaml.Node
set_option autoImplicit false

/-!
# Reading YAML text

`Yaml.parse` reads a YAML stream with one document into a `Yaml.Node`;
`Yaml.read` goes on to its `Value` (`Node.toValue`). An empty stream, or
one holding only comments, is null; a second document is refused.

The block structure follows the indentation: a block sequence is a column
of `- ` entries, a block mapping a column of `key: value` lines, and a node
nested in either is indented further (a sequence may stand at the column of
the key it belongs to). Flow collections (`[a, b]`, `{k: v}`), quoted
scalars and plain scalars may span lines; line breaks inside them fold to a
space, blank lines to line feeds. Literal (`|`) and folded (`>`) block
scalars take indentation and chomping indicators. Anchors (`&a`), aliases
(`*a`) and tags (`!!str`, `!local`, `!e!name` through a `%TAG` handle)
are read.

The stream may hold tabs, line breaks and printable characters only. Line
breaks are line feeds, carriage returns, next-line characters and the line
and paragraph separators; the last two are kept where a scalar keeps its
breaks. Directives stand before an explicit `---`: `%YAML 1.1` or
`%YAML 1.2` at most once, and `%TAG` declaring each handle once. Escapes
`%XX` in tags are bytes, taken in whole UTF-8 sequences.

In a flow collection `?` always marks a key and `:` always a value, so
neither starts a plain scalar there; an explicit key left empty takes the
indicator after it along, so `[? ]` does not close.

In block context a tab counts as a blank only after a token on the same
line other than `-`, `?` and the `:` before an explicit key's value: at the
start of a line, even a blank one, and right after those indicators it is
refused. Inside plain and block scalars a tab in the indentation of the
enclosing collection is refused too. A key may also be given explicitly, `? key` with its value on a line
`: value` below; flow collections as keys are refused.

Where a key without `?` may start follows the tokens before it on its line:
at the start of a line and after `-`, `?` or the `:` of an explicit key, but
not after `---`, an anchor, a tag, a scalar or the `:` of another key. A
block sequence entry `-` may start only where a key may.

Every reading function takes fuel, started at a multiple of the input
length; each nested call consumes input before it recurses.
-/

namespace Flowline

namespace Yaml

/-- The unread input with the line and column of its first character. -/
structure Source where
  rest : List Char
  line : Nat
  column : Nat

/-- The reader's state: the input, the anchors seen so far, latest first
(each with its node and the alias expansions that node makes, or nothing
while its node is still being read), and the tag handles declared by `%TAG`
directives with the bytes they stand for. -/
structure ReadState where
  source : Source
  anchors : List (String × Option (Node × Nat))
  handles : List (String × List UInt8) := []

/-- Reading with failure. -/
abbrev Reader := StateT ReadState (Except String)

/-- A plain empty scalar, the value of an absent node. -/
def emptyNode : Node := .scalar "" .plain none

/-- Space or tab. -/
def isBlankChar (c : Char) : Bool := c = ' ' || c = '\t'

/-- A line break: a line feed (carriage returns and next-line characters
are read as line feeds), or a line or paragraph separator. -/
def isLineBreak (c : Char) : Bool := c = '\n' || c.toNat = 0x2028 || c.toNat = 0x2029

/-- Whether the input starts with a line break. -/
def startsWithBreak (cs : List Char) : Bool := (cs.head?.map isLineBreak).getD false

/-- A letter, digit, `_` or `-`: the characters of anchor names, tag handles
and directive names. -/
def isWordChar (c : Char) : Bool := c.isAlphanum || c = '_' || c = '-'

/-- The characters that delimit flow collections. -/
def isFlowIndicator (c : Char) : Bool :=
  c = ',' || c = '[' || c = ']' || c = '{' || c = '}'

/-- The input is at a line break or at its end. -/
def atBreakOrEnd : List Char → Bool
  | [] => true
  | c :: _ => isLineBreak c

/-- The input is at a blank, a line break or its end. -/
def atBlankOrEnd : List Char → Bool
  | [] => true
  | c :: _ => c = ' ' || c = '\t' || isLineBreak c

/-- The unread characters. -/
def rest : Reader (List Char) := return (← get).source.rest

/-- The next character. -/
def peek : Reader (Option Char) := return (← get).source.rest.head?

/-- The column of the next character. -/
def column : Reader Nat := return (← get).source.column

/-- Consumes one character. -/
def advance : Reader Unit :=
  modify fun s =>
    match s.source.rest with
    | [] => s
    | c :: more =>
      let src := if isLineBreak c then ⟨more, s.source.line + 1, 0⟩
        else ⟨more, s.source.line, s.source.column + 1⟩
      { s with source := src }

/-- Consumes `n` characters. -/
def advanceBy : Nat → Reader Unit
  | 0 => pure ()
  | n + 1 => do advance; advanceBy n

/-- Fails with a message naming the position. -/
def fail {α : Type} (message : String) : Reader α := do
  let s ← get
  throw s!"{message} at line {s.source.line + 1} column {s.source.column + 1}"

/-- Consumes spaces, and tabs when `tabs` is set, on the current line. -/
def skipSpaces (tabs : Bool) : Reader Unit := do
  let cs ← rest
  let n := (cs.takeWhile fun c => c = ' ' || (tabs && c = '\t')).length
  advanceBy n

/-- Consumes a comment up to the line break. -/
def skipComment : Reader Unit := do
  let cs ← rest
  if cs.head? == some '#' then advanceBy (cs.takeWhile fun c => !isLineBreak c).length

/-- Whether only blanks and a comment remain on the line. -/
def lineEndsHere (cs : List Char) : Bool :=
  let afterBlanks := cs.dropWhile isBlankChar
  atBreakOrEnd afterBlanks || afterBlanks.head? == some '#'

/-- Consumes a byte-order mark standing at the start of a line, where it
may stand in front of any token. -/
def skipLineMark : Reader Unit := do
  if (← column) == 0 && (← peek) == some (Char.ofNat 0xFEFF) then advance

/-- Skips blanks, comments and line breaks up to the next token in block
context. `lineStart` tells that no token stands before the position on its
line; there, and on every line after a break, only spaces may be skipped,
and a tab is refused, even on a line that holds nothing else. -/
def skipToToken (fuel : Nat) (lineStart : Bool) : Reader Unit :=
  match fuel with
  | 0 => pure ()
  | fuel + 1 => do
    skipLineMark
    skipSpaces (!lineStart)
    let cs ← rest
    match cs with
    | '\t' :: _ => fail "found a tab character where an indentation space is expected"
    | '#' :: _ => do
      skipComment
      skipToToken fuel lineStart
    | c :: _ =>
      if isLineBreak c then do
        advance
        skipToToken fuel true
      else pure ()
    | [] => pure ()

/-- At the start of a line, a document marker `---` or `...`. -/
def atDocumentMarker : Reader Bool := do
  let s ← get
  if s.source.column ≠ 0 then return false
  match s.source.rest with
  | '-' :: '-' :: '-' :: more => return atBlankOrEnd more
  | '.' :: '.' :: '.' :: more => return atBlankOrEnd more
  | _ => return false

/-- Skips blanks, line breaks and comments inside flow collections, where a
document marker may not stand. -/
def skipFlowSpace (fuel : Nat) : Reader Unit :=
  match fuel with
  | 0 => pure ()
  | fuel + 1 => do
    skipLineMark
    if ← atDocumentMarker then fail "did not find expected node content"
    skipSpaces true
    let cs ← rest
    match cs with
    | '#' :: _ => do skipComment; skipFlowSpace fuel
    | c :: _ => if isLineBreak c then do advance; skipFlowSpace fuel else pure ()
    | [] => pure ()

/-- At a block sequence entry `-` followed by a blank or line end. -/
def atEntry : Reader Bool := do
  match ← rest with
  | '-' :: more => return atBlankOrEnd more
  | _ => return false

/-- Whether a character may follow an anchor or alias name: a blank, a line
break, the end, or one of `?`, `:`, `,`, `]`, `}`, `%`, `@` and the grave accent. -/
def endsName (cs : List Char) : Bool :=
  match cs with
  | c :: _ =>
    atBlankOrEnd cs || c = '?' || c = ':' || c = ',' || c = ']' || c = '}' || c = '%' ||
      c = '@' || c.toNat = 96
  | [] => true

/-- Reads an anchor or alias name after `&` or `*`: letters, digits, `_` and
`-`. -/
def readName : Reader String := do
  let cs ← rest
  let name := cs.takeWhile isWordChar
  if name.isEmpty || !endsName (cs.drop name.length) then
    fail "did not find expected alphabetic or numeric character"
  advanceBy name.length
  return String.ofList name

/-- Whether a character may stand in a tag URI; a verbatim tag and a
`%TAG` prefix also allow `,`, `[` and `]`. -/
def isUriChar (wide : Bool) (c : Char) : Bool :=
  isWordChar c || c = ';' || c = '/' || c = '?' || c = ':' || c = '@' || c = '&' ||
    c = '=' || c = '+' || c = '$' || c = '.' || c = '%' || c = '!' || c = '~' ||
    c = '*' || c = '\'' || c = '(' || c = ')' || (wide && (c = ',' || c = '[' || c = ']'))

/-- The characters of a URI as written: plain characters, and bytes given
by `%XX` escapes; nothing when a `%` is not followed by two hex digits. -/
def uriUnits : List Char → Option (List (Sum Char Nat))
  | [] => some []
  | '%' :: a :: b :: more => do
    let v ← readRadix 16 [a, b]
    let units ← uriUnits more
    pure (.inr v :: units)
  | '%' :: _ => none
  | c :: more => (uriUnits more).map (.inl c :: ·)

/-- The length of a UTF-8 sequence that starts with byte `b`, by its high
bits: none for a byte that cannot start one. -/
def sequenceWidth (b : Nat) : Option Nat :=
  if b < 0x80 then some 1
  else if b / 32 = 6 then some 2
  else if b / 16 = 14 then some 3
  else if b / 8 = 30 then some 4
  else none

/-- The bytes of a URI's characters. Escaped bytes come in whole UTF-8
sequences: one that starts a sequence (by `sequenceWidth`) is followed by
escaped continuation bytes `10xxxxxx` up to its width, `pending` counting
those still due. What the sequences encode is not checked, so an overlong
form, a surrogate or a code point past `U+10FFFF` passes. -/
def uriBytesOf (pending : Nat) : List (Sum Char Nat) → Option (List UInt8)
  | [] => if pending = 0 then some [] else none
  | .inl c :: more =>
    if pending = 0 then (uriBytesOf 0 more).map (c.toNat.toUInt8 :: ·) else none
  | .inr b :: more =>
    if pending = 0 then do
      let width ← sequenceWidth b
      (uriBytesOf (width - 1) more).map (b.toUInt8 :: ·)
    else if b / 64 = 2 then (uriBytesOf (pending - 1) more).map (b.toUInt8 :: ·)
    else none

/-- Reads the characters of a tag URI, giving its bytes. -/
def readUri (wide : Bool) : Reader (List UInt8) := do
  let body := (← rest).takeWhile (isUriChar wide)
  advanceBy body.length
  match (uriUnits body).bind (uriBytesOf 0) with
  | some bytes => return bytes
  | none => fail "found an invalid escape in a tag URI"

/-- The bytes of a text. -/
def textBytes (s : String) : List UInt8 := s.toUTF8.data.toList

/-- The tag handles every document has: `!` for local tags and `!!` for the
core schema. -/
def defaultHandles : List (String × List UInt8) :=
  [("!", textBytes "!"), ("!!", textBytes (coreTag ""))]

/-- The bytes of the tag a handle and suffix stand for, through the `%TAG`
directives and then the defaults. -/
def resolveTag (handle : String) (suffix : List UInt8) : Reader (List UInt8) := do
  match ((← get).handles ++ defaultHandles).find? (·.1 == handle) with
  | some (_, expansion) => return expansion ++ suffix
  | none => fail "found undefined tag handle"

/-- Reads a tag after its `!`: verbatim `!<uri>`, `!!suffix` or
`!name!suffix` through a handle, a local `!suffix`, or the lone `!`. The tag
must be followed by a blank, a line break or the end, or (in a flow
collection) a comma. -/
def readTag (flow : Bool) : Reader Tag := do
  let cs ← rest
  let bytes ← match cs with
    | '<' :: _ => do
      advance
      let uri ← readUri true
      if uri.isEmpty then fail "did not find expected tag URI"
      if (← peek) != some '>' then fail "did not find the expected '>'"
      advance
      pure uri
    | _ =>
      let name := cs.takeWhile isWordChar
      if (cs.drop name.length).head? == some '!' then do
        advanceBy (name.length + 1)
        let suffix ← readUri false
        if suffix.isEmpty then fail "did not find expected tag URI"
        resolveTag ("!" ++ String.ofList name ++ "!") suffix
      else do
        let suffix ← readUri false
        if suffix.isEmpty then pure (textBytes "!") else resolveTag "!" suffix
  let after ← rest
  if !(atBlankOrEnd after || (flow && after.head? == some ',')) then
    fail "did not find expected whitespace or line break"
  return Tag.ofBytes bytes

/-- Node properties: an anchor and a tag, in either order. -/
structure Properties where
  anchor : Option String := none
  tag : Option Tag := none

/-- Whether any property was given. -/
def Properties.given (p : Properties) : Bool := p.anchor.isSome || p.tag.isSome

/-- Reads the properties in front of a node, with the blanks after them. An
anchor names its node from here on, though the node is not read yet. -/
def readProperties (flow : Bool) (props : Properties) : Nat → Reader Properties
  | 0 => pure props
  | fuel + 1 => do
    match ← peek with
    | some '&' =>
      if props.anchor.isSome then fail "two anchors on one node"
      advance
      let name ← readName
      modify fun s => { s with anchors := (name, none) :: s.anchors }
      skipSpaces true
      readProperties flow { props with anchor := some name } fuel
    | some '!' =>
      if props.tag.isSome then fail "two tags on one node"
      advance
      let tag ← readTag flow
      skipSpaces true
      readProperties flow { props with tag := some tag } fuel
    | _ => pure props

/-- Gives a node its tag and records it under its anchor. An alias takes no
properties. -/
def applyProperties (props : Properties) (node : Node) : Reader Node := do
  let node ← match props.tag, node with
    | none, n => pure n
    | some t, .scalar s style _ => pure (.scalar s style (some t))
    | some t, .seq items _ => pure (.seq items (some t))
    | some t, .map pairs _ => pure (.map pairs (some t))
    | some _, .alias .. => fail "did not find expected node content"
    | some _, .cycle _ => fail "did not find expected node content"
  match props.anchor, node with
  | some _, .alias .. => fail "did not find expected node content"
  | some _, .cycle _ => fail "did not find expected node content"
  | some name, _ =>
    modify fun s => { s with anchors := (name, some (node, node.expansions)) :: s.anchors }
  | none, _ => pure ()
  return node

/-- Reads an alias after `*`: the node its anchor names, or a cycle when
that node is still being read. -/
def readAlias : Reader Node := do
  let name ← readName
  match (← get).anchors.find? (·.1 == name) with
  | some (_, some (node, inner)) => return .alias name node inner
  | some (_, none) => return .cycle name
  | none => fail s!"unknown anchor {name}"

/-- The UTF-8 length of the input read between two points, given the unread
input at each. -/
def bytesBetween (start stop : List Char) : Nat :=
  (start.take (start.length - stop.length)).foldl (fun n c => n + c.utf8Size) 0

/-- The longest a key without `?` may be, from its first token to its `:`,
in bytes. -/
def keyReach : Nat := 1024

/-- Checks, at the `:` after a key without `?`, that the key began on this
line (`line`) and at most `keyReach` bytes before (`start` is the input
from the key on). -/
def checkKeyReach (line : Nat) (start : List Char) : Reader Unit := do
  let s ← get
  if s.source.line ≠ line || keyReach < bytesBetween start s.source.rest then
    fail "could not find expected ':'"

/-- Drops blanks at the end of a text. -/
def trimEndBlanks (cs : List Char) : List Char := (cs.reverse.dropWhile isBlankChar).reverse

/-- How the line break `first` and the breaks of the blank lines after it
join two lines of a scalar: a lone line feed folds to a space, a line feed
before blank lines gives their breaks, and a line or paragraph separator is
kept in front of them. -/
def joinBreaks (first : Char) (blank : List Char) : String :=
  if first = '\n' then (if blank.isEmpty then " " else String.ofList blank)
  else String.ofList (first :: blank)

/-- Consumes blanks and line breaks, giving the breaks. -/
def blankBreaks (acc : List Char) : Nat → Reader (List Char)
  | 0 => pure acc.reverse
  | fuel + 1 => do
    skipSpaces true
    match ← rest with
    | c :: _ => if isLineBreak c then do advance; blankBreaks (c :: acc) fuel else pure acc.reverse
    | [] => pure acc.reverse

/-- Folds a line break met inside a flow or quoted scalar: the blank lines
after it are consumed with the next line's indentation (`joinBreaks`). -/
def foldBreak (fuel : Nat) : Reader String := do
  let first := (← peek).getD '\n'
  advance
  let blank ← blankBreaks [] fuel
  return joinBreaks first blank

/-- The character of a double-quoted escape, or the number of hex digits
that follow it. -/
def escapeOf (c : Char) : Option (Sum Char Nat) :=
  if c = '0' then some (.inl (Char.ofNat 0))
  else if c = 'a' then some (.inl (Char.ofNat 7))
  else if c = 'b' then some (.inl (Char.ofNat 8))
  else if c = 't' ∨ c = '\t' then some (.inl '\t')
  else if c = 'n' then some (.inl '\n')
  else if c = 'v' then some (.inl (Char.ofNat 11))
  else if c = 'f' then some (.inl (Char.ofNat 12))
  else if c = 'r' then some (.inl '\r')
  else if c = 'e' then some (.inl (Char.ofNat 27))
  else if c = ' ' then some (.inl ' ')
  else if c = '"' then some (.inl '"')
  else if c = '/' then some (.inl '/')
  else if c = '\\' then some (.inl '\\')
  else if c = 'N' then some (.inl (Char.ofNat 0x85))
  else if c = '_' then some (.inl (Char.ofNat 0xA0))
  else if c = 'L' then some (.inl (Char.ofNat 0x2028))
  else if c = 'P' then some (.inl (Char.ofNat 0x2029))
  else if c = 'x' then some (.inr 2)
  else if c = 'u' then some (.inr 4)
  else if c = 'U' then some (.inr 8)
  else none

/-- Reads a quoted scalar after its opening quote; `double` selects the
double-quoted rules. `text` holds what is read, `pending` the blanks not
yet known to be inside a line. -/
def readQuoted (double : Bool) (text pending : String) : Nat → Reader String
  | 0 => fail "quoted scalar too long"
  | fuel + 1 => do
    match ← rest with
    | [] => fail "unterminated quoted scalar"
    | c :: more =>
      if isLineBreak c then do
        let folded ← foldBreak fuel
        if ← atDocumentMarker then fail "found unexpected document indicator"
        readQuoted double (text ++ folded) "" fuel
      else if isBlankChar c then do
        advance
        readQuoted double text (pending.push c) fuel
      else if !double && c = '\'' then
        match more with
        | '\'' :: _ => do
          advanceBy 2
          readQuoted double (text ++ pending ++ "'") "" fuel
        | _ => do
          advance
          return text ++ pending
      else if double && c = '"' then do
        advance
        return text ++ pending
      else if double && c = '\\' then
        match more with
        | e :: afterEscape =>
          if isLineBreak e then do
            -- an escaped line break joins the lines without a space
            advanceBy 2
            let blank ← blankBreaks [] fuel
            if ← atDocumentMarker then fail "found unexpected document indicator"
            readQuoted double (text ++ pending ++ String.ofList blank) "" fuel
          else match escapeOf e with
          | some (.inl ch) => do
            advanceBy 2
            readQuoted double ((text ++ pending).push ch) "" fuel
          | some (.inr digits) =>
            let hex := afterEscape.take digits
            match readRadix 16 hex with
            | some code =>
              if hex.length = digits ∧ code < 0x110000 ∧ (code < 0xD800 ∨ 0xE000 ≤ code) then do
                advanceBy (2 + digits)
                readQuoted double ((text ++ pending).push (Char.ofNat code)) "" fuel
              else fail "invalid escape"
            | none => fail "invalid escape"
          | none => fail "invalid escape"
        | [] => fail "unterminated quoted scalar"
      else do
        advance
        readQuoted double ((text ++ pending).push c) "" fuel

/-- Where a plain scalar stops in block context: `: ` or `:` at the line
end, ` #`, or the line break. -/
def plainBlockLine (cs : List Char) : List Char :=
  go [] cs
where
  go (acc : List Char) : List Char → List Char
    | [] => acc.reverse
    | c :: more =>
      if isLineBreak c then acc.reverse
      else if c = ':' ∧ atBlankOrEnd more then acc.reverse
      else if isBlankChar c ∧ more.head? == some '#' then acc.reverse
      else go (c :: acc) more

/-- Whether `:` followed by these is refused inside a plain scalar in flow
context: a flow indicator or `?`. -/
def badAfterColon (cs : List Char) : Bool :=
  match cs with
  | ':' :: c :: _ => isFlowIndicator c || c = '?'
  | _ => false

/-- Where a plain scalar stops in flow context: also at flow indicators and
at `:` before one or before `?`, which `badAfterColon` then refuses. -/
def plainFlowLine (cs : List Char) : List Char :=
  go [] cs
where
  go (acc : List Char) : List Char → List Char
    | [] => acc.reverse
    | c :: more =>
      if isLineBreak c || isFlowIndicator c then acc.reverse
      else if c = ':' ∧ (atBlankOrEnd more || badAfterColon (c :: more)) then acc.reverse
      else if isBlankChar c ∧ more.head? == some '#' then acc.reverse
      else go (c :: acc) more

/-- The blanks and line breaks that follow a line break inside a plain
scalar, up to the next character that is neither: the breaks among them,
the column reached (counted from the last break), whether a tab stands at a
column up to `indent`, in the indentation of the enclosing block collection,
and what follows. -/
def leadingBlanks (indent : Int) (breaks : List Char) (col : Nat) (badTab : Bool) :
    List Char → List Char × Nat × Bool × List Char
  | [] => (breaks.reverse, col, badTab, [])
  | c :: more =>
    if isLineBreak c then leadingBlanks indent (c :: breaks) 0 badTab more
    else if c = ' ' then leadingBlanks indent breaks (col + 1) badTab more
    else if c = '\t' then leadingBlanks indent breaks (col + 1) (badTab || (col : Int) ≤ indent) more
    else (breaks.reverse, col, badTab, c :: more)

/-- At the start of a line, a document marker `---` or `...`. -/
def isDocumentMarker (line : List Char) : Bool :=
  match line with
  | '-' :: '-' :: '-' :: more => atBlankOrEnd more
  | '.' :: '.' :: '.' :: more => atBlankOrEnd more
  | _ => false

/-- Reads the continuation lines of a plain block scalar indented more than
`indent`, the input being after a line of it. A plain scalar takes in the
blanks and line breaks after a line, whatever follows them, so a tab in the
indentation of the enclosing collection among them is refused. It goes on
with the next line that holds something indented more than `indent` that is
not a comment or a document marker. -/
def plainContinuation (indent : Int) (text : String) : Nat → Reader String
  | 0 => pure text
  | fuel + 1 => do
    let cs ← rest
    match cs with
    | first :: after =>
      if !isLineBreak first then return text
      let (blank, col, badTab, line) := leadingBlanks indent [] 0 false after
      if badTab then fail "found a tab character that violates indentation"
      advanceBy (cs.length - line.length)
      if line.isEmpty || (col : Int) ≤ indent || line.head? == some '#' ||
          (col = 0 && isDocumentMarker line) then
        return text
      let part := plainBlockLine line
      advanceBy part.length
      let text := text ++ joinBreaks first blank ++ String.ofList (trimEndBlanks part)
      match ← rest with
      | ':' :: more =>
        if atBlankOrEnd more then fail "mapping values are not allowed here" else pure text
      | _ => plainContinuation indent text fuel
    | [] => return text

/-- Reads a plain scalar in block context, with its continuation lines. -/
def readPlainBlock (indent : Int) (fuel : Nat) : Reader Node := do
  let cs ← rest
  let line := plainBlockLine cs
  advanceBy line.length
  if let ':' :: more := ← rest then
    if atBlankOrEnd more then fail "mapping values are not allowed here"
  let first := String.ofList (trimEndBlanks line)
  skipSpaces true
  let text ← if startsWithBreak (← rest) then plainContinuation indent first fuel else pure first
  return .scalar text .plain none

/-- Reads a plain scalar in flow context, with continuation lines; `indent`
is the column of the block collection around the flow collection. As in
block context, a tab among the blanks after a line break is refused at a
column up to `indent`. -/
def readPlainFlow (indent : Int) (text : String) : Nat → Reader String
  | 0 => pure text
  | fuel + 1 => do
    let cs ← rest
    let part := plainFlowLine cs
    advanceBy part.length
    if badAfterColon (← rest) then fail "found unexpected ':'"
    let text := text ++ String.ofList (trimEndBlanks part)
    let afterBlanks := (← rest).dropWhile isBlankChar
    match afterBlanks with
    | first :: after =>
      if !isLineBreak first then pure text
      else
        let (_, col, badTab, line) := leadingBlanks indent [] 0 false after
        if badTab then fail "found a tab character that violates indentation"
        match line with
        | c :: more =>
          if (col = 0 && isDocumentMarker line) || isFlowIndicator c || c = '#' ||
              (c = ':' && atBlankOrEnd more) then pure text
          else do
            skipSpaces true
            let joiner ← foldBreak fuel
            readPlainFlow indent (text ++ joiner) fuel
        | [] => pure text
    | [] => pure text

/-- The header of a block scalar after `|` or `>`: a chomping sign (`1` for
`+`, which keeps the final line breaks, `-1` for `-`, which drops them, `0`
without one) and an indentation digit `1` to `9`, each at most once and in
either order, with the number of characters they take. -/
def blockHeader (cs : List Char) : Int × Option Nat × Nat :=
  let sign (c : Char) : Option Int := if c = '+' then some 1 else if c = '-' then some (-1) else none
  let digit (c : Char) : Option Nat := if '1' ≤ c ∧ c ≤ '9' then some (c.toNat - 48) else none
  match cs with
  | c :: more =>
    match sign c, digit c with
    | some chomp, _ =>
      match more.head?.bind digit with
      | some d => (chomp, some d, 2)
      | none => (chomp, none, 1)
    | none, some d =>
      match more.head?.bind sign with
      | some chomp => (chomp, some d, 2)
      | none => (0, some d, 1)
    | none, none => (0, none, 0)
  | [] => (0, none, 0)

/-- Reads a block scalar after `|` or `>`. `indent` is the column of the
enclosing block collection (`-1` at the top). A tab where the content's
indentation is read, before that indentation is known or short of it, is
refused. -/
def readBlockScalar (indent : Int) (fuel : Nat) : Reader Node := do
  let literal := (← peek) == some '|'
  advance
  let (chomp, increment, headerLength) := blockHeader (← rest)
  advanceBy headerLength
  skipSpaces true
  skipComment
  let cs ← rest
  if !atBreakOrEnd cs then fail "unexpected text after a block scalar header"
  if startsWithBreak cs then advance
  -- the content indentation
  let explicitIndent : Option Nat := increment.map fun i =>
    if 0 ≤ indent then indent.toNat + i else i
  -- eats indentation and blank lines; returns the line feeds met
  let scanBreaks (known : Option Nat) : Reader (String × Nat) := do
    let mut breaks := ""
    let mut maxIndent := 0
    for _ in [0:fuel] do
      let cs ← rest
      let spaces := (cs.takeWhile (· = ' ')).length
      let eat := match known with
        | some k => min spaces k
        | none => spaces
      advanceBy eat
      let col ← column
      if col > maxIndent then maxIndent := col
      match ← rest with
      | c :: _ =>
        if isLineBreak c then
          breaks := breaks.push c
          advance
        else if c = '\t' then
          if (known.map fun k => decide (col < k)).getD true then
            fail "found a tab character where an indentation space is expected"
          break
        else break
      | [] => break
    return (breaks, maxIndent)
  let (firstBreaks, maxIndent) ← scanBreaks explicitIndent
  let contentIndent : Nat := match explicitIndent with
    | some k => k
    | none => max (max maxIndent (indent + 1).toNat) 1
  let mut text := ""
  let mut leadingBreak := ""
  let mut trailingBreaks := firstBreaks
  let mut leadingBlank := false
  for _ in [0:fuel] do
    let cs ← rest
    if (← column) ≠ contentIndent || cs.isEmpty then break
    let trailingBlank := (cs.head?.map isBlankChar).getD false
    if !literal && leadingBreak == "\n" && !leadingBlank && !trailingBlank then
      if trailingBreaks.isEmpty then text := text.push ' '
      leadingBreak := ""
    else
      text := text ++ leadingBreak
      leadingBreak := ""
    text := text ++ trailingBreaks
    trailingBreaks := ""
    leadingBlank := trailingBlank
    let line := cs.takeWhile fun c => !isLineBreak c
    advanceBy line.length
    text := text ++ String.ofList line
    match (← rest).head? with
    | some c =>
      if isLineBreak c then
        leadingBreak := String.singleton c
        advance
    | none => pure ()
    let (more, _) ← scanBreaks (some contentIndent)
    trailingBreaks := more
  if chomp ≠ -1 then text := text ++ leadingBreak
  if chomp = 1 then text := text ++ trailingBreaks
  return .scalar text (if literal then .literal else .folded) none

/-- Whether the current line starts a mapping entry: a scalar key followed
by `:` and a blank or the line end. -/
def looksLikeKey (cs : List Char) : Bool :=
  let afterProps := skipProps cs 4
  match afterProps with
  | '?' :: more => if atBlankOrEnd more then true else plainColon ('?' :: more)
  | '"' :: more => colonAfter (closeDouble more)
  | '\'' :: more => colonAfter (closeSingle more)
  | '[' :: _ => false
  | '{' :: _ => false
  | '*' :: more => colonAfter (some (more.dropWhile isWordChar))
  | line => plainColon line
where
  /-- Whether a plain key and `:` with a blank start the line. -/
  plainColon (line : List Char) : Bool :=
    let part := plainBlockLine line
    match line.drop part.length with
    | ':' :: more => atBlankOrEnd more
    | _ => false
  /-- Skips anchors and tags in front of a key. -/
  skipProps (cs : List Char) : Nat → List Char
    | 0 => cs
    | fuel + 1 =>
      match cs with
      | '&' :: more => skipProps ((more.dropWhile isWordChar).dropWhile isBlankChar) fuel
      | '!' :: more => skipProps ((more.dropWhile fun c => !(isBlankChar c || isLineBreak c)).dropWhile isBlankChar) fuel
      | _ => cs
  /-- Whether `:` and a blank follow. -/
  colonAfter (cs : Option (List Char)) : Bool :=
    match cs.map (·.dropWhile isBlankChar) with
    | some (':' :: more) => atBlankOrEnd more
    | _ => false
  /-- The text after a closing double quote on this line. -/
  closeDouble : List Char → Option (List Char)
    | [] => none
    | '\\' :: _ :: more => closeDouble more
    | '"' :: more => some more
    | c :: more => if isLineBreak c then none else closeDouble more
  /-- The text after a closing single quote on this line. -/
  closeSingle : List Char → Option (List Char)
    | [] => none
    | '\'' :: '\'' :: more => closeSingle more
    | '\'' :: more => some more
    | c :: more => if isLineBreak c then none else closeSingle more

/-- After a node on its line only blanks and a comment may follow. -/
def expectLineEnd : Reader Unit := do
  skipSpaces true
  skipComment
  if !atBreakOrEnd (← rest) then fail "unexpected text after a node"

mutual

/-- A node whose first token is the next one, if that token is indented
more than `indent` (or is a sequence entry at `indent` itself, when
`entryAtIndent`); the empty node otherwise. -/
def blockBelow (fuel : Nat) (indent : Int) (entryAtIndent : Bool) : Reader Node :=
  match fuel with
  | 0 => fail "document too deep"
  | fuel + 1 => do
    skipToToken fuel true
    if (← rest).isEmpty || (← atDocumentMarker) then return emptyNode
    let col : Int := (← column)
    if col > indent then nodeHere fuel indent false
    else if entryAtIndent && col = indent && (← atEntry) then blockSequence fuel (← column) []
    else return emptyNode

/-- The node whose first token is at the current position. `indent` is the
column of the enclosing block collection; `inline` marks a mapping value
on its key's line, where no block collection may start. -/
def nodeHere (fuel : Nat) (indent : Int) (inline : Bool) : Reader Node :=
  match fuel with
  | 0 => fail "document too deep"
  | fuel + 1 => do
    let start ← rest
    -- properties in front of a key belong to the key
    if (start.head? == some '&' || start.head? == some '!') && looksLikeKey start then
      if inline then fail "mapping values are not allowed here"
      else return ← blockMapping fuel (← column) []
    let props ← readProperties false {} 4
    let cs ← rest
    if props.given && lineEndsHere cs then
      let node ← blockBelow fuel indent inline
      return ← applyProperties props node
    let col ← column
    let node ← match cs with
      | '-' :: more =>
        if atBlankOrEnd more then
          if inline || props.given then fail "block sequence entries are not allowed here"
          else blockSequence fuel col []
        else plainOrMapping fuel indent inline col cs
      | '|' :: _ => readBlockScalar indent fuel
      | '>' :: _ => readBlockScalar indent fuel
      | '[' :: _ => do
        let n ← flowNode fuel indent
        expectLineEnd
        pure n
      | '{' :: _ => do
        let n ← flowNode fuel indent
        expectLineEnd
        pure n
      | _ => plainOrMapping fuel indent inline col cs
    applyProperties props node

/-- A mapping if the line holds a key, otherwise a quoted, aliased or
plain scalar. -/
def plainOrMapping (fuel : Nat) (indent : Int) (inline : Bool) (col : Nat) (cs : List Char) :
    Reader Node :=
  match fuel with
  | 0 => fail "document too deep"
  | fuel + 1 => do
    if looksLikeKey cs then
      if inline then fail "mapping values are not allowed here"
      else blockMapping fuel col []
    else
      match cs with
      | '"' :: _ => do
        advance
        let s ← readQuoted true "" "" fuel
        expectLineEnd
        pure (.scalar s .doubleQuoted none)
      | '\'' :: _ => do
        advance
        let s ← readQuoted false "" "" fuel
        expectLineEnd
        pure (.scalar s .singleQuoted none)
      | '*' :: _ => do
        advance
        let n ← readAlias
        expectLineEnd
        pure n
      | c :: _ =>
        if c = ']' || c = '}' || c = ',' || c = '%' || c = '@' || c = '`' ||
            ((c = '?' || c = ':') && atBlankOrEnd (cs.drop 1)) then
          fail "found a character that cannot start a plain scalar"
        else readPlainBlock indent fuel
      | [] => pure emptyNode

/-- The entries of a block sequence at column `col`, from an entry on. -/
def blockSequence (fuel : Nat) (col : Nat) (acc : List Node) : Reader Node :=
  match fuel with
  | 0 => fail "document too deep"
  | fuel + 1 => do
    advance
    skipSpaces false
    if (← peek) == some '\t' then fail "found a tab after an entry"
    let item ← if lineEndsHere (← rest) then blockBelow fuel col false else nodeHere fuel col false
    let acc := item :: acc
    skipToToken fuel false
    if (← rest).isEmpty || (← atDocumentMarker) then return .seq acc.reverse none
    let next ← column
    if next = col && (← atEntry) then blockSequence fuel col acc
    else if next ≤ col then return .seq acc.reverse none
    else fail "bad indentation of a sequence entry"

/-- The entries of a block mapping at column `col`, from a key on. -/
def blockMapping (fuel : Nat) (col : Nat) (acc : List (Node × Node)) : Reader Node :=
  match fuel with
  | 0 => fail "document too deep"
  | fuel + 1 => do
    let entry ← match ← rest with
      | '?' :: more => if atBlankOrEnd more then explicitEntry fuel col else simpleEntry fuel col
      | _ => simpleEntry fuel col
    let acc := entry :: acc
    skipToToken fuel false
    if (← rest).isEmpty || (← atDocumentMarker) then return .map acc.reverse none
    let next ← column
    if next = col then
      if ← atEntry then fail "did not find expected key"
      else blockMapping fuel col acc
    else if next < col then return .map acc.reverse none
    else fail "bad indentation of a mapping entry"

/-- An entry `key: value` of a block mapping at column `col`. -/
def simpleEntry (fuel : Nat) (col : Nat) : Reader (Node × Node) :=
  match fuel with
  | 0 => fail "document too deep"
  | fuel + 1 => do
    let line := (← get).source.line
    let start ← rest
    let props ← readProperties false {} 4
    let key ← match ← rest with
      | '"' :: _ => do
        advance
        let s ← readQuoted true "" "" fuel
        pure (Node.scalar s .doubleQuoted none)
      | '\'' :: _ => do
        advance
        let s ← readQuoted false "" "" fuel
        pure (Node.scalar s .singleQuoted none)
      | '*' :: _ => do
        advance
        readAlias
      | '?' :: more =>
        if atBlankOrEnd more then fail "explicit keys are not supported"
        else plainKey
      | '[' :: _ => fail "a collection cannot be a key"
      | '{' :: _ => fail "a collection cannot be a key"
      | _ => plainKey
    let key ← applyProperties props key
    skipSpaces true
    match ← rest with
    | ':' :: more =>
      if !atBlankOrEnd more then fail "expected ':' after a key"
    | _ => fail "could not find expected ':'"
    checkKeyReach line start
    advance
    skipSpaces true
    let value ← if lineEndsHere (← rest) then blockBelow fuel col true else nodeHere fuel col true
    return (key, value)

/-- An entry with an explicit key at column `col`: `? key`, then `: value`
at the same column, the value being empty without one. -/
def explicitEntry (fuel : Nat) (col : Nat) : Reader (Node × Node) :=
  match fuel with
  | 0 => fail "document too deep"
  | fuel + 1 => do
    advance
    skipSpaces false
    if (← peek) == some '\t' then fail "found a tab after a key indicator"
    let key ← if lineEndsHere (← rest) then blockBelow fuel col false else nodeHere fuel col false
    skipToToken fuel false
    if (← rest).isEmpty || (← atDocumentMarker) then return (key, emptyNode)
    let next ← column
    match ← rest with
    | ':' :: more =>
      if next = col && atBlankOrEnd more then
        advance
        skipSpaces false
        if (← peek) == some '\t' then fail "found a tab after a value indicator"
        let value ← if lineEndsHere (← rest) then blockBelow fuel col true else nodeHere fuel col false
        return (key, value)
      else return (key, emptyNode)
    | _ => return (key, emptyNode)

/-- A plain key: the text up to `:`. -/
def plainKey : Reader Node := do
  let cs ← rest
  let part := plainBlockLine cs
  advanceBy part.length
  return .scalar (String.ofList (trimEndBlanks part)) .plain none

/-- A node in flow context; `indent` is the column of the block collection
around the flow collection. -/
def flowNode (fuel : Nat) (indent : Int) : Reader Node :=
  match fuel with
  | 0 => fail "document too deep"
  | fuel + 1 => do
    skipFlowSpace fuel
    let props ← readProperties true {} 4
    skipFlowSpace fuel
    let node ← match ← rest with
      | '[' :: _ => do
        advance
        let items ← flowItems fuel indent []
        pure (Node.seq items none)
      | '{' :: _ => do
        advance
        let pairs ← flowPairs fuel indent []
        pure (Node.map pairs none)
      | '"' :: _ => do
        advance
        let s ← readQuoted true "" "" fuel
        pure (Node.scalar s .doubleQuoted none)
      | '\'' :: _ => do
        advance
        let s ← readQuoted false "" "" fuel
        pure (Node.scalar s .singleQuoted none)
      | '*' :: _ => do
        advance
        readAlias
      | c :: more =>
        if isFlowIndicator c || c = ':' then
          if props.given then pure emptyNode else fail "expected a node"
        else if c = '#' || c = '%' || c = '@' || c.toNat = 96 || c = '|' || c = '>' then
          fail "found a character that cannot start a plain scalar"
        else if c = '?' || (c = '-' && atBlankOrEnd more) then
          fail "block indicators are not allowed in flow context"
        else do
          let s ← readPlainFlow indent "" fuel
          pure (Node.scalar s .plain none)
      | [] => fail "unterminated flow collection"
    applyProperties props node

/-- The items of a flow sequence after `[`. -/
def flowItems (fuel : Nat) (indent : Int) (acc : List Node) : Reader (List Node) :=
  match fuel with
  | 0 => fail "document too deep"
  | fuel + 1 => do
    skipFlowSpace fuel
    match ← rest with
    | ']' :: _ => do advance; return acc.reverse
    | ',' :: _ => fail "did not find expected node"
    | _ => do
      let line := (← get).source.line
      let start ← rest
      let explicit := (← peek) == some '?'
      if explicit then
        advance
        skipFlowSpace fuel
      -- an explicit key left empty takes the indicator after it along
      let keyless := explicit && ((← peek).map fun c => c = ':' || c = ',' || c = ']').getD false
      if keyless then advance
      let node ← if keyless then pure emptyNode else flowNode fuel indent
      skipFlowSpace fuel
      let item ← match ← rest with
        | ':' :: _ => do
          if !explicit then checkKeyReach line start
          advance
          skipFlowSpace fuel
          let value ← match ← rest with
            | ',' :: _ => pure emptyNode
            | ']' :: _ => pure emptyNode
            | _ => flowNode fuel indent
          skipFlowSpace fuel
          pure (Node.map [(node, value)] none)
        | _ => pure (if explicit then Node.map [(node, emptyNode)] none else node)
      match ← rest with
      | ',' :: _ => do advance; flowItems fuel indent (item :: acc)
      | ']' :: _ => do advance; return (item :: acc).reverse
      | _ => fail "did not find expected ',' or ']'"

/-- The entries of a flow mapping after `{`. -/
def flowPairs (fuel : Nat) (indent : Int) (acc : List (Node × Node)) :
    Reader (List (Node × Node)) :=
  match fuel with
  | 0 => fail "document too deep"
  | fuel + 1 => do
    skipFlowSpace fuel
    match ← rest with
    | '}' :: _ => do advance; return acc.reverse
    | ',' :: _ => fail "did not find expected node"
    | _ => do
      let line := (← get).source.line
      let start ← rest
      let explicit := (← peek) == some '?'
      if explicit then
        advance
        skipFlowSpace fuel
      let key ← match ← rest with
        | ':' :: _ => if explicit then pure emptyNode else flowNode fuel indent
        | ',' :: _ => if explicit then pure emptyNode else flowNode fuel indent
        | '}' :: _ => if explicit then pure emptyNode else flowNode fuel indent
        | _ => flowNode fuel indent
      skipFlowSpace fuel
      let value ← match ← rest with
        | ':' :: _ => do
          if !explicit then checkKeyReach line start
          advance
          skipFlowSpace fuel
          match ← rest with
          | ',' :: _ => pure emptyNode
          | '}' :: _ => pure emptyNode
          | _ => flowNode fuel indent
        | _ => pure emptyNode
      skipFlowSpace fuel
      match ← rest with
      | ',' :: _ => do advance; flowPairs fuel indent ((key, value) :: acc)
      | '}' :: _ => do advance; return ((key, value) :: acc).reverse
      | _ => fail "did not find expected ',' or '\x7d'"

end

/-- Whether a character may appear in a YAML stream: tab, line feed,
carriage return, printable ASCII, the next-line character, and the
characters beyond `U+00A0` other than surrogates, `U+FFFE` and `U+FFFF`. -/
def isStreamChar (c : Char) : Bool :=
  let n := c.toNat
  n = 0x09 || n = 0x0A || n = 0x0D || (0x20 ≤ n && n ≤ 0x7E) || n = 0x85 ||
    (0xA0 ≤ n && n ≤ 0xD7FF) || (0xE000 ≤ n && n ≤ 0xFFFD) || 0x10000 ≤ n

/-- Line breaks as line feeds: `\r\n`, a lone `\r` and the next-line
character become `\n`; a leading byte-order mark is dropped. Line and
paragraph separators stay, being kept in scalars. -/
def normalizeBreaks (cs : List Char) : List Char :=
  let cs := match cs with
    | c :: more => if c.toNat = 0xFEFF then more else c :: more
    | [] => []
  go [] cs
where
  go (acc : List Char) : List Char → List Char
    | [] => acc.reverse
    | '\r' :: '\n' :: more => go ('\n' :: acc) more
    | '\r' :: more => go ('\n' :: acc) more
    | c :: more => go ((if c.toNat = 0x85 then '\n' else c) :: acc) more

/-- Reads a version number: one to nine decimal digits. -/
def versionNumber : Reader Nat := do
  let ds := (← rest).takeWhile Char.isDigit
  if ds.isEmpty then fail "did not find expected version number"
  if ds.length > 9 then fail "found extremely long version number"
  advanceBy ds.length
  return (readRadix 10 ds).getD 0

/-- Reads the handle of a `%TAG` directive: `!`, `!!` or `!name!`. -/
def tagHandle : Reader String := do
  if (← peek) != some '!' then fail "did not find expected '!'"
  advance
  let name := (← rest).takeWhile isWordChar
  advanceBy name.length
  if (← peek) == some '!' then
    advance
    return "!" ++ String.ofList name ++ "!"
  else if name.isEmpty then return "!"
  else fail "did not find expected '!'"

/-- Reads the rest of a `%YAML` directive: the version, which must be 1.1 or
1.2. -/
def versionDirective : Reader Unit := do
  skipSpaces true
  let major ← versionNumber
  if (← peek) != some '.' then fail "did not find expected digit or '.' character"
  advance
  let minor ← versionNumber
  if major ≠ 1 || (minor ≠ 1 && minor ≠ 2) then fail "found incompatible YAML document"

/-- Reads the rest of a `%TAG` directive, a handle and what it stands for,
and declares the handle. -/
def tagDirective : Reader Unit := do
  skipSpaces true
  let handle ← tagHandle
  if !(((← peek).map isBlankChar).getD false) then fail "did not find expected whitespace"
  skipSpaces true
  let expansion ← readUri true
  if expansion.isEmpty then fail "did not find expected tag URI"
  if !atBlankOrEnd (← rest) then fail "did not find expected whitespace or line break"
  if (← get).handles.any (·.1 == handle) then fail "found duplicate %TAG directive"
  modify fun s => { s with handles := s.handles ++ [(handle, expansion)] }

/-- Reads the directives at the top of the stream, each on a line of its own
starting with `%`: at most one `%YAML` and any number of `%TAG`, each handle
declared once; any other directive is refused. `seen` and `version` record
whether a directive and a `%YAML` directive were read; the result is
whether any directive was. -/
def readDirectives (seen version : Bool) : Nat → Reader Bool
  | 0 => pure seen
  | fuel + 1 => do
    skipToToken fuel true
    let s ← get
    if !(s.source.column = 0 && s.source.rest.head? == some '%') then return seen
    advance
    let name := String.ofList ((← rest).takeWhile isWordChar)
    if name.isEmpty then fail "could not find expected directive name"
    advanceBy name.length
    if !atBlankOrEnd (← rest) then fail "found unexpected non-alphabetical character"
    if name == "YAML" then
      versionDirective
      if version then fail "found duplicate %YAML directive"
    else if name == "TAG" then tagDirective
    else fail "found unknown directive name"
    skipSpaces true
    skipComment
    if !atBreakOrEnd (← rest) then fail "did not find expected comment or line break"
    readDirectives true (version || name == "YAML") fuel

/-- At the start of a line, a document end marker `...`. -/
def atDocumentEnd : Reader Bool := do
  let s ← get
  match s.source.rest with
  | '.' :: '.' :: '.' :: more => return s.source.column = 0 && atBlankOrEnd more
  | _ => return false

/-- Skips document end markers, one after another, with the blanks,
comments and line breaks after each. -/
def skipDocumentEnds : Nat → Reader Unit
  | 0 => pure ()
  | fuel + 1 => do
    if ← atDocumentEnd then
      advanceBy 3
      skipToToken fuel false
      skipDocumentEnds fuel

/-- Reads the stream's single document; none for an empty stream. A
document starts with `---` or with its content; a `...` where a document
without `---` would start is refused, for that document has no content. On
the `---` line a node may follow, but no block collection starts there.
After a document's `...`, more `...` markers may stand. -/
def document (fuel : Nat) : Reader (Option Node) := do
  let directives ← readDirectives false false fuel
  let cs ← rest
  let explicit := (← column) = 0 &&
    (match cs with
      | '-' :: '-' :: '-' :: more => atBlankOrEnd more
      | _ => false)
  if directives && !explicit then fail "did not find expected <document start>"
  if !explicit && cs.isEmpty then return none
  if !explicit && (← atDocumentEnd) then fail "did not find expected node content"
  let node ← if explicit then do
      advanceBy 3
      skipSpaces true
      if lineEndsHere (← rest) then blockBelow fuel (-1) false else nodeHere fuel (-1) true
    else blockBelow fuel (-1) false
  skipToToken fuel false
  skipDocumentEnds fuel
  if (← rest).isEmpty then return some node
  if ← atDocumentMarker then fail "more than one document"
  fail "did not find expected end of document"

/-- Reads a YAML stream with at most one document. -/
def parse (text : String) : Except String (Option Node) :=
  if !text.toList.all isStreamChar then .error "control characters are not allowed"
  else
    let cs := normalizeBreaks text.toList
    let fuel := 4 * cs.length + 64
    (document fuel).run' ⟨⟨cs, 0, 0⟩, [], []⟩

/-- Reads a YAML stream into a value; an empty stream is null. -/
def read (text : String) : Except String Value := do
  match ← parse text with
  | some node => node.toValue
  | none => pure .null

end Yaml

end Flowline
