import Flowline.Data.Text
import Flowline.Unicode.Chars
set_option autoImplicit false

/-!
# The syntax of patterns

A pattern is read into an `Ast` in one pass from left to right, keeping two
stacks the way the text nests: open groups (with the alternation gathered so
far inside each) and open bracketed classes (with a pending set operation).
The first problem met stops the reading with a `SyntaxError`: what is wrong
and the stretch of the pattern it concerns, sometimes with a second stretch
(the earlier occurrence of something repeated).

The syntax:

* literals, with escapes for the meta characters `\.+*?()|[]{}^$#&-~`, any
  other ASCII character that is not a letter or digit, the controls
  `\a \f \t \n \r \v`, and code points `\x7F`, `\u007F`, `\U0000007F`,
  `\x{7F}`; a backslash before a digit is refused (back-references are not
  supported) and so is one before an unknown letter;
* `.` and the assertions `^ $ \A \z \b \B \< \> \b{start} \b{end}
  \b{start-half} \b{end-half}`;
* the classes `\d \s \w` and their negations, `\p{...}` and `\pL`, and
  brackets `[...]` with ranges, nested brackets, `[:alpha:]`-style ASCII
  classes, and the operators `&&`, `--` and `~~` (left to right, looser than
  juxtaposition); a `]` first in a bracket and `-` at either end are literal;
* repetition `? * +` and `{n}`, `{n,}`, `{n,m}`, each optionally followed
  by `?`;
* groups `( )`, `(?:...)`, named `(?P<name>...)` or `(?<name>...)`, and the
  flags `i m s U u R x`, set with `(?flags)` up to the end of the group or
  around `(?flags:...)`, cleared after a `-`.

With the `x` flag, white space and `#` comments between tokens are skipped.
Look-around is refused.

Every item of the tree keeps the stretch of the pattern it was read from:
a sequence from where it began to where it ended, a repetition from the
start of what it repeats to the end of its operator, a group from its
opening to its closing parenthesis, a union of class parts from its first
part to its last.
-/

namespace Flowline.Regex

/-- A place in a pattern: the index of a character, and its line and column
(both counted from 1). -/
structure Position where
  offset : Nat
  line : Nat
  column : Nat
  deriving Inhabited, BEq, Repr

/-- A stretch of a pattern, from `start` up to `stop` (excluded). -/
structure Span where
  start : Position
  stop : Position
  deriving Inhabited, BEq, Repr

/-- Whether a stretch lies on one line. -/
def Span.isOneLine (s : Span) : Bool := s.start.line == s.stop.line

/-- What is wrong with a pattern. -/
inductive ErrorKind where
  | classEscapeInvalid
  | classRangeInvalid
  | classRangeLiteral
  | classUnclosed
  | decimalInvalid
  | escapeHexEmpty
  | escapeHexInvalid
  | escapeHexInvalidDigit
  | escapeUnexpectedEof
  | escapeUnrecognized
  | flagDanglingNegation
  | flagDuplicate
  | flagRepeatedNegation
  | flagUnexpectedEof
  | flagUnrecognized
  | groupNameDuplicate
  | groupNameEmpty
  | groupNameInvalid
  | groupNameUnexpectedEof
  | groupUnclosed
  | groupUnopened
  | repetitionCountInvalid
  | repetitionCountDecimalEmpty
  | repetitionCountUnclosed
  | repetitionMissing
  | specialWordBoundaryUnclosed
  | specialWordBoundaryUnrecognized
  | specialWordOrRepetitionUnexpectedEof
  | unsupportedBackreference
  | unsupportedLookAround
  | unicodeClassInvalid
  | unicodeNotAllowed
  | invalidUtf8
  | unicodePropertyNotFound
  | unicodePropertyValueNotFound
  | unicodePerlClassNotFound
  | unicodeCaseUnavailable
  | nestLimitExceeded
  deriving DecidableEq, Repr, Inhabited

/-- How a problem is described. -/
def ErrorKind.message : ErrorKind → String
  | .classEscapeInvalid => "invalid escape sequence found in character class"
  | .classRangeInvalid => "invalid character class range, the start must be <= the end"
  | .classRangeLiteral => "invalid range boundary, must be a literal"
  | .classUnclosed => "unclosed character class"
  | .decimalInvalid => "decimal literal invalid"
  | .escapeHexEmpty => "hexadecimal literal empty"
  | .escapeHexInvalid => "hexadecimal literal is not a Unicode scalar value"
  | .escapeHexInvalidDigit => "invalid hexadecimal digit"
  | .escapeUnexpectedEof => "incomplete escape sequence, reached end of pattern prematurely"
  | .escapeUnrecognized => "unrecognized escape sequence"
  | .flagDanglingNegation => "dangling flag negation operator"
  | .flagDuplicate => "duplicate flag"
  | .flagRepeatedNegation => "flag negation operator repeated"
  | .flagUnexpectedEof => "expected flag but got end of regex"
  | .flagUnrecognized => "unrecognized flag"
  | .groupNameDuplicate => "duplicate capture group name"
  | .groupNameEmpty => "empty capture group name"
  | .groupNameInvalid => "invalid capture group character"
  | .groupNameUnexpectedEof => "unclosed capture group name"
  | .groupUnclosed => "unclosed group"
  | .groupUnopened => "unopened group"
  | .repetitionCountInvalid => "invalid repetition count range, the start must be <= the end"
  | .repetitionCountDecimalEmpty => "repetition quantifier expects a valid decimal"
  | .repetitionCountUnclosed => "unclosed counted repetition"
  | .repetitionMissing => "repetition operator missing expression"
  | .specialWordBoundaryUnclosed =>
    "special word boundary assertion is either unclosed or contains an invalid character"
  | .specialWordBoundaryUnrecognized =>
    "unrecognized special word boundary assertion, valid choices are: start, end, start-half or end-half"
  | .specialWordOrRepetitionUnexpectedEof =>
    "found either the beginning of a special word boundary or a bounded repetition on a \\b with an opening brace, but no closing brace"
  | .unsupportedBackreference => "backreferences are not supported"
  | .unsupportedLookAround => "look-around, including look-ahead and look-behind, is not supported"
  | .unicodeClassInvalid => "invalid Unicode character class"
  | .unicodeNotAllowed => "Unicode not allowed here"
  | .invalidUtf8 => "pattern can match invalid UTF-8"
  | .unicodePropertyNotFound => "Unicode property not found"
  | .unicodePropertyValueNotFound => "Unicode property value not found"
  | .unicodePerlClassNotFound =>
    "Unicode-aware Perl class not found (make sure the unicode-perl feature is enabled)"
  | .unicodeCaseUnavailable =>
    "Unicode-aware case insensitivity matching is not available (make sure the unicode-case feature is enabled)"
  | .nestLimitExceeded => "exceed the maximum number of nested parentheses/brackets (250)"

/-- A problem with a pattern and where it is; `aux` marks an earlier
occurrence of what is repeated. -/
structure SyntaxError where
  kind : ErrorKind
  span : Span
  aux : Option Span
  deriving Inhabited, Repr

/-- A zero-width assertion. -/
inductive Assertion where
  | startLine | endLine | startText | endText
  | wordBoundary | notWordBoundary
  | wordStart | wordEnd | wordStartHalf | wordEndHalf
  deriving DecidableEq, Repr, Inhabited

/-- The classes `\d`, `\s` and `\w`. -/
inductive PerlClass where
  | digit | space | word
  deriving DecidableEq, Repr, Inhabited

/-- The ASCII classes of brackets, such as `[:alpha:]`. -/
inductive AsciiClass where
  | alnum | alpha | ascii | blank | cntrl | digit | graph | lower | print | punct | space | upper
  | word | xdigit
  deriving DecidableEq, Repr, Inhabited

/-- The ASCII class a name stands for. -/
def AsciiClass.ofName? : String → Option AsciiClass
  | "alnum" => some .alnum
  | "alpha" => some .alpha
  | "ascii" => some .ascii
  | "blank" => some .blank
  | "cntrl" => some .cntrl
  | "digit" => some .digit
  | "graph" => some .graph
  | "lower" => some .lower
  | "print" => some .print
  | "punct" => some .punct
  | "space" => some .space
  | "upper" => some .upper
  | "word" => some .word
  | "xdigit" => some .xdigit
  | _ => none

/-- What `\p` names: one letter, a name, or a property and a value. -/
inductive UnicodeQuery where
  | oneLetter (c : Char)
  | named (name : String)
  | namedValue (name value : String)
  deriving Repr, Inhabited

/-- A flag of a pattern. -/
inductive Flag where
  | caseInsensitive | multiLine | dotAll | swapGreed | unicode | crlf | ignoreSpace
  deriving DecidableEq, Repr, Inhabited

/-- A change of flags, as written: each flag set or cleared. -/
abbrev FlagChange := List (Flag × Bool)

/-- The operators between bracketed class parts. -/
inductive ClassOp where
  | intersection | difference | symmetricDifference
  deriving DecidableEq, Repr, Inhabited

/-- A literal character and where it was written. `byte` marks one written
as a two-digit escape `\xNN`, which stands for a byte when `u` is off. -/
structure Literal where
  char : Char
  byte : Bool
  span : Span
  deriving Inhabited, Repr

/-- The inside of a bracketed class. -/
inductive ClassSet where
  /-- Nothing, such as the right side of `[a&&]`. -/
  | empty (span : Span)
  | literal (lit : Literal)
  | range (lo hi : Literal) (span : Span)
  | ascii (kind : AsciiClass) (negated : Bool) (span : Span)
  | unicode (query : UnicodeQuery) (negated : Bool) (span : Span)
  | perl (kind : PerlClass) (negated : Bool) (span : Span)
  | bracketed (body : ClassSet) (negated : Bool) (span : Span)
  /-- Two parts or more side by side. -/
  | union (items : List ClassSet) (span : Span)
  | op (kind : ClassOp) (lhs rhs : ClassSet) (span : Span)
  deriving Inhabited, Repr

/-- The stretch a class part covers. -/
def ClassSet.span : ClassSet → Span
  | .empty s | .literal ⟨_, _, s⟩ | .range _ _ s | .ascii _ _ s | .unicode _ _ s | .perl _ _ s
  | .bracketed _ _ s | .union _ s | .op _ _ _ s => s

/-- A parsed pattern. -/
inductive Ast where
  | empty (span : Span)
  | literal (lit : Literal)
  | dot (span : Span)
  | assertion (kind : Assertion) (span : Span)
  | perl (kind : PerlClass) (negated : Bool) (span : Span)
  | unicode (query : UnicodeQuery) (negated : Bool) (span : Span)
  | bracketed (body : ClassSet) (negated : Bool) (span : Span)
  | repetition (least : Nat) (most : Option Nat) (inner : Ast) (span : Span)
  | group (flags : Option FlagChange) (inner : Ast) (span : Span)
  | setFlags (flags : FlagChange) (span : Span)
  /-- Two items or more in sequence. -/
  | concat (items : List Ast) (span : Span)
  /-- Two alternatives or more. -/
  | alternation (branches : List Ast) (span : Span)
  deriving Inhabited, Repr

/-- The stretch an item covers. -/
def Ast.span : Ast → Span
  | .empty s | .literal ⟨_, _, s⟩ | .dot s | .assertion _ s | .perl _ _ s | .unicode _ _ s
  | .bracketed _ _ s | .repetition _ _ _ s | .group _ _ s | .setFlags _ s | .concat _ s
  | .alternation _ s => s

/-- A single item read by an escape or a plain character. -/
inductive Primitive where
  | literal (lit : Literal)
  | assertion (kind : Assertion) (span : Span)
  | dot (span : Span)
  | perl (kind : PerlClass) (negated : Bool) (span : Span)
  | unicode (query : UnicodeQuery) (negated : Bool) (span : Span)
  deriving Inhabited

namespace Primitive

/-- The stretch a primitive covers. -/
def span : Primitive → Span
  | .literal ⟨_, _, s⟩ | .assertion _ s | .dot s | .perl _ _ s | .unicode _ _ s => s

/-- A primitive as a pattern item. -/
def toAst : Primitive → Ast
  | .literal l => .literal l
  | .assertion k s => .assertion k s
  | .dot s => .dot s
  | .perl k n s => .perl k n s
  | .unicode q n s => .unicode q n s

end Primitive

/-- A sequence being read: where it began and its items so far, latest
first. -/
structure Seq where
  start : Position
  items : List Ast
  deriving Inhabited

/-- A sequence ended at `stop`: nothing, its one item, or the items in
order. -/
def Seq.toAst (s : Seq) (stop : Position) : Ast :=
  match s.items with
  | [] => .empty ⟨s.start, stop⟩
  | [a] => a
  | items => .concat items.reverse ⟨s.start, stop⟩

/-- Alternatives read so far, latest first, the first one begun at `start`
and the last ended at `stop`. -/
def alternationAst (start stop : Position) (branches : List Ast) : Ast :=
  match branches with
  | [] => .empty ⟨start, stop⟩
  | [a] => a
  | _ => .alternation branches.reverse ⟨start, stop⟩

/-- The parts of a class being read: where they begin and the parts so
far, latest first. -/
structure ClassUnion where
  start : Position
  items : List ClassSet
  deriving Inhabited

/-- The parts read: nothing, one part, or a union stretching from the first
part to the last. -/
def ClassUnion.toSet (u : ClassUnion) : ClassSet :=
  match u.items with
  | [] => .empty ⟨u.start, u.start⟩
  | [a] => a
  | last :: more =>
    let first := (more.getLast?.getD last).span
    .union u.items.reverse ⟨first.start, last.span.stop⟩

/-- Adds a part to a union. -/
def ClassUnion.push (u : ClassUnion) (item : ClassSet) : ClassUnion :=
  { u with items := item :: u.items }

/-- An open group: the sequence before it, its flags, where it opened, and
whether white space was skipped before it; or the alternatives of the
innermost group so far, the first begun at `start`. -/
inductive GroupFrame where
  | group (before : Seq) (flags : Option FlagChange) (opened : Span) (spaced : Bool)
  | alternation (start : Position) (branches : List Ast)
  deriving Inhabited

/-- An open bracket (the union it belongs to, whether it is negated, and
where it opened) or a pending class operation with its left side. -/
inductive ClassFrame where
  | bracket (outer : ClassUnion) (negated : Bool) (opened : Span)
  | op (kind : ClassOp) (lhs : ClassSet)
  deriving Inhabited

/-- The reader's state. -/
structure ParseState where
  pattern : Array Char
  pos : Position
  spaced : Bool
  names : List (String × Span)
  groups : List GroupFrame
  classes : List ClassFrame

/-- Reading a pattern, failing at the first problem. -/
abbrev Parser := StateT ParseState (Except SyntaxError)

namespace Parser

/-- Stops at a problem. -/
def fail {α : Type} (kind : ErrorKind) (span : Span) : Parser α := throw ⟨kind, span, none⟩

/-- Stops at a problem that repeats an earlier occurrence. -/
def failAlso {α : Type} (kind : ErrorKind) (span original : Span) : Parser α :=
  throw ⟨kind, span, some original⟩

/-- The position after a character. -/
def Position.after (p : Position) (c : Char) : Position :=
  if c = '\n' then ⟨p.offset + 1, p.line + 1, 1⟩ else ⟨p.offset + 1, p.line, p.column + 1⟩

/-- The current position. -/
def pos : Parser Position := return (← get).pos

/-- Whether the whole pattern has been read. -/
def isEof : Parser Bool := return (← get).pos.offset ≥ (← get).pattern.size

/-- The current character (a NUL at the end). -/
def char : Parser Char := return (← get).pattern.getD (← get).pos.offset (Char.ofNat 0)

/-- The character after the current one. -/
def peek : Parser (Option Char) := return (← get).pattern[(← get).pos.offset + 1]?

/-- The empty stretch at the current position. -/
def spanHere : Parser Span := do
  let p ← pos
  return ⟨p, p⟩

/-- The stretch of the current character. -/
def spanChar : Parser Span := do
  let p ← pos
  return ⟨p, Position.after p (← char)⟩

/-- Moves past the current character; tells whether more follows. -/
def bump : Parser Bool := do
  if ← isEof then return false
  let c ← char
  modify fun s => { s with pos := Position.after s.pos c }
  return !(← isEof)

/-- Moves past `text` if the pattern continues with it. -/
def bumpIf (text : String) : Parser Bool := do
  let s ← get
  let cs := text.toList
  if (s.pattern.extract s.pos.offset (s.pos.offset + cs.length)).toList == cs then
    for _ in cs do
      let _ ← bump
    return true
  else return false

/-- Skips a comment after its `#`, up to and including the line break. -/
def skipComment : Nat → Parser Unit
  | 0 => pure ()
  | fuel + 1 => do
    if ← isEof then return
    let c ← char
    let _ ← bump
    if c ≠ '\n' then skipComment fuel

/-- With the `x` flag, skips white space and comments. -/
def bumpSpace : Parser Unit := do
  if !(← get).spaced then return
  let rec go : Nat → Parser Unit
    | 0 => pure ()
    | fuel + 1 => do
      if ← isEof then return
      let c ← char
      if Text.isSpace c then
        let _ ← bump
        go fuel
      else if c = '#' then
        let _ ← bump
        skipComment fuel
        go fuel
      else pure ()
  go ((← get).pattern.size + 1)

/-- Moves past the current character and any skipped space; tells whether
more follows. -/
def bumpAndBumpSpace : Parser Bool := do
  if !(← bump) then return false
  bumpSpace
  return !(← isEof)

/-- The next character after the current one, past skipped space and
comments when the `x` flag is on. -/
def peekSpace : Parser (Option Char) := do
  let s ← get
  if !s.spaced then return ← peek
  if ← isEof then return none
  let rest := (s.pattern.extract (s.pos.offset + 1) s.pattern.size).toList
  let rec find (inComment : Bool) : List Char → Option Char
    | [] => none
    | c :: more =>
      if Text.isSpace c then find inComment more
      else if !inComment && c = '#' then find true more
      else if inComment && c = '\n' then find false more
      else if inComment then find inComment more
      else some c
  match find false rest with
  | some c => return some c
  | none => return rest.head?

/-! ## Escapes -/

/-- Whether a character has a meaning of its own in patterns. -/
def isMeta (c : Char) : Bool := "\\.+*?()|[]\x7B\x7D^$#&-~".contains c

/-- Whether a backslash may stand before a character to mean it literally:
the meta characters and the ASCII characters other than letters, digits,
`<` and `>`. -/
def isEscapeable (c : Char) : Bool :=
  isMeta c || (c.toNat ≤ 0x7F && !c.isAlphanum && c ≠ '<' && c ≠ '>')

/-- The value of a hexadecimal digit. -/
def hexValue (c : Char) : Nat :=
  if '0' ≤ c ∧ c ≤ '9' then c.toNat - 48
  else if 'A' ≤ c ∧ c ≤ 'F' then c.toNat - 55
  else if 'a' ≤ c ∧ c ≤ 'f' then c.toNat - 87
  else 0

/-- The number written by hexadecimal digits. -/
def readHex (cs : List Char) : Nat := cs.foldl (fun n c => 16 * n + hexValue c) 0

/-- The number written by decimal digits. -/
def readDecimal (cs : List Char) : Nat := cs.foldl (fun n c => 10 * n + (c.toNat - 48)) 0

/-- Whether a character is a hexadecimal digit. -/
def isHex (c : Char) : Bool := ('0' ≤ c ∧ c ≤ '9') || ('a' ≤ c ∧ c ≤ 'f') || ('A' ≤ c ∧ c ≤ 'F')

/-- The character a code point stands for, if it is a scalar value. -/
def scalar? (n : Nat) : Option Char :=
  if n < 0xD800 ∨ (0xE000 ≤ n ∧ n ≤ 0x10FFFF) then some (Char.ofNat n) else none

/-- Reads `count` hexadecimal digits after `\x`, `\u` or `\U`. -/
def hexDigits (count : Nat) (escStart : Position) (byteKind : Bool) : Parser Primitive := do
  let start ← pos
  let rec digits (i : Nat) (acc : List Char) : Nat → Parser (List Char)
    | 0 => pure acc.reverse
    | fuel + 1 => do
      if i = count then return acc.reverse
      if i > 0 then
        if !(← bumpAndBumpSpace) then fail .escapeUnexpectedEof (← spanHere)
      let c ← char
      if !isHex c then fail .escapeHexInvalidDigit (← spanChar)
      digits (i + 1) (c :: acc) fuel
  let ds ← digits 0 [] (count + 1)
  let _ ← bumpAndBumpSpace
  let stop ← pos
  match scalar? (readHex ds) with
  | some c => return .literal ⟨c, byteKind && c.toNat ≤ 0xFF, ⟨escStart, stop⟩⟩
  | none => fail .escapeHexInvalid ⟨start, stop⟩

/-- Reads hexadecimal digits in braces, `\x{...}`. -/
def hexBrace (escStart : Position) : Parser Primitive := do
  let bracePos ← pos
  let start := (← spanChar).stop
  let rec digits (acc : List Char) : Nat → Parser (List Char)
    | 0 => pure acc.reverse
    | fuel + 1 => do
      if !(← bumpAndBumpSpace) then return acc.reverse
      let c ← char
      if c = '\x7D' then return acc.reverse
      if !isHex c then fail .escapeHexInvalidDigit (← spanChar)
      digits (c :: acc) fuel
  let ds ← digits [] ((← get).pattern.size + 1)
  if ← isEof then fail .escapeUnexpectedEof ⟨bracePos, ← pos⟩
  let stop ← pos
  let _ ← bumpAndBumpSpace
  if ds.isEmpty then fail .escapeHexEmpty ⟨bracePos, ← pos⟩
  let value := if ds.length > 8 then 0x110000 else readHex ds
  match scalar? value with
  | some c => return .literal ⟨c, false, ⟨escStart, ← pos⟩⟩
  | none => fail .escapeHexInvalid ⟨start, stop⟩

/-- Reads a code point escape after its `\`, at `x`, `u` or `U`. -/
def parseHex (escStart : Position) : Parser Primitive := do
  let kind ← char
  let count := if kind = 'x' then 2 else if kind = 'u' then 4 else 8
  if !(← bumpAndBumpSpace) then fail .escapeUnexpectedEof (← spanHere)
  if (← char) = '\x7B' then hexBrace escStart else hexDigits count escStart (kind = 'x')

/-- Reads a Unicode class after its `\`, at `p` or `P`. -/
def parseUnicodeClass (escStart : Position) : Parser Primitive := do
  let negated := (← char) = 'P'
  if !(← bumpAndBumpSpace) then fail .escapeUnexpectedEof (← spanHere)
  if (← char) = '\x7B' then
    let rec body (acc : List Char) : Nat → Parser (List Char)
      | 0 => pure acc.reverse
      | fuel + 1 => do
        if !(← bumpAndBumpSpace) then return acc.reverse
        let c ← char
        if c = '\x7D' then return acc.reverse
        body (c :: acc) fuel
    let name ← body [] ((← get).pattern.size + 1)
    if ← isEof then fail .escapeUnexpectedEof (← spanHere)
    let _ ← bump
    let text := String.ofList name
    let query : UnicodeQuery :=
      match text.splitOn "!=" with
      | first :: second :: more => .namedValue first ("!=".intercalate (second :: more))
      | _ =>
        if name.contains ':' then
          .namedValue (String.ofList (name.takeWhile (· ≠ ':'))) (String.ofList ((name.dropWhile (· ≠ ':')).drop 1))
        else if name.contains '=' then
          .namedValue (String.ofList (name.takeWhile (· ≠ '='))) (String.ofList ((name.dropWhile (· ≠ '=')).drop 1))
        else .named text
    let notEqual := (text.splitOn "!=").length > 1
    return .unicode query (negated != notEqual) ⟨escStart, ← pos⟩
  else
    let c ← char
    if c = '\\' then fail .unicodeClassInvalid (← spanChar)
    let _ ← bumpAndBumpSpace
    return .unicode (.oneLetter c) negated ⟨escStart, ← pos⟩

/-- Reads a special word boundary `\b{...}` at its `{`; gives nothing (and
goes back to the brace) when what follows cannot be one, so the brace
starts a counted repetition instead. -/
def specialWordBoundary (wbStart : Position) : Parser (Option Assertion) := do
  let start ← pos
  if !(← bumpAndBumpSpace) then fail .specialWordOrRepetitionUnexpectedEof ⟨wbStart, ← pos⟩
  let contents ← pos
  let valid (c : Char) : Bool := ('A' ≤ c ∧ c ≤ 'Z') || ('a' ≤ c ∧ c ≤ 'z') || c = '-'
  if !valid (← char) then
    modify fun s => { s with pos := start }
    return none
  let rec collect (acc : List Char) : Nat → Parser (List Char)
    | 0 => pure acc.reverse
    | fuel + 1 => do
      if ← isEof then return acc.reverse
      let c ← char
      if !valid c then return acc.reverse
      let _ ← bumpAndBumpSpace
      collect (c :: acc) fuel
  let name ← collect [] ((← get).pattern.size + 1)
  if ← isEof then fail .specialWordBoundaryUnclosed ⟨start, ← pos⟩
  if (← char) ≠ '\x7D' then fail .specialWordBoundaryUnclosed ⟨start, ← pos⟩
  let stop ← pos
  let _ ← bump
  match String.ofList name with
  | "start" => return some .wordStart
  | "end" => return some .wordEnd
  | "start-half" => return some .wordStartHalf
  | "end-half" => return some .wordEndHalf
  | _ => fail .specialWordBoundaryUnrecognized ⟨contents, stop⟩

/-- Reads an escape at its `\`. -/
def parseEscape : Parser Primitive := do
  let start ← pos
  if !(← bump) then fail .escapeUnexpectedEof ⟨start, ← pos⟩
  let c ← char
  if '0' ≤ c ∧ c ≤ '9' then fail .unsupportedBackreference ⟨start, (← spanChar).stop⟩
  if c = 'x' || c = 'u' || c = 'U' then return ← parseHex start
  if c = 'p' || c = 'P' then return ← parseUnicodeClass start
  if c = 'd' || c = 's' || c = 'w' || c = 'D' || c = 'S' || c = 'W' then
    let _ ← bump
    let kind := if c = 'd' || c = 'D' then PerlClass.digit
      else if c = 's' || c = 'S' then PerlClass.space else PerlClass.word
    return .perl kind (c = 'D' || c = 'S' || c = 'W') ⟨start, ← pos⟩
  let _ ← bump
  let span : Span := ⟨start, ← pos⟩
  if isEscapeable c then return .literal ⟨c, false, span⟩
  if c = 'a' then return .literal ⟨Char.ofNat 7, false, span⟩
  if c = 'f' then return .literal ⟨Char.ofNat 12, false, span⟩
  if c = 't' then return .literal ⟨'\t', false, span⟩
  if c = 'n' then return .literal ⟨'\n', false, span⟩
  if c = 'r' then return .literal ⟨'\r', false, span⟩
  if c = 'v' then return .literal ⟨Char.ofNat 11, false, span⟩
  if c = 'A' then return .assertion .startText span
  if c = 'z' then return .assertion .endText span
  if c = 'B' then return .assertion .notWordBoundary span
  if c = '<' then return .assertion .wordStart span
  if c = '>' then return .assertion .wordEnd span
  if c = 'b' then
    if ← isEof then return .assertion .wordBoundary span
    if (← char) ≠ '\x7B' then return .assertion .wordBoundary span
    match ← specialWordBoundary start with
    | some kind => return .assertion kind ⟨start, ← pos⟩
    | none => return .assertion .wordBoundary span
  fail .escapeUnrecognized span

/-- Reads a literal, `.`, `^`, `$` or an escape. -/
def parsePrimitive : Parser Primitive := do
  let c ← char
  if c = '\\' then return ← parseEscape
  let span ← spanChar
  let _ ← bump
  if c = '.' then return .dot span
  if c = '^' then return .assertion .startLine span
  if c = '$' then return .assertion .endLine span
  return .literal ⟨c, false, span⟩

/-! ## Groups and flags -/

/-- Reads a capture group's name after `(?P<` or `(?<`, up to its `>`, and
records it; a name may not repeat. -/
def captureName : Parser Unit := do
  if ← isEof then fail .groupNameUnexpectedEof (← spanHere)
  let start ← pos
  let rec scan : Nat → Parser Unit
    | 0 => pure ()
    | fuel + 1 => do
      let c ← char
      if c = '>' then return
      let first := (← pos).offset == start.offset
      let ok := if first then c = '_' || Unicode.isAlphabetic c
        else c = '_' || c = '.' || c = '[' || c = ']' || Unicode.isAlphanumeric c
      if !ok then fail .groupNameInvalid (← spanChar)
      if !(← bump) then return
      scan fuel
  scan ((← get).pattern.size + 1)
  let stop ← pos
  if ← isEof then fail .groupNameUnexpectedEof (← spanHere)
  let _ ← bump
  let name := String.ofList ((← get).pattern.extract start.offset stop.offset).toList
  if name.isEmpty then fail .groupNameEmpty ⟨start, start⟩
  let span : Span := ⟨start, stop⟩
  match (← get).names.lookup name with
  | some original => failAlso .groupNameDuplicate span original
  | none => modify fun s => { s with names := (name, span) :: s.names }

/-- The flag a letter names. -/
def flagOf? (c : Char) : Option Flag :=
  if c = 'i' then some .caseInsensitive
  else if c = 'm' then some .multiLine
  else if c = 's' then some .dotAll
  else if c = 'U' then some .swapGreed
  else if c = 'u' then some .unicode
  else if c = 'R' then some .crlf
  else if c = 'x' then some .ignoreSpace
  else none

/-- Reads flags up to `:` or `)`: each letter sets its flag, or clears it
after a `-`. A flag may be named once and `-` may appear once, not last. -/
def parseFlags : Parser FlagChange := do
  let rec loop (items : List (Flag × Bool)) (seen : List (Flag × Span)) (negation : Option Span)
      (dangling : Bool) : Nat → Parser FlagChange
    | 0 => pure items.reverse
    | fuel + 1 => do
      let c ← char
      if c = ':' || c = ')' then
        match negation, dangling with
        | some span, true => fail .flagDanglingNegation span
        | _, _ => return items.reverse
      let here ← spanChar
      if c = '-' then
        if let some original := negation then failAlso .flagRepeatedNegation here original
        if !(← bump) then fail .flagUnexpectedEof (← spanHere)
        loop items seen (some here) true fuel
      else
        let flag ← match flagOf? c with
          | some f => pure f
          | none => fail .flagUnrecognized here
        if let some original := seen.lookup flag then failAlso .flagDuplicate here original
        if !(← bump) then fail .flagUnexpectedEof (← spanHere)
        loop ((flag, negation.isNone) :: items) ((flag, here) :: seen) negation false fuel
  loop [] [] none false ((← get).pattern.size + 1)

/-- What an opening parenthesis starts: flags for the rest of the group
(with the stretch they were written in), or a group with its own flags, if
any. -/
inductive Opening where
  | setFlags (flags : FlagChange) (span : Span)
  | group (flags : Option FlagChange) (opened : Span)

/-- Reads what an opening parenthesis starts, at the parenthesis. -/
def parseGroup : Parser Opening := do
  let opened ← spanChar
  let _ ← bump
  bumpSpace
  let lookAround ← do
    if ← bumpIf "?=" then pure true
    else if ← bumpIf "?!" then pure true
    else if ← bumpIf "?<=" then pure true
    else bumpIf "?<!"
  if lookAround then fail .unsupportedLookAround ⟨opened.start, ← pos⟩
  let inner ← spanHere
  let named ← do
    if ← bumpIf "?P<" then pure true
    else bumpIf "?<"
  if named then
    captureName
    return .group none opened
  if ← bumpIf "?" then
    if ← isEof then fail .groupUnclosed opened
    let flags ← parseFlags
    let closing ← char
    let _ ← bump
    if closing = ')' then
      if flags.isEmpty then fail .repetitionMissing inner
      return .setFlags flags ⟨opened.start, ← pos⟩
    return .group (some flags) opened
  return .group none opened

/-- Opens a group, or applies flags to the rest of the current one; gives
the sequence reading goes on with. -/
def pushGroup (concat : Seq) : Parser Seq := do
  match ← parseGroup with
  | .setFlags flags span =>
    if let some v := flags.lookup .ignoreSpace then modify fun s => { s with spaced := v }
    return { concat with items := .setFlags flags span :: concat.items }
  | .group flags opened =>
    let old := (← get).spaced
    let new := (flags.bind fun f => f.lookup .ignoreSpace).getD old
    modify fun s => { s with groups := .group concat flags opened old :: s.groups, spaced := new }
    return ⟨← pos, []⟩

/-- Closes the innermost group at its `)`. -/
def popGroup (concat : Seq) : Parser Seq := do
  let here ← spanChar
  let (before, flags, opened, spaced, branches) ← match (← get).groups with
    | .group before flags opened spaced :: rest => do
      modify fun s => { s with groups := rest }
      pure (before, flags, opened, spaced, none)
    | .alternation start branches :: .group before flags opened spaced :: rest => do
      modify fun s => { s with groups := rest }
      pure (before, flags, opened, spaced, some (start, branches))
    | _ => fail .groupUnopened here
  modify fun s => { s with spaced := spaced }
  let stop ← pos
  let _ ← bump
  let inner := match branches with
    | some (start, bs) => alternationAst start stop (concat.toAst stop :: bs)
    | none => concat.toAst stop
  return { before with items := .group flags inner ⟨opened.start, ← pos⟩ :: before.items }

/-- Ends an alternative at its `|`. -/
def pushAlternate (concat : Seq) : Parser Seq := do
  let branch := concat.toAst (← pos)
  modify fun s => match s.groups with
    | .alternation start bs :: rest => { s with groups := .alternation start (branch :: bs) :: rest }
    | gs => { s with groups := .alternation concat.start [branch] :: gs }
  let _ ← bump
  return ⟨← pos, []⟩

/-- Ends the pattern: every group must be closed. -/
def popGroupEnd (concat : Seq) : Parser Ast := do
  let stop ← pos
  match (← get).groups with
  | [] => return concat.toAst stop
  | [.alternation start bs] => return alternationAst start stop (concat.toAst stop :: bs)
  | .alternation _ _ :: .group _ _ opened _ :: _ => fail .groupUnclosed opened
  | .group _ _ opened _ :: _ => fail .groupUnclosed opened
  | _ => return concat.toAst stop

/-! ## Repetition -/

/-- Repeats the last item at `?`, `*` or `+`, taking a `?` after it. -/
def repeatOp (least : Nat) (most : Option Nat) (concat : Seq) : Parser Seq := do
  match concat.items with
  | [] => fail .repetitionMissing (← spanHere)
  | .setFlags _ _ :: _ => fail .repetitionMissing (← spanHere)
  | .empty _ :: _ => fail .repetitionMissing (← spanHere)
  | ast :: rest =>
    if ← bump then
      if (← char) = '?' then
        let _ ← bump
    return { concat with items := .repetition least most ast ⟨ast.span.start, ← pos⟩ :: rest }

/-- The value of a reading, or its problem raised. -/
def ofExcept {α : Type} : Except SyntaxError α → Parser α
  | .ok a => pure a
  | .error e => throw e

/-- Reads a decimal number of a counted repetition, white space allowed
around it. A missing or too large number is given back as a problem rather
than raised, so that an unclosed repetition can be reported first. -/
def parseDecimal : Parser (Except SyntaxError Nat) := do
  let size := (← get).pattern.size + 1
  let rec skipWhite (thenSpace : Bool) : Nat → Parser Unit
    | 0 => pure ()
    | fuel + 1 => do
      if ← isEof then return
      if !Text.isSpace (← char) then return
      if thenSpace then
        let _ ← bumpAndBumpSpace
      else
        let _ ← bump
      skipWhite thenSpace fuel
  let rec digits (acc : List Char) : Nat → Parser (List Char)
    | 0 => pure acc.reverse
    | fuel + 1 => do
      if ← isEof then return acc.reverse
      let c ← char
      if !('0' ≤ c ∧ c ≤ '9') then return acc.reverse
      let _ ← bumpAndBumpSpace
      digits (c :: acc) fuel
  skipWhite false size
  let start ← pos
  let ds ← digits [] size
  let span : Span := ⟨start, ← pos⟩
  skipWhite true size
  if ds.isEmpty then return .error ⟨.repetitionCountDecimalEmpty, span, none⟩
  let n := readDecimal ds
  if n ≥ Nat.pow 2 32 then return .error ⟨.decimalInvalid, span, none⟩
  return .ok n

/-- Repeats the last item by a count in braces, at the `{`. A pattern that
ends inside the braces is reported as an unclosed repetition even when the
count before it is missing. -/
def countedRepetition (concat : Seq) : Parser Seq := do
  let start ← pos
  let (ast, rest) ← match concat.items with
    | [] => fail .repetitionMissing (← spanHere)
    | .setFlags _ _ :: _ => fail .repetitionMissing (← spanHere)
    | .empty _ :: _ => fail .repetitionMissing (← spanHere)
    | a :: more => pure (a, more)
  if !(← bumpAndBumpSpace) then fail .repetitionCountUnclosed ⟨start, ← pos⟩
  let first ← parseDecimal
  if ← isEof then fail .repetitionCountUnclosed ⟨start, ← pos⟩
  let (least, most) ← do
    if (← char) = ',' then
      if !(← bumpAndBumpSpace) then fail .repetitionCountUnclosed ⟨start, ← pos⟩
      if (← char) ≠ '\x7D' then
        let least ← ofExcept first
        let m ← ofExcept (← parseDecimal)
        pure (least, some m)
      else pure (← ofExcept first, none)
    else
      let least ← ofExcept first
      pure (least, some least)
  if ← isEof then fail .repetitionCountUnclosed ⟨start, ← pos⟩
  if (← char) ≠ '\x7D' then fail .repetitionCountUnclosed ⟨start, ← pos⟩
  if ← bumpAndBumpSpace then
    if (← char) = '?' then
      let _ ← bump
  let opSpan : Span := ⟨start, ← pos⟩
  if let some m := most then
    if least > m then fail .repetitionCountInvalid opSpan
  return { concat with items := .repetition least most ast ⟨ast.span.start, ← pos⟩ :: rest }

/-! ## Bracketed classes -/

/-- Fails at the innermost open bracket. -/
def unclosedClass {α : Type} : Parser α := do
  match (← get).classes.find? fun f => match f with
      | .bracket _ _ _ => true
      | .op _ _ => false with
  | some (.bracket _ _ opened) => fail .classUnclosed opened
  | _ => fail .classUnclosed (← spanHere)

/-- A primitive as a part of a class: a literal or a class, not an
assertion or `.`. -/
def intoClassItem (p : Primitive) : Parser ClassSet :=
  match p with
  | .literal l => pure (.literal l)
  | .perl k n s => pure (.perl k n s)
  | .unicode q n s => pure (.unicode q n s)
  | p => fail .classEscapeInvalid p.span

/-- A primitive as the end of a range: a literal only. -/
def intoClassLiteral (p : Primitive) : Parser Literal :=
  match p with
  | .literal l => pure l
  | p => fail .classRangeLiteral p.span

/-- Reads a literal or an escape inside a bracket. -/
def parseSetClassItem : Parser Primitive := do
  if (← char) = '\\' then return ← parseEscape
  let span ← spanChar
  let c ← char
  let _ ← bump
  return .literal ⟨c, false, span⟩

/-- Reads a class part that may be a range `a-z`. -/
def parseSetClassRange : Parser ClassSet := do
  let first ← parseSetClassItem
  bumpSpace
  if ← isEof then return ← unclosedClass
  let c ← char
  let next ← peekSpace
  if c ≠ '-' || next == some ']' || next == some '-' then return ← intoClassItem first
  if !(← bumpAndBumpSpace) then return ← unclosedClass
  let second ← parseSetClassItem
  let span : Span := ⟨first.span.start, second.span.stop⟩
  let lo ← intoClassLiteral first
  let hi ← intoClassLiteral second
  if lo.char.toNat > hi.char.toNat then fail .classRangeInvalid span
  return .range lo hi span

/-- Reads the opening of a bracket: `[`, an optional `^`, then any `-` and a
leading `]`, which are literal. -/
def parseSetClassOpen : Parser (Bool × Span × ClassUnion) := do
  let start ← pos
  if !(← bumpAndBumpSpace) then fail .classUnclosed ⟨start, ← pos⟩
  let negated ← do
    if (← char) ≠ '^' then pure false
    else
      if !(← bumpAndBumpSpace) then fail .classUnclosed ⟨start, ← pos⟩
      pure true
  let first ← pos
  let rec dashes (acc : List ClassSet) : Nat → Parser (List ClassSet)
    | 0 => pure acc
    | fuel + 1 => do
      if (← char) ≠ '-' then return acc
      let span ← spanChar
      if !(← bumpAndBumpSpace) then fail .classUnclosed ⟨start, start⟩
      dashes (.literal ⟨'-', false, span⟩ :: acc) fuel
  let union ← dashes [] ((← get).pattern.size + 1)
  let union ← do
    if union.isEmpty && (← char) = ']' then
      let span ← spanChar
      if !(← bumpAndBumpSpace) then fail .classUnclosed ⟨start, ← pos⟩
      pure [ClassSet.literal ⟨']', false, span⟩]
    else pure union
  return (negated, ⟨start, ← pos⟩, ⟨first, union⟩)

/-- Opens a bracket inside the union `outer`; gives the new bracket's union. -/
def pushClassOpen (outer : ClassUnion) : Parser ClassUnion := do
  let (negated, opened, union) ← parseSetClassOpen
  modify fun s => { s with classes := .bracket outer negated opened :: s.classes }
  return union

/-- Completes a pending class operation with its right side. -/
def popClassOp (rhs : ClassSet) : Parser ClassSet := do
  match (← get).classes with
  | .op kind lhs :: rest =>
    modify fun s => { s with classes := rest }
    return .op kind lhs rhs ⟨lhs.span.start, rhs.span.stop⟩
  | _ => return rhs

/-- Starts a class operation at its operator, the union so far its left
side. -/
def pushClassOp (kind : ClassOp) (union : ClassUnion) : Parser ClassUnion := do
  let lhs ← popClassOp union.toSet
  modify fun s => { s with classes := .op kind lhs :: s.classes }
  return ⟨← pos, []⟩

/-- Closes a bracket at its `]`: gives the union it belongs to, or the whole
class when it is the outermost bracket. -/
def popClass (nested : ClassUnion) : Parser (Sum ClassUnion (ClassSet × Bool × Span)) := do
  let body ← popClassOp nested.toSet
  match (← get).classes with
  | .bracket outer negated opened :: rest =>
    modify fun s => { s with classes := rest }
    let _ ← bump
    let span : Span := ⟨opened.start, ← pos⟩
    if rest.isEmpty then return .inr (body, negated, span)
    return .inl (outer.push (.bracketed body negated span))
  | _ => return .inl nested

/-- Reads an ASCII class such as `[:alpha:]` or `[:^digit:]` at its `[`;
gives nothing, and goes back, when the text is not one. -/
def maybeAsciiClass : Parser (Option ClassSet) := do
  let start ← pos
  let restore : Parser (Option ClassSet) := do
    modify fun s => { s with pos := start }
    return none
  if !(← bump) then return ← restore
  if (← char) ≠ ':' then return ← restore
  if !(← bump) then return ← restore
  let negated ← do
    if (← char) = '^' then
      if !(← bump) then return ← restore
      pure true
    else pure false
  let nameStart := (← pos).offset
  let rec scan : Nat → Parser Unit
    | 0 => pure ()
    | fuel + 1 => do
      if (← char) = ':' then return
      if !(← bump) then return
      scan fuel
  scan ((← get).pattern.size + 1)
  if ← isEof then return ← restore
  let name := String.ofList ((← get).pattern.extract nameStart (← pos).offset).toList
  if !(← bumpIf ":]") then return ← restore
  match AsciiClass.ofName? name with
  | some kind => return some (.ascii kind negated ⟨start, ← pos⟩)
  | none => restore

/-- Reads a bracketed class at its `[`: its body, whether it is negated,
and its stretch. -/
def parseSetClass : Parser (ClassSet × Bool × Span) := do
  let rec loop (union : ClassUnion) : Nat → Parser (ClassSet × Bool × Span)
    | 0 => unclosedClass
    | fuel + 1 => do
      bumpSpace
      if ← isEof then return ← unclosedClass
      let c ← char
      let next ← peek
      if c = '[' then
        if !(← get).classes.isEmpty then
          if let some cls ← maybeAsciiClass then
            return ← loop (union.push cls) fuel
        loop (← pushClassOpen union) fuel
      else if c = ']' then
        match ← popClass union with
        | .inl outer => loop outer fuel
        | .inr result => return result
      else if c = '&' && next == some '&' then
        let _ ← bumpIf "&&"
        loop (← pushClassOp .intersection union) fuel
      else if c = '-' && next == some '-' then
        let _ ← bumpIf "--"
        loop (← pushClassOp .difference union) fuel
      else if c = '~' && next == some '~' then
        let _ ← bumpIf "~~"
        loop (← pushClassOp .symmetricDifference union) fuel
      else loop (union.push (← parseSetClassRange)) fuel
  loop ⟨← pos, []⟩ ((← get).pattern.size + 2)

/-! ## Whole patterns -/

/-- Reads items up to the end of the pattern. -/
def parseItems (concat : Seq) : Nat → Parser Ast
  | 0 => popGroupEnd concat
  | fuel + 1 => do
    bumpSpace
    if ← isEof then return ← popGroupEnd concat
    let c ← char
    if c = '(' then parseItems (← pushGroup concat) fuel
    else if c = ')' then parseItems (← popGroup concat) fuel
    else if c = '|' then parseItems (← pushAlternate concat) fuel
    else if c = '[' then
      let (body, negated, span) ← parseSetClass
      parseItems { concat with items := .bracketed body negated span :: concat.items } fuel
    else if c = '?' then parseItems (← repeatOp 0 (some 1) concat) fuel
    else if c = '*' then parseItems (← repeatOp 0 none concat) fuel
    else if c = '+' then parseItems (← repeatOp 1 none concat) fuel
    else if c = '\x7B' then parseItems (← countedRepetition concat) fuel
    else parseItems { concat with items := (← parsePrimitive).toAst :: concat.items } fuel

end Parser

/-- Reads a pattern. -/
def parsePattern (pattern : String) : Except SyntaxError Ast :=
  let cs := pattern.toList.toArray
  (Parser.parseItems ⟨⟨0, 1, 1⟩, []⟩ (cs.size + 1)).run' ⟨cs, ⟨0, 1, 1⟩, false, [], [], []⟩

end Flowline.Regex
