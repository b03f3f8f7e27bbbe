import Flowline.Json.Tree
import Flowline.Number.Scale
set_option autoImplicit false

/-!
# Reading JSON text

`Json.read` turns JSON text into a `Value`, or names the first fault and
where it is (`Json.ReadError`).

* An integer written without fraction or exponent stays an integer when it
  fits a 64-bit word (unsigned when non-negative, signed when negative).
* Every other number, `-0` included, is read as a 64-bit significand and a
  decimal exponent and scaled to a double (`scaleByTen`); significand
  digits past 64 bits are dropped. A number beyond the doubles is an error.
* `readTree` keeps objects as written (`Json.Tree`); `read` gives the
  document, where a repeated key keeps its last value.
* With a depth limit, containers nested deeper than the limit are refused.

The reader works on the list of characters and carries a fuel argument
equal to the input length: every nested call consumes a character first,
so the fuel never runs out on well-formed calls.
-/

namespace Flowline

namespace Json

/-- What went wrong while reading JSON text. -/
inductive Fault where
  | eofInValue
  | eofInList
  | eofInObject
  | eofInString
  | expectedColon
  | expectedListCommaOrEnd
  | expectedObjectCommaOrEnd
  | expectedIdent
  | expectedValue
  | invalidEscape
  | invalidNumber
  | numberOutOfRange
  | invalidCodePoint
  | controlCharacter
  | keyMustBeString
  | loneSurrogate
  | unexpectedEndOfHexEscape
  | trailingComma
  | trailingCharacters
  | tooDeep
  deriving DecidableEq, Repr, Inhabited

namespace Fault

/-- The wording of a fault. -/
def text : Fault → String
  | .eofInValue => "EOF while parsing a value"
  | .eofInList => "EOF while parsing a list"
  | .eofInObject => "EOF while parsing an object"
  | .eofInString => "EOF while parsing a string"
  | .expectedColon => "expected `:`"
  | .expectedListCommaOrEnd => "expected `,` or `]`"
  | .expectedObjectCommaOrEnd => "expected `,` or `\x7d`"
  | .expectedIdent => "expected ident"
  | .expectedValue => "expected value"
  | .invalidEscape => "invalid escape"
  | .invalidNumber => "invalid number"
  | .numberOutOfRange => "number out of range"
  | .invalidCodePoint => "invalid unicode code point"
  | .controlCharacter => "control character (\\u0000-\\u001F) found while parsing a string"
  | .keyMustBeString => "key must be a string"
  | .loneSurrogate => "lone leading surrogate in hex escape"
  | .unexpectedEndOfHexEscape => "unexpected end of hex escape"
  | .trailingComma => "trailing comma"
  | .trailingCharacters => "trailing characters"
  | .tooDeep => "recursion limit exceeded"

end Fault

/-- A fault and the line and column where it was found. -/
structure ReadError where
  fault : Fault
  line : Nat
  column : Nat
  deriving Repr, Inhabited

/-- The wording of a read error, position included. -/
def ReadError.message (e : ReadError) : String :=
  s!"{e.fault.text} at line {e.line} column {e.column}"

/-- A fault found with `rest` characters still unread. -/
structure Stop where
  fault : Fault
  rest : Nat

/-- The result of a reading step: the value and the unread characters. -/
abbrev Step (α : Type) := Except Stop (α × List Char)

/-- JSON blanks. -/
def isBlank (c : Char) : Bool := c = ' ' || c = '\t' || c = '\n' || c = '\r'

/-- Drops leading blanks. -/
def skipBlanks : List Char → List Char
  | c :: rest => if isBlank c then skipBlanks rest else c :: rest
  | [] => []

/-- Fails with `fault` at the front of `cs`. -/
def stop {α : Type} (fault : Fault) (cs : List Char) : Step α := .error ⟨fault, cs.length⟩

/-- The value of a hex digit. -/
def hexValue (c : Char) : Option Nat :=
  if '0' ≤ c ∧ c ≤ '9' then some (c.toNat - 48)
  else if 'a' ≤ c ∧ c ≤ 'f' then some (c.toNat - 87)
  else if 'A' ≤ c ∧ c ≤ 'F' then some (c.toNat - 55)
  else none

/-- Reads the four hex digits of a `\u` escape. The four bytes after the
`u` are taken together: when fewer than four bytes of input are left the
text ends inside the string, and four bytes that are not all hex digits
are a bad escape, found after them. -/
def readHex4 (cs : List Char) : Step Nat :=
  match cs with
  | a :: b :: c :: d :: rest =>
    match hexValue a, hexValue b, hexValue c, hexValue d with
    | some w, some x, some y, some z => .ok (((w * 16 + x) * 16 + y) * 16 + z, rest)
    | _, _, _, _ => stop .invalidEscape rest
  | _ =>
    if (String.ofList cs).utf8ByteSize < 4 then stop .eofInString [] else stop .invalidEscape []

/-- Reads the character of a `\u` escape, joining surrogate pairs. -/
def readUnicodeEscape (cs : List Char) : Except Stop (Char × List Char) := do
  let (n, rest) ← readHex4 cs
  if 0xDC00 ≤ n ∧ n ≤ 0xDFFF then stop .loneSurrogate rest
  else if 0xD800 ≤ n ∧ n ≤ 0xDBFF then
    match rest with
    | '\\' :: 'u' :: more =>
      let (m, rest') ← readHex4 more
      if 0xDC00 ≤ m ∧ m ≤ 0xDFFF then
        let code := ((n - 0xD800) * 1024 + (m - 0xDC00)) + 0x10000
        .ok (Char.ofNat code, rest')
      else stop .loneSurrogate rest'
    | [] => stop .eofInString []
    | ['\\'] => stop .eofInString []
    | _ => stop .unexpectedEndOfHexEscape rest
  else if n < 0xD800 ∨ 0xE000 ≤ n then .ok (Char.ofNat n, rest)
  else stop .invalidCodePoint rest

/-- The largest 64-bit word, the bound of a significand. -/
def wordBound : Nat := Nat.pow 2 64 - 1

/-- The largest signed 32-bit word, the bound of an exponent. -/
def exponentBound : Nat := Nat.pow 2 31 - 1

/-- Whether `acc * 10 + d` passes `bound`, tested without forming it. -/
def passes (bound acc d : Nat) : Bool :=
  acc ≥ bound / 10 && (acc > bound / 10 || d > bound % 10)

/-- The value of a decimal digit. -/
def digitOf (c : Char) : Nat := c.toNat - 48

/-- Whether a list starts with a decimal digit. -/
def startsWithDigit (cs : List Char) : Bool := (cs.head?.map Char.isDigit).getD false

/-- Reads digits into a significand while it stays a 64-bit word: the
significand, how many digits went in, and the rest, which starts with the
first digit that did not fit or with a non-digit. -/
def gatherDigits (acc count : Nat) : List Char → Nat × Nat × List Char
  | c :: rest =>
    if c.isDigit && !passes wordBound acc (digitOf c) then
      gatherDigits (acc * 10 + digitOf c) (count + 1) rest
    else (acc, count, c :: rest)
  | [] => (acc, count, [])

/-- Reads the digits of an exponent while it stays a signed 32-bit word:
the exponent and the rest, or nothing when a digit makes it too large (the
rest then starts after that digit). -/
def gatherExponent (acc : Nat) : List Char → Option Nat × List Char
  | c :: rest =>
    if c.isDigit then
      if passes exponentBound acc (digitOf c) then (none, rest)
      else gatherExponent (acc * 10 + digitOf c) rest
    else (some acc, c :: rest)
  | [] => (some acc, [])

/-- A decimal exponent held in a signed 32-bit word, saturating at its ends. -/
def saturate (e : Int) : Int := max (-(Nat.pow 2 31 : Int)) (min e exponentBound)

/-- A double and its sign as a number. -/
def signed (negative : Bool) (f : Float) : Number := .float (if negative then -f else f)

/-- The number `±significand · 10^exponent`, scaled the fast way; the
fault is placed before `rest`. -/
def scaled (negative : Bool) (significand : Nat) (exponent : Int) (rest : List Char) :
    Except Stop (Number × List Char) :=
  match scaleByTen significand exponent with
  | some f => .ok (signed negative f, rest)
  | none => stop .numberOutOfRange rest

/-- Reads an exponent after its mark and finishes the number. -/
def readExponent (negative : Bool) (significand : Nat) (start : Int) (cs : List Char) :
    Except Stop (Number × List Char) :=
  let (up, body) := match cs with
    | '+' :: rest => (true, rest)
    | '-' :: rest => (false, rest)
    | rest => (true, rest)
  match body with
  | [] => stop .eofInValue []
  | c :: rest =>
    if !c.isDigit then stop .invalidNumber rest
    else
      match gatherExponent (digitOf c) rest with
      | (some e, more) =>
        scaled negative significand (saturate (if up then start + e else start - e)) more
      | (none, more) =>
        if significand ≠ 0 && up then stop .numberOutOfRange more
        else .ok (signed negative 0, more.dropWhile Char.isDigit)

/-- Reads a fraction after its point and finishes the number. Digits that
no longer fit the significand are skipped. -/
def readFraction (negative : Bool) (significand : Nat) (start : Int) (cs : List Char) :
    Except Stop (Number × List Char) :=
  let (sig, count, rest) := gatherDigits significand 0 cs
  let overflowed := startsWithDigit rest
  if count = 0 && !overflowed then
    (if rest.isEmpty then stop .eofInValue rest else stop .invalidNumber rest)
  else
    let more := rest.dropWhile Char.isDigit
    let e := start - count
    match more with
    | m :: after => if m = 'e' ∨ m = 'E' then readExponent negative sig e after
                    else scaled negative sig e more
    | [] => scaled negative sig e more

/-- Reads a number; `cs` starts with a minus sign or a digit. An integer
that fits stays an integer; anything else is scaled from its significand
and exponent. -/
def readNumber (cs : List Char) : Except Stop (Number × List Char) := do
  let (negative, body) := match cs with
    | '-' :: rest => (true, rest)
    | _ => (false, cs)
  let (sig, extra, rest) ← match body with
    | '0' :: rest =>
      if startsWithDigit rest then throw ⟨.invalidNumber, rest.length⟩
      else .ok (0, 0, rest)
    | c :: _ =>
      if c.isDigit then
        let (sig, _, rest) := gatherDigits 0 0 body
        -- digits beyond a 64-bit significand only raise the exponent
        let extra := (rest.takeWhile Char.isDigit).length
        .ok (sig, extra, rest.drop extra)
      else throw ⟨.invalidNumber, body.length⟩
    | [] => throw ⟨.eofInValue, 0⟩
  match rest with
  | '.' :: more => readFraction negative sig extra more
  | m :: more =>
    if m = 'e' ∨ m = 'E' then readExponent negative sig extra more
    else whole negative sig extra rest
  | [] => whole negative sig extra rest
where
  /-- A number without fraction or exponent. -/
  whole (negative : Bool) (sig extra : Nat) (rest : List Char) : Except Stop (Number × List Char) :=
    if extra > 0 then scaled negative sig extra rest
    else if !negative then .ok (.int sig, rest)
    else if sig = 0 || sig > Nat.pow 2 63 then .ok (signed true (natFloat sig), rest)
    else .ok (.int (-(sig : Int)), rest)

/-- Reads the literal `word` (its first letter already seen) into `value`. -/
def readWord (word : List Char) (value : Tree) (cs : List Char) : Step Tree :=
  match word, cs with
  | [], rest => .ok (value, rest)
  | w :: ws, c :: rest => if w = c then readWord ws value rest else stop .expectedIdent (c :: rest)
  | _ :: _, [] => stop .eofInValue []

mutual

/-- Reads the body of a string after its opening quote. -/
def readString (fuel : Nat) (acc : List Char) (cs : List Char) : Step String :=
  match fuel with
  | 0 => stop .eofInString cs
  | fuel + 1 =>
    match cs with
    | [] => stop .eofInString []
    | '"' :: rest => .ok (String.ofList acc.reverse, rest)
    | '\\' :: rest =>
      match rest with
      | [] => stop .eofInString []
      | e :: more =>
        let simple : Option Char :=
          if e = '"' then some '"' else if e = '\\' then some '\\'
          else if e = '/' then some '/' else if e = 'b' then some (Char.ofNat 8)
          else if e = 'f' then some (Char.ofNat 12) else if e = 'n' then some '\n'
          else if e = 'r' then some '\r' else if e = 't' then some '\t' else none
        match simple with
        | some c => readString fuel (c :: acc) more
        | none =>
          if e = 'u' then
            match readUnicodeEscape more with
            | .ok (c, more') => readString fuel (c :: acc) more'
            | .error s => .error s
          else stop .invalidEscape (e :: more)
    | c :: rest =>
      if c.toNat < 32 then stop .controlCharacter (c :: rest)
      else readString fuel (c :: acc) rest

/-- Reads one value; `depth` counts the containers around it. -/
def readValue (fuel : Nat) (limit : Option Nat) (depth : Nat) (cs : List Char) : Step Tree :=
  match fuel with
  | 0 => stop .tooDeep cs
  | fuel + 1 =>
    match skipBlanks cs with
    | [] => stop .eofInValue []
    | c :: rest =>
      if c = 'n' then readWord ['u', 'l', 'l'] .null rest
      else if c = 't' then readWord ['r', 'u', 'e'] (.bool true) rest
      else if c = 'f' then readWord ['a', 'l', 's', 'e'] (.bool false) rest
      else if c = '"' then
        match readString (rest.length + 1) [] rest with
        | .ok (s, more) => .ok (.str s, more)
        | .error e => .error e
      else if c = '-' ∨ c.isDigit then
        match readNumber (c :: rest) with
        | .ok (n, more) => .ok (.num n, more)
        | .error e => .error e
      else if c = '[' ∨ c = '{' then
        if (limit.map fun l => decide (l ≤ depth + 1)).getD false then stop .tooDeep rest
        else if c = '[' then
          match skipBlanks rest with
          | [] => stop .eofInList []
          | ']' :: more => .ok (.arr [], more)
          | more =>
            match readItems fuel limit (depth + 1) [] more with
            | .ok (items, more') => .ok (.arr items, more')
            | .error e => .error e
        else
          match skipBlanks rest with
          | [] => stop .eofInObject []
          | '}' :: more => .ok (.obj [], more)
          | more =>
            match readMembers fuel limit (depth + 1) [] more with
            | .ok (fs, more') => .ok (.obj fs, more')
            | .error e => .error e
      else stop .expectedValue (c :: rest)

/-- Reads the items of an array from its first item on. -/
def readItems (fuel : Nat) (limit : Option Nat) (depth : Nat) (acc : List Tree)
    (cs : List Char) : Step (List Tree) :=
  match fuel with
  | 0 => stop .tooDeep cs
  | fuel + 1 =>
    match readValue fuel limit depth cs with
    | .error e => .error e
    | .ok (v, rest) =>
      match skipBlanks rest with
      | [] => stop .eofInList []
      | ']' :: more => .ok ((v :: acc).reverse, more)
      | ',' :: more =>
        match skipBlanks more with
        | [] => stop .eofInValue []
        | ']' :: more' => stop .trailingComma (']' :: more')
        | more' => readItems fuel limit depth (v :: acc) more'
      | other => stop .expectedListCommaOrEnd other

/-- Reads the members of an object from its first key on. -/
def readMembers (fuel : Nat) (limit : Option Nat) (depth : Nat) (acc : List (String × Tree))
    (cs : List Char) : Step (List (String × Tree)) :=
  match fuel with
  | 0 => stop .tooDeep cs
  | fuel + 1 =>
    match cs with
    | '"' :: rest =>
      match readString (rest.length + 1) [] rest with
      | .error e => .error e
      | .ok (key, afterKey) =>
        match skipBlanks afterKey with
        | [] => stop .eofInObject []
        | ':' :: afterColon =>
          match readValue fuel limit depth afterColon with
          | .error e => .error e
          | .ok (v, rest') =>
            let acc := (key, v) :: acc
            match skipBlanks rest' with
            | [] => stop .eofInObject []
            | '}' :: more => .ok (acc.reverse, more)
            | ',' :: more =>
              match skipBlanks more with
              | [] => stop .eofInValue []
              | '}' :: more' => stop .trailingComma ('}' :: more')
              | '"' :: more' => readMembers fuel limit depth acc ('"' :: more')
              | other => stop .keyMustBeString other
            | other => stop .expectedObjectCommaOrEnd other
        | other => stop .expectedColon other
    | [] => stop .eofInValue []
    | other => stop .keyMustBeString other

end

/-- Line and column (both from one) of the character `rest` characters
before the end of `cs`. -/
def position (cs : List Char) (rest : Nat) : Nat × Nat :=
  let consumed := cs.take (cs.length - rest)
  let line := 1 + consumed.count '\n'
  let column := (consumed.reverse.takeWhile (· ≠ '\n')).length + 1
  (line, column)

/-- Reads JSON text as written. Containers nested `limit` deep or deeper are
refused when a limit is given. -/
def readTree (limit : Option Nat) (text : String) : Except ReadError Tree :=
  let cs := text.toList
  let fail := fun (s : Stop) =>
    let (line, column) := position cs s.rest
    Except.error (ReadError.mk s.fault line column)
  match readValue (cs.length + 1) limit 0 cs with
  | .error s => fail s
  | .ok (v, rest) =>
    match skipBlanks rest with
    | [] => .ok v
    | more => fail ⟨.trailingCharacters, more.length⟩

/-- Reads JSON text as a document; a repeated key keeps its last value. -/
def read (limit : Option Nat) (text : String) : Except ReadError Value :=
  (readTree limit text).map Tree.toValue

end Json

end Flowline
