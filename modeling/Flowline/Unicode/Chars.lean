import Flowline.Unicode.Tables
set_option autoImplicit false

/-!
# Character properties, lower case and quoting

Functions over the tables of `Flowline.Unicode.Tables`:

* `isAlphabetic` and `isAlphanumeric` decide which characters the name of
  a capture group in a pattern may hold;
* `inRanges` finds a code point in a sorted array of inclusive ranges by
  halving the search window, so a lookup takes about `log₂` of the table
  size steps;
* `lower` is the full lower case of a text: every letter is mapped on its
  own, except that a capital sigma becomes the final form `ς` when it ends
  a word (a cased letter before it, none after it, skipping case-ignorable
  characters on both sides), and `σ` otherwise;
* `quote` writes a text in double quotes the way messages show it: the
  quote, the backslash and the controls `\0 \t \r \n` get a backslash,
  combining marks and characters that do not print become `\u{hex}`, and
  everything else stands as it is.
-/

namespace Flowline

namespace Unicode

/-- Whether `n` lies in one of the sorted, disjoint inclusive ranges of
`table` between positions `lo` (included) and `hi` (excluded). -/
def inRangesBetween (table : Array (Nat × Nat)) (n lo hi : Nat) : Bool :=
  if lo < hi then
    let mid := (lo + hi) / 2
    let (first, last) := table.getD mid (0, 0)
    if n < first then inRangesBetween table n lo mid
    else if last < n then inRangesBetween table n (mid + 1) hi
    else true
  else false
termination_by hi - lo

/-- Whether `n` lies in one of the sorted, disjoint inclusive ranges of `table`. -/
def inRanges (table : Array (Nat × Nat)) (n : Nat) : Bool := inRangesBetween table n 0 table.size

/-- Whether a character is a mark that extends the grapheme before it
(`Grapheme_Extend`, letters left out). -/
def isGraphemeExtend (c : Char) : Bool := inRanges graphemeExtend c.toNat

/-- Whether a character has case (`Cased`). -/
def isCased (c : Char) : Bool := inRanges cased c.toNat

/-- Whether a character is ignored when looking for case (`Case_Ignorable`). -/
def isCaseIgnorable (c : Char) : Bool := inRanges caseIgnorable c.toNat

/-- Whether a character prints: not a separator other than the space, not a
control, format character, surrogate, private-use or unassigned code point,
and not a Hangul filler. -/
def isPrintable (c : Char) : Bool := !inRanges unprintable c.toNat

/-- Whether a character is alphabetic (`Alphabetic`). -/
def isAlphabetic (c : Char) : Bool := inRanges alphabetic c.toNat

/-- Whether a character is alphabetic or a number. -/
def isAlphanumeric (c : Char) : Bool := isAlphabetic c || inRanges numeric c.toNat

/-- The last code point a run covers. -/
def LowerRun.last (r : LowerRun) : Nat := r.first + (r.count - 1) * r.stride

/-- The run of `runs` (sorted, with disjoint spans) whose span holds `n`,
between positions `lo` (included) and `hi` (excluded). -/
def runBetween (runs : Array LowerRun) (n lo hi : Nat) : Option LowerRun :=
  if lo < hi then
    let mid := (lo + hi) / 2
    let r := runs.getD mid default
    if n < r.first then runBetween runs n lo mid
    else if r.last < n then runBetween runs n (mid + 1) hi
    else some r
  else none
termination_by hi - lo

/-- The lower case of one character as a single character: its image under
the run that covers it, or itself. -/
def lowerSimple (c : Char) : Char :=
  let n := c.toNat
  match runBetween lowerRuns n 0 lowerRuns.size with
  | some r =>
    if (n - r.first) % r.stride = 0 then Char.ofNat (r.target + (n - r.first)) else c
  | none => c

/-- The lower case of one character, out of context: `İ` becomes `i`
followed by a combining dot above; every other letter becomes one letter. -/
def lowerChar (c : Char) : List Char :=
  if c.toNat = 0x130 then ['i', Char.ofNat 0x307] else [lowerSimple c]

/-- Whether, after skipping case-ignorable characters, the next character is
cased. -/
def casedAfterIgnorable : List Char → Bool
  | [] => false
  | c :: rest => if isCaseIgnorable c then casedAfterIgnorable rest else isCased c

/-- The lower case of a capital sigma with `before` (nearest first) and
`after` around it: final at the end of a word. -/
def lowerSigma (before after : List Char) : Char :=
  if casedAfterIgnorable before && !casedAfterIgnorable after then Char.ofNat 0x3C2
  else Char.ofNat 0x3C3

/-- Lower-cases `cs`, with `before` the characters already passed, nearest
first. -/
def lowerFrom (before : List Char) : List Char → List Char
  | [] => []
  | c :: rest =>
    let here := if c.toNat = 0x3A3 then [lowerSigma before rest] else lowerChar c
    here ++ lowerFrom (c :: before) rest

/-- The full lower case of a text. -/
def lower (s : String) : String := String.ofList (lowerFrom [] s.toList)

/-- Lower-case hexadecimal digits of a number, without leading zeros. -/
def hexDigits (n : Nat) : String := String.ofList (Nat.toDigits 16 n)

/-- How one character is written inside quotes. -/
def escapeChar (c : Char) : String :=
  if c.toNat = 0 then "\\0"
  else if c = '\t' then "\\t"
  else if c = '\r' then "\\r"
  else if c = '\n' then "\\n"
  else if c = '\\' then "\\\\"
  else if c = '"' then "\\\""
  else if isGraphemeExtend c || !isPrintable c then "\\u\x7b" ++ hexDigits c.toNat ++ "\x7d"
  else String.singleton c

/-- A text in double quotes, escaped for messages. -/
def quote (s : String) : String := "\"" ++ String.join (s.toList.map escapeChar) ++ "\""

end Unicode

end Flowline
