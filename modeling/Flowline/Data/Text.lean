set_option autoImplicit false

/-!
# Text helpers

Small text functions the library needs beyond the core string API:

* `Text.isSpace` is the Unicode `White_Space` property, so `Text.trim`
  removes the same blanks from identifiers whatever script they come from;
* `Text.durationText` writes a span of milliseconds the way timeouts are
  reported: `5ms`, `1.5s`, `2s`.
-/

namespace Flowline

namespace Text

/-- The Unicode `White_Space` characters. -/
def isSpace (c : Char) : Bool :=
  let n := c.toNat
  (9 ≤ n && n ≤ 13) || n == 32 || n == 0x85 || n == 0xA0 || n == 0x1680 ||
  (0x2000 ≤ n && n ≤ 0x200A) || n == 0x2028 || n == 0x2029 || n == 0x202F ||
  n == 0x205F || n == 0x3000

/-- A text without white space at either end. -/
def trim (s : String) : String :=
  String.ofList ((s.toList.dropWhile isSpace).reverse.dropWhile isSpace).reverse

/-- Whether a text is empty or only white space. -/
def isBlank (s : String) : Bool := s.toList.all isSpace

/-- Whether `needle` starts some suffix of `cs`. -/
def occursIn (needle : List Char) : List Char → Bool
  | [] => needle.isEmpty
  | c :: rest => needle.isPrefixOf (c :: rest) || occursIn needle rest

/-- Whether `needle` occurs in `s`. -/
def contains (s needle : String) : Bool := occursIn needle.toList s.toList

/-- The number of characters of a text. -/
def charCount (s : String) : Nat := s.length

/-- Reads an unsigned decimal with an optional plus sign, below `2^64`;
leading zeros are allowed. -/
def parseU64? (s : String) : Option Nat :=
  let digits := match s.toList with
    | '+' :: rest => rest
    | cs => cs
  if digits.isEmpty || !digits.all Char.isDigit then none
  else
    let n := digits.foldl (fun n c => 10 * n + (c.toNat - 48)) 0
    if n < Nat.pow 2 64 then some n else none

/-- A number read by `parseU64?` is a 64-bit count. -/
theorem parseU64?_lt {s : String} {n : Nat} (h : parseU64? s = some n) : n < Nat.pow 2 64 := by
  unfold parseU64? at h
  extract_lets digits at h
  split at h
  · cases h
  · split at h
    · rename_i hlt
      rw [← Option.some.inj h]
      exact hlt
    · cases h

/-- Digits of a fraction of a second without trailing zeros. -/
def fractionDigits (value width : Nat) : String :=
  let digits := (Nat.toDigits 10 value)
  let padded := List.replicate (width - digits.length) '0' ++ digits
  String.ofList (padded.reverse.dropWhile (· == '0')).reverse

/-- A span of milliseconds as timeouts are reported: below a second in `ms`,
otherwise in seconds with the fraction written only as far as needed. -/
def durationText (ms : Nat) : String :=
  if ms == 0 then "0ns"
  else if ms < 1000 then s!"{ms}ms"
  else
    let secs := ms / 1000
    let rest := ms % 1000
    if rest == 0 then s!"{secs}s" else s!"{secs}.{fractionDigits rest 3}s"

end Text

end Flowline
