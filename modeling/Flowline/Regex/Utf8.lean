set_option autoImplicit false

/-!
# Ranges of code points as UTF-8 byte ranges

An automaton over bytes reads a character as its UTF-8 bytes, so a range of
code points becomes a list of byte sequences: each sequence is a list of
byte ranges, one per byte, and the characters of the range are exactly the
texts one of the sequences reads.

`Utf8.sequences` splits a range the way the UTF-8 structure demands, always
taking the lower part first so the sequences come out in increasing order:

* around the surrogates `U+D800`–`U+DFFF`, which are not characters;
* where the encoded length changes (after `U+007F`, `U+07FF`, `U+FFFF`);
* then, for each continuation byte from the last one up, where the range
  does not cover whole blocks of that byte: a range that starts inside a
  block of 64, 4096 or 262144 code points is cut at the end of that block,
  one that ends inside a block is cut at its start.

What remains has the same encoded length at both ends and covers whole
blocks below its first differing byte, so the byte ranges between the
encodings of its two ends are exactly its characters.
-/

namespace Flowline.Regex

namespace Utf8

/-- The largest code point encoded in `n` bytes. -/
def maxScalar (n : Nat) : Nat :=
  if n = 1 then 0x7F else if n = 2 then 0x7FF else if n = 3 then 0xFFFF else 0x10FFFF

/-- The UTF-8 bytes of a code point. -/
def encode (c : Nat) : List Nat :=
  if c < 0x80 then [c]
  else if c < 0x800 then [0xC0 + c / 64, 0x80 + c % 64]
  else if c < 0x10000 then [0xE0 + c / 4096, 0x80 + c / 64 % 64, 0x80 + c % 64]
  else [0xF0 + c / 262144, 0x80 + c / 4096 % 64, 0x80 + c / 64 % 64, 0x80 + c % 64]

/-- The first encoded length (1 to 3) whose largest code point falls strictly
inside a range. -/
def lengthBreak (lo hi : Nat) : Option Nat :=
  [1, 2, 3].find? fun n => lo ≤ maxScalar n && maxScalar n < hi

/-- The first cut a range needs so that it covers whole blocks below its
first differing byte: for blocks of `2^(6k)` code points, `k` from 1 to 3,
where the two ends lie in different blocks, a start inside a block cuts at
that block's end, and an end inside a block cuts at that block's start.
Gives the lower and upper parts. -/
def blockCut (lo hi : Nat) : Option ((Nat × Nat) × (Nat × Nat)) :=
  let rec go : List Nat → Option ((Nat × Nat) × (Nat × Nat))
    | [] => none
    | k :: rest =>
      let size := Nat.pow 2 (6 * k)
      if lo / size ≠ hi / size then
        if lo % size ≠ 0 then
          let cut := (lo / size + 1) * size
          some ((lo, cut - 1), (cut, hi))
        else if hi % size ≠ size - 1 then
          let cut := hi / size * size
          some ((lo, cut - 1), (cut, hi))
        else go rest
      else go rest
  go [1, 2, 3]

/-- Splits the ranges of `pending`, first one first, appending the byte
sequences found to `found` (latest first); `fuel` bounds the steps. -/
def split : Nat → List (Nat × Nat) → List (List (Nat × Nat)) → List (List (Nat × Nat))
  | 0, _, found => found.reverse
  | _, [], found => found.reverse
  | fuel + 1, (lo, hi) :: pending, found =>
    if lo < 0xE000 && 0xD7FF < hi then
      split fuel ((lo, 0xD7FF) :: (0xE000, hi) :: pending) found
    else if hi < lo then split fuel pending found
    else match lengthBreak lo hi with
      | some n => split fuel ((lo, maxScalar n) :: (maxScalar n + 1, hi) :: pending) found
      | none =>
        if hi ≤ 0x7F then split fuel pending ([(lo, hi)] :: found)
        else match blockCut lo hi with
          | some (lower, upper) => split fuel (lower :: upper :: pending) found
          | none => split fuel pending ((List.zip (encode lo) (encode hi)) :: found)

/-- The byte sequences of the code points from `lo` to `hi`, in increasing
order. -/
def sequences (lo hi : Nat) : List (List (Nat × Nat)) := split 256 [(lo, hi)] []

end Utf8

end Flowline.Regex
