import Flowline.Regex.CharSet
set_option autoImplicit false

/-!
# Patterns ready to compile

A `Hir` is a pattern reduced to what matching needs: literal text, sets of
characters, zero-width conditions, repetitions, capturing groups, sequences
and alternatives. Patterns are always built through the simplifying
constructors below, so two patterns that mean the same in the simple ways
listed here are the same tree, and the size of the compiled automaton
(`Flowline.Regex.Budget`) is read off the tree directly:

* `Hir.ofSet` leaves the surrogate code points out of a set, turns a set
  of exactly one character into that literal character, and keeps every
  other set (including the empty one, which matches nothing) as a set;
* `Hir.seq` drops empty parts, splices nested sequences, joins neighbouring
  literals into one, and gives the empty pattern or the single part when
  fewer than two are left;
* `Hir.alt` splices nested alternations; alternatives that are all single
  characters, or all sets, become one set; alternatives that are all
  sequences starting with the same parts have that start taken out in
  front (`ab.|ab-` is `ab(?:.|-)`, whose alternation is then a set);
* `Hir.rep` keeps a part that reads nothing from repeating more than once,
  and gives the empty pattern for `x{0}` and `x` itself for `x{1}`.

The properties used when compiling are the fewest and the most bytes a
match reads (`Hir.minBytes`, `Hir.maxBytes`; `none` for the most when there
is no bound, and for both when nothing matches), and whether every match
must start at the start of the text or end at its end (`Hir.startsAnchored`,
`Hir.endsAnchored`).
-/

namespace Flowline.Regex

/-- Word boundary conditions. -/
inductive WordLook where
  | boundary | notBoundary | start | finish | startHalf | endHalf
  deriving DecidableEq, Repr, Inhabited

/-- A zero-width condition on the text around a position. -/
inductive Look where
  | textStart
  | textEnd
  | lineStart (crlf : Bool)
  | lineEnd (crlf : Bool)
  /-- A word condition; `unicode` tells whether words are made of Unicode
  word characters rather than ASCII ones. -/
  | word (kind : WordLook) (unicode : Bool)
  deriving DecidableEq, Repr, Inhabited

/-- A pattern ready to be compiled. -/
inductive Hir where
  | empty
  /-- Characters in sequence, at least one. -/
  | literal (chars : List Char)
  /-- One character of a set; the set never has exactly one character. -/
  | chars (set : CharSet)
  | look (condition : Look)
  | repetition (least : Nat) (most : Option Nat) (inner : Hir)
  | capture (inner : Hir)
  /-- Parts in sequence, at least two. -/
  | concat (items : List Hir)
  /-- Alternatives, at least two. -/
  | alternation (branches : List Hir)
  deriving Inhabited, Repr, BEq

namespace Hir

/-- The number of UTF-8 bytes of a code point. -/
def utf8Width (c : Nat) : Nat :=
  if c < 0x80 then 1 else if c < 0x800 then 2 else if c < 0x10000 then 3 else 4

/-- The bytes of a text in UTF-8. -/
def utf8Length (cs : List Char) : Nat := cs.foldl (fun n c => n + utf8Width c.toNat) 0

/-- The surrogate code points, which are not characters. -/
def surrogates : CharSet := ⟨[(0xD800, 0xDFFF)]⟩

/-- A set of code points as a pattern, its surrogates left out: a literal
when it has exactly one character. -/
def ofSet (s : CharSet) : Hir :=
  let s := s.diff surrogates
  match s.ranges with
  | [(a, b)] => if a = b then .literal [Char.ofNat a] else .chars s
  | _ => .chars s

/-- The pattern that matches nothing. -/
def never : Hir := .chars CharSet.empty

/-- Joins neighbouring literals of a list of parts. -/
def joinLiterals : List Hir → List Hir
  | .literal a :: .literal b :: rest => joinLiterals (.literal (a ++ b) :: rest)
  | h :: rest => h :: joinLiterals rest
  | [] => []
termination_by hs => hs.length

/-- The parts a part contributes to a sequence: none for the empty pattern,
the parts of a nested sequence, or itself. -/
def seqParts : Hir → List Hir
  | .empty => []
  | .concat items => items
  | h => [h]

/-- A sequence of parts, simplified. -/
def seq (items : List Hir) : Hir :=
  match joinLiterals (items.flatMap seqParts) with
  | [] => .empty
  | [h] => h
  | hs => .concat hs

/-- The alternatives a part contributes to an alternation. -/
def altParts : Hir → List Hir
  | .alternation branches => branches
  | h => [h]

/-- The character of a literal of exactly one character. -/
def singleChar? : Hir → Option Char
  | .literal [c] => some c
  | _ => none

/-- The set of a part that is a set. -/
def set? : Hir → Option CharSet
  | .chars s => some s
  | _ => none

/-- Alternatives, spliced, with single characters or sets joined into one
set. -/
def altSimple (branches : List Hir) : Hir :=
  match branches.flatMap altParts with
  | [] => never
  | [h] => h
  | hs =>
    match hs.mapM singleChar? with
    | some cs => ofSet (CharSet.ofRanges (cs.map fun c => (c.toNat, c.toNat)))
    | none =>
      match hs.mapM set? with
      | some sets => ofSet (sets.foldl CharSet.union CharSet.empty)
      | none => .alternation hs

/-- The parts of a sequence. -/
def concatItems? : Hir → Option (List Hir)
  | .concat items => some items
  | _ => none

/-- The longest common start of two lists of parts. -/
def commonStart : List Hir → List Hir → List Hir
  | a :: as, b :: bs => if a == b then a :: commonStart as bs else []
  | _, _ => []

/-- Alternatives, simplified: spliced, joined into a set when they are
single characters or sets, and otherwise, when all are sequences with a
common start, that start taken out in front of the alternation of what
follows it. -/
def alt (branches : List Hir) : Hir :=
  match altSimple branches with
  | .alternation hs =>
    match hs.mapM concatItems? with
    | some (first :: others) =>
      let start := others.foldl commonStart first
      if start.isEmpty then .alternation hs
      else
        let n := start.length
        seq (start ++ [altSimple ((first :: others).map fun items => seq (items.drop n))])
    | _ => .alternation hs
  | h => h

/-- The most bytes a match reads: `none` when there is no bound or no
match at all. -/
def maxBytes : Hir → Option Nat
  | .empty => some 0
  | .literal cs => some (utf8Length cs)
  | .chars s => s.ranges.getLast?.map fun (_, b) => utf8Width b
  | .look _ => some 0
  | .repetition _ most inner => do
    let m ← most
    let k ← maxBytes inner
    pure (k * m)
  | .capture inner => maxBytes inner
  | .concat items => maxBytesSum items
  | .alternation branches => maxBytesMost branches
where
  /-- The most bytes of parts in sequence. -/
  maxBytesSum : List Hir → Option Nat
    | [] => some 0
    | h :: rest => do
      let a ← maxBytes h
      let b ← maxBytesSum rest
      pure (a + b)
  /-- The most bytes of alternatives. -/
  maxBytesMost : List Hir → Option Nat
    | [] => none
    | [h] => maxBytes h
    | h :: rest => do
      let a ← maxBytes h
      let b ← maxBytesMost rest
      pure (max a b)

/-- The fewest bytes a match reads, or `none` when nothing matches. -/
def minBytes : Hir → Option Nat
  | .empty => some 0
  | .literal cs => some (utf8Length cs)
  | .chars s => s.ranges.head?.map fun (a, _) => utf8Width a
  | .look _ => some 0
  | .repetition least _ inner => (minBytes inner).map (· * least)
  | .capture inner => minBytes inner
  | .concat items => minBytesSum items
  | .alternation branches => minBytesLeast branches
where
  /-- The fewest bytes of parts in sequence. -/
  minBytesSum : List Hir → Option Nat
    | [] => some 0
    | h :: rest => do
      let a ← minBytes h
      let b ← minBytesSum rest
      pure (a + b)
  /-- The fewest bytes of alternatives. -/
  minBytesLeast : List Hir → Option Nat
    | [] => none
    | [h] => minBytes h
    | h :: rest => do
      let a ← minBytes h
      let b ← minBytesLeast rest
      pure (min a b)

/-- Whether a part never reads anything. -/
def readsNothing (h : Hir) : Bool := h.maxBytes == some 0

/-- A repetition, simplified. -/
def rep (least : Nat) (most : Option Nat) (inner : Hir) : Hir :=
  let (least, most) :=
    if inner.readsNothing then (min least 1, some ((most.map (min · 1)).getD 1))
    else (least, most)
  if least = 0 && most == some 0 then .empty
  else if least = 1 && most == some 1 then inner
  else .repetition least most inner

/-- Whether every match starts where the condition `l` holds, the first
thing it checks before reading anything. -/
def startsWith (l : Look) : Hir → Bool
  | .look l' => l' == l
  | .repetition least _ inner => 0 < least && startsWith l inner
  | .capture inner => startsWith l inner
  | .concat items => startsWithSeq l items
  | .alternation branches => startsWithAll l branches
  | _ => false
where
  /-- Whether a sequence checks `l` among the parts up to the first one
  that may read something. -/
  startsWithSeq (l : Look) : List Hir → Bool
    | [] => false
    | h :: rest => startsWith l h || (h.readsNothing && startsWithSeq l rest)
  /-- Whether every alternative starts with `l`. -/
  startsWithAll (l : Look) : List Hir → Bool
    | [] => false
    | [h] => startsWith l h
    | h :: rest => startsWith l h && startsWithAll l rest

/-- Whether every match ends where the condition `l` holds, the last thing
it checks after reading everything. -/
def endsWith (l : Look) : Hir → Bool
  | .look l' => l' == l
  | .repetition least _ inner => 0 < least && endsWith l inner
  | .capture inner => endsWith l inner
  | .concat items => endsWithSeq l items
  | .alternation branches => endsWithAll l branches
  | _ => false
where
  /-- Whether a sequence checks `l` in one of its parts after which every
  part reads nothing. -/
  endsWithSeq (l : Look) : List Hir → Bool
    | [] => false
    | h :: rest => endsWithSeq l rest || (rest.all readsNothing && endsWith l h)
  /-- Whether every alternative ends with `l`. -/
  endsWithAll (l : Look) : List Hir → Bool
    | [] => false
    | [h] => endsWith l h
    | h :: rest => endsWith l h && endsWithAll l rest

/-- Whether every match starts at the start of the text. -/
def startsAnchored (h : Hir) : Bool := h.startsWith .textStart

/-- Whether every match ends at the end of the text. -/
def endsAnchored (h : Hir) : Bool := h.endsWith .textEnd

/-- Whether a pattern checks a Unicode word condition somewhere. -/
def hasUnicodeWord : Hir → Bool
  | .look (.word _ unicode) => unicode
  | .repetition _ _ inner => hasUnicodeWord inner
  | .capture inner => hasUnicodeWord inner
  | .concat items => anyUnicodeWord items
  | .alternation branches => anyUnicodeWord branches
  | _ => false
where
  /-- Whether one of the parts checks a Unicode word condition. -/
  anyUnicodeWord : List Hir → Bool
    | [] => false
    | h :: rest => hasUnicodeWord h || anyUnicodeWord rest

end Hir

end Flowline.Regex
