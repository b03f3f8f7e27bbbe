import Flowline.Regex.Hir
import Flowline.Regex.Utf8
set_option autoImplicit false

/-!
# How large a pattern may grow

A pattern is compiled into an automaton over bytes twice: once forwards, for
finding where matches end, and once backwards (reading the pattern from its
end, without capturing groups), for finding where they start. A pattern is
refused when either automaton would take more than `limit` bytes (10 MiB)
while it is built.

This module counts those bytes by building the automata's states in the
order they are created, numbering them, without keeping the states
themselves. Every state takes `stateBytes`; a branching state also takes
`alternateBytes` for each way out, and a state reading one of several byte
ranges `transitionBytes` per range. What each part adds:

* a literal character: a state per UTF-8 byte;
* a set of ASCII characters (or no character at all): an empty state to
  join at, then one state with a range per range of the set;
* a larger set, forwards: an empty state to join at, then the UTF-8 byte
  sequences of the set (`Utf8.sequences`) as a tree of states with the
  shared tails of the tree built once (`SetTree`); backwards: a branching
  state, an empty state to join at, and for every sequence a state per byte
  range, read from the first byte back, where a state already built for the
  same range in front of the same state is taken again (`BackChain`);
* an assertion or the empty pattern: one state; a capturing group: two
  around its inside (forwards only);
* a sequence: its parts, each joined to the next; an alternation of `k`
  branches: the branches, then a state branching `k` ways and an empty
  state they join at;
* `x?`: a branch, `x` and an empty state; `x*`: a branch looping over `x`,
  or, when `x` may read nothing, `x`, a loop branch, a skip branch and an
  empty state; `x+`: `x` and a loop branch; `x{n,}`: `n - 1` copies, `x`
  and a loop branch; `x{n}`: `n` copies; `x{n,m}`: `n` copies (an empty
  state when `n = 0`), an empty state, and `m - n` copies each behind a
  branch.

Joining a part to what follows it adds a way out when the part ends in a
branching state (as `x+` does). Around the whole pattern come a loop of
three states that lets a match start anywhere (one empty state when every
match starts at the start of the text, backwards: ends at its end), the
capturing group of the whole match (forwards), and the final state.

The two caches of shared states are the fixed-size tables of the builder:
a state is found again only if no other state took its slot since, where
the slot is the FNV-1a hash of what the state reads and where it goes, so
the counts here follow those tables slot for slot. Counting stops as soon
as the limit is passed.
-/

namespace Flowline.Regex

namespace Budget

/-- The most bytes a compiled pattern may take. -/
def limit : Nat := 10485760

/-- The bytes of one state. -/
def stateBytes : Nat := 32

/-- The bytes of one way out of a branching state. -/
def alternateBytes : Nat := 4

/-- The bytes of one byte range of a state reading several. -/
def transitionBytes : Nat := 8

/-- The slots of the table of shared tree states. -/
def treeSlots : Nat := 10000

/-- The slots of the table of shared backward states. -/
def chainSlots : Nat := 1000

/-- The FNV-1a offset basis. -/
def fnvOffset : UInt64 := 14695981039346656037

/-- The FNV-1a prime. -/
def fnvPrime : UInt64 := 1099511628211

/-- One FNV-1a step over a 64-bit value. -/
def fnvStep (h : UInt64) (x : Nat) : UInt64 := (h ^^^ x.toUInt64) * fnvPrime

/-- A byte range and the state it leads to. -/
structure Transition where
  lo : Nat
  hi : Nat
  next : Nat
  deriving BEq, Inhabited, Repr

/-- The slot of a tree state reading `ts`. -/
def treeSlot (ts : List Transition) : Nat :=
  (ts.foldl (fun h t => fnvStep (fnvStep (fnvStep h t.lo) t.hi) t.next) fnvOffset).toNat % treeSlots

/-- The slot of a backward state reading `lo..hi` in front of `next`. -/
def chainSlot (next lo hi : Nat) : Nat :=
  (fnvStep (fnvStep (fnvStep fnvOffset next) lo) hi).toNat % chainSlots

/-- The automaton built so far, as far as its size goes: how many states
it has and the bytes it takes beyond them. -/
structure Build where
  states : Nat
  extra : Nat
  deriving Inhabited, Repr

namespace Build

/-- The bytes taken. -/
def bytes (b : Build) : Nat := b.states * stateBytes + b.extra

/-- Whether the limit is passed. -/
def passed (b : Build) : Bool := limit < b.bytes

/-- Adds a state taking `extra` bytes beyond its own; gives its number. -/
def add (b : Build) (extra : Nat) : Nat × Build := (b.states, ⟨b.states + 1, b.extra + extra⟩)

/-- Adds a way out of a branching state. -/
def branch (b : Build) : Build := { b with extra := b.extra + alternateBytes }

/-- Adds a way out when `branching` is set. -/
def branchIf (b : Build) (branching : Bool) : Build := if branching then b.branch else b

end Build

/-- A compiled part: the state it starts at, the state it ends at, and
whether that last state branches (so that joining it to what follows adds a
way out). -/
structure Part where
  start : Nat
  stop : Nat
  branching : Bool
  deriving Inhabited, Repr

/-- Which automaton is built. -/
inductive Direction where
  | forward | backward
  deriving DecidableEq, Repr, Inhabited

/-- A node of the tree of byte sequences still being built: the ranges it
reads so far and the range of its last, still open branch. -/
structure TreeNode where
  trans : List Transition
  last : Option (Nat × Nat)
  deriving Inhabited

/-- A node with its open branch closed to lead to `next`. -/
def TreeNode.close (n : TreeNode) (next : Nat) : TreeNode :=
  match n.last with
  | some (lo, hi) => ⟨n.trans ++ [⟨lo, hi, next⟩], none⟩
  | none => n

/-- The tree of a set's byte sequences being built: the open path from the
root (root first), the table of finished states by slot (latest first), and
the empty state every sequence ends at. -/
structure SetTree where
  path : Array TreeNode
  table : List (Nat × List Transition × Nat)
  target : Nat
  deriving Inhabited

namespace SetTree

/-- Finishes a node reading `ts`: the state already built for it when its
slot still holds it, or a new state that takes the slot. -/
def finish (ts : List Transition) (t : SetTree) (b : Build) : Nat × SetTree × Build :=
  let slot := treeSlot ts
  let found := match t.table.find? (·.1 == slot) with
    | some (_, key, id) => if key == ts then some id else none
    | none => none
  match found with
  | some id => (id, t, b)
  | none =>
    let (id, b) := b.add (transitionBytes * ts.length)
    (id, { t with table := (slot, ts, id) :: t.table }, b)

/-- Closes the open branch of the deepest node of the path to `next`. -/
def closeDeepest (next : Nat) (t : SetTree) : SetTree :=
  { t with path := t.path.modify (t.path.size - 1) (·.close next) }

/-- Finishes the nodes of the open path below position `keep`, deepest
first, each leading to the one finished before it (the deepest to the
target), then closes the open branch of the node at `keep` to the last one
finished. -/
def finishBelow (keep : Nat) : Nat → Nat → SetTree → Build → SetTree × Build
  | 0, next, t, b => (closeDeepest next t, b)
  | fuel + 1, next, t, b =>
    if keep + 1 < t.path.size then
      let node := (t.path.back?.getD default).close next
      let (id, t, b) := finish node.trans { t with path := t.path.pop } b
      finishBelow keep fuel id t b
    else (closeDeepest next t, b)

/-- How many leading ranges of a sequence the open path already reads. -/
def sharedStart (t : SetTree) (ranges : List (Nat × Nat)) : Nat :=
  ((ranges.zip t.path.toList).takeWhile fun (r, n) => n.last == some r).length

/-- Adds a byte sequence: finishes the part of the open path it does not
share, then opens a branch for each of its remaining ranges. -/
def addSequence (t : SetTree) (b : Build) (ranges : List (Nat × Nat)) : SetTree × Build :=
  let keep := t.sharedStart ranges
  let (t, b) := finishBelow keep t.path.size t.target t b
  match ranges.drop keep with
  | [] => (t, b)
  | r :: rest =>
    let path := t.path.modify (t.path.size - 1) fun n => { n with last := some r }
    ({ t with path := path ++ (rest.map fun r => (⟨[], some r⟩ : TreeNode)).toArray }, b)

/-- Finishes the whole tree; gives the root's state. -/
def finishAll (t : SetTree) (b : Build) : Nat × Build :=
  let (t, b) := finishBelow 0 t.path.size t.target t b
  let (root, t, b) := finish (t.path[0]?.getD default).trans t b
  let _ := t
  (root, b)

end SetTree

/-- The UTF-8 byte sequences of a set, range by range. -/
def setSequences (s : CharSet) : List (List (Nat × Nat)) :=
  s.ranges.flatMap fun (lo, hi) => Utf8.sequences lo hi

/-- Compiles a set beyond ASCII forwards: the join state, then the tree of
its byte sequences. -/
def forwardSet (s : CharSet) (b : Build) : Part × Build :=
  let (target, b) := b.add 0
  let t : SetTree := ⟨#[⟨[], none⟩], [], target⟩
  let (t, b) := (setSequences s).foldl (fun (t, b) seq => t.addSequence b seq) (t, b)
  let (root, b) := t.finishAll b
  (⟨root, target, false⟩, b)

/-- The backward states built for a set so far, by slot (latest first):
the state they lead to, the byte range, and the state. -/
abbrev BackChain := List (Nat × (Nat × Nat × Nat) × Nat)

/-- Adds the backward states of one byte sequence in front of `next`, first
byte first, taking again a state whose slot still holds it. -/
def chainSequence (table : BackChain) (next : Nat) (b : Build) :
    List (Nat × Nat) → Nat × BackChain × Build
  | [] => (next, table, b)
  | (lo, hi) :: rest =>
    let slot := chainSlot next lo hi
    let found := match table.find? (·.1 == slot) with
      | some (_, key, id) => if key == (next, lo, hi) then some id else none
      | none => none
    match found with
    | some id => chainSequence table id b rest
    | none =>
      let (id, b) := b.add 0
      chainSequence ((slot, (next, lo, hi), id) :: table) id b rest

/-- Compiles a set beyond ASCII backwards: a branch with a way to each byte
sequence and the empty state they all join at. -/
def backwardSet (s : CharSet) (b : Build) : Part × Build :=
  let (union, b) := b.add 0
  let (join, b) := b.add 0
  let (_, b) := (setSequences s).foldl (fun (table, b) seq =>
    let (_, table, b) := chainSequence table join b seq
    (table, b.branch)) (([] : BackChain), b)
  (⟨union, join, false⟩, b)

/-- Compiles a set of characters: ASCII sets (and the empty set) as one
state reading its ranges, larger sets by direction. -/
def setPart (d : Direction) (s : CharSet) (b : Build) : Part × Build :=
  if s.isAscii then
    let (stop, b) := b.add 0
    let (start, b) := b.add (transitionBytes * s.ranges.length)
    (⟨start, stop, false⟩, b)
  else match d with
    | .forward => forwardSet s b
    | .backward => backwardSet s b

/-- A part of one empty state (or assertion). -/
def single (b : Build) : Part × Build :=
  let (id, b) := b.add 0
  (⟨id, id, false⟩, b)

/-- Compiles parts in sequence with `step` run `n` times, each part joined
to the next, after `acc`; stops once over the limit. -/
def chain (step : Build → Part × Build) : Nat → Option Part → Build → Option Part × Build
  | 0, acc, b => (acc, b)
  | k + 1, acc, b =>
    if b.passed then (acc, b)
    else
      let (q, b) := step b
      match acc with
      | none => chain step k (some q) b
      | some p => chain step k (some ⟨p.start, q.stop, q.branching⟩) (b.branchIf p.branching)

/-- Exactly `n` copies of a part in sequence; an empty state when `n = 0`. -/
def exactly (step : Build → Part × Build) (n : Nat) (b : Build) : Part × Build :=
  match chain step n none b with
  | (some p, b) => (p, b)
  | (none, b) => single b

/-- `n` optional copies of a part after `prev`, each behind a branch that
may skip to `skip`; gives the last copy. -/
def optionalCopies (step : Build → Part × Build) : Nat → Part → Build → Part × Build
  | 0, prev, b => (prev, b)
  | k + 1, prev, b =>
    if b.passed then (prev, b)
    else
      let (_, b) := b.add 0
      let (q, b) := step b
      optionalCopies step k q ((b.branchIf prev.branching).branch.branch)

/-- Whether every match of a part reads something. -/
def readsSomething (h : Hir) : Bool := (h.minBytes.map fun n => decide (0 < n)).getD false

/-- Compiles a repetition of a part compiled by `step`. -/
def repetitionPart (step : Build → Part × Build) (inner : Hir) (least : Nat)
    (most : Option Nat) (b : Build) : Part × Build :=
  match least, most with
  | 0, some 1 =>
    let (union, b) := b.add 0
    let (p, b) := step b
    let (empty, b) := b.add 0
    (⟨union, empty, false⟩, (b.branch.branch).branchIf p.branching)
  | n, none =>
    if n = 0 then
      if readsSomething inner then
        let (union, b) := b.add 0
        let (p, b) := step b
        (⟨union, union, true⟩, b.branch.branchIf p.branching)
      else
        let (p, b) := step b
        let (_, b) := b.add 0
        let b := (b.branchIf p.branching).branch
        let (question, b) := b.add 0
        let (empty, b) := b.add 0
        (⟨question, empty, false⟩, b.branch.branch.branch)
    else if n = 1 then
      let (p, b) := step b
      let (union, b) := b.add 0
      (⟨p.start, union, true⟩, (b.branchIf p.branching).branch)
    else
      let (first, b) := exactly step (n - 1) b
      let (last, b) := step b
      let (union, b) := b.add 0
      (⟨first.start, union, true⟩, ((b.branchIf first.branching).branchIf last.branching).branch)
  | n, some m =>
    if n = m then exactly step n b
    else
      let (first, b) := exactly step n b
      let (skip, b) := b.add 0
      let (last, b) := optionalCopies step (m - n) first b
      (⟨first.start, skip, false⟩, b.branchIf last.branching)

mutual

/-- Compiles a part in the given direction. -/
def compilePart (d : Direction) : Hir → Build → Part × Build
  | .empty, b => single b
  | .literal cs, b =>
    let n := Hir.utf8Length cs
    (⟨b.states, b.states + n - 1, false⟩, { b with states := b.states + n })
  | .chars s, b => setPart d s b
  | .look _, b => single b
  | .capture inner, b =>
    match d with
    | .backward => compilePart d inner b
    | .forward =>
      let (start, b) := b.add 0
      let (p, b) := compilePart d inner b
      let (stop, b) := b.add 0
      (⟨start, stop, false⟩, b.branchIf p.branching)
  | .concat items, b =>
    let (p, b) := match d with
      | .forward => compileForward d none items b
      | .backward => compileBackward d items b
    match p with
    | some p => (p, b)
    | none => single b
  | .alternation branches, b => compileAlternatives d branches b
  | .repetition least most inner, b =>
    repetitionPart (compilePart d inner) inner least most b

/-- Compiles parts in sequence from the first, after `acc`. -/
def compileForward (d : Direction) (acc : Option Part) : List Hir → Build → Option Part × Build
  | [], b => (acc, b)
  | h :: rest, b =>
    if b.passed then (acc, b)
    else
      let (q, b) := compilePart d h b
      match acc with
      | none => compileForward d (some q) rest b
      | some p => compileForward d (some ⟨p.start, q.stop, q.branching⟩) rest (b.branchIf p.branching)

/-- Compiles parts in sequence from the last. -/
def compileBackward (d : Direction) : List Hir → Build → Option Part × Build
  | [], b => (none, b)
  | h :: rest, b =>
    let (p, b) := compileBackward d rest b
    if b.passed then (p, b)
    else
      let (q, b) := compilePart d h b
      match p with
      | none => (some q, b)
      | some p => (some ⟨p.start, q.stop, q.branching⟩, b.branchIf p.branching)

/-- Compiles alternatives: the first two, then the branch and the join
state, then the others. -/
def compileAlternatives (d : Direction) : List Hir → Build → Part × Build
  | [], b => single b
  | [h], b => compilePart d h b
  | h1 :: h2 :: rest, b =>
    let (p1, b) := compilePart d h1 b
    let (p2, b) := compilePart d h2 b
    let (union, b) := b.add 0
    let (join, b) := b.add 0
    let b := ((b.branch.branchIf p1.branching).branch).branchIf p2.branching
    (⟨union, join, false⟩, compileOtherAlternatives d rest b)

/-- Compiles further alternatives, each a new way out of the branch. -/
def compileOtherAlternatives (d : Direction) : List Hir → Build → Build
  | [], b => b
  | h :: rest, b =>
    if b.passed then b
    else
      let (p, b) := compilePart d h b
      compileOtherAlternatives d rest (b.branch.branchIf p.branching)

end

/-- Whether building the automaton of a pattern in the given direction
passes the limit. -/
def exceeds (d : Direction) (h : Hir) : Bool :=
  let b : Build := ⟨0, 0⟩
  let anchored := match d with
    | .forward => h.startsAnchored
    | .backward => h.endsAnchored
  let (lead, b) :=
    if anchored then single b
    else
      let (union, b) := b.add 0
      let (_, b) := b.add 0
      let (_, b) := b.add transitionBytes
      ((⟨union, union, true⟩ : Part), b.branch)
  let (body, b) : Part × Build := match d with
    | .forward =>
      let (start, b) := b.add 0
      let (p, b) := compilePart d h b
      let (stop, b) := b.add 0
      (⟨start, stop, false⟩, b.branchIf p.branching)
    | .backward => compilePart d h b
  let (_, b) := b.add 0
  ((b.branchIf body.branching).branchIf lead.branching).passed

end Budget

end Flowline.Regex
