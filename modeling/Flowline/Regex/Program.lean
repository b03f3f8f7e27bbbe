import Flowline.Regex.Hir
set_option autoImplicit false

/-!
# Matching patterns

A translated pattern is compiled into a `Program`, a list of states of a
nondeterministic automaton:

* `chars set next` reads one character of `set` and goes on at `next`;
* `look condition next` goes on at `next` without reading, where the
  condition holds;
* `split first second` goes on at both;
* `accept` ends a match. State `0` is the one accepting state.

Each part of a pattern is compiled in front of the states that follow it,
so a sequence is compiled from its end; it is kept last part first, so the
compiler walks it in order with a loop. A repetition is unrolled: its
required copies, then its optional ones, each a `split` around a copy, or a
loop through one `split` when it has no upper bound. Word conditions are
those of ASCII words: a pattern with a Unicode word condition is refused
before it is compiled (`Pattern.compile`).

`Program.isMatch` runs all threads of the automaton at once over the text,
starting a new thread at every position, so it finds whether any part of
the text matches without backtracking: the work is bounded by the number of
states times the length of the text, and at each position only the states
its threads reach are visited. Each state joins the set of a position at
most once, which also ends loops that read nothing.
-/

namespace Flowline.Regex

/-- A state of a compiled pattern. -/
inductive Inst where
  | chars (set : Array (Nat × Nat)) (next : Nat)
  | look (condition : Look) (next : Nat)
  | split (first second : Nat)
  | accept
  deriving Inhabited, Repr

/-- A compiled pattern: its states and where matching starts. -/
structure Program where
  insts : Array Inst
  start : Nat
  deriving Inhabited

namespace Program

/-- A pattern with its counted repetitions written out: `a{2,4}` becomes
`a a a? a?` and `a{2,}` becomes `a a a*`. A sequence holds its parts last
first. -/
inductive Unrolled where
  | chars (set : Array (Nat × Nat))
  | look (condition : Look)
  | seq (itemsBackward : List Unrolled)
  | alt (branches : List Unrolled)
  | optional (inner : Unrolled)
  | star (inner : Unrolled)
  deriving Inhabited

mutual

/-- Writes out the repetitions of a pattern. -/
def unroll : Hir → Unrolled
  | .empty => .seq []
  | .literal cs => .seq (cs.map fun c => Unrolled.chars #[(c.toNat, c.toNat)]).reverse
  | .chars s => .chars s.toArray
  | .look l => .look l
  | .capture inner => unroll inner
  | .concat items => .seq (unrollAll items).reverse
  | .alternation branches => .alt (unrollAll branches)
  | .repetition least most inner =>
    let u := unroll inner
    let tail := match most with
      | none => [Unrolled.star u]
      | some m => List.replicate (m - least) (Unrolled.optional u)
    .seq (tail ++ List.replicate least u)

/-- Writes out the repetitions of each pattern of a list. -/
def unrollAll : List Hir → List Unrolled
  | [] => []
  | h :: rest => unroll h :: unrollAll rest

end

/-- Adds a state; gives its index. -/
def push (i : Inst) (insts : Array Inst) : Nat × Array Inst := (insts.size, insts.push i)

mutual

/-- Compiles a pattern in front of the state `next`; gives the state it
starts at. -/
def build : Unrolled → Nat → Array Inst → Nat × Array Inst
  | .chars s, next, insts => push (.chars s next) insts
  | .look l, next, insts => push (.look l next) insts
  | .seq items, next, insts => buildSeq items next insts
  | .alt branches, next, insts => buildAlt branches next insts
  | .optional inner, next, insts =>
    let (body, insts) := build inner next insts
    push (.split body next) insts
  | .star inner, next, insts =>
    let (loop, insts) := push (.split 0 0) insts
    let (body, insts) := build inner loop insts
    (loop, insts.setIfInBounds loop (.split body next))

/-- Compiles the items of a sequence, given last first, each in front of
the one compiled before it. -/
def buildSeq : List Unrolled → Nat → Array Inst → Nat × Array Inst
  | [], next, insts => (next, insts)
  | h :: rest, next, insts =>
    let (start, insts) := build h next insts
    buildSeq rest start insts

/-- Compiles alternatives, each going on at `next`, joined by splits. -/
def buildAlt : List Unrolled → Nat → Array Inst → Nat × Array Inst
  | [], next, insts => (next, insts)
  | [h], next, insts => build h next insts
  | h :: rest, next, insts =>
    let (first, insts) := build h next insts
    let (others, insts) := buildAlt rest next insts
    push (.split first others) insts

end

/-- Compiles a translated pattern. -/
def compile (h : Hir) : Program :=
  let (start, insts) := build (unroll h) 0 #[Inst.accept]
  ⟨insts, start⟩

/-- Whether a character is an ASCII word character. -/
def isAsciiWord (c : Char) : Bool := c.isAlphanum || c = '_'

/-- Whether a word condition holds between `before` and `after`, words
being made of ASCII word characters. -/
def wordHolds (kind : WordLook) (before after : Option Char) : Bool :=
  let isWord (c : Option Char) : Bool := match c with
    | some c => isAsciiWord c
    | none => false
  let b := isWord before
  let a := isWord after
  match kind with
  | .boundary => b != a
  | .notBoundary => b == a
  | .start => !b && a
  | .finish => b && !a
  | .startHalf => !b
  | .endHalf => !a

/-- Whether a condition holds at position `i` of `text`. -/
def holds (l : Look) (text : Array Char) (i : Nat) : Bool :=
  let before := if i = 0 then none else text[i - 1]?
  let after := text[i]?
  match l with
  | .textStart => i = 0
  | .textEnd => i ≥ text.size
  | .lineStart false => i = 0 || before == some '\n'
  | .lineStart true => i = 0 || before == some '\n' || (before == some '\r' && after != some '\n')
  | .lineEnd false => i ≥ text.size || after == some '\n'
  | .lineEnd true => i ≥ text.size || after == some '\r' || (after == some '\n' && before != some '\r')
  | .word kind _ => wordHolds kind before after

/-- Marks the states reachable without reading from the states of `stack`,
at position `i` of `text`. A state is marked by writing `stamp` for it, so
the marks of earlier positions need no clearing. Gives the states marked,
latest first, with the marks; `fuel` bounds the steps. -/
def close (p : Program) (text : Array Char) (i stamp : Nat) :
    Nat → List Nat → Array Nat → List Nat → List Nat × Array Nat
  | 0, _, marks, reached => (reached, marks)
  | _, [], marks, reached => (reached, marks)
  | fuel + 1, s :: rest, marks, reached =>
    if marks.getD s stamp == stamp then close p text i stamp fuel rest marks reached
    else
      let marks := marks.setIfInBounds s stamp
      let reached := s :: reached
      match p.insts[s]? with
      | some (.split a b) => close p text i stamp fuel (a :: b :: rest) marks reached
      | some (.look l next) =>
        if holds l text i then close p text i stamp fuel (next :: rest) marks reached
        else close p text i stamp fuel rest marks reached
      | _ => close p text i stamp fuel rest marks reached

/-- The states reached by reading `c` from the states `reached`. -/
def advance (p : Program) (reached : List Nat) (c : Char) : List Nat :=
  reached.filterMap fun s =>
    match (p.insts[s]? : Option Inst) with
    | some (.chars set next) => if rangesHold set c.toNat then some next else none
    | _ => none

/-- Runs the threads `pending` from position `i` on, starting a new thread
at every position; `fuel` bounds the positions. The marks of position `i`
are `i + 1`. -/
def run (p : Program) (text : Array Char) : Nat → Nat → List Nat → Array Nat → Bool
  | 0, _, _, _ => false
  | fuel + 1, i, pending, marks =>
    let budget := 3 * p.insts.size + pending.length + 3
    let (reached, marks) := close p text i (i + 1) budget (p.start :: pending) marks []
    if marks.getD 0 0 == i + 1 then true
    else match text[i]? with
      | some c => run p text fuel (i + 1) (advance p reached c) marks
      | none => false

/-- Whether the pattern matches somewhere in a text. -/
def isMatch (p : Program) (s : String) : Bool :=
  let text := s.toList.toArray
  run p text (text.size + 1) 0 [] (Array.replicate p.insts.size 0)

end Program

end Flowline.Regex
