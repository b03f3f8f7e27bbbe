import Flowline.Regex.Hir
import Flowline.Regex.Syntax
set_option autoImplicit false

/-!
# From syntax to patterns

`translate` turns a parsed pattern into a `Hir`, reading it in order (the
parts of an item before the item itself, left to right) and stopping at
the first part it cannot translate. Patterns here carry no Unicode tables:
no Unicode classes, no Unicode case folding and no Unicode word characters.
So, with the flag `u` on (the default):

* a `\p` class names no property: "property not found", or "property value
  not found" for the general category names `Cf`, `Sc` and `Lc`, which are
  looked up as categories rather than properties;
* `\d`, `\s` and `\w` are refused as Perl classes;
* with `i`, a literal is refused where it stands, and so is a bracketed
  class, a nested one, an ASCII class such as `[:alpha:]` and each side of
  a class operation (right side first) when they have to be folded: a set
  known to be closed under folding (the empty set, everything) needs no
  folding and passes;
* word boundaries are accepted here and refused when the pattern is
  compiled (`Pattern.compile`).

With `u` off, everything reads bytes and must still match only UTF-8 text:

* a literal beyond ASCII stands as its UTF-8 bytes (and is not folded);
  inside brackets it is refused ("Unicode not allowed here"), and so is a
  `\p` class;
* a byte escape `\x80` to `\xFF` could match invalid UTF-8 and is refused
  where it stands, and so are `.`, a negated `\D`, `\S`, `\W`, and any
  ASCII class, nested bracket or whole bracketed class that, after folding
  and negation, holds a byte beyond ASCII;
* `i` folds ASCII letters only.

The sets of a bracketed class with `u` on carry whether they are known to
be closed under case folding (`Folding`), the way the sets are combined:
adding a character loses it, the union of two sets keeps it when both have
it, negation keeps it, and operations with the empty set give the empty
set, which has it.

Flags set by `(?flags)` hold to the end of the enclosing group, across `|`;
flags of `(?flags:...)` hold inside it only. A bracketed class is folded
before it is negated.
-/

namespace Flowline.Regex

/-- The flags in force. -/
structure Flags where
  caseInsensitive : Bool
  multiLine : Bool
  dotAll : Bool
  unicode : Bool
  crlf : Bool
  deriving Inhabited, Repr

namespace Flags

/-- The flags at the start of a pattern: only `u` is on. -/
def initial : Flags := ⟨false, false, false, true, false⟩

/-- Applies a change of flags. -/
def apply (f : Flags) (change : FlagChange) : Flags :=
  change.foldl (fun f (flag, on) =>
    match flag with
    | .caseInsensitive => { f with caseInsensitive := on }
    | .multiLine => { f with multiLine := on }
    | .dotAll => { f with dotAll := on }
    | .unicode => { f with unicode := on }
    | .crlf => { f with crlf := on }
    | .swapGreed => f
    | .ignoreSpace => f) f

end Flags

namespace Translate

/-- Fails at a stretch of the pattern. -/
def fail {α : Type} (kind : ErrorKind) (span : Span) : Except SyntaxError α := .error ⟨kind, span, none⟩

/-- The code points from `lo` to `hi`. -/
def between (lo hi : Nat) : CharSet := ⟨[(lo, hi)]⟩

/-- The code points that are characters: all but the surrogates. -/
def scalars : CharSet := ⟨[(0, 0xD7FF), (0xE000, 0x10FFFF)]⟩

/-- All byte values. -/
def allBytes : CharSet := ⟨[(0, 0xFF)]⟩

/-- The ASCII word characters. -/
def asciiWord : CharSet := CharSet.ofRanges [(48, 57), (65, 90), (95, 95), (97, 122)]

/-- The ASCII white space: tab, line feed, vertical tab, form feed, carriage
return and space. -/
def asciiSpace : CharSet := CharSet.ofRanges [(9, 13), (32, 32)]

/-- The ASCII digits. -/
def asciiDigit : CharSet := ⟨[(48, 57)]⟩

/-- The characters of an ASCII class. -/
def asciiSet : AsciiClass → CharSet
  | .alnum => CharSet.ofRanges [(48, 57), (65, 90), (97, 122)]
  | .alpha => CharSet.ofRanges [(65, 90), (97, 122)]
  | .ascii => ⟨[(0, 0x7F)]⟩
  | .blank => CharSet.ofRanges [(9, 9), (32, 32)]
  | .cntrl => CharSet.ofRanges [(0, 0x1F), (0x7F, 0x7F)]
  | .digit => asciiDigit
  | .graph => ⟨[(33, 126)]⟩
  | .lower => ⟨[(97, 122)]⟩
  | .print => ⟨[(32, 126)]⟩
  | .punct => CharSet.ofRanges [(33, 47), (58, 64), (91, 96), (123, 126)]
  | .space => asciiSpace
  | .upper => ⟨[(65, 90)]⟩
  | .word => asciiWord
  | .xdigit => CharSet.ofRanges [(48, 57), (65, 70), (97, 102)]

/-- The ASCII meaning of `\d`, `\s` or `\w`. -/
def perlAscii (kind : PerlClass) : CharSet :=
  match kind with
  | .digit => asciiDigit
  | .space => asciiSpace
  | .word => asciiWord

/-- Closes a set of bytes under ASCII case: each letter gains its other case. -/
def asciiFold (s : CharSet) : CharSet :=
  let upper := s.inter ⟨[(65, 90)]⟩
  let lower := s.inter ⟨[(97, 122)]⟩
  s.union ⟨upper.ranges.map fun (a, b) => (a + 32, b + 32)⟩
    |>.union ⟨lower.ranges.map fun (a, b) => (a - 32, b - 32)⟩

/-- A property name in loose form: letters in lower case, blanks,
underscores, hyphens and characters beyond ASCII dropped, a leading `is`
ignored (except that `isc` stays `isc`). -/
def looseName (name : String) : String :=
  let cs := name.toList
  let (prefixed, rest) := match cs with
    | a :: b :: more =>
      if (a = 'i' || a = 'I') && (b = 's' || b = 'S') then (true, more) else (false, cs)
    | _ => (false, cs)
  let kept := rest.filterMap fun c =>
    if c = ' ' || c = '_' || c = '-' then none
    else if 'A' ≤ c && c ≤ 'Z' then some (Char.ofNat (c.toNat + 32))
    else if c.toNat ≤ 0x7F then some c
    else none
  String.ofList (if prefixed && kept == ['c'] then ['i', 's', 'c'] else kept)

/-- What is wrong with a `\p` class: the general category names `Cf`, `Sc`
and `Lc` are looked up among the category values, which are not there;
every other name among the properties, which are not there either. -/
def unicodeQueryFault : UnicodeQuery → ErrorKind
  | .oneLetter c => nameFault (String.singleton c)
  | .named name => nameFault name
  | .namedValue _ _ => .unicodePropertyNotFound
where
  /-- The fault of a bare name. -/
  nameFault (name : String) : ErrorKind :=
    if ["cf", "sc", "lc"].contains (looseName name) then .unicodePropertyValueNotFound
    else .unicodePropertyNotFound

/-- A set of code points being built with `u` on, with whether it is known
to be closed under case folding. -/
structure Folding where
  set : CharSet
  folded : Bool
  deriving Inhabited

namespace Folding

/-- The empty set, closed under folding. -/
def empty : Folding := ⟨CharSet.empty, true⟩

/-- A set as given: closed under folding only when it is empty. -/
def ofSet (s : CharSet) : Folding := ⟨s, s.isEmpty⟩

/-- Adds code points; the result is no longer known to be closed. -/
def add (f : Folding) (s : CharSet) : Folding := ⟨f.set.union s, false⟩

/-- The union of two sets. -/
def union (f g : Folding) : Folding :=
  if g.set.isEmpty || f.set == g.set then f else ⟨f.set.union g.set, f.folded && g.folded⟩

/-- The characters not in a set. -/
def negate (f : Folding) : Folding :=
  if f.set.isEmpty then ⟨scalars, true⟩ else ⟨scalars.diff f.set, f.folded⟩

/-- The intersection of two sets. -/
def inter (f g : Folding) : Folding :=
  if f.set.isEmpty then f
  else if g.set.isEmpty then empty
  else ⟨f.set.inter g.set, f.folded && g.folded⟩

/-- The code points of the first set not in the second. -/
def diff (f g : Folding) : Folding :=
  if f.set.isEmpty || g.set.isEmpty then f else ⟨f.set.diff g.set, f.folded && g.folded⟩

/-- The code points of exactly one of the sets. -/
def symmDiff (f g : Folding) : Folding := (f.union g).diff (f.inter g)

/-- Closes a set under case folding, which needs Unicode tables: only a
set already known to be closed, or an empty one, passes; any other fails
at `span`. -/
def fold (f : Folding) (span : Span) : Except SyntaxError Folding :=
  if f.folded || f.set.isEmpty then .ok ⟨f.set, true⟩ else fail .unicodeCaseUnavailable span

end Folding

/-- Folds a set of a class with `u` on when case is ignored, then negates
it if asked. -/
def foldNegate (flags : Flags) (span : Span) (negated : Bool) (f : Folding) :
    Except SyntaxError Folding := do
  let f ← if flags.caseInsensitive then f.fold span else pure f
  pure (if negated then f.negate else f)

/-- Folds a set of bytes when case is ignored and negates it if asked; the
result may not hold bytes beyond ASCII. -/
def bytesFoldNegate (flags : Flags) (span : Span) (negated : Bool) (s : CharSet) :
    Except SyntaxError CharSet := do
  let s := if flags.caseInsensitive then asciiFold s else s
  let s := if negated then allBytes.diff s else s
  if !s.isAscii then fail .invalidUtf8 span
  pure s

/-- A `\d`, `\s` or `\w` class with `u` off; a negated one could match
invalid UTF-8. -/
def perlBytes (kind : PerlClass) (negated : Bool) (span : Span) : Except SyntaxError CharSet :=
  if negated then fail .invalidUtf8 span else .ok (perlAscii kind)

/-- A literal inside brackets with `u` off: an ASCII character, or a byte
escape up to `\x7F`. -/
def classByte (l : Literal) : Except SyntaxError Nat :=
  if l.byte && l.char.toNat > 0x7F then fail .invalidUtf8 l.span
  else if l.char.toNat > 0x7F then fail .unicodeNotAllowed l.span
  else .ok l.char.toNat

/-- Applies a class operation. -/
def ClassOp.applyFolding (kind : ClassOp) (l r : Folding) : Folding :=
  match kind with
  | .intersection => l.inter r
  | .difference => l.diff r
  | .symmetricDifference => l.symmDiff r

/-- Applies a class operation to sets of bytes. -/
def ClassOp.applyBytes (kind : ClassOp) (l r : CharSet) : CharSet :=
  match kind with
  | .intersection => l.inter r
  | .difference => l.diff r
  | .symmetricDifference => l.symmDiff r

mutual

/-- Adds the characters of a class part, `u` on, to `acc`. -/
def unicodeItem (flags : Flags) (acc : Folding) : ClassSet → Except SyntaxError Folding
  | .empty _ => .ok acc
  | .literal l => .ok (acc.add (CharSet.single l.char.toNat))
  | .range lo hi _ => .ok (acc.add (between lo.char.toNat hi.char.toNat))
  | .ascii kind negated span => do
    let x ← foldNegate flags span negated (Folding.ofSet (asciiSet kind))
    pure (acc.union x)
  | .unicode query _ span => fail (unicodeQueryFault query) span
  | .perl _ _ span => fail .unicodePerlClassNotFound span
  | .bracketed body negated span => do
    let inner ← unicodeItem flags Folding.empty body
    let inner ← foldNegate flags span negated inner
    pure (acc.union inner)
  | .union items _ => unicodeItems flags acc items
  | .op kind lhs rhs _ => do
    let l ← unicodeItem flags Folding.empty lhs
    let r ← unicodeItem flags Folding.empty rhs
    let (l, r) ← if flags.caseInsensitive then do
        let r ← r.fold rhs.span
        let l ← l.fold lhs.span
        pure (l, r)
      else pure (l, r)
    pure (acc.union (ClassOp.applyFolding kind l r))

/-- Adds the characters of class parts, `u` on, in order. -/
def unicodeItems (flags : Flags) (acc : Folding) : List ClassSet → Except SyntaxError Folding
  | [] => .ok acc
  | item :: rest => do
    let acc ← unicodeItem flags acc item
    unicodeItems flags acc rest

end

mutual

/-- Adds the bytes of a class part, `u` off, to `acc`. -/
def byteItem (flags : Flags) (acc : CharSet) : ClassSet → Except SyntaxError CharSet
  | .empty _ => .ok acc
  | .literal l => do
    let b ← classByte l
    pure (acc.union (CharSet.single b))
  | .range lo hi _ => do
    let a ← classByte lo
    let b ← classByte hi
    pure (acc.union (between a b))
  | .ascii kind negated span => do
    let x ← bytesFoldNegate flags span negated (asciiSet kind)
    pure (acc.union x)
  | .unicode _ _ span => fail .unicodeNotAllowed span
  | .perl kind negated span => do
    let x ← perlBytes kind negated span
    pure (acc.union x)
  | .bracketed body negated span => do
    let inner ← byteItem flags CharSet.empty body
    let inner ← bytesFoldNegate flags span negated inner
    pure (acc.union inner)
  | .union items _ => byteItems flags acc items
  | .op kind lhs rhs _ => do
    let l ← byteItem flags CharSet.empty lhs
    let r ← byteItem flags CharSet.empty rhs
    let (l, r) := if flags.caseInsensitive then (asciiFold l, asciiFold r) else (l, r)
    pure (acc.union (ClassOp.applyBytes kind l r))

/-- Adds the bytes of class parts, `u` off, in order. -/
def byteItems (flags : Flags) (acc : CharSet) : List ClassSet → Except SyntaxError CharSet
  | [] => .ok acc
  | item :: rest => do
    let acc ← byteItem flags acc item
    byteItems flags acc rest

end

/-- A bracketed class outside brackets. -/
def bracketed (flags : Flags) (body : ClassSet) (negated : Bool) (span : Span) :
    Except SyntaxError Hir :=
  if flags.unicode then do
    let f ← unicodeItem flags Folding.empty body
    let f ← foldNegate flags span negated f
    pure (Hir.ofSet f.set)
  else do
    let s ← byteItem flags CharSet.empty body
    let s ← bytesFoldNegate flags span negated s
    pure (Hir.ofSet s)

/-- A literal outside brackets. -/
def literal (flags : Flags) (l : Literal) : Except SyntaxError Hir :=
  if flags.unicode then
    if flags.caseInsensitive then fail .unicodeCaseUnavailable l.span
    else .ok (.literal [l.char])
  else if l.byte && l.char.toNat > 0x7F then fail .invalidUtf8 l.span
  else if flags.caseInsensitive && l.char.toNat ≤ 0x7F then
    .ok (Hir.ofSet (asciiFold (CharSet.single l.char.toNat)))
  else .ok (.literal [l.char])

/-- The set `.` reads. -/
def dot (flags : Flags) (span : Span) : Except SyntaxError Hir :=
  if !flags.unicode then fail .invalidUtf8 span
  else if flags.dotAll then .ok (Hir.ofSet scalars)
  else if flags.crlf then .ok (Hir.ofSet (scalars.diff (CharSet.ofRanges [(10, 10), (13, 13)])))
  else .ok (Hir.ofSet (scalars.diff (CharSet.single 10)))

/-- The condition of an assertion. -/
def assertion (flags : Flags) (kind : Assertion) : Hir :=
  let u := flags.unicode
  match kind with
  | .startLine => .look (if flags.multiLine then .lineStart flags.crlf else .textStart)
  | .endLine => .look (if flags.multiLine then .lineEnd flags.crlf else .textEnd)
  | .startText => .look .textStart
  | .endText => .look .textEnd
  | .wordBoundary => .look (.word .boundary u)
  | .notWordBoundary => .look (.word .notBoundary u)
  | .wordStart => .look (.word .start u)
  | .wordEnd => .look (.word .finish u)
  | .wordStartHalf => .look (.word .startHalf u)
  | .wordEndHalf => .look (.word .endHalf u)

/-- A `\d`, `\s` or `\w` class outside brackets. -/
def perlClass (flags : Flags) (kind : PerlClass) (negated : Bool) (span : Span) :
    Except SyntaxError Hir :=
  if flags.unicode then fail .unicodePerlClassNotFound span
  else (perlBytes kind negated span).map Hir.ofSet

/-- A `\p` class outside brackets. -/
def unicodeClass (flags : Flags) (query : UnicodeQuery) (span : Span) : Except SyntaxError Hir :=
  if flags.unicode then fail (unicodeQueryFault query) span else fail .unicodeNotAllowed span

mutual

/-- Translates a pattern item under `flags`; gives the flags in force after
it, changed only by `(?flags)`. -/
def item (flags : Flags) : Ast → Except SyntaxError (Hir × Flags)
  | .empty _ => .ok (.empty, flags)
  | .literal l => (literal flags l).map (·, flags)
  | .dot span => (dot flags span).map (·, flags)
  | .assertion kind _ => .ok (assertion flags kind, flags)
  | .perl kind negated span => (perlClass flags kind negated span).map (·, flags)
  | .unicode query _ span => (unicodeClass flags query span).map (·, flags)
  | .bracketed body negated span => (bracketed flags body negated span).map (·, flags)
  | .repetition least most inner _ => do
    let (h, _) ← item flags inner
    pure (Hir.rep least most h, flags)
  | .group change inner _ => do
    let inside := match change with
      | some c => flags.apply c
      | none => flags
    let (h, _) ← item inside inner
    pure (if change.isNone then .capture h else h, flags)
  | .setFlags change _ => .ok (.empty, flags.apply change)
  | .concat items _ => do
    let (hs, after) ← sequence flags items
    pure (Hir.seq hs, after)
  | .alternation branches _ => do
    let (hs, after) ← sequence flags branches
    pure (Hir.alt hs, after)

/-- Translates items in order, each under the flags the previous ones left. -/
def sequence (flags : Flags) : List Ast → Except SyntaxError (List Hir × Flags)
  | [] => .ok ([], flags)
  | a :: rest => do
    let (h, after) ← item flags a
    let (hs, final) ← sequence after rest
    pure (h :: hs, final)

end

end Translate

/-- Translates a parsed pattern. -/
def translate (ast : Ast) : Except SyntaxError Hir :=
  (Translate.item Flags.initial ast).map (·.1)

end Flowline.Regex
