set_option autoImplicit false

/-!
# Shortest decimal digits of a double

A finite double is `m · 2^q` for a mantissa `m` and an exponent `q` read off
its bits (`Binary.ofFloat`). Every real number strictly between the double's
two neighbours' midpoints rounds back to it; the midpoints themselves round
back to it exactly when `m` is even (ties go to the even mantissa).

`Binary.shortest` picks, among the decimals `d · 10^p` inside that interval,
one with the fewest significant digits, and among those the one nearest to
the double; an exact tie between two nearest goes to the larger `d`, away
from zero. It tries
1, 2, … 17 significant digits: with `k` digits the candidates are the two
points of the grid `10^p`, `p = e - k + 1` (`e` the decimal exponent of the
value), that enclose the value. All arithmetic is exact, on `Nat`.
-/

namespace Flowline

/-- A finite double taken apart: the value is `(-1)^negative · mantissa · 2^exponent`.
`lowerCloser` marks the powers of two whose neighbour below is half as far
away as the one above. -/
structure Binary where
  negative : Bool
  mantissa : Nat
  exponent : Int
  lowerCloser : Bool
  deriving Repr, Inhabited

/-- A decimal `digits · 10^exponent`, with no trailing zero in `digits`
unless it is zero. -/
structure Decimal where
  digits : Nat
  exponent : Int
  deriving Repr, Inhabited, DecidableEq

namespace Decimal

/-- Drops trailing zeros of the digits, raising the exponent. -/
def normalize (d : Decimal) : Decimal :=
  go d.digits d.exponent d.digits
where
  /-- `fuel` bounds the number of zeros removed. -/
  go (digits : Nat) (exponent : Int) : Nat → Decimal
    | 0 => ⟨digits, exponent⟩
    | fuel + 1 =>
      if digits ≠ 0 ∧ digits % 10 = 0 then go (digits / 10) (exponent + 1) fuel
      else ⟨digits, exponent⟩

/-- The digits as text. -/
def digitText (d : Decimal) : String := toString d.digits

end Decimal

/-- Number of decimal digits of `n` (one for zero). -/
def decimalLength (n : Nat) : Nat := (Nat.toDigits 10 n).length

namespace Binary

/-- Takes the bits of a finite double apart. -/
def ofFloat (f : Float) : Binary :=
  let bits : Nat := f.toBits.toNat
  let negative : Bool := bits / Nat.pow 2 63 % 2 == 1
  let field : Nat := bits / Nat.pow 2 52 % Nat.pow 2 11
  let fraction : Nat := bits % Nat.pow 2 52
  if field = 0 then
    ⟨negative, fraction, -1074, false⟩
  else
    ⟨negative, fraction + Nat.pow 2 52, (field : Int) - 1075, fraction == 0 && field > 1⟩

/-- Compares `c · 10^p` with `num / den`. -/
def compareScaled (c : Nat) (p : Int) (num den : Nat) : Ordering :=
  if 0 ≤ p then compare (c * Nat.pow 10 p.toNat * den) num
  else compare (c * den) (num * Nat.pow 10 (-p).toNat)

/-- The decimal exponent of `num / den`: the `e` with `10^e ≤ num / den < 10^(e+1)`.
Needs `num` and `den` positive. -/
def decimalExponent (num den : Nat) : Int :=
  if den ≤ num then (decimalLength (num / den) : Int) - 1
  else
    let j := decimalLength den - decimalLength num
    if den ≤ num * Nat.pow 10 j then -(j : Int) else -((j : Int) + 1)

/-- The interval of reals that round to the double, as numerators over a
common denominator: `(low, value, high, denominator)`. -/
def interval (b : Binary) : Nat × Nat × Nat × Nat :=
  let v := 4 * b.mantissa
  let low := if b.lowerCloser then v - 1 else v - 2
  let high := v + 2
  let e := b.exponent - 2
  if 0 ≤ e then (low * Nat.pow 2 e.toNat, v * Nat.pow 2 e.toNat, high * Nat.pow 2 e.toNat, 1)
  else (low, v, high, Nat.pow 2 (-e).toNat)

/-- Whether `c · 10^p` lies in the rounding interval. -/
def inInterval (b : Binary) (c : Nat) (p : Int) : Bool :=
  let (low, _, high, den) := b.interval
  let inclusive := b.mantissa % 2 = 0
  let aboveLow := match compareScaled c p low den with
    | .gt => true
    | .eq => inclusive
    | .lt => false
  let belowHigh := match compareScaled c p high den with
    | .lt => true
    | .eq => inclusive
    | .gt => false
  aboveLow && belowHigh

/-- The best decimal with `k` significant digits, if one rounds back. -/
def candidate (b : Binary) (k : Nat) : Option Decimal :=
  let (_, v, _, den) := b.interval
  let e := decimalExponent v den
  let p := e - k + 1
  -- t = ⌊v / 10^p⌋ and whether the division is exact
  let (t, exact) : Nat × Bool :=
    if 0 ≤ p then
      let d := den * Nat.pow 10 p.toNat
      (v / d, v % d == 0)
    else
      let n := v * Nat.pow 10 (-p).toNat
      (n / den, n % den == 0)
  if exact then
    if b.inInterval t p then some ⟨t, p⟩ else none
  else
    let lowIn := b.inInterval t p
    let highIn := b.inInterval (t + 1) p
    match lowIn, highIn with
    | true, false => some ⟨t, p⟩
    | false, true => some ⟨t + 1, p⟩
    | false, false => none
    | true, true =>
      -- nearer of the two; compare 2v with (2t + 1) · 10^p
      match compareScaled (2 * t + 1) p (2 * v) den with
      | .gt => some ⟨t, p⟩
      | .lt => some ⟨t + 1, p⟩
      | .eq => some ⟨t + 1, p⟩

/-- The shortest decimal that rounds back to the double, nearest among the
shortest. A zero mantissa gives zero. -/
def shortest (b : Binary) : Decimal :=
  if b.mantissa = 0 then ⟨0, 0⟩
  else
    let found := (List.range 17).findSome? fun i => b.candidate (i + 1)
    (found.getD ⟨b.mantissa, 0⟩).normalize

end Binary

end Flowline
