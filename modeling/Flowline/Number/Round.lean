import Flowline.Number.Shortest
set_option autoImplicit false

/-!
# Rounding decimals to doubles

`Decimal.toFloat?` turns `digits · 10^exponent` into the nearest double, a
tie going to the even mantissa; a value too large for a double gives
nothing. The work is exact: the value is the fraction `num / den`, its
binary exponent `b` satisfies `2^b ≤ num / den < 2^(b+1)`, and the mantissa
is `num / (den · 2^(b-52))` rounded, with the exponent held at `-1074` for
values below the normal range.
-/

namespace Flowline

/-- Integer division rounded to nearest, ties to even. -/
def roundHalfEven (num den : Nat) : Nat :=
  let q := num / den
  let r := num % den
  if 2 * r < den then q
  else if 2 * r > den then q + 1
  else if q % 2 = 0 then q else q + 1

/-- The binary exponent of `num / den`: `2^b ≤ num / den < 2^(b+1)`.
Needs `num` and `den` positive. -/
def binaryExponent (num den : Nat) : Int :=
  let guess : Int := (num.log2 : Int) - den.log2
  let fits := if 0 ≤ guess then den * Nat.pow 2 guess.toNat ≤ num else den ≤ num * Nat.pow 2 (-guess).toNat
  if fits then guess else guess - 1

/-- The double with the given sign, mantissa and binary exponent, where
`mantissa < 2^53` and a mantissa below `2^52` only occurs at exponent `-1074`. -/
def assembleFloat (negative : Bool) (mantissa : Nat) (exponent : Int) : Float :=
  let field : Nat := if mantissa < Nat.pow 2 52 then 0 else (exponent + 1075).toNat
  let fraction := mantissa % Nat.pow 2 52
  let bits := (if negative then Nat.pow 2 63 else 0) + field * Nat.pow 2 52 + fraction
  Float.ofBits bits.toUInt64

namespace Decimal

/-- The nearest double to `±digits · 10^exponent`, or nothing when the value
is beyond the largest double. -/
def toFloat? (negative : Bool) (d : Decimal) : Option Float :=
  if d.digits = 0 then some (assembleFloat negative 0 0)
  else
    let len : Int := decimalLength d.digits
    -- far outside the range of doubles: settle without big powers
    if d.exponent + len - 1 > 309 then none
    else if d.exponent + len < -330 then some (assembleFloat negative 0 0)
    else
      let (num, den) :=
        if 0 ≤ d.exponent then (d.digits * Nat.pow 10 d.exponent.toNat, 1)
        else (d.digits, Nat.pow 10 (-d.exponent).toNat)
      let b := binaryExponent num den
      let q := max (b - 52) (-1074)
      let m :=
        if 0 ≤ q then roundHalfEven num (den * Nat.pow 2 q.toNat)
        else roundHalfEven (num * Nat.pow 2 (-q).toNat) den
      -- rounding may carry into the next binade
      let (m, q) := if m = Nat.pow 2 53 then (Nat.pow 2 52, q + 1) else (m, q)
      if q + 52 > 1023 then none
      else some (assembleFloat negative m q)

end Decimal

end Flowline
