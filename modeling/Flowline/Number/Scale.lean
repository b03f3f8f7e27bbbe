import Flowline.Number.Round
set_option autoImplicit false

/-!
# Doubles by scaling with powers of ten

JSON input reads a number as a 64-bit significand `s` and a decimal
exponent `e` and turns it into a double the fast way: `s` becomes the
nearest double, which is then multiplied by the nearest double to `10^e`
(for `e ≥ 0`) or divided by the nearest double to `10^-e` (for `e < 0`).
Each operation rounds once, so the result can sit one unit in the last
place away from the nearest double to `s · 10^e`: `1e-23` reads as
`1.0000000000000001e-23` and `3e99` as `2.9999999999999997e99`.

* The table holds the nearest doubles to `10^0` through `10^308`
  (`Decimal.toFloat?`, exact rounding).
* An exponent below `-308` divides by `10^308` and tries again, stopping
  early once the value is zero.
* A product that overflows, or an exponent above `308` with a non-zero
  significand, has no value.
-/

namespace Flowline

/-- The nearest doubles to the powers of ten `10^0` through `10^308`. -/
def powersOfTen : Array Float :=
  ((List.range 309).map fun (k : Nat) => ((Decimal.mk 1 k).toFloat? false).getD 0).toArray

/-- The nearest double to `10^k`, for `k ≤ 308`. -/
def powerOfTen (k : Nat) : Float := powersOfTen.getD k 0

/-- The nearest double to a natural number. -/
def natFloat (n : Nat) : Float := ((Decimal.mk n 0).toFloat? false).getD 0

/-- Divides by `10^k`, a factor of `10^308` at a time while `k` is beyond the
table; a value that reaches zero stays zero. -/
def divideByPower (f : Float) (k : Nat) : Float :=
  if k ≤ 308 then f / powerOfTen k
  else if f == 0 then f
  else divideByPower (f / powerOfTen 308) (k - 308)
termination_by k
decreasing_by omega

/-- The double `significand · 10^exponent` computed by scaling, or nothing
when it overflows. -/
def scaleByTen (significand : Nat) (exponent : Int) : Option Float :=
  let f := natFloat significand
  if exponent < 0 then some (divideByPower f exponent.natAbs)
  else if exponent ≤ 308 then
    let g := f * powerOfTen exponent.toNat
    if g.isInf then none else some g
  else if f == 0 then some f
  else none

end Flowline
