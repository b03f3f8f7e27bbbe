import Flowline.Number.Shortest
set_option autoImplicit false

/-!
# Writing doubles

A double is written with the digits of `Binary.shortest`. What stays to
decide is the layout, a `NumberLayout`: from which decimal-point positions
on the exponent form is used, whether an integral value keeps a `.0`, and
the texts of the non-finite values.

Two layouts are used:

* `NumberLayout.document`, for numbers inside printed documents: positional
  while the decimal point sits after at most 16 digits and before at most
  four zeros (`0.00001`), otherwise `1e+300`, `1.5e-7`; integral values keep
  `.0` (`1.0`, `1000.0`).
* `NumberLayout.plain`, for numbers quoted in messages: always positional,
  integral values without a fraction (`0`, `1000000000000000000000`,
  `-0.0000001`).
-/

namespace Flowline

/-- How a double is laid out once its shortest digits are known. The
decimal-point position `kk` is the number of digits before the point, so
the value is `0.d₁d₂… · 10^kk`. -/
structure NumberLayout where
  /-- Positional notation needs `kk` at most this (none: no bound). -/
  pointMax : Option Int
  /-- Positional notation needs `kk` at least this (none: no bound). -/
  pointMin : Option Int
  /-- An integral value is written with `.0`. -/
  pointZero : Bool
  /-- Text of a NaN. -/
  nanText : String
  /-- Text of positive infinity; a minus sign is put in front for negative. -/
  infText : String
  /-- A non-negative exponent is written with a plus sign. -/
  plusExponent : Bool

namespace NumberLayout

/-- The layout of numbers in printed documents. -/
def document : NumberLayout := ⟨some 16, some (-4), true, "null", "null", true⟩

/-- The layout of numbers quoted in messages. -/
def plain : NumberLayout := ⟨none, none, false, "NaN", "inf", false⟩

/-- Whether the point position is written positionally. -/
def positional (l : NumberLayout) (kk : Int) : Bool :=
  (match l.pointMax with
    | some hi => kk ≤ hi
    | none => true) &&
  (match l.pointMin with
    | some lo => lo ≤ kk
    | none => true)

/-- `n` zeros. -/
def zeros (n : Nat) : String := String.ofList (List.replicate n '0')

/-- The digits `ds` (no trailing zero) with decimal exponent `e`, laid out. -/
def layDigits (l : NumberLayout) (ds : String) (e : Int) : String :=
  let n : Int := ds.length
  let kk := n + e
  if l.positional kk then
    if 0 ≤ e then ds ++ zeros e.toNat ++ (if l.pointZero then ".0" else "")
    else if 0 < kk then
      String.ofList (ds.toList.take kk.toNat) ++ "." ++ String.ofList (ds.toList.drop kk.toNat)
    else "0." ++ zeros (-kk).toNat ++ ds
  else
    let mantissa :=
      if ds.length = 1 then ds
      else String.ofList (ds.toList.take 1) ++ "." ++ String.ofList (ds.toList.drop 1)
    let exp := kk - 1
    mantissa ++ "e" ++ (if l.plusExponent && 0 ≤ exp then "+" else "") ++ toString exp

/-- Writes a double. -/
def render (l : NumberLayout) (f : Float) : String :=
  if f.isNaN then l.nanText
  else if f.isInf then (if f < 0 then "-" else "") ++ l.infText
  else
    let b := Binary.ofFloat f
    let sign := if b.negative then "-" else ""
    let d := b.shortest
    if d.digits = 0 then sign ++ (if l.pointZero then "0.0" else "0")
    else sign ++ l.layDigits d.digitText d.exponent

end NumberLayout

end Flowline
