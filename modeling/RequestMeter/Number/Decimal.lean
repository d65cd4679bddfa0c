/-
Decimals and the two ways to write them.

A decimal is a coefficient and a power of ten.  Positional notation puts the point where it
belongs and always shows one; scientific notation puts it behind the first digit and leaves
it out where no digit follows.
-/

namespace RequestMeter

/-- The number `coefficient * 10 ^ exponent`. -/
structure Decimal where
  coefficient : Nat
  exponent : Int
deriving DecidableEq, Inhabited

namespace Decimal

/-- The exact value. -/
def toRat (d : Decimal) : Rat := d.coefficient * (10 : Rat) ^ d.exponent

/-- The digits of the coefficient, the first one leading. -/
def digits (d : Decimal) : List Char := Nat.toDigits 10 d.coefficient

/-- How many digits stand before the point; none or less for a number below one tenth. -/
def point (d : Decimal) : Int := d.digits.length + d.exponent

/-- The digits with the point in its place: `150.0`, `1.5`, `0.0015`. -/
def positional (d : Decimal) : List Char :=
  let zeros (n : Int) := List.replicate n.toNat '0'
  if 0 ≤ d.exponent then
    d.digits ++ zeros d.exponent ++ ['.', '0']
  else if 0 < d.point then
    d.digits.take d.point.toNat ++ '.' :: d.digits.drop d.point.toNat
  else
    '0' :: '.' :: zeros (-d.point) ++ d.digits

/-- One digit, the others behind the point, and the power of ten with its sign: `1.5e+20`. -/
def scientific (d : Decimal) : List Char :=
  let fraction := match d.digits.drop 1 with
    | [] => []
    | ds => '.' :: ds
  let power := d.point - 1
  let sign := if 0 ≤ power then '+' else '-'
  d.digits.take 1 ++ fraction ++ 'e' :: sign :: Nat.toDigits 10 power.natAbs

example : (Decimal.mk 15 1).positional = "150.0".toList := by decide

example : (Decimal.mk 15 (-1)).positional = "1.5".toList := by decide

example : (Decimal.mk 15 (-4)).positional = "0.0015".toList := by decide

example : (Decimal.mk 15 19).scientific = "1.5e+20".toList := by decide

example : (Decimal.mk 1 (-7)).scientific = "1e-7".toList := by decide

end Decimal

/-- Which decimals are written positionally: those whose point lies within these bounds. -/
structure DecimalLayout where
  leastPoint : Int
  greatestPoint : Int
deriving DecidableEq

/-- A decimal in the notation its layout asks for. -/
def Decimal.written (layout : DecimalLayout) (d : Decimal) : List Char :=
  if layout.leastPoint ≤ d.point ∧ d.point ≤ layout.greatestPoint then d.positional
  else d.scientific

end RequestMeter
