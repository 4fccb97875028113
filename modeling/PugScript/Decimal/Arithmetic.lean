import PugScript.Decimal.Binary

/-!
# Arithmetic of doubles

The operations that the processor's basic ones do not give directly.
-/

namespace PugScript.Decimal

/-- Doubles from here on are whole numbers. -/
def wholeFrom : Float := 4503599627370496.0

/-- The nearest whole number, a half going to the even neighbour; the sign is kept, also of zero. -/
def roundToEven (x : Float) : Float :=
  let magnitude := x.abs
  if magnitude < wholeFrom then
    let rounded := (magnitude + wholeFrom) - wholeFrom
    if isNegative x then -rounded else rounded
  else x

/-- The remainder of a division that truncates; it has the sign of the dividend and is exact. -/
def remainder (x y : Float) : Float :=
  if x.isNaN || y.isNaN || x.isInf || y == 0.0 then 0.0 / 0.0
  else if y.isInf || x == 0.0 then x
  else
    let dividend := Binary.ofFloat x
    let divisor := Binary.ofFloat y
    let unit := min dividend.exponent divisor.exponent
    let units :=
      dividend.significand * twoTo (dividend.exponent - unit).toNat %
        (divisor.significand * twoTo (divisor.exponent - unit).toNat)
    nearestFloat (isNegative x) (units * twoTo unit.toNat) (twoTo (-unit).toNat)

/-- The smaller of two doubles; a NaN gives way to the other operand. -/
def least (x y : Float) : Float :=
  if x.isNaN then y else if y < x then y else x

/-- The greater of two doubles; a NaN gives way to the other operand. -/
def greatest (x y : Float) : Float :=
  if x.isNaN then y else if x < y then y else x

end PugScript.Decimal
