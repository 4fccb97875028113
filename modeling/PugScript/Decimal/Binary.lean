import PugScript.Decimal.Power

/-!
# Doubles as exact binary fractions

A finite double is a whole number of binary units; `Binary` names that number and the unit. In the
other direction a fraction of naturals is rounded to the nearest double, a half going to the even
neighbour. Both directions are exact arithmetic on natural numbers.
-/

namespace PugScript.Decimal

/-- A finite double without its sign: `significand * 2 ^ exponent`. -/
structure Binary where
  significand : Nat
  exponent : Int
  /-- The neighbour below is half as far away as the neighbour above. -/
  narrowBelow : Bool

/-- The sign bit is set; this tells negative zero from zero. -/
def isNegative (x : Float) : Bool :=
  x.toBits >>> 63 == 1

/-- The magnitude of a finite double. -/
def Binary.ofFloat (x : Float) : Binary :=
  let biased := ((x.toBits >>> 52) &&& 0x7FF).toNat
  let fraction := (x.toBits &&& 0xFFFFFFFFFFFFF).toNat
  if biased == 0 then
    ⟨fraction, -1074, false⟩
  else
    ⟨twoTo 52 + fraction, (biased : Int) - 1075, fraction == 0 && 1 < biased⟩

/-- The numerator of `significand * 2 ^ exponent` over `Binary.denominator`. -/
def Binary.numerator (x : Binary) : Nat :=
  x.significand * twoTo x.exponent.toNat

/-- The power of two that `Binary.numerator` is over. -/
def Binary.denominator (x : Binary) : Nat :=
  twoTo (-x.exponent).toNat

/-- The quotient rounded to the nearest natural number, a half going to the even neighbour. -/
def roundQuotient (numerator denominator : Nat) : Nat :=
  let quotient := numerator / denominator
  let remainder := numerator % denominator
  if 2 * remainder < denominator then quotient
  else if denominator < 2 * remainder then quotient + 1
  else if quotient % 2 == 0 then quotient
  else quotient + 1

def infinityBits : Nat := 0x7FF0000000000000

/-- The bits of the double nearest to a positive fraction, a half going to the even neighbour. -/
def nearestBits (numerator denominator : Nat) : Nat :=
  let estimate : Int := (numerator.log2 : Int) - denominator.log2
  let magnitude :=
    if denominator * twoTo estimate.toNat ≤ numerator * twoTo (-estimate).toNat then estimate
    else estimate - 1
  let unit := max (magnitude - 52) (-1074)
  let significand :=
    roundQuotient (numerator * twoTo (-unit).toNat) (denominator * twoTo unit.toNat)
  if significand < twoTo 52 then significand
  else min infinityBits ((unit + 1075).toNat * twoTo 52 + (significand - twoTo 52))

/-- The double nearest to a fraction, with the given sign. -/
def nearestFloat (negative : Bool) (numerator denominator : Nat) : Float :=
  let magnitude :=
    if numerator == 0 then 0.0
    else Float.ofBits (UInt64.ofNat (nearestBits numerator denominator))
  if negative then -magnitude else magnitude

def wholeFloat (number : Int64) : Float :=
  nearestFloat (number.toInt < 0) number.toInt.natAbs 1

end PugScript.Decimal
