import PugScript.Decimal.Binary

/-!
# The shortest decimal of a double

The reals that round to a double form an interval that reaches halfway to each neighbour and
holds its ends exactly when the significand is even. Among the decimals in it the shortest are
taken, of those the nearest to the double, and an exact tie is decided by the caller's rule.
-/

namespace PugScript.Decimal

/-- The decimal `digits * 10 ^ exponent`. -/
structure Digits where
  digits : Nat
  exponent : Int
  deriving DecidableEq, Repr

/-- What to do when two decimals are equally near. -/
inductive Tie where
  | up
  | toEven
  deriving DecidableEq, Repr

/-- Compares `count * 10 ^ tens` with `units * 2 ^ twos`. -/
def compareScaled (count : Nat) (tens : Int) (units : Nat) (twos : Int) : Ordering :=
  compare (count * tenTo tens.toNat * twoTo (-twos).toNat)
    (units * twoTo twos.toNat * tenTo (-tens).toNat)

/-- The decimal lies among the reals that round to the double. -/
def Binary.readsBack (x : Binary) (decimal : Digits) : Bool :=
  let below := if x.narrowBelow then 4 * x.significand - 1 else 4 * x.significand - 2
  let above := 4 * x.significand + 2
  let closed := x.significand % 2 == 0
  let low := compareScaled decimal.digits decimal.exponent below (x.exponent - 2)
  let high := compareScaled decimal.digits decimal.exponent above (x.exponent - 2)
  (low == .gt || (closed && low == .eq)) && (high == .lt || (closed && high == .eq))

/-- The least power of ten above a positive double. -/
def Binary.scale (x : Binary) : Int :=
  let estimate := ((x.significand.log2 : Int) + x.exponent) * 30103 / 100000
  let above (power : Int) : Bool :=
    compareScaled 1 power x.significand x.exponent == .gt
  if above (estimate - 1) then estimate - 1
  else if above estimate then estimate
  else if above (estimate + 1) then estimate + 1
  else estimate + 2

/-- The greatest multiple of `10 ^ power` that does not exceed the double, counted in that unit. -/
def Binary.floorAt (x : Binary) (power : Int) : Nat :=
  x.numerator * tenTo (-power).toNat / (x.denominator * tenTo power.toNat)

/-- The better of the two neighbours of the double on the grid of `10 ^ power`, if one reads
back. -/
def Binary.onGrid? (tie : Tie) (x : Binary) (power : Int) : Option Digits :=
  let lower := x.floorAt power
  let lowerReadsBack := x.readsBack ⟨lower, power⟩
  let upperReadsBack := x.readsBack ⟨lower + 1, power⟩
  if lowerReadsBack && upperReadsBack then
    match compareScaled (2 * lower + 1) power (2 * x.significand) x.exponent with
    | .gt => some ⟨lower, power⟩
    | .lt => some ⟨lower + 1, power⟩
    | .eq =>
      match tie with
      | .up => some ⟨lower + 1, power⟩
      | .toEven => some ⟨if lower % 2 == 0 then lower else lower + 1, power⟩
  else if lowerReadsBack then some ⟨lower, power⟩
  else if upperReadsBack then some ⟨lower + 1, power⟩
  else none

/-- The double written out in full. -/
def Binary.exact (x : Binary) : Digits :=
  if 0 ≤ x.exponent then ⟨x.significand * twoTo x.exponent.toNat, 0⟩
  else ⟨x.significand * Nat.pow 5 (-x.exponent).toNat, x.exponent⟩

/-- The same decimal without zeros at the end of its digits. -/
def stripZeros (digits : Nat) (exponent : Int) : Digits :=
  if h : 0 < digits ∧ digits % 10 = 0 then stripZeros (digits / 10) (exponent + 1)
  else ⟨digits, exponent⟩
termination_by digits
decreasing_by omega

/-- The shortest decimal that reads back as the positive double, the nearest one of that length. -/
def Binary.shortest (tie : Tie) (x : Binary) : Digits :=
  let scale := x.scale
  let found := (List.range 17).findSome? fun count => x.onGrid? tie (scale - (count + 1 : Nat))
  let decimal := found.getD x.exact
  stripZeros decimal.digits decimal.exponent

end PugScript.Decimal
