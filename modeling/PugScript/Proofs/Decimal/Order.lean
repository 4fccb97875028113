import Mathlib
import PugScript.Value

/-!
# The order of doubles

Two doubles other than NaN are comparable. If neither is below the other, they are the same number
up to the sign of a zero, and their difference is a zero and so within the tolerance of equality,
unless both are the same infinity. The doubles nearest to whole numbers of 64 bits are finite.
-/

namespace PugScript.Decimal

open Float.Model Float.Model.UnpackedFloat

/-! ## Comparison -/

theorem exists_compare_eq_some
    {x y : UnpackedFloat} (xNumber : x.isNaN = false) (yNumber : y.isNaN = false) :
    ∃ order, x.compare y = some order := by
  fun_cases UnpackedFloat.compare x y
  case case1 => cases xNumber
  case case2 => cases yNumber
  all_goals exact ⟨_, rfl⟩

theorem compare_eq_map_swap (x y : UnpackedFloat) :
    y.compare x = (x.compare y).map Ordering.swap := by
  cases x with
  | notANumber => cases y <;> rfl
  | infinity sign =>
    cases y with
    | infinity other => cases sign <;> cases other <;> rfl
    | notANumber => rfl
    | zero => cases sign <;> rfl
    | finite => cases sign <;> rfl
  | zero =>
    cases y with
    | infinity other => cases other <;> rfl
    | notANumber => rfl
    | zero => rfl
    | finite other => cases other <;> rfl
  | finite sign mantissa exponent =>
    cases y with
    | infinity other => cases other <;> rfl
    | notANumber => rfl
    | zero => cases sign <;> rfl
    | finite other otherMantissa otherExponent =>
      cases sign <;> cases other <;>
        simp [UnpackedFloat.compare, Ordering.swap_then, Int.compare_swap, Nat.compare_swap]

/-- A comparison in dictionary order finds no difference only between equal parts. -/
theorem eq_of_compare_then_compare
    {exponent otherExponent : Int} {mantissa otherMantissa : Nat}
    (same : (compare exponent otherExponent).then (compare mantissa otherMantissa) = .eq) :
    exponent = otherExponent ∧ mantissa = otherMantissa := by
  rw [Ordering.then_eq_eq, Int.compare_eq_eq, Nat.compare_eq_eq] at same
  exact same

/-- Subtraction is exact where the result is zero. -/
theorem sub_self_of_finite
    (sign : Sign) (mantissa : Nat) (exponent : Int) (pos otherPos : 0 < mantissa) :
    UnpackedFloat.sub Format.binary64 (.finite sign mantissa exponent pos)
      (.finite sign mantissa exponent otherPos) = .zero .positive := by
  simp [UnpackedFloat.sub, UnpackedFloat.normalize]

/-- Numbers of which neither is below the other are the same infinity, or differ by a zero. -/
theorem both_infinite_or_sub_eq_zero {x y : UnpackedFloat} (same : x.compare y = some .eq) :
    (∃ sign, x = .infinity sign ∧ y = .infinity sign) ∨
      ∃ sign, UnpackedFloat.sub Format.binary64 x y = .zero sign := by
  cases x with
  | notANumber => cases same
  | infinity sign =>
    cases y with
    | infinity other =>
      left
      cases sign <;> cases other
      · exact ⟨.negative, rfl, rfl⟩
      · cases same
      · cases same
      · exact ⟨.positive, rfl, rfl⟩
    | notANumber => cases same
    | zero => cases sign <;> cases same
    | finite => cases sign <;> cases same
  | zero sign =>
    cases y with
    | infinity other => cases other <;> cases same
    | notANumber => cases same
    | zero other =>
      right
      cases sign <;> cases other <;> exact ⟨_, rfl⟩
    | finite other => cases other <;> cases same
  | finite sign mantissa exponent pos =>
    cases y with
    | infinity other => cases other <;> cases same
    | notANumber => cases same
    | zero => cases sign <;> cases same
    | finite other otherMantissa otherExponent otherPos =>
      right
      cases sign <;> cases other
      · have unswapped := congrArg Ordering.swap (Option.some.inj same)
        rw [Ordering.swap_swap] at unswapped
        obtain ⟨rfl, rfl⟩ := eq_of_compare_then_compare unswapped
        exact ⟨_, sub_self_of_finite .negative mantissa exponent pos otherPos⟩
      · cases same
      · cases same
      · obtain ⟨rfl, rfl⟩ := eq_of_compare_then_compare (Option.some.inj same)
        exact ⟨_, sub_self_of_finite .positive mantissa exponent pos otherPos⟩

/-- The order of doubles is the comparison of their parts. -/
theorem lt_iff_compare_eq {x y : Float} :
    x < y ↔ x.toModel.unpack.compare y.toModel.unpack = some .lt := by
  change decide (x.toModel.unpack.lt y.toModel.unpack = true) = true ↔ _
  rw [decide_eq_true_iff]
  exact beq_iff_eq

/-! ## Bits -/

theorem toBitVec_ofBitVec (bit : BitVec 1) : (Sign.ofBitVec bit).toBitVec = bit := by
  revert bit
  decide

/-- Taking the bits of a double apart and putting them together changes nothing. -/
theorem packComponents_unpack (bits : BitVec Format.binary64.numBits) :
    packComponents Format.binary64 (Sign.ofBitVec (unpackSign bits)) (unpackExponent bits)
      (unpackMantissa bits) = bits := by
  simp only [packComponents, toBitVec_ofBitVec, unpackSign, unpackExponent, unpackMantissa,
    BitVec.extractLsb]
  ext index inRange
  grind

/-- Only one pattern of bits stands for an infinity. -/
theorem eq_packedInfinity_of_unpack
    {bits : BitVec Format.binary64.numBits} {sign : Sign}
    (infinite : UnpackedFloat.unpack Format.binary64 bits = .infinity sign) :
    bits = packedInfinity Format.binary64 sign := by
  unfold UnpackedFloat.unpack at infinite
  dsimp only at infinite
  split at infinite
  · next allOnes =>
    split at infinite
    · next noMantissa =>
      cases infinite
      have parts := packComponents_unpack bits
      rw [allOnes, noMantissa] at parts
      exact parts.symm
    · cases infinite
  · split at infinite
    · split at infinite
      · cases infinite
      · cases infinite
    · cases infinite

theorem eq_of_unpack_eq_infinity {x y : Float} {sign : Sign}
    (xInfinite : x.toModel.unpack = .infinity sign)
    (yInfinite : y.toModel.unpack = .infinity sign) : x = y := by
  obtain ⟨⟨xBits, xValid⟩⟩ := x
  obtain ⟨⟨yBits, yValid⟩⟩ := y
  have sameBits : xBits.toBitVec = yBits.toBitVec :=
    (eq_packedInfinity_of_unpack xInfinite).trans (eq_packedInfinity_of_unpack yInfinite).symm
  obtain rfl := UInt64.toBitVec_inj.mp sameBits
  rfl

/-- A zero is within the tolerance. -/
theorem abs_zero_lt_equalityTolerance {x : Float} {sign : Sign}
    (isZero : x.toModel = Float.Model.pack (.zero sign)) : x.abs < equalityTolerance := by
  obtain ⟨model⟩ := x
  subst isZero
  cases sign <;> decide

/-- Of two doubles other than NaN, one is below the other or they are equal within the tolerance,
unless they are the same infinity. -/
theorem lt_or_gt_or_close {x y : Float} (xNumber : x.isNaN = false) (yNumber : y.isNaN = false)
    (notInfinite : ¬ (x.isInf = true ∧ x = y)) :
    x < y ∨ y < x ∨ (x - y).abs < equalityTolerance := by
  obtain ⟨order, compared⟩ := exists_compare_eq_some xNumber yNumber
  cases order with
  | lt => exact .inl (lt_iff_compare_eq.mpr compared)
  | gt =>
    have swapped := compare_eq_map_swap x.toModel.unpack y.toModel.unpack
    rw [compared] at swapped
    exact .inr (.inl (lt_iff_compare_eq.mpr swapped))
  | eq =>
    right
    right
    obtain ⟨sign, xInfinite, yInfinite⟩ | ⟨sign, difference⟩ :=
      both_infinite_or_sub_eq_zero compared
    · have infinite : x.isInf = true := by
        change x.toModel.unpack.isInf = true
        rw [xInfinite]
        rfl
      exact absurd ⟨infinite, eq_of_unpack_eq_infinity xInfinite yInfinite⟩ notInfinite
    · exact abs_zero_lt_equalityTolerance (congrArg Float.Model.pack difference)

/-! ## Finite doubles -/

/-- The exponent of a number is small enough to be packed. -/
def IsPackable : UnpackedFloat → Prop
  | .zero _ => True
  | .finite _ _ exponent _ => exponent ≤ 971
  | _ => False

theorem isPackable_of_unpackExponent_ne
    {bits : BitVec Format.binary64.numBits} (notAllOnes : unpackExponent bits ≠ -1#11) :
    IsPackable (UnpackedFloat.unpack Format.binary64 bits) := by
  have below : (unpackExponent bits).toNat ≤ 2046 := by
    have bounded := (unpackExponent bits).isLt
    have different : (unpackExponent bits).toNat ≠ 2047 :=
      fun same => notAllOnes (BitVec.eq_of_toNat_eq same)
    change (unpackExponent bits).toNat < 2048 at bounded
    omega
  have bias : (Format.binary64.exponentBias : Int) = 1023 := rfl
  unfold UnpackedFloat.unpack
  dsimp only
  rw [if_neg notAllOnes]
  split
  · next noExponent =>
    split
    · trivial
    · change _ ≤ _
      rw [noExponent, bias]
      decide
  · change _ ≤ _
    rw [bias]
    omega

theorem isPackable_of_isFinite {x : Float} (finite : x.isFinite = true) :
    IsPackable x.toModel.unpack := by
  apply isPackable_of_unpackExponent_ne
  intro allOnes
  change (UnpackedFloat.unpack Format.binary64 x.toModel.toBits.toBitVec).isFinite = true at finite
  unfold UnpackedFloat.unpack at finite
  dsimp only at finite
  rw [if_pos allOnes] at finite
  split at finite
  · cases finite
  · cases finite

theorem unpackExponent_pack_ne {x : UnpackedFloat} (packable : IsPackable x) :
    unpackExponent (UnpackedFloat.pack Format.binary64 x) ≠ -1#11 := by
  unfold UnpackedFloat.pack
  split
  · exact packable.elim
  · exact packable.elim
  · rw [packedZero, unpackExponent_packComponents]
    decide
  · next exponent _ =>
    have bias : (Format.binary64.exponentBias : Int) = 1023 := rfl
    have exponentSmall : exponent ≤ 971 := packable
    dsimp only
    rw [bias]
    split
    · omega
    split
    · rw [unpackExponent_packComponents]
      intro same
      have naturals := congrArg BitVec.toNat same
      rw [BitVec.toNat_ofNat] at naturals
      change _ = 2047 at naturals
      omega
    · rw [unpackExponent_packComponents]
      decide

theorem isFinite_of_isPackable {x : UnpackedFloat} (packable : IsPackable x) :
    (Float.ofModel (Float.Model.pack x)).isFinite = true := by
  have fits := isPackable_of_unpackExponent_ne (unpackExponent_pack_ne packable)
  change (UnpackedFloat.unpack Format.binary64
    (UnpackedFloat.pack Format.binary64 x)).isFinite = true
  revert fits
  cases UnpackedFloat.unpack Format.binary64 (UnpackedFloat.pack Format.binary64 x) with
  | notANumber => exact False.elim
  | infinity => exact False.elim
  | zero => exact fun _ => rfl
  | finite => exact fun _ => rfl

theorem isFinite_neg {x : Float} (finite : x.isFinite = true) : (-x).isFinite = true := by
  apply isFinite_of_isPackable
  have packable := isPackable_of_isFinite finite
  revert packable
  cases x.toModel.unpack with
  | notANumber => exact id
  | infinity => exact id
  | zero => exact id
  | finite => exact id

theorem isFinite_ofBits {bits : UInt64} (small : bits.toNat < infinityBits) :
    (Float.ofBits bits).isFinite = true := by
  apply isFinite_of_isPackable
  apply isPackable_of_unpackExponent_ne
  intro same
  have naturals := congrArg BitVec.toNat same
  change bits.toNat >>> 52 % 2 ^ 11 = 2047 at naturals
  rw [Nat.shiftRight_eq_div_pow] at naturals
  unfold infinityBits at small
  omega

theorem isNaN_of_isFinite {x : Float} (finite : x.isFinite = true) : x.isNaN = false := by
  change x.toModel.unpack.isFinite = true at finite
  change x.toModel.unpack.isNaN = false
  revert finite
  cases x.toModel.unpack with
  | notANumber => exact nofun
  | _ => exact fun _ => rfl

theorem isInf_of_isFinite {x : Float} (finite : x.isFinite = true) : x.isInf = false := by
  change x.toModel.unpack.isFinite = true at finite
  change x.toModel.unpack.isInf = false
  revert finite
  cases x.toModel.unpack with
  | infinity => exact nofun
  | _ => exact fun _ => rfl

/-! ## Whole numbers -/

/-- Rounding goes up by at most one. -/
theorem roundQuotient_le (numerator denominator : Nat) :
    roundQuotient numerator denominator ≤ numerator / denominator + 1 := by
  unfold roundQuotient
  dsimp only
  split
  · omega
  split
  · omega
  split
  · omega
  · omega

/-- A whole number scaled to 53 binary digits. -/
theorem scaled_lt (number : Nat) :
    number * twoTo (52 - number.log2) / twoTo (number.log2 - 52) < twoTo 53 := by
  apply Nat.div_lt_of_lt_mul
  calc number * twoTo (52 - number.log2)
      < twoTo (number.log2 + 1) * twoTo (52 - number.log2) :=
        Nat.mul_lt_mul_of_pos_right Nat.lt_log2_self (Nat.two_pow_pos _)
    _ = twoTo (number.log2 + 1 + (52 - number.log2)) := (Nat.pow_add 2 _ _).symm
    _ = twoTo (number.log2 - 52 + 53) := by
        congr 1
        omega
    _ = twoTo (number.log2 - 52) * twoTo 53 := Nat.pow_add 2 _ _

theorem nearestBits_one_lt {number : Nat} (pos : 0 < number) (small : number.log2 < 64) :
    nearestBits number 1 < infinityBits := by
  have logOne : Nat.log2 1 = 0 := by decide
  have rounded := roundQuotient_le (number * twoTo (52 - number.log2))
    (1 * twoTo (number.log2 - 52))
  have scaled := scaled_lt number
  have reached : 1 * twoTo number.log2 ≤ number * twoTo 0 := by
    rw [Nat.one_mul, show twoTo 0 = 1 from rfl, Nat.mul_one]
    exact Nat.log2_self_le pos.ne'
  have unitEq : max ((number.log2 : Int) - 52) (-1074) = number.log2 - 52 := by omega
  have down : (-((number.log2 : Int) - 52)).toNat = 52 - number.log2 := by omega
  have up : ((number.log2 : Int) - 52).toNat = number.log2 - 52 := by omega
  unfold nearestBits
  simp only [logOne, Nat.cast_zero, sub_zero, Int.toNat_natCast, Int.toNat_neg_natCast, reached,
    if_true, unitEq, down, up]
  rw [Nat.one_mul] at rounded ⊢
  generalize roundQuotient _ _ = significand at rounded ⊢
  have significandLe : significand ≤ twoTo 53 := by omega
  have fieldLe : ((number.log2 : Int) - 52 + 1075).toNat ≤ 1086 := by omega
  split
  · next subnormal => exact subnormal.trans (by decide)
  · calc min infinityBits (((number.log2 : Int) - 52 + 1075).toNat * twoTo 52 +
          (significand - twoTo 52))
        ≤ ((number.log2 : Int) - 52 + 1075).toNat * twoTo 52 + (significand - twoTo 52) :=
          Nat.min_le_right _ _
      _ ≤ 1086 * twoTo 52 + twoTo 53 :=
          Nat.add_le_add (Nat.mul_le_mul_right _ fieldLe)
            ((Nat.sub_le _ _).trans significandLe)
      _ < infinityBits := by decide

/-- The double nearest to a whole number of 64 bits is finite. -/
theorem wholeFloat_isFinite (number : Int64) : (wholeFloat number).isFinite = true := by
  have magnitude : (if (number.toInt.natAbs == 0) = true then 0.0
      else Float.ofBits (UInt64.ofNat (nearestBits number.toInt.natAbs 1))).isFinite = true := by
    split
    · decide
    · next nonzero =>
      apply isFinite_ofBits
      have small : number.toInt.natAbs < 2 ^ 64 := by
        have atLeast := number.le_toInt
        have atMost := number.toInt_lt
        omega
      have positive : 0 < number.toInt.natAbs := by
        simpa [Nat.pos_iff_ne_zero] using nonzero
      have bounded := nearestBits_one_lt positive ((Nat.log2_lt positive.ne').mpr small)
      rwa [UInt64.toNat_ofNat_of_lt']
      exact bounded.trans (by decide)
  unfold wholeFloat nearestFloat
  dsimp only
  split
  · exact isFinite_neg magnitude
  · exact magnitude

end PugScript.Decimal
