import Mathlib.Data.Nat.Digits.Defs
import Mathlib.Tactic.NormNum
import PugScript.Value

/-!
# How long the text of a number is

A double has at most 53 binary digits and a bounded exponent, so the decimals that are tried for it
have a bounded number of digits, too, and their text is far shorter than the longest string. The
bounds here are generous; what matters is that there are some.
-/

namespace PugScript.Decimal

/-! ## Powers -/

theorem tenTo_le_tenTo {few many : Nat} (fewer : few ≤ many) : tenTo few ≤ tenTo many :=
  Nat.pow_le_pow_right (by decide) fewer

theorem twoTo_le_tenTo {few many : Nat} (fewer : few ≤ many) : twoTo few ≤ tenTo many :=
  calc twoTo few ≤ tenTo few := Nat.pow_le_pow_left (by decide) few
    _ ≤ tenTo many := tenTo_le_tenTo fewer

theorem tenTo_add (first second : Nat) : tenTo (first + second) = tenTo first * tenTo second :=
  Nat.pow_add 10 first second

theorem tenTo_pos (exponent : Nat) : 0 < tenTo exponent :=
  Nat.pow_pos (by decide)

theorem tenTo_lt_tenTo {few many : Nat} (fewer : few < many) : tenTo few < tenTo many :=
  Nat.pow_lt_pow_right (by decide) fewer

/-! ## Doubles -/

/-- The parts of a double have at most their proper numbers of bits. -/
structure Binary.IsDouble (x : Binary) : Prop where
  significand_lt : x.significand < twoTo 53
  exponent_ge : -1074 ≤ x.exponent
  exponent_le : x.exponent ≤ 972

theorem Binary.ofFloat_isDouble (number : Float) : (Binary.ofFloat number).IsDouble := by
  have biased : ((number.toBits >>> 52) &&& 0x7FF).toNat ≤ 2047 := by
    rw [UInt64.toNat_and]
    exact Nat.and_le_right
  have fraction : (number.toBits &&& 0xFFFFFFFFFFFFF).toNat < twoTo 52 := by
    rw [UInt64.toNat_and]
    exact Nat.lt_of_le_of_lt Nat.and_le_right (by decide)
  have doubled : twoTo 53 = twoTo 52 + twoTo 52 := by decide
  rw [Binary.ofFloat]
  generalize ((number.toBits >>> 52) &&& 0x7FF).toNat = exponent at biased
  generalize (number.toBits &&& 0xFFFFFFFFFFFFF).toNat = bits at fraction
  by_cases subnormal : (exponent == 0) = true
  · rw [if_pos subnormal]
    constructor <;> dsimp only <;> omega
  · have normal : exponent ≠ 0 := by simpa using subnormal
    rw [if_neg subnormal]
    constructor <;> dsimp only <;> omega

namespace Binary.IsDouble

variable {x : Binary} (isDouble : x.IsDouble)

include isDouble

theorem numerator_le : x.numerator ≤ tenTo 1025 := by
  have few : x.exponent.toNat ≤ 972 := by
    have atMost := isDouble.exponent_le
    omega
  calc x.numerator ≤ tenTo 53 * tenTo 972 :=
        Nat.mul_le_mul (isDouble.significand_lt.le.trans (twoTo_le_tenTo (Nat.le_refl 53)))
          (twoTo_le_tenTo few)
    _ = tenTo 1025 := (tenTo_add 53 972).symm

theorem log2_le : x.significand.log2 ≤ 52 := by
  by_cases isZero : x.significand = 0
  · simp [isZero]
  · exact Nat.le_of_lt_succ ((Nat.log2_lt isZero).mpr isDouble.significand_lt)

/-- The scale of a double stays near those of the greatest and of the least double. -/
theorem scale_bounds : -326 ≤ x.scale ∧ x.scale ≤ 312 := by
  have log2 := isDouble.log2_le
  have atLeast := isDouble.exponent_ge
  have atMost := isDouble.exponent_le
  unfold Binary.scale
  dsimp only
  split
  · omega
  split
  · omega
  split
  · omega
  · omega

end Binary.IsDouble

/-! ## Decimals -/

/-- A decimal with fewer than 1400 digits and an exponent in the range of doubles. -/
structure Digits.IsModerate (decimal : Digits) : Prop where
  digits_lt : decimal.digits < tenTo 1400
  exponent_ge : -1100 ≤ decimal.exponent
  exponent_le : decimal.exponent ≤ 400

/-- Written out in full, a double has a moderate number of digits. -/
theorem Binary.IsDouble.exact_isModerate {x : Binary} (isDouble : x.IsDouble) :
    x.exact.IsModerate := by
  have atLeast := isDouble.exponent_ge
  have atMost := isDouble.exponent_le
  unfold Binary.exact
  split
  · refine ⟨?_, by simp, by simp⟩
    exact isDouble.numerator_le.trans_lt (tenTo_lt_tenTo (by decide))
  · refine ⟨?_, by dsimp only; omega, by dsimp only; omega⟩
    have fives : Nat.pow 5 (-x.exponent).toNat ≤ tenTo 1074 :=
      calc Nat.pow 5 (-x.exponent).toNat ≤ tenTo (-x.exponent).toNat :=
            Nat.pow_le_pow_left (by decide) _
        _ ≤ tenTo 1074 := tenTo_le_tenTo (by omega)
    calc x.significand * Nat.pow 5 (-x.exponent).toNat ≤ tenTo 53 * tenTo 1074 :=
          Nat.mul_le_mul (isDouble.significand_lt.le.trans (twoTo_le_tenTo (Nat.le_refl 53))) fives
      _ = tenTo 1127 := (tenTo_add 53 1074).symm
      _ < tenTo 1400 := tenTo_lt_tenTo (by decide)

theorem Binary.IsDouble.floorAt_lt
    {x : Binary} (isDouble : x.IsDouble) {power : Int} (atLeast : -350 ≤ power) :
    x.floorAt power + 1 < tenTo 1400 := by
  have tens : tenTo (-power).toNat ≤ tenTo 350 := tenTo_le_tenTo (by omega)
  have floor : x.floorAt power ≤ tenTo 1375 :=
    calc x.floorAt power ≤ x.numerator * tenTo (-power).toNat := Nat.div_le_self _ _
      _ ≤ tenTo 1025 * tenTo 350 := Nat.mul_le_mul isDouble.numerator_le tens
      _ = tenTo 1375 := (tenTo_add 1025 350).symm
  have room : tenTo 1375 < tenTo 1376 := tenTo_lt_tenTo (by decide)
  have wider : tenTo 1376 < tenTo 1400 := tenTo_lt_tenTo (by decide)
  omega

/-- A decimal that is found near a double is moderate as well. -/
theorem Binary.IsDouble.onGrid?_isModerate
    {x : Binary} (isDouble : x.IsDouble) {tie : Tie} {power : Int} (atLeast : -350 ≤ power)
    (atMost : power ≤ 400) {decimal : Digits} (found : x.onGrid? tie power = some decimal) :
    decimal.IsModerate := by
  have floor := isDouble.floorAt_lt atLeast
  have onGrid : decimal.exponent = power ∧ decimal.digits ≤ x.floorAt power + 1 := by
    unfold Binary.onGrid? at found
    dsimp only at found
    split at found
    · split at found
      · cases found
        simp
      · cases found
        simp
      · split at found
        · cases found
          simp
        · cases found
          refine ⟨rfl, ?_⟩
          dsimp only
          split <;> omega
    split at found
    · cases found
      simp
    split at found
    · cases found
      simp
    · cases found
  obtain ⟨rfl, digits⟩ := onGrid
  exact ⟨digits.trans_lt floor, by omega, atMost⟩

/-- Zeros at the end of the digits go into the exponent. -/
theorem exists_stripZeros (digits : Nat) (exponent : Int) :
    ∃ count : Nat, (stripZeros digits exponent).exponent = exponent + count ∧
      (stripZeros digits exponent).digits * tenTo count = digits := by
  fun_induction stripZeros digits exponent with
  | case1 digits exponent zeros inductionHypothesis =>
      obtain ⟨count, exponents, quotient⟩ := inductionHypothesis
      refine ⟨count + 1, by omega, ?_⟩
      calc _ = (stripZeros (digits / 10) (exponent + 1)).digits * tenTo count * 10 := by
            rw [tenTo_add, ← Nat.mul_assoc]
            rfl
        _ = digits := by omega
  | case2 digits exponent _ => exact ⟨0, by simp, Nat.mul_one digits⟩

theorem stripZeros_bounds {decimal : Digits} (moderate : decimal.IsModerate) :
    (stripZeros decimal.digits decimal.exponent).digits < tenTo 1400 ∧
      -1100 ≤ (stripZeros decimal.digits decimal.exponent).exponent ∧
      (stripZeros decimal.digits decimal.exponent).exponent ≤ 1800 := by
  obtain ⟨digits_lt, exponent_ge, exponent_le⟩ := moderate
  by_cases isZero : decimal.digits = 0
  · rw [stripZeros, dif_neg (by omega)]
    exact ⟨digits_lt, exponent_ge, by dsimp only; omega⟩
  obtain ⟨count, exponents, product⟩ := exists_stripZeros decimal.digits decimal.exponent
  generalize stripZeros decimal.digits decimal.exponent = stripped at exponents product
  have nonzero : 0 < stripped.digits := by
    rcases Nat.eq_zero_or_pos stripped.digits with zero | positive
    · rw [zero, Nat.zero_mul] at product
      exact absurd product.symm isZero
    · exact positive
  have fewer : stripped.digits ≤ decimal.digits :=
    product ▸ Nat.le_mul_of_pos_right _ (tenTo_pos count)
  have powers : tenTo count ≤ decimal.digits := product ▸ Nat.le_mul_of_pos_left _ nonzero
  have few : count < 1400 := by
    by_contra many
    exact absurd (powers.trans_lt digits_lt)
      (Nat.not_lt.mpr (tenTo_le_tenTo (Nat.not_lt.mp many)))
  omega

/-- The decimal of a double has a bounded number of digits and a bounded exponent. -/
theorem Binary.IsDouble.shortest_bounds
    {x : Binary} (isDouble : x.IsDouble) (tie : Tie) :
    (x.shortest tie).digits < tenTo 1400 ∧
      -1100 ≤ (x.shortest tie).exponent ∧ (x.shortest tie).exponent ≤ 1800 := by
  obtain ⟨scaleGe, scaleLe⟩ := isDouble.scale_bounds
  unfold Binary.shortest
  dsimp only
  generalize candidate : (List.findSome? _ (List.range 17)).getD x.exact = decimal
  have moderate : decimal.IsModerate := by
    cases found : (List.range 17).findSome? fun count =>
        x.onGrid? tie (x.scale - (count + 1 : Nat)) with
    | none =>
        rw [found] at candidate
        exact candidate ▸ isDouble.exact_isModerate
    | some digits =>
        rw [found] at candidate
        obtain ⟨count, member, onGrid⟩ := List.exists_of_findSome?_eq_some found
        have few : count < 17 := List.mem_range.mp member
        exact candidate ▸ isDouble.onGrid?_isModerate (by omega) (by omega) onGrid
  exact stripZeros_bounds moderate

/-! ## Texts -/

theorem length_toString_le
    {number width : Nat} (positive : 0 < width) (few : number < tenTo width) :
    (toString number).length ≤ width :=
  Nat.repr_length number width positive few

theorem length_zeros (count : Nat) : (zeros count).length = count := by
  simp [zeros]

theorem length_renderPositional_le (digits : String) (exponent : Int) :
    (displayLayout.renderPositional digits exponent).length ≤
      digits.length + exponent.natAbs + 2 := by
  have front : "0.".length = 2 := by decide
  unfold Layout.renderPositional
  dsimp only
  split
  · simp [displayLayout, length_zeros]
    omega
  split
  · simp [← String.length_toList]
    omega
  · simp [length_zeros, front]
    omega

/-- The text of a double is far shorter than the limit for strings. -/
theorem Binary.IsDouble.length_renderMagnitude_le {x : Binary} (isDouble : x.IsDouble) :
    (displayLayout.renderMagnitude x).length ≤ 4000 := by
  unfold Layout.renderMagnitude
  by_cases isZero : (x.significand == 0) = true
  · rw [if_pos isZero]
    exact (length_renderPositional_le "0" 0).trans (by decide)
  · rw [if_neg isZero]
    obtain ⟨digits_lt, exponent_ge, exponent_le⟩ := isDouble.shortest_bounds displayLayout.tie
    have width := length_toString_le (by decide) digits_lt
    have positional := length_renderPositional_le
      (toString (x.shortest displayLayout.tie).digits) (x.shortest displayLayout.tie).exponent
    exact positional.trans (by omega)

/-- The text of a double is shorter than any string that is refused. -/
theorem length_render_le (number : Float) :
    (displayLayout.render number).length ≤ Limits.maxStringLength := by
  have magnitude := (Binary.ofFloat_isDouble number).length_renderMagnitude_le
  have enough : 4001 ≤ Limits.maxStringLength := by decide
  unfold Layout.render
  split
  · decide
  split
  · split <;> decide
  · rw [String.length_append]
    split
    · have sign : "-".length = 1 := by decide
      omega
    · have noSign : "".length = 0 := by decide
      omega

end PugScript.Decimal
