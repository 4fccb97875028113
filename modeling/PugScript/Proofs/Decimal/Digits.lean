import Mathlib
import PugScript.Decimal.Numeral

/-!
# The digits of a number

The digits that a natural number is written with stand for that number, and they start with a zero
only if the number is zero.
-/

namespace PugScript.Decimal

open PugScript.Text

theorem isDigit_of_mem_toDigits
    {number : Nat} {c : Char} (member : c ∈ Nat.toDigits 10 number) :
    isDigit c = true := by
  have digit : c.isDigit = true :=
    Nat.isDigit_of_mem_toDigits (by decide) (by decide) member
  rw [Char.isDigit, Bool.and_eq_true, decide_eq_true_eq, decide_eq_true_eq] at digit
  rw [isDigit, Bool.and_eq_true, decide_eq_true_eq, decide_eq_true_eq]
  exact digit

/-- Reading the decimal digits of a number gives the number back. -/
theorem digitsValue_toDigits (number : Nat) :
    digitsValue 0 (Nat.toDigits 10 number) = number :=
  Nat.ofDigitChars_ten_toDigits

theorem le_digitsValue (already : Nat) (digits : List Char) :
    already ≤ digitsValue already digits := by
  induction digits generalizing already with
  | nil => exact Nat.le_refl already
  | cons c digits inductionHypothesis =>
      calc already
          ≤ 10 * already + (c.toNat - '0'.toNat) := by omega
        _ ≤ digitsValue already (c :: digits) := inductionHypothesis _

/-- Only zero is written with a zero in front. -/
theorem head_toDigits_ne_zero
    {number : Nat} (positive : 0 < number) {c : Char} {rest : List Char}
    (written : Nat.toDigits 10 number = c :: rest) :
    c ≠ '0' := by
  induction number using Nat.strongRecOn generalizing rest with
  | ind number inductionHypothesis =>
      by_cases small : number < 10
      · rw [Nat.toDigits_of_lt_base small] at written
        obtain ⟨rfl, _⟩ := List.cons.inj written
        interval_cases number <;> decide
      · rw [Nat.toDigits_of_base_le (by decide) (by omega)] at written
        obtain ⟨first, others, leading⟩ := List.exists_cons_of_ne_nil
          (Nat.toDigits_ne_nil : Nat.toDigits 10 (number / 10) ≠ [])
        rw [leading, List.cons_append] at written
        obtain ⟨rfl, _⟩ := List.cons.inj written
        exact inductionHypothesis (number / 10) (by omega) (by omega) leading

theorem toList_toString (number : Nat) : (toString number).toList = Nat.toDigits 10 number := by
  rw [Nat.toString_eq_ofList_toDigits, String.toList_ofList]

theorem toList_toString_int (number : Int) :
    (toString number).toList =
      (if number < 0 then ['-'] else []) ++ Nat.toDigits 10 number.natAbs := by
  cases number with
  | ofNat magnitude =>
      have notNegative : ¬ Int.ofNat magnitude < 0 := Int.not_lt.mpr (Int.natCast_nonneg magnitude)
      rw [if_neg notNegative]
      exact toList_toString magnitude
  | negSucc magnitude =>
      have text : toString (Int.negSucc magnitude) = "-" ++ toString (magnitude + 1) := rfl
      rw [if_pos (Int.negSucc_lt_zero magnitude), text, String.toList_append, toList_toString]
      rfl

end PugScript.Decimal
