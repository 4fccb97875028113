import PugScript.Evaluation.Operators
import PugScript.Proofs.Builtin.Slicing

/-!
# Repeated texts

A text times a number is the text written that often in a row, or an error with the exact length
that it would have. Repeating what is repeated multiplies the numbers, and joining repetitions of
one text adds them. The lengths are right on machine words, too, although they can exceed a word.
-/

namespace PugScript

open PugScript.Decimal (twoTo)
open PugScript.Text

/-! ## Copies -/

def copies (content : String) (times : Nat) : String :=
  String.join (List.replicate times content)

theorem copies_add (content : String) (first second : Nat) :
    copies content (first + second) = copies content first ++ copies content second := by
  rw [copies, ← List.replicate_append_replicate, String.join_append]
  rfl

theorem copies_succ (content : String) (times : Nat) :
    copies content (times + 1) = copies content times ++ content := by
  rw [copies_add]
  rfl

theorem length_copies (content : String) (times : Nat) :
    (copies content times).length = content.length * times := by
  rw [copies, String.length_join, List.map_replicate, List.sum_replicate_nat, Nat.mul_comm]

theorem copies_copies (content : String) (first second : Nat) :
    copies (copies content first) second = copies content (first * second) := by
  induction second with
  | zero => rfl
  | succ second inductionHypothesis =>
    rw [copies_succ, inductionHypothesis, Nat.mul_succ, copies_add]

theorem copies_empty (times : Nat) : copies "" times = "" := by
  rw [← String.length_eq_zero_iff, length_copies]
  exact Nat.zero_mul times

theorem repeatText_eq_copies (content : String) (times : Nat) :
    repeatText content times = copies content times := by
  rw [repeatText]
  split
  · next empty =>
    rw [String.isEmpty_iff] at empty
    rw [empty, copies_empty]
  · induction times with
    | zero => rfl
    | succ times inductionHypothesis => rw [Nat.repeat, inductionHypothesis, copies_succ]

/-! ## The operators -/

/-- The copies of a text as the result of an operator, or the length that they would have, cut down
to the largest length that is told apart. -/
def repetition (content : String) (times : Nat) : Except EvaluationFault Value :=
  if Limits.maxStringLength < content.length * times then
    .error (.value (.stringTooLong (min (content.length * times) largestLength)))
  else .ok (.string (copies content times))

/-- The operator makes copies as many as the number says, and none of a negative number. -/
theorem repeatString_eq (content : String) (count : Int64) :
    repeatString content count = repetition content count.toInt.toNat := by
  rw [repeatString, repetition, repeatText_eq_copies]

theorem multiply_text_number (content : String) (count : Int64) :
    arithmetic .multiply (.string content) (.int count) =
      repetition content count.toInt.toNat :=
  repeatString_eq content count

theorem multiply_number_text (content : String) (count : Int64) :
    arithmetic .multiply (.int count) (.string content) =
      repetition content count.toInt.toNat :=
  repeatString_eq content count

variable {content : String} {times : Nat} {result : Value}

/-- Copies are made exactly if all of them together keep the limit. -/
theorem repetition_eq_ok_iff :
    repetition content times = .ok result ↔
      content.length * times ≤ Limits.maxStringLength ∧
        result = .string (copies content times) := by
  rw [repetition]
  split
  · next long => simp [Nat.not_le.mpr long]
  · next short => simp [Nat.not_lt.mp short, eq_comm]

/-- Repeating a repeated text multiplies the numbers, also where the limit is exceeded. -/
theorem repetition_copies (content : String) (first second : Nat) :
    repetition (copies content first) second = repetition content (first * second) := by
  rw [repetition, repetition, length_copies, copies_copies, Nat.mul_assoc]

theorem plus_copies {first second : Nat}
    (shortFirst : content.length * first ≤ Limits.maxStringLength)
    (shortSecond : content.length * second ≤ Limits.maxStringLength) :
    arithmetic .plus (.string (copies content first)) (.string (copies content second)) =
      repetition content (first + second) := by
  have joined : arithmetic .plus (.string (copies content first))
      (.string (copies content second)) = stringResult (copies content (first + second)) := by
    rw [copies_add]
    rfl
  -- The sum of two permitted lengths is far from the largest one.
  have toldApart : content.length * (first + second) ≤ largestLength := by
    have room : Limits.maxStringLength + Limits.maxStringLength ≤ largestLength := by decide
    rw [Nat.mul_add]
    omega
  rw [joined, stringResult, Value.checkedString, length_copies, repetition,
    Nat.min_eq_left toldApart]
  split
  · rfl
  · rfl

/-! ## Machine words -/

/-- The product of two words, or the largest word if the product is beyond it. -/
def saturatingProduct (first second : UInt64) : UInt64 :=
  let largest := UInt64.ofNat largestLength
  if second ≠ 0 ∧ largest / second < first then largest else first * second

/-- What repeating a text computes on machine words. -/
def repeatOnWords (content : String) (count : Int64) : Except EvaluationFault Value :=
  let times := if count < 0 then 0 else count.toUInt64
  let length := saturatingProduct (UInt64.ofNat content.length) times
  if UInt64.ofNat Limits.maxStringLength < length then
    .error (.value (.stringTooLong length.toNat))
  else .ok (.string (repeatText content times.toNat))

theorem toNat_largest : (UInt64.ofNat largestLength).toNat = largestLength := by
  decide

/-- A saturating product is the product, cut down to the largest word. -/
theorem toNat_saturatingProduct (first second : UInt64) :
    (saturatingProduct first second).toNat = min (first.toNat * second.toNat) largestLength := by
  rw [saturatingProduct]
  by_cases zero : second = 0
  · rw [if_neg (fun both => both.1 zero), zero]
    simp
  · have positive : 0 < second.toNat :=
      Nat.pos_of_ne_zero fun same => zero (UInt64.toNat_inj.mp same)
    have overflows_iff : UInt64.ofNat largestLength / second < first ↔
        largestLength < first.toNat * second.toNat := by
      rw [UInt64.lt_iff_toNat_lt, UInt64.toNat_div, toNat_largest, Nat.div_lt_iff_lt_mul positive]
    by_cases overflows : largestLength < first.toNat * second.toNat
    · rw [if_pos ⟨zero, overflows_iff.mpr overflows⟩, toNat_largest,
        Nat.min_eq_right (Nat.le_of_lt overflows)]
    · have fits := Nat.le_of_not_lt overflows
      have below : largestLength < 2 ^ 64 := by decide
      rw [if_neg (fun both => overflows (overflows_iff.mp both.2)), UInt64.toNat_mul,
        Nat.mod_eq_of_lt (Nat.lt_of_le_of_lt fits below), Nat.min_eq_left fits]

/-- On machine words the product is cut down to the largest word, and that changes nothing. -/
theorem repeatOnWords_eq (fits : content.length < twoTo 64) (count : Int64) :
    repeatOnWords content count = repetition content count.toInt.toNat := by
  have times : (if count < 0 then 0 else count.toUInt64).toNat = count.toInt.toNat := by
    by_cases negative : count < 0
    · have below := (Slicing.lt_zero_iff count).mp negative
      rw [if_pos negative, Int.toNat_of_nonpos (Int.le_of_lt below)]
      rfl
    · have atLeast := Int.not_lt.mp (mt (Slicing.lt_zero_iff count).mpr negative)
      rw [if_neg negative]
      exact Slicing.toNat_toUInt64 atLeast
  have length : (UInt64.ofNat content.length).toNat = content.length :=
    UInt64.toNat_ofNat_of_lt fits
  have limit : (UInt64.ofNat Limits.maxStringLength).toNat = Limits.maxStringLength := by decide
  -- Cutting a length down to the largest word does not bring it below the limit.
  have long_iff (product : Nat) :
      Limits.maxStringLength < min product largestLength ↔ Limits.maxStringLength < product := by
    have room : Limits.maxStringLength < largestLength := by decide
    omega
  simp only [repeatOnWords, UInt64.lt_iff_toNat_lt, toNat_saturatingProduct, times, length, limit,
    long_iff]
  rw [repetition, repeatText_eq_copies]

/-! ## All together -/

/-- What a text times a number gives. -/
structure RepeatsExactly (content : String) : Prop where
  text_number : ∀ count : Int64, arithmetic .multiply (.string content) (.int count) =
    repetition content (max count.toInt 0).toNat
  number_text : ∀ count : Int64, arithmetic .multiply (.int count) (.string content) =
    repetition content (max count.toInt 0).toNat
  /-- Once a text can be repeated, repeating the result is repeating the text by the product. -/
  again : ∀ first second product : Int64, 0 ≤ first.toInt → 0 ≤ second.toInt →
    product.toInt = first.toInt * second.toInt → ∀ repeated,
      arithmetic .multiply (.string content) (.int first) = .ok repeated →
        arithmetic .multiply repeated (.int second) =
          arithmetic .multiply (.string content) (.int product)
  /-- Once a text can be repeated by two numbers, joining the results is repeating it by the sum. -/
  joined : ∀ first second sum : Int64, 0 ≤ first.toInt → 0 ≤ second.toInt →
    sum.toInt = first.toInt + second.toInt → ∀ front back,
      arithmetic .multiply (.string content) (.int first) = .ok front →
      arithmetic .multiply (.string content) (.int second) = .ok back →
        arithmetic .plus front back = arithmetic .multiply (.string content) (.int sum)
  /-- With a product that stops at the largest word the same comes out. -/
  in_words : content.length < twoTo 64 → ∀ count : Int64,
    repeatOnWords content count = arithmetic .multiply (.string content) (.int count)

theorem toNat_max_zero (number : Int) : (max number 0).toNat = number.toNat := by
  omega

/-- A text times a number is an error with the exact length of the result if that is beyond the
limit, and else the text written that often in a row; products and sums of numbers carry over. -/
theorem texts_are_repeated_exactly (content : String) : RepeatsExactly content where
  text_number count := by rw [multiply_text_number, toNat_max_zero]
  number_text count := by rw [multiply_number_text, toNat_max_zero]
  again first second product positiveFirst positiveSecond isProduct repeated succeeds := by
    rw [multiply_text_number, repetition_eq_ok_iff] at succeeds
    rw [succeeds.2, multiply_text_number, multiply_text_number, repetition_copies, isProduct,
      Int.toNat_mul positiveFirst positiveSecond]
  joined first second sum positiveFirst positiveSecond isSum front back frontSucceeds
      backSucceeds := by
    rw [multiply_text_number, repetition_eq_ok_iff] at frontSucceeds backSucceeds
    rw [frontSucceeds.2, backSucceeds.2, plus_copies frontSucceeds.1 backSucceeds.1,
      multiply_text_number, isSum, Int.toNat_add positiveFirst positiveSecond]
  in_words fits count := by rw [repeatOnWords_eq fits, multiply_text_number]

theorem texts_are_repeated_exactly_up_to_the_ends :
    arithmetic .multiply (.string "abc") (.int Int64.maxValue) =
      .error (.value (.stringTooLong largestLength)) ∧
    arithmetic .multiply (.int Int64.minValue) (.string "abc") = .ok (.string "") ∧
    arithmetic .multiply (.string "abcabc") (.int 3) =
      arithmetic .multiply (.string "abc") (.int 6) ∧
    arithmetic .plus (.string "abcabc") (.string "abc") =
      arithmetic .multiply (.string "abc") (.int 3) := by
  have exact := texts_are_repeated_exactly "abc"
  have twice : arithmetic .multiply (.string "abc") (.int 2) = .ok (.string "abcabc") := by
    rw [exact.text_number]
    rfl
  have once : arithmetic .multiply (.string "abc") (.int 1) = .ok (.string "abc") := by
    rw [exact.text_number]
    rfl
  refine ⟨?_, ?_, ?_, ?_⟩
  · rw [exact.text_number, repetition, if_pos (by decide)]
    rfl
  · rw [exact.number_text]
    rfl
  · exact exact.again 2 3 6 (by decide) (by decide) (by decide) _ twice
  · exact exact.joined 2 1 3 (by decide) (by decide) (by decide) _ _ twice once

end PugScript
