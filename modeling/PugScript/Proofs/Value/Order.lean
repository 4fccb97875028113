import PugScript.Evaluation.Operators
import PugScript.Proofs.Decimal.Order

/-!
# Comparable values are related

Order and equality of values go through different conversions: texts are ordered by the whole
numbers they stand for and equal only if they are spelled alike, doubles are ordered exactly and
equal within a tolerance. Two values that can be ordered are nevertheless related by `<`, `==` or
`>`, except texts that spell one whole number in two ways, which none of the operators relates.
-/

namespace PugScript

open PugScript.Decimal
open PugScript.Text

/-- The value is a double that is not a number. -/
def Value.IsNaN : Value → Prop
  | .double number => number.isNaN = true
  | _ => False

/-- Both values are the same infinity. -/
def SameInfinity (left right : Value) : Prop :=
  ∃ number : Float, number.isInf = true ∧ left = .double number ∧ right = .double number

/-- Two texts that are spelled differently and stand for the same whole number. -/
def DifferInSpelling (left right : Value) : Prop :=
  ∃ content other number, left = .string content ∧ right = .string other ∧ content ≠ other ∧
    left.toInt = .ok number ∧ right.toInt = .ok number

/-! ## The three tests -/

/-- What the tests `<`, `==` and `>` answer on two values. -/
structure Verdicts (left right : Value) (less equal greater : Bool) : Prop where
  ensureSameTypes : ∀ operator, Value.ensureSameTypes left right operator = .ok ()
  less : greaterValue right left = .ok less
  equal : equalValues left right = .ok equal
  greater : greaterValue left right = .ok greater

namespace Verdicts

variable {left right : Value} {less equal greater : Bool}
  (verdicts : Verdicts left right less equal greater)

include verdicts

theorem comparison_less : comparison .less left right = .ok (.bool less) := by
  rw [comparison, verdicts.ensureSameTypes, verdicts.less]
  rfl

theorem comparison_equal : comparison .equal left right = .ok (.bool equal) := by
  rw [comparison, verdicts.ensureSameTypes, verdicts.equal]
  rfl

theorem comparison_greater : comparison .greater left right = .ok (.bool greater) := by
  rw [comparison, verdicts.ensureSameTypes, verdicts.greater]
  rfl

theorem comparison_lessOrEqual :
    comparison .lessOrEqual left right = .ok (.bool (less || equal)) := by
  rw [comparison, verdicts.ensureSameTypes, verdicts.less, verdicts.equal]
  cases less <;> rfl

theorem comparison_greaterOrEqual :
    comparison .greaterOrEqual left right = .ok (.bool (greater || equal)) := by
  rw [comparison, verdicts.ensureSameTypes, verdicts.greater, verdicts.equal]
  cases greater <;> rfl

end Verdicts

/-- The answer of `<` is that of the order with its operands exchanged. -/
theorem greaterValue_of_comparison_less {left right answer : Value}
    (compared : comparison .less left right = .ok answer) :
    Value.ensureSameTypes left right .less = .ok () ∧
      ∃ less, greaterValue right left = .ok less := by
  unfold comparison at compared
  split at compared
  · cases compared
  · next sameTypes =>
    refine ⟨sameTypes, ?_⟩
    dsimp only at compared
    cases tested : greaterValue right left with
    | ok less => exact ⟨less, rfl⟩
    | error error =>
      rw [tested] at compared
      cases compared

/-! ## Pairs of types -/

/-- The tests answer, and one of them says yes unless the values differ in spelling alone. -/
def RelatedUnlessRespelled (left right : Value) : Prop :=
  ∃ less equal greater, Verdicts left right less equal greater ∧
    (less = true ∨ equal = true ∨ greater = true ↔ ¬ DifferInSpelling left right)

theorem not_differInSpelling_of_dataType {left right : Value}
    (notText : left.dataType ≠ .string) : ¬ DifferInSpelling left right := by
  rintro ⟨_, _, _, rfl, _⟩
  exact notText rfl

/-- Two doubles are ordered or nearly equal, except for a NaN and for two equal infinities. -/
theorem related_of_doubles {left right : Value} {x y : Float}
    (verdicts : Verdicts left right (x < y) ((x - y).abs < equalityTolerance) (y < x))
    (notText : left.dataType ≠ .string)
    (xNumber : x.isNaN = false) (yNumber : y.isNaN = false)
    (notInfinite : ¬ (x.isInf = true ∧ x = y)) : RelatedUnlessRespelled left right := by
  refine ⟨_, _, _, verdicts, fun _ => not_differInSpelling_of_dataType notText, fun _ => ?_⟩
  rw [decide_eq_true_iff, decide_eq_true_iff, decide_eq_true_iff]
  obtain below | above | close := lt_or_gt_or_close xNumber yNumber notInfinite
  · exact .inl below
  · exact .inr (.inr above)
  · exact .inr (.inl close)

theorem greaterValue_of_toInt {left right : Value} {number other : Int64}
    (noDouble : ¬ (left.dataType = .double ∨ right.dataType = .double))
    (leftNumber : left.toInt = .ok number) (rightNumber : right.toInt = .ok other) :
    greaterValue left right = .ok (other < number) := by
  rw [greaterValue, if_neg noDouble, leftNumber, rightNumber]
  rfl

theorem toInt_of_greaterValue {left right : Value} {greater : Bool}
    (noDouble : ¬ (left.dataType = .double ∨ right.dataType = .double))
    (tested : greaterValue left right = .ok greater) :
    ∃ number other, left.toInt = .ok number ∧ right.toInt = .ok other := by
  rw [greaterValue, if_neg noDouble] at tested
  cases leftConverted : left.toInt with
  | error =>
    rw [leftConverted] at tested
    cases tested
  | ok number =>
    cases rightConverted : right.toInt with
    | error =>
      rw [leftConverted, rightConverted] at tested
      cases tested
    | ok other => exact ⟨number, other, rfl, rfl⟩

/-- Two words are ordered, or they are equal. -/
theorem int64_trichotomy (number other : Int64) :
    number < other ∨ number = other ∨ other < number := by
  rw [Int64.lt_iff_toInt_lt, Int64.lt_iff_toInt_lt, ← Int64.toInt_inj]
  omega

theorem related_of_ints (number other : Int64) :
    RelatedUnlessRespelled (.int number) (.int other) := by
  refine ⟨number < other, number == other, other < number, ⟨fun _ => rfl, rfl, rfl, rfl⟩,
    fun _ => not_differInSpelling_of_dataType nofun, fun _ => ?_⟩
  rw [decide_eq_true_iff, beq_iff_eq, decide_eq_true_iff]
  exact int64_trichotomy number other

/-- Texts that are read as the same number differ in spelling unless they are equal. -/
theorem differInSpelling_iff {content text : String} {number other : Int64}
    (contentRead : (Value.string content).toInt = .ok number)
    (textRead : (Value.string text).toInt = .ok other) :
    DifferInSpelling (.string content) (.string text) ↔ content ≠ text ∧ number = other := by
  constructor
  · rintro ⟨_, _, common, sameContent, sameText, different, leftRead, rightRead⟩
    cases sameContent
    cases sameText
    rw [contentRead] at leftRead
    rw [textRead] at rightRead
    cases leftRead
    cases rightRead
    exact ⟨different, rfl⟩
  · rintro ⟨different, rfl⟩
    exact ⟨content, text, number, rfl, rfl, different, contentRead, textRead⟩

/-- Two texts that stand for numbers are ordered by these, or they are equal, or they differ in
spelling alone. -/
theorem related_of_strings {content text : String} {less : Bool}
    (tested : greaterValue (.string text) (.string content) = .ok less) :
    RelatedUnlessRespelled (.string content) (.string text) := by
  obtain ⟨other, number, textRead, contentRead⟩ :=
    toInt_of_greaterValue (by simp [Value.dataType]) tested
  refine ⟨number < other, content == text, other < number, ⟨fun _ => rfl, ?_, rfl, ?_⟩, ?_⟩
  · exact greaterValue_of_toInt (by simp [Value.dataType]) textRead contentRead
  · exact greaterValue_of_toInt (by simp [Value.dataType]) contentRead textRead
  · rw [differInSpelling_iff contentRead textRead, decide_eq_true_iff, beq_iff_eq,
      decide_eq_true_iff]
    constructor
    · rintro related ⟨different, rfl⟩
      obtain below | same | above := related
      · exact Int64.lt_irrefl below
      · exact different same
      · exact Int64.lt_irrefl above
    · intro alike
      obtain below | same | above := int64_trichotomy number other
      · exact .inl below
      · exact .inr (.inl (by_contra fun different => alike ⟨different, same⟩))
      · exact .inr (.inr above)

theorem toInt_bool (truth : Bool) :
    (Value.bool truth).toInt = .error (.conversionFailed (Value.bool truth).text .int) := by
  cases truth <;> rfl

/-- Truth values stand for no whole number and cannot be ordered. -/
theorem greaterValue_bool_ne_ok (truth other : Bool) (greater : Bool) :
    greaterValue (.bool truth) (.bool other) ≠ .ok greater := by
  intro tested
  obtain ⟨number, _, converted, _⟩ := toInt_of_greaterValue (by simp [Value.dataType]) tested
  rw [toInt_bool] at converted
  cases converted

/-- Values that can be ordered are related, unless they differ in spelling alone. -/
theorem related_of_comparison_less {left right answer : Value}
    (leftNumber : ¬ left.IsNaN) (rightNumber : ¬ right.IsNaN)
    (notInfinite : ¬ SameInfinity left right)
    (compared : comparison .less left right = .ok answer) : RelatedUnlessRespelled left right := by
  obtain ⟨sameTypes, less, tested⟩ := greaterValue_of_comparison_less compared
  cases left with
  | none => cases sameTypes
  | bool truth =>
    cases right with
    | bool other => exact absurd tested (greaterValue_bool_ne_ok other truth less)
    | _ => cases sameTypes
  | string content =>
    cases right with
    | string text => exact related_of_strings tested
    | _ => cases sameTypes
  | int number =>
    cases right with
    | int other => exact related_of_ints number other
    | double y =>
      have finite := wholeFloat_isFinite number
      refine related_of_doubles ⟨fun _ => rfl, rfl, rfl, rfl⟩ nofun
        (isNaN_of_isFinite finite) (Bool.eq_false_iff.mpr rightNumber) ?_
      rintro ⟨infinite, -⟩
      exact Bool.false_ne_true ((isInf_of_isFinite finite).symm.trans infinite)
    | _ => cases sameTypes
  | double x =>
    cases right with
    | int other =>
      have finite := wholeFloat_isFinite other
      refine related_of_doubles ⟨fun _ => rfl, rfl, rfl, rfl⟩ nofun
        (Bool.eq_false_iff.mpr leftNumber) (isNaN_of_isFinite finite) ?_
      rintro ⟨infinite, rfl⟩
      exact Bool.false_ne_true ((isInf_of_isFinite finite).symm.trans infinite)
    | double y =>
      refine related_of_doubles ⟨fun _ => rfl, rfl, rfl, rfl⟩ nofun
        (Bool.eq_false_iff.mpr leftNumber) (Bool.eq_false_iff.mpr rightNumber) ?_
      rintro ⟨infinite, rfl⟩
      exact notInfinite ⟨x, infinite, rfl, rfl⟩
    | _ => cases sameTypes

/-! ## The operators -/

/-- Of two values that can be ordered, neither of them NaN and not the same infinity, one is less
than the other or they are equal, and what is not less is greater or equal. Two texts that stand
for the same whole number and are spelled differently are related by none of the operators. The
test `>` makes the conversions of `<`, so it answers whenever `<` does. -/
theorem comparable_values_are_related {left right : Value}
    (leftNumber : ¬ left.IsNaN) (rightNumber : ¬ right.IsNaN)
    (notInfinite : ¬ SameInfinity left right)
    (lessAnswers : ∃ answer, comparison .less left right = .ok answer) :
    (¬ DifferInSpelling left right →
      (comparison .less left right = .ok (.bool true) ∨
        comparison .equal left right = .ok (.bool true) ∨
        comparison .greater left right = .ok (.bool true)) ∧
      (comparison .less left right = .ok (.bool false) →
        comparison .greaterOrEqual left right = .ok (.bool true)) ∧
      (comparison .greater left right = .ok (.bool false) →
        comparison .lessOrEqual left right = .ok (.bool true))) ∧
    (DifferInSpelling left right →
      ∀ operator ∈ [TokenKind.less, .equal, .greater, .lessOrEqual, .greaterOrEqual],
        comparison operator left right = .ok (.bool false)) := by
  obtain ⟨answer, compared⟩ := lessAnswers
  obtain ⟨less, equal, greater, verdicts, related⟩ :=
    related_of_comparison_less leftNumber rightNumber notInfinite compared
  rw [verdicts.comparison_less, verdicts.comparison_equal, verdicts.comparison_greater,
    verdicts.comparison_lessOrEqual, verdicts.comparison_greaterOrEqual]
  constructor
  · intro alike
    have holds := related.mpr alike
    refine ⟨?_, ?_, ?_⟩
    · obtain rfl | rfl | rfl := holds
      · exact .inl rfl
      · exact .inr (.inl rfl)
      · exact .inr (.inr rfl)
    · intro notLess
      cases notLess
      obtain impossible | rfl | rfl := holds
      · cases impossible
      · rw [Bool.or_true]
      · rw [Bool.true_or]
    · intro notGreater
      cases notGreater
      obtain rfl | rfl | impossible := holds
      · rw [Bool.true_or]
      · rw [Bool.or_true]
      · cases impossible
  · intro respelled operator member
    have noneHolds := fun holds => related.mp holds respelled
    obtain rfl : less = false := Bool.eq_false_iff.mpr fun holds => noneHolds (.inl holds)
    obtain rfl : equal = false := Bool.eq_false_iff.mpr fun holds => noneHolds (.inr (.inl holds))
    obtain rfl : greater = false :=
      Bool.eq_false_iff.mpr fun holds => noneHolds (.inr (.inr holds))
    simp only [List.mem_cons, List.not_mem_nil, or_false] at member
    obtain rfl | rfl | rfl | rfl | rfl := member
    · exact verdicts.comparison_less
    · exact verdicts.comparison_equal
    · exact verdicts.comparison_greater
    · exact verdicts.comparison_lessOrEqual
    · exact verdicts.comparison_greaterOrEqual

theorem related_and_respelled_values :
    (comparison .less (.int 2) (.double 2.5) = .ok (.bool true) ∨
      comparison .equal (.int 2) (.double 2.5) = .ok (.bool true) ∨
      comparison .greater (.int 2) (.double 2.5) = .ok (.bool true)) ∧
    comparison .lessOrEqual (.string "1") (.string "01") = .ok (.bool false) := by
  constructor
  · have isNumber : ¬ (2.5 : Float).isNaN = true := by decide
    have related := @comparable_values_are_related (.int 2) (.double 2.5) id isNumber
      (by rintro ⟨_, _, isDouble, _⟩; cases isDouble) ⟨.bool true, rfl⟩
    exact (related.1 (not_differInSpelling_of_dataType nofun)).1
  · have respelled := @comparable_values_are_related (.string "1") (.string "01") id id
      (by rintro ⟨_, _, isDouble, _⟩; cases isDouble) ⟨.bool false, rfl⟩
    exact respelled.2 ⟨"1", "01", 1, rfl, rfl, by decide, rfl, rfl⟩ .lessOrEqual (by decide)

/-- Two texts for the number one, and an infinity beside itself: neither is NaN, all tests answer,
and none holds. -/
theorem comparable_values_can_be_unrelated :
    (¬ (Value.string "1").IsNaN ∧ ¬ (Value.string "01").IsNaN ∧
      comparison .less (.string "1") (.string "01") = .ok (.bool false) ∧
      comparison .equal (.string "1") (.string "01") = .ok (.bool false) ∧
      comparison .greater (.string "1") (.string "01") = .ok (.bool false) ∧
      comparison .greaterOrEqual (.string "1") (.string "01") = .ok (.bool false) ∧
      comparison .lessOrEqual (.string "1") (.string "01") = .ok (.bool false)) ∧
    (¬ (Value.double (1 / 0)).IsNaN ∧
      comparison .less (.double (1 / 0)) (.double (1 / 0)) = .ok (.bool false) ∧
      comparison .equal (.double (1 / 0)) (.double (1 / 0)) = .ok (.bool false) ∧
      comparison .greater (.double (1 / 0)) (.double (1 / 0)) = .ok (.bool false) ∧
      comparison .greaterOrEqual (.double (1 / 0)) (.double (1 / 0)) = .ok (.bool false) ∧
      comparison .lessOrEqual (.double (1 / 0)) (.double (1 / 0)) = .ok (.bool false)) := by
  have isNumber : ¬ (1 / 0 : Float).isNaN = true := by decide
  exact ⟨⟨id, id, rfl, rfl, rfl, rfl, rfl⟩, ⟨isNumber, rfl, rfl, rfl, rfl, rfl⟩⟩

end PugScript
