import PugScript.Evaluation.Error
import PugScript.Text.Replace

/-!
# Operators

Signs, arithmetic, comparison and logic on values, and the tiers in which binary operators bind.
A text on either side of an arithmetic operator selects the operations on texts; numbers always
give a double.
-/

namespace PugScript

open PugScript.Decimal
open PugScript.Text

/-! ## Signs -/

/-- Negation that stays in range: the least number becomes the greatest. -/
def saturatingNegate (number : Int64) : Int64 :=
  if number = Int64.minValue then Int64.maxValue else -number

/-- A sign in front of a value. The operand keeps its type; a text becomes the text of the signed
number. -/
def applySign (sign : TokenKind) (operand : Value) : Except EvaluationFault Value :=
  match operand with
  | .none => .error (.value (.noneOperand sign))
  | .int number => .ok (.int (if sign = .minus then saturatingNegate number else number))
  | other =>
    match other.toDouble with
    | .error error => .error (.value error)
    | .ok magnitude =>
      let number := if sign = .minus then -magnitude else magnitude
      match other with
      | .string _ => .ok (.string (displayLayout.render number))
      | _ => .ok (.double number)

/-! ## Arithmetic -/

/-- Arithmetic on doubles. -/
def doubleOperation (operator : TokenKind) (left right : Float) : Except EvaluationFault Value :=
  match operator with
  | .plus => .ok (.double (left + right))
  | .minus => .ok (.double (left - right))
  | .multiply => .ok (.double (left * right))
  | .divide => .ok (.double (left / right))
  | .remainder => .ok (.double (remainder left right))
  | _ => .error (.unsupportedOperator operator)

/-- The largest length that is told apart; longer products are reported as this one. -/
def largestLength : Nat := twoTo 64 - 1

/-- A text repeated a number of times; a negative number gives the empty text. -/
def repeatString (content : String) (count : Int64) : Except EvaluationFault Value :=
  let times := count.toInt.toNat
  let length := content.length * times
  if Limits.maxStringLength < length then
    .error (.value (.stringTooLong (min length largestLength)))
  else .ok (.string (repeatText content times))

def stringResult (content : String) : Except EvaluationFault Value :=
  (Value.checkedString content).mapError .value

/-- Arithmetic with a text: joining, removing every occurrence, repeating. -/
def stringOperation (operator : TokenKind) (left right : Value) :
    Except EvaluationFault Value :=
  match operator with
  | .plus => stringResult (left.text ++ right.text)
  | .minus =>
    if right.text.isEmpty then stringResult left.text
    else stringResult (replaceAll left.text right.text "")
  | .multiply =>
    match left with
    | .string content =>
      match right.toInt with
      | .error error => .error (.value error)
      | .ok count => repeatString content count
    | other =>
      match other.toInt with
      | .error error => .error (.value error)
      | .ok count => repeatString right.text count
  | _ => .error (.unsupportedOperator operator)

/-- The operators `+ - * / %`. -/
def arithmetic (operator : TokenKind) (left right : Value) : Except EvaluationFault Value :=
  if left.isNone || right.isNone then .error (.value (.noneOperand operator))
  else if left.dataType = .string ∨ right.dataType = .string then
    stringOperation operator left right
  else
    match left, right with
    | .int l, .int r => doubleOperation operator (wholeFloat l) (wholeFloat r)
    | .int l, .double r => doubleOperation operator (wholeFloat l) r
    | .double l, .int r => doubleOperation operator l (wholeFloat r)
    | .double l, .double r => doubleOperation operator l r
    | _, _ => .error (.unsupportedOperator operator)

/-! ## Comparison -/

/-- Equality: exact between two texts, truth values or whole numbers, else up to a tolerance. -/
def equalValues (left right : Value) : Except ValueError Bool :=
  match left, right with
  | .string l, .string r => .ok (l == r)
  | .bool l, .bool r => .ok (l == r)
  | .int l, .int r => .ok (l == r)
  | l, r => do
    let l ← l.toDouble
    return (l - (← r.toDouble)).abs < equalityTolerance

/-- Order: between doubles if a double takes part, else between whole numbers. -/
def greaterValue (left right : Value) : Except ValueError Bool :=
  if left.dataType = .double ∨ right.dataType = .double then do
    let l ← left.toDouble
    return (← right.toDouble) < l
  else do
    let l ← left.toInt
    return (← right.toInt) < l

/-- The first test, or else the second; the second is not tried if the first holds. -/
def eitherTest (first second : Except ValueError Bool) : Except ValueError Bool :=
  match first with
  | .ok false => second
  | decided => decided

/-- The operators `== != > >= < <=`. -/
def comparison (operator : TokenKind) (left right : Value) : Except EvaluationFault Value :=
  match Value.ensureSameTypes left right operator with
  | .error error => .error (.value error)
  | .ok () =>
    let truth (test : Except ValueError Bool) : Except EvaluationFault Value :=
      (test.map Value.bool).mapError .value
    match operator with
    | .equal => truth (equalValues left right)
    | .notEqual => truth ((equalValues left right).map not)
    | .greater => truth (greaterValue left right)
    | .greaterOrEqual => truth (eitherTest (greaterValue left right) (equalValues left right))
    | .less => truth (greaterValue right left)
    | .lessOrEqual => truth (eitherTest (greaterValue right left) (equalValues left right))
    | _ => .error (.unsupportedOperator operator)

/-! ## Logic -/

/-- The operators `&&` and `||`; both operands are always evaluated. -/
def logic (operator : TokenKind) (left right : Value) : Except EvaluationFault Value :=
  match left, right with
  | .bool l, .bool r =>
    match operator with
    | .and => .ok (.bool (l && r))
    | .or => .ok (.bool (l || r))
    | _ => .error (.unsupportedOperator operator)
  | _, _ => .error (.nonBooleanLogicalOperand operator)

/-! ## Tiers -/

/-- The tiers of binary operators, from the loosest to the tightest. -/
inductive Tier where
  | disjunction
  | conjunction
  | comparison
  | additive
  | multiplicative
  deriving DecidableEq, Repr

def Tier.accepts : Tier → TokenKind → Bool
  | disjunction, kind => kind == .or
  | conjunction, kind => kind == .and
  | comparison, kind => kind.isComparison
  | additive, kind => kind == .plus || kind == .minus || kind == .remainder
  | multiplicative, kind => kind == .multiply || kind == .divide

def Tier.combine : Tier → TokenKind → Value → Value → Except EvaluationFault Value
  | disjunction => logic
  | conjunction => logic
  | comparison => PugScript.comparison
  | additive => arithmetic
  | multiplicative => arithmetic

end PugScript
