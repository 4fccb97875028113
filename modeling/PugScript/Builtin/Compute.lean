import PugScript.Builtin
import PugScript.Text.Replace
import PugScript.Value

/-!
# The built-in functions that only compute

Numbers, texts and conversions; none of them reaches the host. Arguments are converted from left
to right, and the first one that cannot be converted decides the error.
-/

namespace PugScript.Builtin

open PugScript.Decimal
open PugScript.Text

/-! ## Numbers -/

/-- Rounds to a number of decimal places, a half going to the even digit. A number that grows out
of range on the way is left as it is. -/
def roundTo (number : Float) (digits : Int64) : Except ValueError Value :=
  if digits.toInt < 0 ∨ (Limits.maxRoundDigits : Int) < digits.toInt then
    .error (.invalidArgument .digitsOutOfRange)
  else
    let scale := Float.ofNat (tenTo digits.toInt.toNat)
    let scaled := number * scale
    if scaled.isFinite then .ok (.double (roundToEven scaled / scale)) else .ok (.double number)

/-! ## Parts of texts -/

/-- A position or count cut down to what a text of the given length has. -/
def clampIndex (number : Int64) (limit : Nat) : Nat :=
  Nat.min number.toInt.toNat limit

/-- A place in a text, its end included; refused outside. -/
def startIn (text : String) (start : Int64) : Except ValueError Nat :=
  if start.toInt < 0 ∨ (text.length : Int) < start.toInt then
    .error (.invalidArgument (.startOutside start.toInt text.length))
  else .ok start.toInt.toNat

/-- A number of characters from a place on; refused unless all of them exist. -/
def strictPart (text : String) (start : Nat) (count : Int64) : Except ValueError Value :=
  if count.toInt < 0 ∨ (text.length : Int) < start + count.toInt then
    .error (.invalidArgument (.lengthExceeds count.toInt start text.length))
  else .ok (.string (slice text start count.toInt.toNat))

def leftPart (text : String) (count : Int64) : String :=
  slice text 0 (clampIndex count text.length)

def rightPart (text : String) (count : Int64) : String :=
  let kept := clampIndex count text.length
  slice text (text.length - kept) kept

/-- The characters of a text from a place on, as many of them as there are. -/
def midPart (text : String) (start count : Int64) : String :=
  let first := clampIndex start text.length
  slice text first (clampIndex count (text.length - first))

def charAtIndex (text : String) (index : Int64) : Except ValueError Value :=
  if 0 ≤ index.toInt ∧ index.toInt < text.length then
    .ok (.string (slice text index.toInt.toNat 1))
  else .error (.invalidArgument (.indexOutside index.toInt text.length))

/-! ## Choice -/

def choose (condition whenTrue whenFalse : Value) : Except ValueError Value :=
  match condition with
  | .bool truth =>
    if (whenTrue.isNumber && whenFalse.isNumber) || whenTrue.dataType = whenFalse.dataType then
      .ok (if truth then whenTrue else whenFalse)
    else
      .error (.invalidArgument (.branchesDiffer whenTrue.dataType whenFalse.dataType))
  | other => .error (.invalidArgument (.conditionNotBool other.dataType))

/-! ## All of them -/

/-- The result of a function that does not use the host. -/
def compute (builtin : Builtin) (arguments : List Value) : Except ValueError Value :=
  match builtin, arguments with
  | sqrt, [number] => do
    return .double (← number.toDouble).sqrt
  | pow, [base] => do
    return .double ((← base.toDouble).pow 2.0)
  | pow, [base, exponent] => do
    let base ← base.toDouble
    return .double (base.pow (← exponent.toDouble))
  | min, [first, second] => do
    let first ← first.toDouble
    return .double (least first (← second.toDouble))
  | max, [first, second] => do
    let first ← first.toDouble
    return .double (greatest first (← second.toDouble))
  | round, [number] => do
    return .double (roundToEven (← number.toDouble))
  | round, [number, digits] => do
    let number ← number.toDouble
    roundTo number (← digits.toInt)
  | len, [value] => .ok (.int (Int64.ofNat value.text.length))
  | upper, [value] => Value.checkedString (Text.toUpper value.text)
  | lower, [value] => Value.checkedString (Text.toLower value.text)
  | replace, [value, search, replacement] =>
    if search.text.isEmpty then .error (.invalidArgument .emptySearch)
    else Value.checkedString (replaceAll value.text search.text replacement.text)
  | substr, [value, start] => do
    let start ← startIn value.text (← start.toInt)
    return .string (slice value.text start (value.text.length - start))
  | substr, [value, start, count] => do
    let start ← startIn value.text (← start.toInt)
    strictPart value.text start (← count.toInt)
  | left, [value, count] => do
    return .string (leftPart value.text (← count.toInt))
  | right, [value, count] => do
    return .string (rightPart value.text (← count.toInt))
  | mid, [value, start, count] => do
    let start ← start.toInt
    return .string (midPart value.text start (← count.toInt))
  | trim, [value] => .ok (.string (Text.trim value.text))
  | trimStart, [value] => .ok (.string (Text.trimStart value.text))
  | trimEnd, [value] => .ok (.string (Text.trimEnd value.text))
  | charAt, [value, index] => do
    charAtIndex value.text (← index.toInt)
  | toStr, [value] => .ok (.string value.text)
  | toInt, [value] => value.toInt.map .int
  | toDouble, [value] => value.toDouble.map .double
  | toBool, [value] => value.toBool.map .bool
  | iif, [condition, whenTrue, whenFalse] => choose condition whenTrue whenFalse
  | _, _ => .error (.invalidArgumentCount builtin.name)

end PugScript.Builtin
