import PugScript.Decimal.Arithmetic
import PugScript.Decimal.Layout
import PugScript.Decimal.Numeral
import PugScript.Text.Blank
import PugScript.Text.Case
import PugScript.Value.Error

/-!
# Values and their conversions

A value is a whole number of 64 bits, a double, a truth value, a text, or nothing. Conversions are
total: each gives the converted value or says what could not be converted into what.
-/

namespace PugScript

open PugScript.Decimal
open PugScript.Text

/-- A value of the language; `none` marks that nothing was produced. -/
inductive Value where
  | int (number : Int64)
  | double (number : Float)
  | bool (truth : Bool)
  | string (content : String)
  | none

/-- Doubles are shown in full, without an exponent; whole numbers have no point. -/
def displayLayout : Layout where
  positional := fun _ => true
  wholeMark := ""
  tie := .up
  notANumber := "NaN"
  positiveInfinity := "Infinity"
  negativeInfinity := "-Infinity"

/-- Two numbers closer than this are equal once a double takes part. -/
def equalityTolerance : Float := 0.01

/-- The whole number that a text stands for, if it is in the range of 64 bits. -/
def readInt64? (text : String) : Option Int64 :=
  match readInteger? text.toList with
  | some number =>
    if isInt64 number then some (Int64.ofInt number) else Option.none
  | Option.none => Option.none

namespace Value

def dataType : Value → DataType
  | int _ => .int
  | double _ => .double
  | bool _ => .bool
  | string _ => .string
  | none => .none

def isNone : Value → Bool
  | none => true
  | _ => false

def isNumber (value : Value) : Bool :=
  value.dataType.isNumber

def text : Value → String
  | int number => toString number.toInt
  | double number => displayLayout.render number
  | bool truth => if truth then "true" else "false"
  | string content => content
  | none => ""

/-- A text as a value, refused above the length limit. -/
def checkedString (content : String) : Except ValueError Value :=
  if Limits.maxStringLength < content.length then .error (.stringTooLong content.length)
  else .ok (string content)

/-! ## Conversions -/

/-- The value as a double. A text is read without the blank characters around it. -/
def toDouble : Value → Except ValueError Float
  | double number => .ok number
  | int number => .ok (wholeFloat number)
  | value =>
    match readFloat? (trim value.text) with
    | some number => .ok number
    | Option.none => .error (.conversionFailed value.text .double)

/-- The value as a whole number. A double is rounded, a half to the even neighbour, and stays at
the end of the range beyond it; a text is read without the blank characters around it. -/
def toInt : Value → Except ValueError Int64
  | int number => .ok number
  | double number => .ok (roundToEven number).toInt64
  | value =>
    match readInt64? (trim value.text) with
    | some number => .ok number
    | Option.none => .error (.conversionFailed value.text .int)

/-- The value as a truth value. A text may be written in any case, with blank characters around. -/
def toBool : Value → Except ValueError Bool
  | bool truth => .ok truth
  | string content =>
    if sameIgnoringAsciiCase (trim content) "true" then .ok true
    else if sameIgnoringAsciiCase (trim content) "false" then .ok false
    else .error (.conversionFailed content .bool)
  | value => .error (.conversionFailed value.text .bool)

/-- A value of the first type may be stored as one of the second: numbers go into each other, any
other type only into itself, and nothing goes nowhere. -/
def fits (source target : DataType) : Bool :=
  match source with
  | .int | .double => target.isNumber
  | .none => false
  | other => other == target

def cast (value : Value) (target : DataType) : Except ValueError Value :=
  if fits value.dataType target then
    match target with
    | .int => value.toInt.map int
    | .double => value.toDouble.map double
    | .bool => value.toBool.map bool
    | .string => .ok (string value.text)
    | .none => .error (.unknownType target.name)
  else
    .error (.invalidCast value.dataType target)

def castNamed (value : Value) (name : String) : Except ValueError Value :=
  match DataType.ofName? name with
  | some target => value.cast target
  | Option.none => .error (.unknownType name)

/-- The value that a declared variable has before it gets one. -/
def initial : DataType → Value
  | .int => int 0
  | .double => double 0.0
  | .bool => bool false
  | .string => string ""
  | .none => none

def initialNamed (name : String) : Except ValueError Value :=
  match DataType.ofName? name with
  | some dataType => .ok (initial dataType)
  | Option.none => .error (.unknownType name)

/-- The value of a literal. Numbers are doubles. -/
def ofLiteral (token : Token) : Except ValueError Value :=
  match token.kind with
  | .number =>
    match readFloat? token.text with
    | some number => .ok (double number)
    | Option.none => .error (.conversionFailed token.text .double)
  | .bool => .ok (bool (token.text == "true"))
  | .string => .ok (string token.text)
  | kind => .error (.invalidLiteral kind)

/-- Two values may be operands of one operator: both numbers, or both of one type. -/
def ensureSameTypes (left right : Value) (operator : TokenKind) : Except ValueError Unit :=
  if left.isNone || right.isNone then .error (.noneOperand operator)
  else if left.isNumber && right.isNumber then .ok ()
  else if left.dataType ≠ right.dataType then
    .error (.typeMismatch operator left.dataType right.dataType)
  else .ok ()

end Value

end PugScript
