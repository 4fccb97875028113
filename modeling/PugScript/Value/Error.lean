import PugScript.DataType
import PugScript.Journal.Code
import PugScript.Limits
import PugScript.Token

/-!
# Errors of values

What can go wrong with conversions, operands and the arguments of built-in functions.
-/

namespace PugScript

open PugScript.Journal

/-- Why a built-in function refuses an argument of the right type. -/
inductive ArgumentFault where
  /-- Rounding to a number of places outside the allowed range. -/
  | digitsOutOfRange
  /-- A random number below a negative bound. -/
  | negativeUpperBound
  /-- A random number between bounds in the wrong order. -/
  | reversedBounds (lower upper : Int)
  /-- Replacing the empty text. -/
  | emptySearch
  /-- A part of a text that starts outside it. -/
  | startOutside (start : Int) (length : Nat)
  /-- A part of a text that ends outside it, or has a negative length. -/
  | lengthExceeds (count : Int) (start : Nat) (length : Nat)
  /-- A character outside the text. -/
  | indexOutside (index : Int) (length : Nat)
  /-- A choice that does not hang on a truth value. -/
  | conditionNotBool (found : DataType)
  /-- A choice between values of different types. -/
  | branchesDiffer (whenTrue whenFalse : DataType)
  deriving DecidableEq, Repr

def ArgumentFault.function : ArgumentFault → String
  | digitsOutOfRange => "round"
  | negativeUpperBound => "random"
  | reversedBounds _ _ => "random"
  | emptySearch => "replace"
  | startOutside _ _ => "substr"
  | lengthExceeds _ _ _ => "substr"
  | indexOutside _ _ => "char_at"
  | conditionNotBool _ => "iif"
  | branchesDiffer _ _ => "iif"

def ArgumentFault.reason : ArgumentFault → String
  | digitsOutOfRange => s!"digits must be between 0 and {Limits.maxRoundDigits}"
  | negativeUpperBound => "upper bound must not be negative"
  | reversedBounds lower upper => s!"lower bound {lower} is greater than upper bound {upper}"
  | emptySearch => "search string must not be empty"
  | startOutside start length =>
    s!"start index {start} is outside a string of length {length}"
  | lengthExceeds count start length =>
    s!"length {count} from index {start} exceeds a string of length {length}"
  | indexOutside index length => s!"index {index} is outside a string of length {length}"
  | conditionNotBool found => "condition must be a Bool, found " ++ found.title
  | branchesDiffer whenTrue whenFalse =>
    "branches must share a type, found " ++ whenTrue.title ++ " and " ++ whenFalse.title

/-- An error of a conversion, an operator or a built-in function. -/
inductive ValueError where
  /-- The text cannot be read as a value of the type. -/
  | conversionFailed (text : String) (target : DataType)
  /-- A value of one type where another is declared. -/
  | invalidCast (found expected : DataType)
  | unknownType (name : String)
  | typeMismatch (operator : TokenKind) (left right : DataType)
  /-- An operand that is no value. -/
  | noneOperand (operator : TokenKind)
  /-- A token that is no literal. -/
  | invalidLiteral (kind : TokenKind)
  | functionNotFound (name : String)
  | invalidArgumentCount (name : String)
  | invalidArgument (fault : ArgumentFault)
  | stringTooLong (length : Nat)
  /-- The host failed, with its own message. -/
  | host (message : String)
  deriving DecidableEq, Repr

def ValueError.message : ValueError → String
  | conversionFailed text target => "Can't convert " ++ text ++ " to " ++ target.name
  | invalidCast found expected =>
    "Invalid type " ++ (if found.isNumber then "int or double" else found.name) ++
      ". Expected a " ++ expected.name
  | unknownType name => "Unknown type: " ++ name
  | typeMismatch operator left right =>
    "Cannot apply " ++ operator.name ++ " operator to different types: " ++ left.title ++
      " and " ++ right.title
  | noneOperand operator => "Cannot apply " ++ operator.name ++ " operator to a None value"
  | invalidLiteral kind => "Invalid token type: " ++ kind.name
  | functionNotFound name => "Function " ++ name ++ " not found"
  | invalidArgumentCount name => "Invalid number of arguments for " ++ name
  | invalidArgument fault => "Invalid argument for " ++ fault.function ++ ": " ++ fault.reason
  | stringTooLong length =>
    s!"String too long: {length} characters (max {Limits.maxStringLength})"
  | host message => "Host I/O failure: " ++ message

def ValueError.code : ValueError → Code
  | conversionFailed _ _ => .conversionFailed
  | invalidCast _ _ => .invalidCast
  | unknownType _ => .unknownType
  | typeMismatch _ _ _ => .typeMismatch
  | noneOperand _ => .typeMismatch
  | invalidLiteral _ => .unexpectedToken
  | functionNotFound _ => .functionNotFound
  | invalidArgumentCount _ => .invalidArgumentCount
  | invalidArgument _ => .invalidArgument
  | stringTooLong _ => .stringTooLong
  | host _ => .hostFailure

end PugScript
