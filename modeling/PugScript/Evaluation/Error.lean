import PugScript.Value.Error
import PugScript.Variables

/-!
# Evaluation errors

An evaluation fails at a token. The error keeps the token, the whole list of tokens, the variables
at that moment and the values of the statements that were completed before.
-/

namespace PugScript

open PugScript.Journal

inductive EvaluationFault where
  /-- A token that cannot start an expression. -/
  | unexpectedPrimary (kind : TokenKind) (offset : Nat)
  /-- A token of one kind where another must stand. -/
  | unexpectedToken (found expected : TokenKind)
  | unknownIdentifier (name : String)
  | unsupportedOperator (operator : TokenKind)
  | nonBooleanLogicalOperand (operator : TokenKind)
  /-- A block without its end; the kind is that of the keyword that opened it. -/
  | unterminatedBlock (opener : TokenKind)
  | elseInWhile
  | maxDepthExceeded
  | loopLimitExceeded (limit : UInt64)
  | tooManyArguments (name : String)
  | value (error : ValueError)
  deriving DecidableEq, Repr

def EvaluationFault.message : EvaluationFault → String
  | unexpectedPrimary kind offset =>
    "Unexpected token " ++ kind.name ++ " at position " ++ toString offset
  | unexpectedToken found expected =>
    "Unexpected token: " ++ found.name ++ ", expected: " ++ expected.name
  | unknownIdentifier name => "Unknown identifier: " ++ name
  | unsupportedOperator operator => "Unexpected token: " ++ operator.name
  | nonBooleanLogicalOperand operator =>
    "Logical operator " ++ operator.name ++ " can only be applied to bool types"
  | unterminatedBlock opener =>
    "Missing end for " ++ (if opener = .whileWord then "while" else "if") ++ " block"
  | elseInWhile => "else is not allowed inside a while block"
  | maxDepthExceeded => s!"Maximum nesting depth of {Limits.maxParseDepth} exceeded"
  | loopLimitExceeded limit => s!"Loop exceeded {limit} iterations"
  | tooManyArguments name =>
    "Too many arguments for " ++ name ++ ": at most " ++ toString Limits.maxCallArguments ++
      " are allowed"
  | value error => error.message

def EvaluationFault.code : EvaluationFault → Code
  | unexpectedPrimary _ _ => .unexpectedToken
  | unexpectedToken _ _ => .unexpectedToken
  | unknownIdentifier _ => .unknownIdentifier
  | unsupportedOperator _ => .unsupportedOperator
  | nonBooleanLogicalOperand _ => .nonBooleanLogicalOperand
  | unterminatedBlock _ => .unterminatedBlock
  | elseInWhile => .unexpectedToken
  | maxDepthExceeded => .nestingTooDeep
  | loopLimitExceeded _ => .loopLimitExceeded
  | tooManyArguments _ => .tooManyArguments
  | value error => error.code

structure Failure where
  fault : EvaluationFault
  token : Token
  deriving DecidableEq, Repr

/-- A failed evaluation: the failure and what had been reached when it happened. -/
structure EvaluationError where
  fault : EvaluationFault
  token : Token
  /-- All tokens of the evaluation. -/
  tokens : List Token
  /-- The variables when the failure happened. -/
  bindings : VariableTable
  /-- The values of the completed statements. -/
  values : List Value

end PugScript
