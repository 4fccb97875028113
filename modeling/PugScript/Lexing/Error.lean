import PugScript.Journal.Code
import PugScript.Limits
import PugScript.Token

/-!
# Lexical errors

A source that cannot be split into tokens fails at one place. The error keeps the tokens found
before it, the place, and the character that stands there.
-/

namespace PugScript

open PugScript.Journal

inductive LexicalFault where
  | unterminatedString
  | multipleDots
  | invalidNumber (text : String)
  | unexpectedCharacter (character : Char)
  | identifierTooLong (length : Nat)
  | stringTooLarge (size : Nat)
  | tooManyTokens (count : Nat)
  deriving DecidableEq, Repr

def LexicalFault.message : LexicalFault → String
  | unterminatedString => "String not closed"
  | multipleDots => "Invalid number format: multiple dots"
  | invalidNumber text => "Invalid number format: " ++ text
  | unexpectedCharacter character => "Unexpected character " ++ String.singleton character
  | identifierTooLong length =>
    s!"Identifier too long: {length} characters (max {Limits.maxIdentifierLength})"
  | stringTooLarge size =>
    s!"String too large: {size} characters (max {Limits.maxStringSize})"
  | tooManyTokens count => s!"Too many tokens: {count} (max {Limits.maxTokenCount})"

def LexicalFault.code : LexicalFault → Code
  | unterminatedString => .unterminatedString
  | multipleDots => .invalidNumber
  | invalidNumber _ => .invalidNumber
  | unexpectedCharacter _ => .unexpectedCharacter
  | identifierTooLong _ => .identifierTooLong
  | stringTooLarge _ => .stringTooLarge
  | tooManyTokens _ => .tooManyTokens

structure LexicalError where
  fault : LexicalFault
  /-- The tokens before the fault. -/
  tokens : List Token
  /-- The number of characters before the place of the fault. -/
  position : Nat
  /-- The character at that place; none at the end of the source. -/
  character : Option Char
  deriving DecidableEq, Repr

end PugScript
