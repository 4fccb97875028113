import PugScript.Builtin.Invoke
import PugScript.Evaluation.Machine
import PugScript.Evaluation.Operators

/-!
# Evaluating expressions

Tokens are evaluated as they are read. Binary operators bind in five tiers, each from left to
right; a sign binds tighter, and a primary is a literal, a name, a declaration, a call, a
parenthesised expression or a block. Every repetition takes the nested evaluation as a parameter
and is bounded by fuel of its own; `expression` closes the circle.
-/

namespace PugScript

namespace Evaluation

open Eval

variable {σ : Type} (context : Context σ)

/-! ## Operators -/

/-- The operators of a tier that follow the left operand, applied from left to right. -/
def applyTier (tier : Tier) (operand : Eval σ Value) : Nat → Value → Eval σ Value
  | 0, _ => exhausted
  | fuel + 1, left => do
    let operator ← current context
    if tier.accepts operator.kind then
      advance
      let right ← operand
      let result ← ofExcept operator (tier.combine operator.kind left right)
      applyTier tier operand fuel result
    else
      return left

/-- An operand followed by any number of operators of a tier. -/
def tierOf (tier : Tier) (fuel : Nat) (operand : Eval σ Value) : Eval σ Value := do
  let left ← operand
  applyTier context tier operand fuel left

/-- A primary behind any number of signs. Every nested expression passes through here, so this is
where the nesting is bounded. -/
def signed (primary : Eval σ Value) : Nat → Eval σ Value
  | 0 => exhausted
  | fuel + 1 => do
    let token ← current context
    let depth ← currentDepth
    if Limits.maxParseDepth ≤ depth then
      fail .maxDepthExceeded token
    else if token.kind = .plus ∨ token.kind = .minus then
      nested do
        advance
        let operand ← signed primary fuel
        ofExcept token (applySign token.kind operand)
    else
      nested primary

/-- An expression whose primaries are given. -/
def expressionOf (fuel : Nat) (primary : Eval σ Value) : Eval σ Value :=
  tierOf context .disjunction fuel <|
    tierOf context .conjunction fuel <|
      tierOf context .comparison fuel <|
        tierOf context .additive fuel <|
          tierOf context .multiplicative fuel <|
            signed context primary fuel

/-! ## Names and calls -/

/-- A declaration, with or without an initial value. The name has the type's initial value while
its own is evaluated. -/
def declaration (expression : Eval σ Value) : Eval σ Value := do
  let typeToken ← current context
  advance
  match DataType.ofName? typeToken.text with
  | none => fail (.value (.unknownType typeToken.text)) typeToken
  | some dataType =>
    let following ← peek context
    let name ← expect context .identifier
    declareVariable name.text (Value.initial dataType)
    if following.kind = .assign then
      let _ ← expect context .assign
      let value ← expression
      match value.cast dataType with
      | .error error => failHere context (.value error)
      | .ok value =>
        declareVariable name.text value
        return value
    else
      return .none

/-- A variable, or an assignment to one if `=` follows its name. -/
def identifier (expression : Eval σ Value) : Eval σ Value := do
  let name ← current context
  advance
  let following ← current context
  if following.kind = .assign then
    advance
    let value ← expression
    if ← assignVariable name.text value then
      return value
    else
      fail (.unknownIdentifier name.text) name
  else
    match ← getVariable? name.text with
    | some value => return value
    | none => fail (.unknownIdentifier name.text) name

/-- The arguments after the first one; `arguments` holds those already evaluated, last first. -/
def moreArguments (function : Token) (expression : Eval σ Value) :
    Nat → List Value → Eval σ (List Value)
  | 0, _ => exhausted
  | fuel + 1, arguments => do
    let token ← current context
    if token.kind = .comma then
      advance
      if Limits.maxCallArguments ≤ arguments.length then
        fail (.tooManyArguments function.text) function
      else
        let argument ← expression
        moreArguments function expression fuel (argument :: arguments)
    else
      return arguments.reverse

/-- The arguments between the parentheses of a call. -/
def arguments (function : Token) (expression : Eval σ Value) (fuel : Nat) :
    Eval σ (List Value) := do
  let token ← current context
  if token.kind = .closeParenthesis then
    return []
  else
    let first ← expression
    moreArguments context function expression fuel [first]

def call (expression : Eval σ Value) (fuel : Nat) : Eval σ Value := do
  let function ← current context
  advance
  let _ ← expect context .openParenthesis
  let values ← arguments context function expression fuel
  let _ ← expect context .closeParenthesis
  withHost (Builtin.invoke context.host function.text values) function

def parenthesised (expression : Eval σ Value) : Eval σ Value := do
  advance
  let value ← expression
  let _ ← expect context .closeParenthesis
  return value

def literal (token : Token) : Eval σ Value := do
  advance
  ofExcept token ((Value.ofLiteral token).mapError .value)

/-! ## Blocks -/

/-- A condition must be convertible to a truth value. -/
def condition (expression : Eval σ Value) : Eval σ Bool := do
  let value ← expression
  match value.toBool with
  | .ok truth => return truth
  | .error error => failHere context (.value error)

/-- Evaluates statements up to one of the kinds `stops` and leaves the cursor at it. The values of
the statements are dropped. -/
def block (opener : TokenKind) (stops : List TokenKind) (expression : Eval σ Value) :
    Nat → Eval σ TokenKind
  | 0 => exhausted
  | fuel + 1 => do
    let token ← current context
    if token.kind ∈ stops then
      return token.kind
    else if token.kind = .endOfInput then
      fail (.unterminatedBlock opener) token
    else if token.kind = .elseWord ∧ opener = .whileWord then
      fail .elseInWhile token
    else
      let _ ← expression
      block opener stops expression fuel

/-- The branches of an `if`: the taken one is evaluated and the other one passed over. -/
def branches (truth : Bool) (expression : Eval σ Value) (fuel : Nat) : Eval σ Unit := do
  if truth then
    let stop ← block context .ifWord [.elseWord, .endWord] expression fuel
    if stop = .elseWord then
      advance
      let _ ← skipTo context .ifWord [.endWord]
  else
    let stop ← skipTo context .ifWord [.elseWord, .endWord]
    if stop = .elseWord then
      advance
      let _ ← block context .ifWord [.endWord] expression fuel

/-- An `if` block. Its value is that of the condition. -/
def ifBlock (expression : Eval σ Value) (fuel : Nat) : Eval σ Value := do
  advance
  let truth ← condition context expression
  branches context truth expression fuel
  let _ ← expect context .endWord
  return .bool truth

/-- Runs the body of a loop as long as its condition holds, going back to the condition each time;
gives the number of runs. The number wraps, as in a build without overflow checks, so that it never
exceeds the largest limit; a build with the checks would end there. -/
def iterate (keyword : Token) (start : List Token) (test : Eval σ Bool)
    (body : Eval σ TokenKind) : Nat → UInt64 → Eval σ UInt64
  | 0, _ => exhausted
  | fuel + 1, iterations => do
    if ← test then
      if 0 < context.loopLimit ∧ context.loopLimit < iterations + 1 then
        fail (.loopLimitExceeded context.loopLimit) keyword
      else
        let _ ← body
        rewind start
        iterate keyword start test body fuel (iterations + 1)
    else
      return iterations

/-- A `while` block. It has no value. -/
def whileBlock (expression : Eval σ Value) (fuel : Nat) : Eval σ Value := do
  let keyword ← current context
  advance
  let start ← mark
  let iterations ←
    iterate context keyword start (condition context expression)
      (block context .whileWord [.endWord] expression fuel) fuel 0
  let stop ← skipTo context .whileWord [.elseWord, .endWord]
  if stop = .elseWord then
    failHere context .elseInWhile
  else
    let _ ← expect context .endWord
    leaveNote context (.loopFinished iterations keyword.offset)
    return .none

/-! ## Primaries and expressions -/

/-- A primary whose nested expressions are given. -/
def primary (expression : Eval σ Value) (fuel : Nat) : Eval σ Value := do
  let token ← current context
  match token.kind with
  | .dataType => declaration context expression
  | .identifier => identifier context expression
  | .function => call context expression fuel
  | .number | .string | .bool => literal token
  | .openParenthesis => parenthesised context expression
  | .ifWord => ifBlock context expression fuel
  | .whileWord => whileBlock context expression fuel
  | kind => fail (.unexpectedPrimary kind token.offset) token

/-- One expression. The fuel bounds how deep expressions are nested in each other and how often
each repetition on the way goes round. -/
def expression : Nat → Eval σ Value
  | 0 => exhausted
  | fuel + 1 => expressionOf context fuel (primary context (expression fuel) fuel)

end Evaluation

end PugScript
