import PugScript.Evaluation.Error
import PugScript.Host
import PugScript.Token.Stream

/-!
# The evaluating machine

The machine holds the tokens that are still to come, the variables, the state of the host and the
current nesting depth. A step either produces something, fails at a token, or does not end within
the fuel it was given. A failure keeps the state in which it happened.
-/

namespace PugScript

/-- What the journal may want to know about a running evaluation. -/
inductive Note where
  | loopFinished (iterations : UInt64) (offset : Nat)
  | statementEvaluated (value : Value)

/-- The state of an evaluation. -/
structure Machine (σ : Type) where
  /-- The tokens from the cursor on. -/
  remaining : List Token
  bindings : VariableTable
  /-- The state of the host. -/
  world : σ
  /-- How deep the current expression is nested. -/
  depth : Nat
  /-- Notes with what the host had written before them, newest first. -/
  notes : List (Nat × Note)

/-- What stays the same during an evaluation. -/
structure Context (σ : Type) where
  host : Host σ
  /-- The mark behind the last token. -/
  endMark : Token
  /-- How often a loop may run its body; zero for no limit. -/
  loopLimit : UInt64

/-- How a step of the machine ends. -/
inductive Outcome (σ α : Type) where
  | done (result : α) (machine : Machine σ)
  | failed (failure : Failure) (machine : Machine σ)
  /-- The fuel was not enough to find out. -/
  | outOfFuel

/-- A step of the machine that produces an `α`. -/
def Eval (σ α : Type) : Type :=
  Machine σ → Outcome σ α

namespace Eval

variable {σ α β : Type}

@[always_inline, inline]
protected def pure (result : α) : Eval σ α :=
  fun machine => .done result machine

@[always_inline, inline]
protected def bind (first : Eval σ α) (second : α → Eval σ β) : Eval σ β :=
  fun machine =>
    match first machine with
    | .done result machine => second result machine
    | .failed failure machine => .failed failure machine
    | .outOfFuel => .outOfFuel

instance : Monad (Eval σ) where
  pure := Eval.pure
  bind := Eval.bind

/-- The step for which no fuel is left. -/
def exhausted : Eval σ α :=
  fun _ => .outOfFuel

def fail (fault : EvaluationFault) (token : Token) : Eval σ α :=
  fun machine => .failed ⟨fault, token⟩ machine

/-- The result of a computation, or its fault at a token. -/
def ofExcept (token : Token) : Except EvaluationFault α → Eval σ α
  | .ok result => Eval.pure result
  | .error fault => fail fault token

/-! ## The cursor -/

def current (context : Context σ) : Eval σ Token :=
  fun machine => .done (machine.remaining.headD context.endMark) machine

/-- The token after the one at the cursor. -/
def peek (context : Context σ) : Eval σ Token :=
  fun machine => .done (machine.remaining.tail.headD context.endMark) machine

def advance : Eval σ Unit :=
  fun machine => .done () { machine with remaining := machine.remaining.tail }

/-- Passes a token of the given kind; fails at any other. -/
def expect (context : Context σ) (kind : TokenKind) : Eval σ Token := do
  let token ← current context
  if token.kind = kind then
    advance
    return token
  else
    fail (.unexpectedToken token.kind kind) token

/-- Fails at the token at the cursor. -/
def failHere (context : Context σ) (fault : EvaluationFault) : Eval σ α := do
  fail fault (← current context)

def mark : Eval σ (List Token) :=
  fun machine => .done machine.remaining machine

def rewind (place : List Token) : Eval σ Unit :=
  fun machine => .done () { machine with remaining := place }

/-- Passes over a block's body up to one of the given kinds. -/
def skipTo (context : Context σ) (opener : TokenKind) (stops : List TokenKind) :
    Eval σ TokenKind :=
  fun machine =>
    match skipBlock stops 0 machine.remaining with
    | (some kind, rest) => .done kind { machine with remaining := rest }
    | (none, rest) =>
      failHere context (.unterminatedBlock opener) { machine with remaining := rest }

/-! ## Variables, host and depth -/

def getVariable? (name : String) : Eval σ (Option Value) :=
  fun machine => .done (machine.bindings.get? name) machine

def declareVariable (name : String) (value : Value) : Eval σ Unit :=
  fun machine => .done () { machine with bindings := machine.bindings.declare name value }

/-- Gives a declared variable a new value; says whether it is declared. -/
def assignVariable (name : String) (value : Value) : Eval σ Bool :=
  fun machine =>
    match machine.bindings.assign? name value with
    | some bindings => .done true { machine with bindings }
    | none => .done false machine

def withHost (use : σ → Except ValueError α × σ) (token : Token) : Eval σ α :=
  fun machine =>
    match use machine.world with
    | (.ok result, world) => .done result { machine with world }
    | (.error error, world) => .failed ⟨.value error, token⟩ { machine with world }

/-- Runs a step one level deeper, and comes back up whether it succeeds or fails. -/
def nested (step : Eval σ α) : Eval σ α :=
  fun machine =>
    match step { machine with depth := machine.depth + 1 } with
    | .done result machine => .done result { machine with depth := machine.depth - 1 }
    | .failed failure machine => .failed failure { machine with depth := machine.depth - 1 }
    | .outOfFuel => .outOfFuel

def currentDepth : Eval σ Nat :=
  fun machine => .done machine.depth machine

def leaveNote (context : Context σ) (note : Note) : Eval σ Unit :=
  fun machine =>
    .done () { machine with notes := (context.host.written machine.world, note) :: machine.notes }

end Eval

end PugScript
