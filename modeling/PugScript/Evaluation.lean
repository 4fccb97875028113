import PugScript.Evaluation.Expression

/-!
# Evaluating a list of tokens

Statements are evaluated one after another until the tokens end. A run gives the value of every
statement, or the first error together with what had been reached; the variables and the host keep
what happened before it.
-/

namespace PugScript

structure EvaluationPreferences where
  /-- How often a loop may run its body; zero for no limit. -/
  maxLoopIterations : UInt64 := 0
  /-- Note every statement in the journal. -/
  traceStatements : Bool := false
  deriving DecidableEq, Repr

structure Evaluation (σ : Type) where
  result : Except EvaluationError (List Value)
  bindings : VariableTable
  world : σ
  /-- Notes with what the host had written before them, oldest first. -/
  notes : List (Nat × Note)

namespace Evaluation

variable {σ : Type}

/-- Where the statements of a run have led. -/
structure Progress (σ : Type) where
  /-- The values of the completed statements, oldest first. -/
  values : List Value
  failure? : Option Failure
  machine : Machine σ

/-- The machine after a statement was evaluated, with a note of it if statements are traced. -/
def afterStatement (context : Context σ) (trace : Bool) (value : Value) (machine : Machine σ) :
    Machine σ :=
  if trace then
    { machine with
      notes := (context.host.written machine.world, .statementEvaluated value) :: machine.notes }
  else machine

/-- Evaluates statements until the tokens end or one fails; `values` holds the values so far, last
first. Nothing is found out if the fuel does not suffice. -/
def statements (context : Context σ) (trace : Bool) :
    Nat → List Value → Machine σ → Option (Progress σ)
  | 0, _, _ => none
  | fuel + 1, values, machine =>
    if (machine.remaining.headD context.endMark).kind = .endOfInput then
      some ⟨values.reverse, none, machine⟩
    else
      match expression context fuel machine with
      | .outOfFuel => none
      | .failed failure machine => some ⟨values.reverse, some failure, machine⟩
      | .done value machine =>
        statements context trace fuel (value :: values)
          (afterStatement context trace value machine)

def contextOf (host : Host σ) (preferences : EvaluationPreferences) (tokens : List Token) :
    Context σ :=
  { host, endMark := endMark tokens, loopLimit := preferences.maxLoopIterations }

def initialMachine (tokens : List Token) (bindings : VariableTable) (world : σ) : Machine σ :=
  { remaining := tokens, bindings, world, depth := 0, notes := [] }

def ofProgress (tokens : List Token) (progress : Progress σ) : Evaluation σ :=
  let machine := progress.machine
  { result :=
      match progress.failure? with
      | none => .ok progress.values
      | some failure =>
        .error
          { fault := failure.fault
            token := failure.token
            tokens
            bindings := machine.bindings
            values := progress.values }
    bindings := machine.bindings
    world := machine.world
    notes := machine.notes.reverse }

end Evaluation

/-- Evaluates tokens with the given variables and host. Gives nothing if the fuel does not
suffice. -/
def evaluate {σ : Type} (fuel : Nat) (host : Host σ) (preferences : EvaluationPreferences)
    (tokens : List Token) (bindings : VariableTable) (world : σ) : Option (Evaluation σ) :=
  (Evaluation.statements (Evaluation.contextOf host preferences tokens)
      preferences.traceStatements fuel []
      (Evaluation.initialMachine tokens bindings world)).map
    (Evaluation.ofProgress tokens)

/-- Fuel that no run uses up in any time that could be waited for. -/
def ampleFuel : Nat := Decimal.twoTo 62

end PugScript
