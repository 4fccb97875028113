import PugScript.Proofs.Evaluation.Counting
import PugScript.Proofs.Program.Tree

/-!
# What a tree means

The meaning of a tree is given by recursion on the tree: its parts are evaluated from left to right
in a state made of the variables and the host, and a fault ends the evaluation where it happens.
Only the turns of a loop are bounded; a meaning is nothing if a loop does not end within them.
-/

namespace PugScript

open PugScript.Decimal

structure Store (σ : Type) where
  bindings : VariableTable
  world : σ

/-- A computation on a store that may end with a fault, or not end. -/
abbrev Meaning (σ : Type) : Type → Type :=
  ExceptT EvaluationFault (StateT (Store σ) Option)

namespace Meaning

variable {σ α : Type}

/-- The computation that has not ended. -/
def unfinished : Meaning σ α :=
  fun _ => none

def readVariable (name : String) : Meaning σ Value := do
  match (← get).bindings.get? name with
  | some value => return value
  | none => throw (.unknownIdentifier name)

def assignVariable (name : String) (value : Value) : Meaning σ Value := do
  match (← get).bindings.assign? name value with
  | some bindings =>
    modify fun store => { store with bindings }
    return value
  | none => throw (.unknownIdentifier name)

def declareVariable (name : String) (value : Value) : Meaning σ Unit :=
  modify fun store => { store with bindings := store.bindings.declare name value }

def typeOf (typeName : String) : Meaning σ DataType :=
  match DataType.ofName? typeName with
  | some dataType => pure dataType
  | none => throw (.value (.unknownType typeName))

def invoke (host : Host σ) (function : String) (arguments : List Value) : Meaning σ Value := do
  let (result, world) := Builtin.invoke host function arguments (← get).world
  modify fun store => { store with world }
  ofExcept (result.mapError .value)

def test (condition : Meaning σ Value) : Meaning σ Bool := do
  ofExcept ((← condition).toBool.mapError .value)

/-- Repeats a body as long as a test holds, up to a number of turns; more turns than a limit that
bounds loops are a fault. -/
def repeatWhile (limit : UInt64) (test : Meaning σ Bool) (body : Meaning σ Unit) :
    Nat → Nat → Meaning σ Unit
  | 0, _ => unfinished
  | turns + 1, iterations => do
    if ← test then
      if BoundsLoops limit ∧ limit.toNat ≤ iterations then
        throw (.loopLimitExceeded limit)
      else
        body
        repeatWhile limit test body turns (iterations + 1)

end Meaning

namespace Tree

open Meaning

variable {σ : Type} (host : Host σ) (limit : UInt64) (turns : Nat)

mutual

/-- The meaning of a tree. -/
@[simp]
def meaning : Tree → Meaning σ Value
  | number text =>
    match readFloat? text with
    | some value => pure (.double value)
    | none => throw (.value (.conversionFailed text .double))
  | truth value => pure (.bool value)
  | quote content => pure (.string content)
  | read name => readVariable name
  | assign name value => do assignVariable name (← value.meaning)
  | declare typeName name => do
    let dataType ← typeOf typeName
    declareVariable name (Value.initial dataType)
    return .none
  | define typeName name value => do
    let dataType ← typeOf typeName
    declareVariable name (Value.initial dataType)
    let initial ← ofExcept (((← value.meaning).cast dataType).mapError .value)
    declareVariable name initial
    return initial
  | signed sign operand => do ofExcept (applySign sign.kind (← operand.meaning))
  | binary operator left right => do
    let leftValue ← left.meaning
    let rightValue ← right.meaning
    ofExcept (operator.tier.combine operator.kind leftValue rightValue)
  | group inner => inner.meaning
  | call function arguments => do invoke host function (← argumentsMeaning arguments)
  | ifThen condition body => do
    let truth ← test condition.meaning
    if truth then blockMeaning body
    return .bool truth
  | ifElse condition body otherwise => do
    let truth ← test condition.meaning
    if truth then blockMeaning body else blockMeaning otherwise
    return .bool truth
  | whileLoop condition body => do
    repeatWhile limit (test condition.meaning) (blockMeaning body) turns 0
    return .none

@[simp]
def argumentsMeaning : List Tree → Meaning σ (List Value)
  | [] => return []
  | first :: others => do
    let value ← first.meaning
    let values ← argumentsMeaning others
    return value :: values

@[simp]
def blockMeaning : List Tree → Meaning σ Unit
  | [] => return
  | first :: others => do
    let _ ← first.meaning
    blockMeaning others

end

end Tree

/-- Where a program has led: the values of its completed statements, the fault that ended it, if
any, and the store at that moment. -/
structure Summary (σ : Type) where
  values : List Value
  fault? : Option EvaluationFault
  store : Store σ

/-- The statements of a program, one after another, up to the first fault. -/
def runProgram {σ : Type} (host : Host σ) (limit : UInt64) (turns : Nat) :
    List Tree → Store σ → Option (Summary σ)
  | [], store => some ⟨[], none, store⟩
  | statement :: others, store =>
    match statement.meaning host limit turns store with
    | none => none
    | some (.error fault, store) => some ⟨[], some fault, store⟩
    | some (.ok value, store) =>
      (runProgram host limit turns others store).map fun summary =>
        { summary with values := value :: summary.values }

end PugScript
