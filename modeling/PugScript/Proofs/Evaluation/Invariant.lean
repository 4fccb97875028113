import PugScript.Proofs.Evaluation.Outcomes
import PugScript.Proofs.Evaluation.Statements

/-!
# Invariants of an evaluation

An invariant says where the cursor can stand, which values are produced, what the variables and the
host can become, and which failures are reported. It is enough to check it against what a single
token can do: read a literal, apply an operator, store a value, call a function. Then it holds all
through an evaluation and at its end, whether that is a success or a failure.
-/

namespace PugScript

/-- Faults in the form of a program, whatever the values are that it works on. -/
def EvaluationFault.IsFormal : EvaluationFault → Prop
  | unsupportedOperator _ | nonBooleanLogicalOperand _ | value _ => False
  | _ => True

/-- Conditions that every single token keeps. -/
structure Invariant {σ : Type} (context : Context σ) where
  place : List Token → Prop
  value : Value → Prop
  table : VariableTable → Prop
  world : σ → Prop
  failure : Failure → Prop
  place_tail : ∀ tokens, place tokens → place tokens.tail
  value_none : value .none
  value_truth : ∀ truth, value (.bool truth)
  value_initial : ∀ dataType, value (Value.initial dataType)
  value_stored : ∀ bindings name stored,
    table bindings → bindings.get? name = some stored → value stored
  failure_formal : ∀ tokens fault,
    place tokens → fault.IsFormal → failure ⟨fault, context.front tokens⟩
  failure_type : ∀ token rest,
    place (token :: rest) → token.kind = .dataType → DataType.ofName? token.text = none →
      failure ⟨.value (.unknownType token.text), token⟩
  failure_truth : ∀ tokens operand error,
    place tokens → value operand → operand.toBool = .error error →
      failure ⟨.value error, context.front tokens⟩
  literal : ∀ token rest,
    place (token :: rest) → token.kind = .number ∨ token.kind = .string ∨ token.kind = .bool →
      Yields value (fun error => failure ⟨.value error, token⟩) (Value.ofLiteral token)
  sign : ∀ token rest operand,
    place (token :: rest) → value operand →
      Yields value (fun fault => failure ⟨fault, token⟩) (applySign token.kind operand)
  combine : ∀ token rest tier left right,
    place (token :: rest) → value left → value right →
      Yields value (fun fault => failure ⟨fault, token⟩) (Tier.combine tier token.kind left right)
  cast : ∀ tokens operand dataType,
    place tokens → value operand → dataType ∈ DataType.declarable →
      Yields value (fun error => failure ⟨.value error, context.front tokens⟩)
        (operand.cast dataType)
  declare : ∀ dataType name rest bindings stored,
    place (dataType :: name :: rest) → dataType.kind = .dataType → name.kind = .identifier →
      table bindings → value stored → table (bindings.declare name.text stored)
  assign : ∀ name assign rest bindings stored changed,
    place (name :: assign :: rest) → name.kind = .identifier → assign.kind = .assign →
      table bindings → value stored → bindings.assign? name.text stored = some changed →
        table changed
  invoke : ∀ token rest arguments state,
    place (token :: rest) → token.kind = .function → (∀ argument ∈ arguments, value argument) →
      world state →
        Yields value (fun error => failure ⟨.value error, token⟩)
          (Builtin.invoke context.host token.text arguments state).1 ∧
        world (Builtin.invoke context.host token.text arguments state).2

namespace Invariant

variable {σ α : Type} {context : Context σ} (invariant : Invariant context)

structure Holds (machine : Machine σ) : Prop where
  place : invariant.place machine.remaining
  table : invariant.table machine.bindings
  world : invariant.world machine.world

/-- A success meets its postcondition; a failure is one of those allowed, in a machine where the
invariant holds. -/
def Ends (post : α → Machine σ → Prop) (outcome : Outcome σ α) : Prop :=
  outcome.Meets True (fun failure machine => invariant.failure failure ∧ invariant.Holds machine)
    post

/-- Where the invariant holds, the step keeps it and produces something valid. -/
def Keeps (valid : α → Prop) (step : Eval σ α) : Prop :=
  ∀ machine, invariant.Holds machine →
    invariant.Ends (fun result finish => valid result ∧ invariant.Holds finish) (step machine)

variable {invariant} {machine : Machine σ}

/-! ## Machines -/

namespace Holds

theorem facing
    (holds : invariant.Holds machine) {tokens : List Token} (place : invariant.place tokens) :
    invariant.Holds (machine.facing tokens) :=
  ⟨place, holds.table, holds.world⟩

theorem advance (holds : invariant.Holds machine) :
    invariant.Holds (machine.facing machine.remaining.tail) :=
  holds.facing (invariant.place_tail _ holds.place)

theorem withTable
    (holds : invariant.Holds machine) {bindings : VariableTable}
    (table : invariant.table bindings) :
    invariant.Holds { machine with bindings } :=
  ⟨holds.place, table, holds.world⟩

theorem deeper (holds : invariant.Holds machine) : invariant.Holds machine.deeper :=
  ⟨holds.place, holds.table, holds.world⟩

theorem higher (holds : invariant.Holds machine) : invariant.Holds machine.higher :=
  ⟨holds.place, holds.table, holds.world⟩

end Holds

/-- Skipping goes from token to token, so it stays at places where the cursor can stand. -/
theorem place_skipBlock
    (stops : List TokenKind) (depth : Nat) {tokens : List Token}
    (place : invariant.place tokens) :
    invariant.place (skipBlock stops depth tokens).2 := by
  obtain ⟨passed, split⟩ := skipBlock_isSuffix stops depth tokens
  generalize (skipBlock stops depth tokens).2 = rest at split ⊢
  induction passed generalizing tokens with
  | nil =>
      obtain rfl : rest = tokens := split
      exact place
  | cons token passed inductionHypothesis =>
      exact inductionHypothesis (invariant.place_tail _ (split ▸ place)) rfl

/-! ## Steps -/

open Eval Outcome

theorem Ends.failFormally
    {post : α → Machine σ → Prop} {fault : EvaluationFault} {tokens : List Token}
    (place : invariant.place tokens) (isFormal : fault.IsFormal)
    (holds : invariant.Holds machine) :
    invariant.Ends post ((fail fault (context.front tokens) : Eval σ α) machine) :=
  ⟨invariant.failure_formal tokens fault place isFormal, holds⟩

theorem Ends.ofExcept
    {token : Token} {computation : Except EvaluationFault α} {valid : α → Prop}
    (yields : Yields valid (fun fault => invariant.failure ⟨fault, token⟩) computation)
    (holds : invariant.Holds machine) :
    invariant.Ends (fun result finish => valid result ∧ invariant.Holds finish)
      ((Eval.ofExcept token computation : Eval σ α) machine) :=
  Meets.ofExcept (yields.imp (fun _ valid => ⟨valid, holds⟩) (fun _ blamed => ⟨blamed, holds⟩))

theorem Ends.expect
    (closed : context.IsClosed) {kind : TokenKind} (notEnd : kind ≠ .endOfInput)
    (holds : invariant.Holds machine) :
    invariant.Ends
      (fun token finish =>
        token.kind = kind ∧
        machine.remaining = token :: finish.remaining ∧
        finish = machine.facing finish.remaining ∧
        invariant.Holds finish)
      (Eval.expect context kind machine) := by
  refine Meets.expect closed notEnd ?_ (fun _ =>
    ⟨invariant.failure_formal _ _ holds.place trivial, holds⟩)
  intro token rest cursor isKind
  have passed := holds.advance
  rw [cursor] at passed
  exact ⟨isKind, cursor, rfl, passed⟩

theorem Ends.skipTo
    (opener : TokenKind) (stops : List TokenKind) (holds : invariant.Holds machine) :
    invariant.Ends (fun _ finish => invariant.Holds finish)
      (Eval.skipTo context opener stops machine) := by
  have placeRest := place_skipBlock stops 0 holds.place
  refine Meets.skipTo ?_ ?_
  · intro kind rest skipped
    rw [skipped] at placeRest
    exact holds.facing placeRest
  · intro rest skipped
    rw [skipped] at placeRest
    exact ⟨invariant.failure_formal rest _ placeRest trivial, holds.facing placeRest⟩

theorem Ends.nested
    {step : Eval σ α} {valid : α → Prop} (keeps : invariant.Keeps valid step)
    (holds : invariant.Holds machine) :
    invariant.Ends (fun result finish => valid result ∧ invariant.Holds finish)
      (Eval.nested step machine) :=
  Meets.nested (keeps _ holds.deeper) (fun _ _ kept => ⟨kept.1, kept.2.higher⟩)
    (fun _ _ kept => ⟨kept.1, kept.2.higher⟩)

end Invariant

namespace Evaluation

open Eval Invariant Outcome

variable {σ : Type} {context : Context σ} {invariant : Invariant context}

/-! ## Operators -/

theorem applyTier_keeps
    (closed : context.IsClosed) (tier : Tier)
    {operand : Eval σ Value} (operandKeeps : invariant.Keeps invariant.value operand)
    (fuel : Nat) {left : Value} (validLeft : invariant.value left) :
    invariant.Keeps invariant.value (applyTier context tier operand fuel left) := by
  induction fuel generalizing left with
  | zero => exact fun _ _ => trivial
  | succ fuel inductionHypothesis =>
      intro machine holds
      rw [applyTier, bind_current]
      refine Meets.ite (fun accepted => ?_) (fun _ => ⟨validLeft, holds⟩)
      obtain ⟨rest, cursor⟩ := closed.exists_cons (isPlain_of_accepts accepted).1
      have place := holds.place
      rw [cursor] at place
      rw [bind_advance]
      refine Meets.bind (operandKeeps _ holds.advance) ?_
      rintro right reached ⟨validRight, holdsReached⟩
      have combined := invariant.combine _ _ tier left right place validLeft validRight
      refine Meets.bind (Ends.ofExcept combined holdsReached) ?_
      rintro result finish ⟨validResult, holdsFinish⟩
      exact inductionHypothesis validResult finish holdsFinish

theorem tierOf_keeps
    (closed : context.IsClosed) (tier : Tier) (fuel : Nat)
    {operand : Eval σ Value} (operandKeeps : invariant.Keeps invariant.value operand) :
    invariant.Keeps invariant.value (tierOf context tier fuel operand) := by
  intro machine holds
  refine Meets.bind (operandKeeps machine holds) ?_
  rintro left reached ⟨validLeft, holdsReached⟩
  exact applyTier_keeps closed tier operandKeeps fuel validLeft reached holdsReached

theorem signed_keeps
    (closed : context.IsClosed)
    {primary : Eval σ Value} (primaryKeeps : invariant.Keeps invariant.value primary)
    (fuel : Nat) :
    invariant.Keeps invariant.value (signed context primary fuel) := by
  induction fuel with
  | zero => exact fun _ _ => trivial
  | succ fuel inductionHypothesis =>
      intro machine holds
      rw [signed, bind_current, bind_currentDepth]
      refine Meets.ite (fun _ => ?_) (fun _ => ?_)
      · exact Ends.failFormally holds.place trivial holds
      refine Meets.ite (fun isSign => ?_) (fun _ => Ends.nested primaryKeeps holds)
      obtain ⟨rest, cursor⟩ := closed.exists_cons (isPlain_of_isSign isSign).1
      have place := holds.place
      rw [cursor] at place
      refine Ends.nested ?_ holds
      intro start holdsStart
      rw [bind_advance]
      refine Meets.bind (inductionHypothesis _ holdsStart.advance) ?_
      rintro operand reached ⟨validOperand, holdsReached⟩
      exact Ends.ofExcept (invariant.sign _ _ operand place validOperand) holdsReached

theorem expressionOf_keeps
    (closed : context.IsClosed) (fuel : Nat)
    {primary : Eval σ Value} (primaryKeeps : invariant.Keeps invariant.value primary) :
    invariant.Keeps invariant.value (expressionOf context fuel primary) := by
  unfold expressionOf
  iterate 5 apply tierOf_keeps closed
  exact signed_keeps closed primaryKeeps fuel

/-! ## Names and calls -/

section Nested

variable {expression : Eval σ Value} (expressionKeeps : invariant.Keeps invariant.value expression)
  {machine : Machine σ} (holds : invariant.Holds machine) {token : Token} {rest : List Token}
  (cursor : machine.remaining = token :: rest)

include expressionKeeps holds cursor

theorem declaration_ends (closed : context.IsClosed) (isType : token.kind = .dataType) :
    invariant.Ends (fun value finish => invariant.value value ∧ invariant.Holds finish)
      (declaration context expression machine) := by
  have place := holds.place
  have passed := holds.advance
  rw [cursor] at place passed
  rw [declaration, bind_current, bind_advance, cursor, List.tail_cons, Context.front_cons]
  cases known : DataType.ofName? token.text with
  | none => exact ⟨invariant.failure_type token rest place isType known, passed⟩
  | some dataType =>
      have declarable : dataType ∈ DataType.declarable := List.mem_of_find?_eq_some known
      change invariant.Ends _ ((peek context >>= _) (machine.facing rest))
      rw [bind_peek]
      refine Meets.bind (Ends.expect closed (by decide) passed) ?_
      rintro name reached ⟨isName, cursorName, _, holdsReached⟩
      rw [Machine.facing_remaining] at cursorName
      rw [cursorName] at place
      have declared : ∀ {machine : Machine σ}, invariant.Holds machine →
          ∀ value, invariant.value value → invariant.Holds (machine.declare name.text value) :=
        fun holds value valid => holds.withTable
          (invariant.declare token name _ _ value place isType isName holds.table valid)
      have holdsDeclared := declared holdsReached _ (invariant.value_initial dataType)
      rw [bind_declareVariable]
      refine Meets.ite (fun _ => ?_) (fun _ => ⟨invariant.value_none, holdsDeclared⟩)
      refine Meets.bind (Ends.expect closed (by decide) holdsDeclared) ?_
      rintro _ start ⟨_, _, _, holdsStart⟩
      refine Meets.bind (expressionKeeps start holdsStart) ?_
      rintro initial finish ⟨validInitial, holdsFinish⟩
      have cast := invariant.cast _ initial dataType holdsFinish.place validInitial declarable
      cases converted : initial.cast dataType with
      | error error =>
          rw [converted] at cast
          exact ⟨cast, holdsFinish⟩
      | ok value =>
          rw [converted] at cast
          exact ⟨cast, declared holdsFinish value cast⟩

theorem identifier_ends (closed : context.IsClosed) (isName : token.kind = .identifier) :
    invariant.Ends (fun value finish => invariant.value value ∧ invariant.Holds finish)
      (identifier context expression machine) := by
  have place := holds.place
  have passed := holds.advance
  rw [cursor] at place passed
  have unknown : ∀ {machine : Machine σ}, invariant.Holds machine →
      invariant.Ends (fun value finish => invariant.value value ∧ invariant.Holds finish)
        ((Eval.fail (.unknownIdentifier token.text) token : Eval σ Value) machine) :=
    fun holds => Ends.failFormally place trivial holds
  rw [identifier, bind_current, bind_advance, bind_current, cursor, List.tail_cons,
    Context.front_cons]
  refine Meets.ite (fun isAssign => ?_) (fun _ => ?_)
  · obtain ⟨after, cursorAssign⟩ :=
      closed.exists_cons (by rw [isAssign]; decide)
    rw [Machine.facing_remaining] at cursorAssign isAssign
    generalize context.front rest = assign at cursorAssign isAssign
    subst cursorAssign
    rw [bind_advance]
    refine Meets.bind (expressionKeeps _ passed.advance) ?_
    rintro value reached ⟨validValue, holdsReached⟩
    have changed := fun bindings => invariant.assign token assign after _ value bindings place
      isName isAssign holdsReached.table validValue
    have stores : invariant.Ends (fun _ finish => invariant.Holds finish)
        (Eval.assignVariable token.text value reached) :=
      Meets.assignVariable holdsReached
        fun bindings assigned => holdsReached.withTable (changed bindings assigned)
    refine Meets.bind stores ?_
    intro known finish holdsFinish
    exact Meets.ite (fun _ => ⟨validValue, holdsFinish⟩) (fun _ => unknown holdsFinish)
  · rw [bind_getVariable?, Machine.facing_bindings]
    cases stored : machine.bindings.get? token.text with
    | none => exact unknown passed
    | some value => exact ⟨invariant.value_stored _ _ _ holds.table stored, passed⟩

omit holds cursor in
theorem moreArguments_keeps
    {function : Token} {following : List Token} (place : invariant.place (function :: following))
    (fuel : Nat) {arguments : List Value}
    (validArguments : ∀ argument ∈ arguments, invariant.value argument) :
    invariant.Keeps (fun values => ∀ value ∈ values, invariant.value value)
      (moreArguments context function expression fuel arguments) := by
  induction fuel generalizing arguments with
  | zero => exact fun _ _ => trivial
  | succ fuel inductionHypothesis =>
      intro machine holds
      rw [moreArguments, bind_current]
      refine Meets.ite (fun _ => ?_) (fun _ => ?_)
      · rw [bind_advance]
        refine Meets.ite (fun _ => ?_) (fun _ => ?_)
        · exact Ends.failFormally place trivial holds.advance
        · refine Meets.bind (expressionKeeps _ holds.advance) ?_
          rintro argument reached ⟨validArgument, holdsReached⟩
          have validMore : ∀ value ∈ argument :: arguments, invariant.value value := by
            simpa using ⟨validArgument, validArguments⟩
          exact inductionHypothesis validMore reached holdsReached
      · have validReversed : ∀ value ∈ arguments.reverse, invariant.value value := by
          simpa using validArguments
        exact ⟨validReversed, holds⟩

omit holds cursor in
theorem arguments_keeps
    {function : Token} {following : List Token} (place : invariant.place (function :: following))
    (fuel : Nat) :
    invariant.Keeps (fun values => ∀ value ∈ values, invariant.value value)
      (arguments context function expression fuel) := by
  intro machine holds
  rw [arguments, bind_current]
  refine Meets.ite (fun _ => ⟨by simp, holds⟩) (fun _ => ?_)
  refine Meets.bind (expressionKeeps machine holds) ?_
  rintro first reached ⟨validFirst, holdsReached⟩
  have validArguments : ∀ value ∈ [first], invariant.value value := by
    simpa using validFirst
  exact moreArguments_keeps expressionKeeps place fuel validArguments reached holdsReached

theorem call_ends
    (closed : context.IsClosed) (fuel : Nat) (isFunction : token.kind = .function) :
    invariant.Ends (fun value finish => invariant.value value ∧ invariant.Holds finish)
      (call context expression fuel machine) := by
  have place := holds.place
  have passed := holds.advance
  rw [cursor] at place passed
  rw [call, bind_current, bind_advance, cursor, List.tail_cons, Context.front_cons]
  refine Meets.bind (Ends.expect closed (by decide) passed) ?_
  rintro _ start ⟨_, _, _, holdsStart⟩
  refine Meets.bind (arguments_keeps expressionKeeps place fuel start holdsStart) ?_
  rintro values reached ⟨validValues, holdsReached⟩
  refine Meets.bind (Ends.expect closed (by decide) holdsReached) ?_
  rintro _ finish ⟨_, _, _, holdsFinish⟩
  obtain ⟨yields, world⟩ :=
    invariant.invoke token rest values finish.world place isFunction validValues holdsFinish.world
  have kept : invariant.Holds { finish with world := (Builtin.invoke _ _ _ _).2 } :=
    ⟨holdsFinish.place, holdsFinish.table, world⟩
  exact Meets.withHost
    (yields.imp (fun _ valid => ⟨valid, kept⟩) (fun _ blamed => ⟨blamed, kept⟩))

omit cursor in
theorem parenthesised_ends (closed : context.IsClosed) :
    invariant.Ends (fun value finish => invariant.value value ∧ invariant.Holds finish)
      (parenthesised context expression machine) := by
  rw [parenthesised, bind_advance]
  refine Meets.bind (expressionKeeps _ holds.advance) ?_
  rintro value reached ⟨validValue, holdsReached⟩
  refine Meets.bind (Ends.expect closed (by decide) holdsReached) ?_
  rintro _ finish ⟨_, _, _, holdsFinish⟩
  exact ⟨validValue, holdsFinish⟩

omit expressionKeeps in
theorem literal_ends
    (isLiteral : token.kind = .number ∨ token.kind = .string ∨ token.kind = .bool) :
    invariant.Ends (fun value finish => invariant.value value ∧ invariant.Holds finish)
      (literal token machine) := by
  have place := holds.place
  rw [cursor] at place
  have yields := invariant.literal token rest place isLiteral
  rw [literal, bind_advance]
  exact Ends.ofExcept (yields.mapError fun _ blamed => blamed) holds.advance

end Nested

/-! ## Blocks -/

section Nested

variable {expression : Eval σ Value} (expressionKeeps : invariant.Keeps invariant.value expression)

include expressionKeeps

theorem condition_keeps :
    invariant.Keeps (fun _ => True) (condition context expression) := by
  intro machine holds
  refine Meets.bind (expressionKeeps machine holds) ?_
  rintro value reached ⟨validValue, holdsReached⟩
  cases converted : value.toBool with
  | ok truth => exact ⟨trivial, holdsReached⟩
  | error error =>
      exact ⟨invariant.failure_truth _ value error holdsReached.place validValue converted,
        holdsReached⟩

theorem block_keeps (opener : TokenKind) (stops : List TokenKind) (fuel : Nat) :
    invariant.Keeps (fun _ => True) (block context opener stops expression fuel) := by
  induction fuel with
  | zero => exact fun _ _ => trivial
  | succ fuel inductionHypothesis =>
      intro machine holds
      rw [block, bind_current]
      refine Meets.ite (fun _ => ⟨trivial, holds⟩) (fun _ => ?_)
      refine Meets.ite (fun _ => Ends.failFormally holds.place trivial holds) (fun _ => ?_)
      refine Meets.ite (fun _ => Ends.failFormally holds.place trivial holds) (fun _ => ?_)
      refine Meets.bind (expressionKeeps machine holds) ?_
      rintro _ reached ⟨_, holdsReached⟩
      exact inductionHypothesis reached holdsReached

theorem branches_keeps (truth : Bool) (fuel : Nat) :
    invariant.Keeps (fun _ => True) (branches context truth expression fuel) := by
  intro machine holds
  unfold branches
  refine Meets.ite (fun _ => ?_) (fun _ => ?_)
  · refine Meets.bind (block_keeps expressionKeeps _ _ fuel machine holds) ?_
    rintro stop reached ⟨_, holdsReached⟩
    refine Meets.ite (fun _ => ?_) (fun _ => ⟨trivial, holdsReached⟩)
    rw [bind_advance]
    refine Meets.bind (Ends.skipTo _ _ holdsReached.advance) ?_
    exact fun _ finish holdsFinish => ⟨trivial, holdsFinish⟩
  · refine Meets.bind (Ends.skipTo _ _ holds) ?_
    intro stop reached holdsReached
    refine Meets.ite (fun _ => ?_) (fun _ => ⟨trivial, holdsReached⟩)
    rw [bind_advance]
    refine Meets.bind (block_keeps expressionKeeps _ _ fuel _ holdsReached.advance) ?_
    rintro _ finish ⟨_, holdsFinish⟩
    exact ⟨trivial, holdsFinish⟩

theorem ifBlock_keeps (closed : context.IsClosed) (fuel : Nat) :
    invariant.Keeps invariant.value (ifBlock context expression fuel) := by
  intro machine holds
  rw [ifBlock, bind_advance]
  refine Meets.bind (condition_keeps expressionKeeps _ holds.advance) ?_
  rintro truth middle ⟨_, holdsMiddle⟩
  refine Meets.bind (branches_keeps expressionKeeps truth fuel middle holdsMiddle) ?_
  rintro _ reached ⟨_, holdsReached⟩
  refine Meets.bind (Ends.expect closed (by decide) holdsReached) ?_
  rintro _ finish ⟨_, _, _, holdsFinish⟩
  exact ⟨invariant.value_truth truth, holdsFinish⟩

omit expressionKeeps in
/-- A loop goes back to its condition, which is a place that the invariant allows. -/
theorem iterate_keeps
    {keywords start : List Token} (keywordPlace : invariant.place keywords)
    (startPlace : invariant.place start)
    {test : Eval σ Bool} (testKeeps : invariant.Keeps (fun _ => True) test)
    {body : Eval σ TokenKind} (bodyKeeps : invariant.Keeps (fun _ => True) body)
    (fuel : Nat) (iterations : UInt64) :
    invariant.Keeps (fun _ => True)
      (iterate context (context.front keywords) start test body fuel iterations) := by
  induction fuel generalizing iterations with
  | zero => exact fun _ _ => trivial
  | succ fuel inductionHypothesis =>
      intro machine holds
      rw [iterate]
      refine Meets.bind (testKeeps machine holds) ?_
      rintro truth middle ⟨_, holdsMiddle⟩
      refine Meets.ite (fun _ => ?_) (fun _ => ⟨trivial, holdsMiddle⟩)
      refine Meets.ite (fun _ => ?_) (fun _ => ?_)
      · exact Ends.failFormally keywordPlace trivial holdsMiddle
      · refine Meets.bind (bodyKeeps middle holdsMiddle) ?_
        rintro _ reached ⟨_, holdsReached⟩
        rw [bind_rewind]
        exact inductionHypothesis _ _ (holdsReached.facing startPlace)

theorem whileBlock_keeps (closed : context.IsClosed) (fuel : Nat) :
    invariant.Keeps invariant.value (whileBlock context expression fuel) := by
  intro machine holds
  rw [whileBlock, bind_current, bind_advance, bind_mark]
  have passed := holds.advance
  have testKeeps : invariant.Keeps (fun _ => True) (condition context expression) :=
    condition_keeps expressionKeeps
  have bodyKeeps := block_keeps expressionKeeps .whileWord [.endWord] fuel
  refine Meets.bind
    (iterate_keeps holds.place passed.place testKeeps bodyKeeps fuel 0 _ passed) ?_
  rintro iterations reached ⟨_, holdsReached⟩
  refine Meets.bind (Ends.skipTo _ _ holdsReached) ?_
  intro stop closing holdsClosing
  refine Meets.ite (fun _ => ?_) (fun _ => ?_)
  · exact Ends.failFormally holdsClosing.place trivial holdsClosing
  · refine Meets.bind (Ends.expect closed (by decide) holdsClosing) ?_
    rintro _ finish ⟨_, _, _, holdsFinish⟩
    exact ⟨invariant.value_none, holdsFinish.place, holdsFinish.table, holdsFinish.world⟩

/-! ## Primaries and expressions -/

/-- Every construct keeps an invariant that the expressions nested in it keep. -/
theorem primary_keeps (closed : context.IsClosed) (fuel : Nat) :
    invariant.Keeps invariant.value (primary context expression fuel) := by
  intro machine holds
  rw [primary, bind_current]
  by_cases isEnd : (context.front machine.remaining).kind = .endOfInput
  · rw [isEnd]
    exact Ends.failFormally holds.place trivial holds
  obtain ⟨rest, cursor⟩ := closed.exists_cons isEnd
  have place := holds.place
  generalize context.front machine.remaining = token at cursor
  cases kindOf : token.kind with
  | dataType => exact declaration_ends expressionKeeps holds cursor closed kindOf
  | identifier => exact identifier_ends expressionKeeps holds cursor closed kindOf
  | function => exact call_ends expressionKeeps holds cursor closed fuel kindOf
  | number => exact literal_ends holds cursor (.inl kindOf)
  | string => exact literal_ends holds cursor (.inr (.inl kindOf))
  | bool => exact literal_ends holds cursor (.inr (.inr kindOf))
  | openParenthesis => exact parenthesised_ends expressionKeeps holds closed
  | ifWord => exact ifBlock_keeps expressionKeeps closed fuel machine holds
  | whileWord => exact whileBlock_keeps expressionKeeps closed fuel machine holds
  | _ =>
      rw [cursor] at place
      exact Ends.failFormally place trivial holds

end Nested

/-- An invariant holds behind every expression, evaluated or failed. -/
theorem expression_keeps (closed : context.IsClosed) (fuel : Nat) :
    invariant.Keeps invariant.value (expression context fuel) := by
  induction fuel with
  | zero => exact fun _ _ => trivial
  | succ fuel inductionHypothesis =>
      rw [expression]
      exact expressionOf_keeps closed fuel (primary_keeps inductionHypothesis closed fuel)

/-! ## Runs of statements -/

/-- An invariant holds behind every statement, and the values and the failure of a run are valid. -/
theorem statements_keep
    (closed : context.IsClosed) {trace : Bool} {fuel : Nat} {values : List Value}
    (validValues : ∀ value ∈ values, invariant.value value)
    {machine : Machine σ} (holds : invariant.Holds machine) {progress : Progress σ}
    (reached : statements context trace fuel values machine = some progress) :
    (∀ value ∈ progress.values, invariant.value value) ∧
      (∀ failure ∈ progress.failure?, invariant.failure failure) ∧
      invariant.Holds progress.machine := by
  induction fuel generalizing values machine with
  | zero => cases reached
  | succ fuel inductionHypothesis =>
      have kept := expression_keeps closed fuel machine holds
      have validReversed : ∀ value ∈ values.reverse, invariant.value value := by
        simpa using validValues
      rcases statements_cases reached with
        ⟨_, rfl⟩ | ⟨_, ⟨failure, finish, failed, rfl⟩ | ⟨value, finish, done, reached⟩⟩
      · exact ⟨validReversed, by simp, holds⟩
      · rw [failed] at kept
        exact ⟨validReversed, by simpa using kept.1, kept.2⟩
      · rw [done] at kept
        have validMore : ∀ other ∈ value :: values, invariant.value other := by
          simpa using ⟨kept.1, validValues⟩
        have noted : invariant.Holds (afterStatement context trace value finish) := by
          unfold afterStatement
          split
          · exact ⟨kept.2.place, kept.2.table, kept.2.world⟩
          · exact kept.2
        exact inductionHypothesis validMore noted reached

/-- An invariant that holds before an evaluation holds of everything that the evaluation leaves. -/
theorem evaluate_keeps
    {host : Host σ} {preferences : EvaluationPreferences} {tokens : List Token}
    (invariant : Invariant (contextOf host preferences tokens))
    (place : invariant.place tokens)
    {bindings : VariableTable} (table : invariant.table bindings)
    {world : σ} (state : invariant.world world)
    {fuel : Nat} {evaluation : Evaluation σ}
    (evaluated : evaluate fuel host preferences tokens bindings world = some evaluation) :
    Yields (fun values => ∀ value ∈ values, invariant.value value)
        (fun error =>
          invariant.failure ⟨error.fault, error.token⟩ ∧
          invariant.table error.bindings ∧
          ∀ value ∈ error.values, invariant.value value)
        evaluation.result ∧
      invariant.table evaluation.bindings ∧
      invariant.world evaluation.world := by
  obtain ⟨progress, reached, rfl⟩ := Option.map_eq_some_iff.mp evaluated
  have holds : invariant.Holds (initialMachine tokens bindings world) := ⟨place, table, state⟩
  obtain ⟨validValues, validFailure, holdsFinish⟩ :=
    statements_keep (contextOf_isClosed host preferences tokens) (by simp) holds reached
  refine ⟨?_, holdsFinish.table, holdsFinish.world⟩
  rw [ofProgress]
  cases failed : progress.failure? with
  | none => exact validValues
  | some failure => exact ⟨validFailure failure failed, holdsFinish.table, validValues⟩

end Evaluation

end PugScript
