import PugScript.Host.Memory
import PugScript.Proofs.Evaluation.Completion
import PugScript.Proofs.Evaluation.Coupling
import PugScript.Proofs.Evaluation.Invariant

/-!
# Evaluations come to an end

Fuel bounds two things: how deep expressions are nested in each other, and how often one repetition
goes round. The nesting is bounded by the depth limit. Every repetition but a loop passes at least
one token each time it goes round, and a loop is bounded by the loop limit. So fuel for the tokens,
the loop limit and the depth limit together is enough, although a loop goes back to tokens that
were passed before.
-/

namespace PugScript

variable {σ α : Type}

/-! ## Progress -/

/-- Whenever the step succeeds, it passes at least one token. -/
def Eval.Consumes (step : Eval σ α) : Prop :=
  ∀ machine result finish, step machine = .done result finish →
    finish.remaining.length < machine.remaining.length

/-- An expression passes at least one token: with the tokens behind its end cut off it would succeed
in front of none. -/
theorem Evaluation.expression_consumes
    {context : Context σ} (closed : context.IsClosed) (fuel : Nat) :
    (expression context fuel).Consumes := by
  intro machine value finish done
  -- With the tokens behind its end cut off, the expression would have to succeed in front of none.
  have cut : context.Shortens context := ⟨closed, closed, rfl, rfl⟩
  obtain ⟨begun, split, shortDone⟩ :=
    expression_shortens cut finish.remaining fuel machine value finish [] done rfl
  have nonempty : begun ≠ [] := by
    rintro rfl
    exact expression_needsToken closed fuel _ _ _ shortDone closed
  have positive : 0 < begun.length := List.length_pos_iff.mpr nonempty
  rw [split, List.length_append]
  omega

theorem Passed.isSuffix {machine finish : Machine σ} (passed : Passed machine finish) :
    finish.remaining <:+ machine.remaining := by
  obtain ⟨_, front, split, _⟩ := passed
  exact ⟨front, split.symm⟩

/-! ## The cursor -/

/-- The cursor stands behind the first `position` of the tokens. -/
structure Machine.At (tokens : List Token) (position : Nat) (machine : Machine σ) : Prop where
  position_le : position ≤ tokens.length
  remaining_eq : machine.remaining = tokens.drop position

/-- The cursor stands among the tokens if those in front of it are an end of them. -/
theorem Machine.exists_at_iff {tokens : List Token} {machine : Machine σ} :
    (∃ position, machine.At tokens position) ↔ machine.remaining <:+ tokens := by
  constructor
  · rintro ⟨position, _, cursor⟩
    rw [cursor]
    exact List.drop_suffix position tokens
  · rintro ⟨front, split⟩
    refine ⟨front.length, ?_, ?_⟩
    · simp [← split]
    · simp [← split]

/-! ## Bounded machines -/

/-- In front of the machine are at most `count` tokens, it is at least `depth` levels deep, and no
loop can go round for ever. -/
structure Context.Bounds (context : Context σ) (count depth : Nat) (machine : Machine σ) :
    Prop where
  length_le : machine.remaining.length ≤ count
  depth_le : depth ≤ machine.depth
  loops : BoundsLoops context.loopLimit ∨ ∀ token ∈ machine.remaining, token.kind ≠ .whileWord

/-- The fuel was enough, for a success or for a failure. -/
def Outcome.Finishes (outcome : Outcome σ α) : Prop :=
  outcome.Meets False (fun _ _ => True) (fun _ _ => True)

theorem Outcome.Finishes.ne_outOfFuel {outcome : Outcome σ α} (finishes : outcome.Finishes) :
    outcome ≠ .outOfFuel := by
  rintro rfl
  exact finishes

/-- From bounded machines the step does not run out of fuel. -/
def Context.EndsWithin (context : Context σ) (count depth : Nat) (step : Eval σ α) : Prop :=
  ∀ machine, context.Bounds count depth machine → (step machine).Finishes

namespace Context.Bounds

variable {context : Context σ} {count depth : Nat} {machine finish : Machine σ}

theorem suffix
    (bounds : context.Bounds count depth machine)
    (isSuffix : finish.remaining <:+ machine.remaining) (depth_le : depth ≤ finish.depth) :
    context.Bounds count depth finish :=
  ⟨isSuffix.length_le.trans bounds.length_le, depth_le,
    bounds.loops.imp_right fun noLoop token member => noLoop token (isSuffix.mem member)⟩

theorem passed (bounds : context.Bounds count depth machine) (passed : Passed machine finish) :
    context.Bounds count depth finish :=
  bounds.suffix passed.isSuffix (passed.depth_eq ▸ bounds.depth_le)

theorem advance (bounds : context.Bounds count depth machine) :
    context.Bounds count depth (machine.facing machine.remaining.tail) :=
  bounds.suffix (List.tail_suffix machine.remaining) bounds.depth_le

theorem deeper (bounds : context.Bounds count depth machine) :
    context.Bounds count (depth + 1) machine.deeper :=
  ⟨bounds.length_le, Nat.succ_le_succ bounds.depth_le, bounds.loops⟩

theorem weaken
    (bounds : context.Bounds count (depth + 1) machine) : context.Bounds count depth machine :=
  ⟨bounds.length_le, Nat.le_of_succ_le bounds.depth_le, bounds.loops⟩

end Context.Bounds

/-! ## Steps -/

namespace Eval

variable {machine : Machine σ}

theorem ofExcept_finishes (token : Token) (computation : Except EvaluationFault α) :
    ((ofExcept token computation : Eval σ α) machine).Finishes :=
  .ofExcept (Yields.always computation)

theorem expect_finishes
    {context : Context σ} (closed : context.IsClosed) {kind : TokenKind}
    (notEnd : kind ≠ .endOfInput) :
    (expect context kind machine).Finishes :=
  .expect closed notEnd (fun _ _ _ _ => trivial) (fun _ => trivial)

theorem skipTo_finishes (context : Context σ) (opener : TokenKind) (stops : List TokenKind) :
    (skipTo context opener stops machine).Finishes :=
  .skipTo (fun _ _ _ => trivial) (fun _ _ => trivial)

theorem assignVariable_finishes (name : String) (value : Value) :
    (assignVariable name value machine).Finishes :=
  .assignVariable trivial (fun _ _ => trivial)

theorem withHost_finishes (use : σ → Except ValueError α × σ) (token : Token) :
    (withHost use token machine).Finishes :=
  .withHost (Yields.always _)

theorem leaveNote_finishes (context : Context σ) (note : Note) :
    (leaveNote context note machine).Finishes :=
  trivial

theorem nested_finishes {step : Eval σ α} (stepEnds : (step machine.deeper).Finishes) :
    (nested step machine).Finishes :=
  .nested stepEnds (fun _ _ _ => trivial) (fun _ _ _ => trivial)

end Eval

namespace Evaluation

open Eval Outcome

variable {context : Context σ} {count depth : Nat}

/-! ## Operators -/

theorem applyTier_finishes
    (closed : context.IsClosed) (tier : Tier)
    {operand : Eval σ Value} (operandEnds : context.EndsWithin count depth operand)
    (operandPasses : operand.PassesInert) {fuel : Nat} (left : Value)
    {machine : Machine σ} (bounds : context.Bounds count depth machine)
    (room : machine.remaining.length < fuel) :
    (applyTier context tier operand fuel left machine).Finishes := by
  induction fuel generalizing left machine with
  | zero => exact absurd room (Nat.not_lt_zero _)
  | succ fuel inductionHypothesis =>
      rw [applyTier, bind_current]
      refine Meets.ite (fun accepted => ?_) (fun _ => trivial)
      obtain ⟨rest, cursor⟩ := closed.exists_cons (isPlain_of_accepts accepted).1
      have shorter : machine.remaining.tail.length < machine.remaining.length := by
        rw [cursor]
        simp
      rw [bind_advance]
      refine Meets.bind_of_done (operandEnds _ bounds.advance) ?_
      intro right reached operandDone
      have overOperand := operandPasses _ _ _ operandDone
      have notLonger : reached.remaining.length ≤ machine.remaining.tail.length :=
        overOperand.isSuffix.length_le
      refine Meets.bind_of_done (ofExcept_finishes _ _) ?_
      intro result finish resultDone
      obtain ⟨_, rfl⟩ := ofExcept_eq_done_iff.mp resultDone
      exact inductionHypothesis result (bounds.advance.passed overOperand) (by omega)

theorem tierOf_ends
    (closed : context.IsClosed) (tier : Tier)
    {operand : Eval σ Value} (operandEnds : context.EndsWithin count depth operand)
    (operandPasses : operand.PassesInert) {fuel : Nat} (room : count < fuel) :
    context.EndsWithin count depth (tierOf context tier fuel operand) := by
  intro machine bounds
  refine Meets.bind_of_done (operandEnds machine bounds) ?_
  intro left reached operandDone
  have boundsReached := bounds.passed (operandPasses _ _ _ operandDone)
  exact applyTier_finishes closed tier operandEnds operandPasses left boundsReached
    (boundsReached.length_le.trans_lt room)

/-- A sign passes a token and goes one level deeper, so both the tokens and the depth limit pay for
it. -/
theorem signed_finishes
    (closed : context.IsClosed) {primary : Eval σ Value}
    (primaryEnds : depth < Limits.maxParseDepth →
      context.EndsWithin count (depth + 1) primary)
    {fuel : Nat} {machine : Machine σ} (bounds : context.Bounds count depth machine)
    (room : machine.remaining.length < fuel) :
    (signed context primary fuel machine).Finishes := by
  induction fuel generalizing machine with
  | zero => exact absurd room (Nat.not_lt_zero _)
  | succ fuel inductionHypothesis =>
      rw [signed, bind_current, bind_currentDepth]
      refine Meets.ite (fun _ => trivial) (fun notTooDeep => ?_)
      refine Meets.ite (fun isSign => ?_) (fun _ => ?_)
      · obtain ⟨rest, cursor⟩ := closed.exists_cons (isPlain_of_isSign isSign).1
        refine nested_finishes ?_
        rw [bind_advance]
        refine Meets.bind_of_done (inductionHypothesis bounds.deeper.advance.weaken ?_)
          (fun _ _ _ => ofExcept_finishes _ _)
        rw [cursor, List.length_cons] at room
        rw [Machine.facing_remaining, Machine.deeper_remaining, cursor, List.tail_cons]
        omega
      · have deepEnough : depth < Limits.maxParseDepth :=
          bounds.depth_le.trans_lt (Nat.not_le.mp notTooDeep)
        exact nested_finishes (primaryEnds deepEnough _ bounds.deeper)

theorem expressionOf_ends
    (closed : context.IsClosed) {primary : Eval σ Value}
    (primaryEnds : depth < Limits.maxParseDepth →
      context.EndsWithin count (depth + 1) primary)
    (primaryPasses : primary.PassesInert) {fuel : Nat} (room : count < fuel) :
    context.EndsWithin count depth (expressionOf context fuel primary) := by
  have operandEnds : context.EndsWithin count depth (signed context primary fuel) :=
    fun _ bounds => signed_finishes closed primaryEnds bounds (bounds.length_le.trans_lt room)
  have operandPasses := signed_passesInert closed primaryPasses fuel
  have productEnds := tierOf_ends closed .multiplicative operandEnds operandPasses room
  have productPasses := tierOf_passesInert closed .multiplicative fuel operandPasses
  have sumEnds := tierOf_ends closed .additive productEnds productPasses room
  have sumPasses := tierOf_passesInert closed .additive fuel productPasses
  have comparisonEnds := tierOf_ends closed .comparison sumEnds sumPasses room
  have comparisonPasses := tierOf_passesInert closed .comparison fuel sumPasses
  have conjunctionEnds := tierOf_ends closed .conjunction comparisonEnds comparisonPasses room
  have conjunctionPasses := tierOf_passesInert closed .conjunction fuel comparisonPasses
  exact tierOf_ends closed .disjunction conjunctionEnds conjunctionPasses room

/-! ## Names and calls -/

section Nested

variable {expression : Eval σ Value} (expressionEnds : context.EndsWithin count depth expression)
  (expressionPasses : expression.PassesInert)

include expressionEnds

theorem declaration_finishes
    (closed : context.IsClosed) {machine : Machine σ}
    (bounds : context.Bounds count depth machine) :
    (declaration context expression machine).Finishes := by
  rw [declaration, bind_current, bind_advance]
  cases DataType.ofName? (context.front machine.remaining).text with
  | none => trivial
  | some dataType =>
      change ((peek context >>= _) (machine.facing machine.remaining.tail)).Finishes
      rw [bind_peek]
      refine Meets.bind_of_done (expect_finishes closed (by decide)) ?_
      intro name reached nameDone
      obtain ⟨rest, cursorName, _, rfl⟩ := (expect_eq_done_iff closed (by decide)).mp nameDone
      rw [bind_declareVariable]
      refine Meets.ite (fun _ => ?_) (fun _ => trivial)
      refine Meets.bind_of_done (expect_finishes closed (by decide)) ?_
      intro assign start assignDone
      obtain ⟨after, cursorAssign, _, rfl⟩ :=
        (expect_eq_done_iff closed (by decide)).mp assignDone
      have isSuffix : after <:+ machine.remaining := by
        have toName : name :: assign :: after <:+ machine.remaining := by
          rw [← cursorAssign]
          exact cursorName ▸ List.tail_suffix machine.remaining
        exact (List.suffix_append [name, assign] after).trans toName
      refine Meets.bind_of_done (expressionEnds _ (bounds.suffix isSuffix bounds.depth_le)) ?_
      intro value finish _
      cases value.cast dataType with
      | error error => trivial
      | ok value => trivial

theorem identifier_finishes
    {machine : Machine σ} (bounds : context.Bounds count depth machine) :
    (identifier context expression machine).Finishes := by
  rw [identifier, bind_current, bind_advance, bind_current]
  refine Meets.ite (fun _ => ?_) (fun _ => ?_)
  · rw [bind_advance]
    refine Meets.bind_of_done (expressionEnds _ bounds.advance.advance) ?_
    intro value reached _
    exact Meets.bind_of_done (assignVariable_finishes _ value)
      (fun _ _ _ => Meets.ite (fun _ => trivial) (fun _ => trivial))
  · rw [bind_getVariable?]
    cases (machine.facing machine.remaining.tail).bindings.get? _ with
    | none => trivial
    | some value => trivial

include expressionPasses

theorem moreArguments_finishes
    (closed : context.IsClosed) (function : Token) {fuel : Nat} (arguments : List Value)
    {machine : Machine σ} (bounds : context.Bounds count depth machine)
    (room : machine.remaining.length < fuel) :
    (moreArguments context function expression fuel arguments machine).Finishes := by
  induction fuel generalizing arguments machine with
  | zero => exact absurd room (Nat.not_lt_zero _)
  | succ fuel inductionHypothesis =>
      rw [moreArguments, bind_current]
      refine Meets.ite (fun isComma => ?_) (fun _ => trivial)
      obtain ⟨rest, cursor⟩ :=
        closed.exists_cons (by rw [isComma]; decide)
      have shorter : machine.remaining.tail.length < machine.remaining.length := by
        rw [cursor]
        simp
      rw [bind_advance]
      refine Meets.ite (fun _ => trivial) (fun _ => ?_)
      refine Meets.bind_of_done (expressionEnds _ bounds.advance) ?_
      intro argument reached argumentDone
      have overArgument := expressionPasses _ _ _ argumentDone
      have notLonger : reached.remaining.length ≤ machine.remaining.tail.length :=
        overArgument.isSuffix.length_le
      exact inductionHypothesis _ (bounds.advance.passed overArgument) (by omega)

theorem arguments_ends
    (closed : context.IsClosed) (function : Token) {fuel : Nat} (room : count < fuel) :
    context.EndsWithin count depth (arguments context function expression fuel) := by
  intro machine bounds
  rw [arguments, bind_current]
  refine Meets.ite (fun _ => trivial) (fun _ => ?_)
  refine Meets.bind_of_done (expressionEnds machine bounds) ?_
  intro first reached firstDone
  have boundsReached := bounds.passed (expressionPasses _ _ _ firstDone)
  exact moreArguments_finishes expressionEnds expressionPasses closed function [first] boundsReached
    (boundsReached.length_le.trans_lt room)

theorem call_finishes
    (closed : context.IsClosed) {fuel : Nat} (room : count < fuel)
    {machine : Machine σ} (bounds : context.Bounds count depth machine) :
    (call context expression fuel machine).Finishes := by
  rw [call, bind_current, bind_advance]
  refine Meets.bind_of_done (expect_finishes closed (by decide)) ?_
  intro opening start openingDone
  obtain ⟨inside, cursor, _, rfl⟩ := (expect_eq_done_iff closed (by decide)).mp openingDone
  have boundsInside := bounds.advance.advance
  rw [cursor, List.tail_cons] at boundsInside
  refine Meets.bind_of_done
    (arguments_ends expressionEnds expressionPasses closed _ room _ boundsInside) ?_
  intro values reached _
  refine Meets.bind_of_done (expect_finishes closed (by decide)) ?_
  intro closing finish _
  exact withHost_finishes _ _

omit expressionPasses in
theorem parenthesised_finishes
    (closed : context.IsClosed) {machine : Machine σ}
    (bounds : context.Bounds count depth machine) :
    (parenthesised context expression machine).Finishes := by
  rw [parenthesised, bind_advance]
  refine Meets.bind_of_done (expressionEnds _ bounds.advance) ?_
  intro value reached _
  exact Meets.bind_of_done (expect_finishes closed (by decide)) (fun _ _ _ => trivial)

omit expressionEnds expressionPasses in
theorem literal_finishes (token : Token) {machine : Machine σ} :
    (literal token machine).Finishes := by
  rw [literal, bind_advance]
  exact ofExcept_finishes _ _

/-! ## Blocks -/

omit expressionPasses in
theorem condition_ends : context.EndsWithin count depth (condition context expression) := by
  intro machine bounds
  refine Meets.bind_of_done (expressionEnds machine bounds) ?_
  intro value reached _
  cases value.toBool with
  | ok truth => trivial
  | error error => trivial

/-- Each statement of a body passes a token, so the tokens bound how often the body goes round. -/
theorem block_finishes
    (consumes : expression.Consumes)
    (opener : TokenKind) (stops : List TokenKind) {fuel : Nat} {machine : Machine σ}
    (bounds : context.Bounds count depth machine) (room : machine.remaining.length < fuel) :
    (block context opener stops expression fuel machine).Finishes := by
  induction fuel generalizing machine with
  | zero => exact absurd room (Nat.not_lt_zero _)
  | succ fuel inductionHypothesis =>
      rw [block, bind_current]
      refine Meets.ite (fun _ => trivial) (fun _ => ?_)
      refine Meets.ite (fun _ => trivial) (fun _ => ?_)
      refine Meets.ite (fun _ => trivial) (fun _ => ?_)
      refine Meets.bind_of_done (expressionEnds machine bounds) ?_
      intro value reached statementDone
      have shorter := consumes _ _ _ statementDone
      exact inductionHypothesis (bounds.passed (expressionPasses _ _ _ statementDone)) (by omega)

theorem branches_ends
    (consumes : expression.Consumes)
    (truth : Bool) {fuel : Nat} (room : count < fuel) :
    context.EndsWithin count depth (branches context truth expression fuel) := by
  intro machine bounds
  have blockEnds := fun stops {machine : Machine σ} (bounds : context.Bounds count depth machine) =>
    block_finishes expressionEnds expressionPasses consumes .ifWord stops bounds
      (bounds.length_le.trans_lt room)
  unfold branches
  refine Meets.ite (fun _ => ?_) (fun _ => ?_)
  · refine Meets.bind_of_done (blockEnds _ bounds) ?_
    intro stop reached _
    refine Meets.ite (fun _ => ?_) (fun _ => trivial)
    rw [bind_advance]
    exact Meets.bind_of_done (skipTo_finishes _ _ _) (fun _ _ _ => trivial)
  · refine Meets.bind_of_done (skipTo_finishes _ _ _) ?_
    intro stop reached skipDone
    obtain ⟨rest, skipped, rfl⟩ := skipTo_eq_done_iff.mp skipDone
    obtain ⟨passed, _, _, split, _⟩ :=
      exists_passed_of_skipBlock isBlockEnd_elseWord_endWord skipped
    have boundsRest : context.Bounds count depth (machine.facing rest) :=
      bounds.suffix ⟨passed, split.symm⟩ bounds.depth_le
    refine Meets.ite (fun _ => ?_) (fun _ => trivial)
    rw [bind_advance]
    exact Meets.bind_of_done (blockEnds _ boundsRest.advance) (fun _ _ _ => trivial)

theorem ifBlock_finishes
    (closed : context.IsClosed) (consumes : expression.Consumes)
    {fuel : Nat} (room : count < fuel)
    {machine : Machine σ} (bounds : context.Bounds count depth machine) :
    (ifBlock context expression fuel machine).Finishes := by
  rw [ifBlock, bind_advance]
  refine Meets.bind_of_done (condition_ends expressionEnds _ bounds.advance) ?_
  intro truth middle conditionDone
  have boundsMiddle :=
    bounds.advance.passed (condition_passesInert expressionPasses _ _ _ conditionDone)
  refine Meets.bind_of_done
    (branches_ends expressionEnds expressionPasses consumes truth room middle boundsMiddle) ?_
  intro _ reached _
  exact Meets.bind_of_done (expect_finishes closed (by decide)) (fun _ _ _ => trivial)

omit expressionEnds expressionPasses in
/-- The loop limit bounds how often a loop goes round. -/
theorem iterate_finishes
    (limited : BoundsLoops context.loopLimit) (keyword : Token) {start : List Token}
    {test : Eval σ Bool} (testEnds : context.EndsWithin count depth test)
    (testPasses : test.PassesInert)
    {body : Eval σ TokenKind} (bodyEnds : context.EndsWithin count depth body)
    (bodyPasses : body.PassesInert)
    {fuel turns : Nat} {machine : Machine σ} (bounds : context.Bounds count depth machine)
    (atStart : machine.remaining = start) (within : turns ≤ context.loopLimit.toNat)
    (room : context.loopLimit.toNat - turns < fuel) :
    (iterate context keyword start test body fuel (.ofNat turns) machine).Finishes := by
  induction fuel generalizing turns machine with
  | zero => exact absurd room (Nat.not_lt_zero _)
  | succ fuel inductionHypothesis =>
      rw [iterate]
      refine Meets.bind_of_done (testEnds machine bounds) ?_
      intro truth middle testDone
      refine Meets.ite (fun _ => ?_) (fun _ => trivial)
      refine Meets.ite (fun _ => trivial) (fun more => ?_)
      have boundsMiddle := bounds.passed (testPasses _ _ _ testDone)
      refine Meets.bind_of_done (bodyEnds middle boundsMiddle) ?_
      intro stop reached bodyDone
      have boundsReached := boundsMiddle.passed (bodyPasses _ _ _ bodyDone)
      rw [bind_rewind]
      have boundsAgain : context.Bounds count depth (reached.facing start) :=
        ⟨atStart ▸ bounds.length_le, boundsReached.depth_le, .inl limited⟩
      have withinNext := succ_le_of_not_exceeds limited within more
      have next := inductionHypothesis boundsAgain rfl withinNext (by omega)
      rwa [UInt64.ofNat_add] at next

/-- The tokens pay for each turn of a loop, and the loop limit bounds the turns. -/
theorem whileBlock_finishes
    (closed : context.IsClosed)
    (consumes : expression.Consumes)
    {fuel : Nat} (room : count < fuel) (turns : context.loopLimit.toNat < fuel)
    {machine : Machine σ} (bounds : context.Bounds count depth machine)
    (isWhile : (context.front machine.remaining).kind = .whileWord) :
    (whileBlock context expression fuel machine).Finishes := by
  have limited : BoundsLoops context.loopLimit := by
    rcases bounds.loops with limited | noLoop
    · exact limited
    · obtain ⟨rest, cursor⟩ :=
        closed.exists_cons (by rw [isWhile]; decide)
      exact absurd isWhile (noLoop _ (cursor ▸ List.mem_cons_self))
  have bodyEnds : context.EndsWithin count depth
      (block context .whileWord [.endWord] expression fuel) :=
    fun _ bounds => block_finishes expressionEnds expressionPasses consumes _ _ bounds
      (bounds.length_le.trans_lt room)
  have bodyPasses : (block context .whileWord [.endWord] expression fuel).PassesInert :=
    fun _ _ _ done => (passed_of_block expressionPasses closed isBlockEnd_endWord done).1
  rw [whileBlock, bind_current, bind_advance, bind_mark]
  refine Meets.bind_of_done
    (iterate_finishes limited _ (condition_ends expressionEnds)
      (condition_passesInert expressionPasses) bodyEnds bodyPasses bounds.advance rfl
      (Nat.zero_le _) (by omega)) ?_
  intro iterations reached _
  refine Meets.bind_of_done (skipTo_finishes _ _ _) ?_
  intro stop closing _
  refine Meets.ite (fun _ => trivial) (fun _ => ?_)
  refine Meets.bind_of_done (expect_finishes closed (by decide)) ?_
  intro _ finish _
  exact Meets.bind_of_done (leaveNote_finishes _ _) (fun _ _ _ => trivial)

/-! ## Primaries and expressions -/

theorem primary_ends
    (closed : context.IsClosed)
    (consumes : expression.Consumes)
    {fuel : Nat} (room : count < fuel) (turns : context.loopLimit.toNat < fuel) :
    context.EndsWithin count depth (primary context expression fuel) := by
  intro machine bounds
  rw [primary, bind_current]
  cases kindOf : (context.front machine.remaining).kind with
  | dataType => exact declaration_finishes expressionEnds closed bounds
  | identifier => exact identifier_finishes expressionEnds bounds
  | function => exact call_finishes expressionEnds expressionPasses closed room bounds
  | number | string | bool => exact literal_finishes _
  | openParenthesis => exact parenthesised_finishes expressionEnds closed bounds
  | ifWord =>
      exact ifBlock_finishes expressionEnds expressionPasses closed consumes room bounds
  | whileWord =>
      exact whileBlock_finishes expressionEnds expressionPasses closed consumes room turns
        bounds kindOf
  | _ => trivial

end Nested

/-- The fuel that is enough for expressions among `count` tokens, `depth` levels deep. -/
def enoughFuel (context : Context σ) (count depth : Nat) : Nat :=
  count + context.loopLimit.toNat + (Limits.maxParseDepth - depth) + 2

/-- With fuel for the tokens, for the turns of a loop and for the levels that are left, an
expression comes to an end. -/
theorem expression_ends
    (closed : context.IsClosed) {fuel : Nat} (enough : enoughFuel context count depth ≤ fuel) :
    context.EndsWithin count depth (expression context fuel) := by
  unfold enoughFuel at enough
  induction fuel generalizing depth with
  | zero => omega
  | succ fuel inductionHypothesis =>
      have passes := expression_passesInert closed fuel
      rw [expression]
      apply expressionOf_ends closed _ (primary_passesInert passes closed fuel) (by omega)
      intro deepEnough
      -- One level further down there is one level less to go, and that pays for the fuel.
      have nestedEnds : context.EndsWithin count (depth + 1) (expression context fuel) :=
        inductionHypothesis (by omega)
      exact primary_ends nestedEnds passes closed (expression_consumes closed fuel) (by omega)
        (by omega)

/-! ## Runs of statements -/

/-- With fuel for the first statement there is fuel for all of them, since every statement leaves
fewer tokens. -/
theorem exists_progress_of_enoughFuel
    (closed : context.IsClosed) (trace : Bool) {fuel : Nat} (values : List Value)
    {machine : Machine σ}
    (loops : BoundsLoops context.loopLimit ∨ ∀ token ∈ machine.remaining, token.kind ≠ .whileWord)
    (enough : enoughFuel context machine.remaining.length 0 < fuel) :
    ∃ progress, statements context trace fuel values machine = some progress := by
  induction fuel generalizing values machine with
  | zero => exact absurd enough (Nat.not_lt_zero _)
  | succ fuel inductionHypothesis =>
      by_cases isEnd : (context.front machine.remaining).kind = .endOfInput
      · exact ⟨_, statements_of_endOfInput fuel values isEnd⟩
      have bounds : context.Bounds machine.remaining.length 0 machine :=
        ⟨Nat.le_refl _, Nat.zero_le _, loops⟩
      have ends := expression_ends closed (Nat.le_of_lt_succ enough) machine bounds
      cases outcome : expression context fuel machine with
      | outOfFuel => exact absurd outcome ends.ne_outOfFuel
      | failed failure finish => exact ⟨_, statements_of_failed values isEnd outcome⟩
      | done value finish =>
          have shorter := expression_consumes closed fuel _ _ _ outcome
          have boundsFinish := bounds.passed (expression_passesInert closed fuel _ _ _ outcome)
          rw [statements_of_done values isEnd outcome]
          apply inductionHypothesis
          · rw [afterStatement_remaining]
            exact boundsFinish.loops
          · rw [afterStatement_remaining]
            unfold enoughFuel at enough ⊢
            omega

/-- The cursor never leaves the tokens. -/
def cursorInvariant (context : Context σ) (tokens : List Token) : Invariant context where
  place := fun remaining => remaining <:+ tokens
  value := fun _ => True
  table := fun _ => True
  world := fun _ => True
  failure := fun _ => True
  place_tail := fun _ isSuffix => (List.tail_suffix _).trans isSuffix
  value_none := trivial
  value_truth := fun _ => trivial
  value_initial := fun _ => trivial
  value_stored := fun _ _ _ _ _ => trivial
  failure_formal := fun _ _ _ _ => trivial
  failure_type := fun _ _ _ _ _ => trivial
  failure_truth := fun _ _ _ _ _ _ => trivial
  literal := fun _ _ _ _ => Yields.always _
  sign := fun _ _ _ _ _ => Yields.always _
  combine := fun _ _ _ _ _ _ _ _ => Yields.always _
  cast := fun _ _ _ _ _ _ => Yields.always _
  declare := fun _ _ _ _ _ _ _ _ _ _ => trivial
  assign := fun _ _ _ _ _ _ _ _ _ _ _ _ => trivial
  invoke := fun _ _ _ _ _ _ _ _ => ⟨Yields.always _, trivial⟩

theorem expression_stays_within
    (closed : context.IsClosed) (tokens : List Token) (fuel : Nat) {machine : Machine σ}
    (isSuffix : machine.remaining <:+ tokens) :
    (cursorInvariant context tokens).Ends
      (fun _ finish => True ∧ (cursorInvariant context tokens).Holds finish)
      (expression context fuel machine) :=
  expression_keeps closed fuel machine ⟨isSuffix, trivial, trivial⟩

/-- Completed statements leave the cursor among the tokens. -/
theorem Completes.isSuffix
    (closed : context.IsClosed) {trace : Bool} {machine finish : Machine σ} {values : List Value}
    (completes : Completes context trace machine values finish) :
    finish.remaining <:+ machine.remaining := by
  induction completes with
  | none => exact List.suffix_rfl
  | next _ done _ inductionHypothesis =>
      rw [afterStatement_remaining] at inductionHypothesis
      exact inductionHypothesis.trans (expression_passesInert closed _ _ _ _ done).isSuffix

/-- The tokens of `while true while true "a" end end`. -/
def endlessTokens : List Token :=
  [⟨.whileWord, "while", 0⟩, ⟨.bool, "true", 6⟩, ⟨.whileWord, "while", 11⟩, ⟨.bool, "true", 17⟩,
    ⟨.string, "a", 22⟩, ⟨.endWord, "end", 26⟩, ⟨.endWord, "end", 30⟩, ⟨.endOfInput, "", 33⟩]

end Evaluation

end PugScript
