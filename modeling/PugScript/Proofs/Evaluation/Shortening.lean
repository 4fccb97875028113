import PugScript.Proofs.Evaluation.Extent

/-!
# Tokens cut off behind an evaluation

A successful evaluation depends on no token behind the place where it ends: over the tokens up to
that place alone it does exactly the same. The argument runs backwards, from the place where a
construct ended to the places its parts went through. A loop goes back to its start, but each of
its turns stays in front of the `end` that closes it.
-/

namespace PugScript

/-- Skipping to a stop does not depend on the tokens behind it. -/
theorem exists_skipBlock_shortened
    {stops : List TokenKind} {depth : Nat} {tokens kept beyond : List Token} {kind : TokenKind}
    {stop : Token}
    (found : skipBlock stops depth tokens = (some kind, stop :: kept ++ beyond)) :
    ∃ begun,
      tokens = begun ++ beyond ∧
      skipBlock stops depth begun = (some kind, stop :: kept) := by
  induction tokens generalizing depth with
  | nil => simp [skipBlock] at found
  | cons token rest inductionHypothesis =>
      simp only [skipBlock] at found
      by_cases isEnd : token.kind = .endOfInput
      · simp [isEnd] at found
      · rw [if_neg isEnd] at found
        by_cases opens : token.kind.opensBlock = true
        · rw [if_pos opens] at found
          obtain ⟨begun, split, skipped⟩ := inductionHypothesis found
          refine ⟨token :: begun, by rw [split, List.cons_append], ?_⟩
          rw [skipBlock, if_neg isEnd, if_pos opens, skipped]
        · rw [if_neg opens] at found
          by_cases closes : token.kind = .endWord ∧ 0 < depth
          · rw [if_pos closes] at found
            obtain ⟨begun, split, skipped⟩ := inductionHypothesis found
            refine ⟨token :: begun, by rw [split, List.cons_append], ?_⟩
            rw [skipBlock, if_neg isEnd, if_neg opens, if_pos closes, skipped]
          · rw [if_neg closes] at found
            by_cases stopsHere : depth = 0 ∧ token.kind ∈ stops
            · rw [if_pos stopsHere] at found
              cases found
              refine ⟨stop :: kept, rfl, ?_⟩
              rw [skipBlock, if_neg isEnd, if_neg opens, if_neg closes, if_pos stopsHere]
            · rw [if_neg stopsHere] at found
              obtain ⟨begun, split, skipped⟩ := inductionHypothesis found
              refine ⟨token :: begun, by rw [split, List.cons_append], ?_⟩
              rw [skipBlock, if_neg isEnd, if_neg opens, if_neg closes, if_neg stopsHere, skipped]

variable {σ α : Type}

/-- Where evaluating the body of a loop ends, skipping over an `else` as well ends too. -/
theorem Evaluation.skipBlock_eq_of_loopBody
    {context : Context σ} (closed : context.IsClosed)
    {expression : Eval σ Value} (passes : expression.PassesInert)
    {fuel : Nat} {machine finish : Machine σ} {kind : TokenKind}
    (done : Evaluation.block context .whileWord [.endWord] expression fuel machine =
      .done kind finish) :
    skipBlock [.elseWord, .endWord] 0 machine.remaining = (some .endWord, finish.remaining) := by
  obtain ⟨⟨_, passed, split, inert⟩, stop, rest, cursor, isStop, member⟩ :=
    passed_of_block passes closed isBlockEnd_endWord done
  have isEnd : stop.kind = .endWord := isStop.trans (List.mem_singleton.mp member)
  have stopped := inert.skipBlock_append_stop isBlockEnd_elseWord_endWord
    (by rw [isEnd]; decide) rest
  rw [split, cursor, stopped, isEnd]

/-- Two contexts of evaluations that differ only in where their tokens end. -/
structure Context.Shortens (context shortened : Context σ) : Prop where
  closed : context.IsClosed
  shortClosed : shortened.IsClosed
  host_eq : shortened.host = context.host
  loopLimit_eq : shortened.loopLimit = context.loopLimit

/-- Where the step succeeds in front of the tokens `beyond`, the other step does the same with
these tokens cut off. -/
def Eval.Shortens (beyond : List Token) (step shortStep : Eval σ α) : Prop :=
  ∀ machine result finish kept,
    step machine = .done result finish →
    finish.remaining = kept ++ beyond →
    ∃ begun,
      machine.remaining = begun ++ beyond ∧
      shortStep (machine.facing begun) = .done result (finish.facing kept)

/-- Where the step succeeds in front of a token that is followed by the tokens `beyond`, the other
step does the same with the tokens `beyond` cut off. -/
def Eval.ShortensBefore (beyond : List Token) (step shortStep : Eval σ α) : Prop :=
  ∀ machine result finish stop kept,
    step machine = .done result finish →
    finish.remaining = stop :: kept ++ beyond →
    ∃ begun,
      machine.remaining = begun ++ beyond ∧
      shortStep (machine.facing begun) = .done result (finish.facing (stop :: kept))

/-- The step does not succeed where the tokens end. -/
def Eval.NeedsToken (context : Context σ) (step : Eval σ α) : Prop :=
  ∀ machine result finish,
    step machine = .done result finish → (context.front machine.remaining).kind ≠ .endOfInput

/-- What does not stand in front of the whole tokens does not stand in front of the shortened ones
either, unless it is the end of the input. -/
theorem Context.Shortens.not_front
    {context shortened : Context σ} (cut : context.Shortens shortened)
    (holds : TokenKind → Prop) (notAtEnd : ¬ holds .endOfInput) {kept beyond : List Token}
    (refused : ¬ holds (context.front (kept ++ beyond)).kind) :
    ¬ holds (shortened.front kept).kind := by
  cases kept with
  | nil =>
      have isEnd : (shortened.front []).kind = .endOfInput := cut.shortClosed
      rw [isEnd]
      exact notAtEnd
  | cons token rest => exact refused

namespace Evaluation

open Eval

variable {context shortened : Context σ} (cut : context.Shortens shortened)
  {beyond : List Token}

/-! ## Operators -/

include cut in
theorem applyTier_shortens
    (tier : Tier) {operand shortOperand : Eval σ Value}
    (operands : operand.Shortens beyond shortOperand) (fuel : Nat) (left : Value) :
    (applyTier context tier operand fuel left).Shortens beyond
      (applyTier shortened tier shortOperand fuel left) := by
  induction fuel generalizing left with
  | zero =>
      intro machine value finish kept done _
      exact absurd done exhausted_ne_done
  | succ fuel inductionHypothesis =>
      intro machine value finish kept done reached
      rcases (applyTier_succ_eq_done_iff cut.closed).mp done with
        ⟨refused, rfl, rfl⟩ |
        ⟨operator, rest, right, middle, result, cursor, accepts, operandDone, combined, restDone⟩
      · refine ⟨kept, reached, (applyTier_succ_eq_done_iff cut.shortClosed).mpr (.inl ?_)⟩
        rw [reached] at refused
        have notAtEnd : ¬ tier.accepts .endOfInput = true :=
          fun accepted => (isPlain_of_accepts accepted).1 rfl
        have refusedShort :=
          cut.not_front (tier.accepts · = true) notAtEnd (Bool.eq_false_iff.mp refused)
        exact ⟨Bool.eq_false_iff.mpr refusedShort, rfl, rfl⟩
      · obtain ⟨afterOperand, splitMiddle, shortRest⟩ :=
          inductionHypothesis result _ _ _ _ restDone reached
        obtain ⟨afterOperator, splitRest, shortOperandDone⟩ :=
          operands _ _ _ _ operandDone splitMiddle
        rw [Machine.facing_remaining] at splitRest
        refine ⟨operator :: afterOperator, by rw [cursor, splitRest, List.cons_append], ?_⟩
        exact (applyTier_succ_eq_done_iff cut.shortClosed).mpr
          (.inr ⟨operator, afterOperator, right, middle.facing afterOperand, result, rfl, accepts,
            shortOperandDone, combined, shortRest⟩)

include cut in
theorem tierOf_shortens
    (tier : Tier) (fuel : Nat) {operand shortOperand : Eval σ Value}
    (operands : operand.Shortens beyond shortOperand) :
    (tierOf context tier fuel operand).Shortens beyond
      (tierOf shortened tier fuel shortOperand) := by
  intro machine value finish kept done reached
  obtain ⟨left, middle, leftDone, restDone⟩ := tierOf_eq_done_iff.mp done
  obtain ⟨afterLeft, splitMiddle, shortRest⟩ :=
    applyTier_shortens cut tier operands fuel left _ _ _ _ restDone reached
  obtain ⟨begun, split, shortLeft⟩ := operands _ _ _ _ leftDone splitMiddle
  exact ⟨begun, split,
    tierOf_eq_done_iff.mpr ⟨left, middle.facing afterLeft, shortLeft, shortRest⟩⟩

include cut in
theorem signed_shortens
    {primary shortPrimary : Eval σ Value} (primaries : primary.Shortens beyond shortPrimary)
    (fuel : Nat) :
    (signed context primary fuel).Shortens beyond (signed shortened shortPrimary fuel) := by
  induction fuel with
  | zero =>
      intro machine value finish kept done _
      exact absurd done exhausted_ne_done
  | succ fuel inductionHypothesis =>
      intro machine value finish kept done reached
      obtain ⟨room, form⟩ := (signed_succ_eq_done_iff cut.closed).mp done
      rcases form with
        ⟨sign, rest, operand, middle, cursor, isSign, operandDone, applied, rfl⟩ |
        ⟨noSign, middle, primaryDone, rfl⟩
      · obtain ⟨afterSign, splitRest, shortOperand⟩ :=
          inductionHypothesis _ _ _ kept operandDone reached
        have splitMachine : machine.remaining = sign :: afterSign ++ beyond := by
          rw [Machine.deeper_remaining, Machine.facing_remaining] at splitRest
          rw [cursor, splitRest, List.cons_append]
        refine ⟨sign :: afterSign, splitMachine, ?_⟩
        exact (signed_succ_eq_done_iff cut.shortClosed).mpr
          ⟨room, .inl ⟨sign, afterSign, operand, middle.facing kept, rfl, isSign, shortOperand,
            applied, rfl⟩⟩
      · obtain ⟨begun, split, shortPrimaryDone⟩ :=
          primaries _ _ _ kept primaryDone reached
        rw [Machine.deeper_remaining] at split
        refine ⟨begun, split, ?_⟩
        rw [split] at noSign
        exact (signed_succ_eq_done_iff cut.shortClosed).mpr
          ⟨room, .inr ⟨cut.not_front IsSign (by decide) noSign, middle.facing kept,
            shortPrimaryDone, rfl⟩⟩

include cut in
theorem expressionOf_shortens
    (fuel : Nat) {primary shortPrimary : Eval σ Value}
    (primaries : primary.Shortens beyond shortPrimary) :
    (expressionOf context fuel primary).Shortens beyond
      (expressionOf shortened fuel shortPrimary) := by
  unfold expressionOf
  iterate 5 apply tierOf_shortens cut
  exact signed_shortens cut primaries fuel

/-! ## Names and calls -/

section Nested

variable {expression shortExpression : Eval σ Value}
  (expressions : expression.Shortens beyond shortExpression)

include cut expressions

theorem declaration_shortens
    {machine finish : Machine σ} {value : Value} {token : Token} {rest kept : List Token}
    (cursor : machine.remaining = token :: rest)
    (done : declaration context expression machine = .done value finish)
    (reached : finish.remaining = kept ++ beyond) :
    ∃ begun,
      rest = begun ++ beyond ∧
      declaration shortened shortExpression (machine.facing (token :: begun)) =
        .done value (finish.facing kept) := by
  obtain ⟨name, after, dataType, rfl, isName, known, form⟩ :=
    (declaration_eq_done_iff cut.closed cursor).mp done
  rcases form with
    ⟨bare, isNone, rfl⟩ |
    ⟨assign, initializer, initial, middle, rfl, isAssign, initialDone, converted, rfl⟩
  · rw [Machine.facing_remaining] at reached
    subst reached
    refine ⟨name :: kept, rfl, ?_⟩
    exact (declaration_eq_done_iff cut.shortClosed rfl).mpr
      ⟨name, kept, dataType, rfl, isName, known,
        .inl ⟨cut.not_front (· = .assign) (by decide) bare, isNone, rfl⟩⟩
  · obtain ⟨afterAssign, split, shortInitial⟩ :=
      expressions _ _ _ kept initialDone reached
    rw [Machine.facing_remaining] at split
    subst split
    refine ⟨name :: assign :: afterAssign, rfl, ?_⟩
    exact (declaration_eq_done_iff cut.shortClosed rfl).mpr
      ⟨name, assign :: afterAssign, dataType, rfl, isName, known,
        .inr ⟨assign, afterAssign, initial, middle.facing kept, rfl, isAssign, shortInitial,
          converted, rfl⟩⟩

theorem identifier_shortens
    {machine finish : Machine σ} {value : Value} {token : Token} {rest kept : List Token}
    (cursor : machine.remaining = token :: rest)
    (done : identifier context expression machine = .done value finish)
    (reached : finish.remaining = kept ++ beyond) :
    ∃ begun,
      rest = begun ++ beyond ∧
      identifier shortened shortExpression (machine.facing (token :: begun)) =
        .done value (finish.facing kept) := by
  rcases (identifier_eq_done_iff cut.closed cursor).mp done with
    ⟨reads, found, rfl⟩ |
    ⟨assign, after, middle, bindings, rfl, isAssign, valueDone, assigned, rfl⟩
  · rw [Machine.facing_remaining] at reached
    subst reached
    refine ⟨kept, rfl, ?_⟩
    exact (identifier_eq_done_iff cut.shortClosed rfl).mpr
      (.inl ⟨cut.not_front (· = .assign) (by decide) reads, found, rfl⟩)
  · obtain ⟨afterAssign, split, shortValue⟩ := expressions _ _ _ kept valueDone reached
    rw [Machine.facing_remaining] at split
    subst split
    refine ⟨assign :: afterAssign, rfl, ?_⟩
    exact (identifier_eq_done_iff cut.shortClosed rfl).mpr
      (.inr ⟨assign, afterAssign, middle.facing kept, bindings, rfl, isAssign, shortValue,
        assigned, rfl⟩)

theorem moreArguments_shortens (function : Token) (fuel : Nat) (arguments : List Value) :
    (moreArguments context function expression fuel arguments).Shortens beyond
      (moreArguments shortened function shortExpression fuel arguments) := by
  induction fuel generalizing arguments with
  | zero =>
      intro machine values finish kept done _
      exact absurd done exhausted_ne_done
  | succ fuel inductionHypothesis =>
      intro machine values finish kept done reached
      rcases (moreArguments_succ_eq_done_iff cut.closed).mp done with
        ⟨noComma, rfl, rfl⟩ |
        ⟨comma, rest, argument, middle, cursor, isComma, room, argumentDone, restDone⟩
      · refine ⟨kept, reached, (moreArguments_succ_eq_done_iff cut.shortClosed).mpr (.inl ?_)⟩
        rw [reached] at noComma
        exact ⟨cut.not_front (· = .comma) (by decide) noComma, rfl, rfl⟩
      · obtain ⟨afterArgument, splitMiddle, shortRest⟩ :=
          inductionHypothesis _ _ _ _ _ restDone reached
        obtain ⟨afterComma, splitRest, shortArgument⟩ :=
          expressions _ _ _ _ argumentDone splitMiddle
        rw [Machine.facing_remaining] at splitRest
        refine ⟨comma :: afterComma, by rw [cursor, splitRest, List.cons_append], ?_⟩
        exact (moreArguments_succ_eq_done_iff cut.shortClosed).mpr
          (.inr ⟨comma, afterComma, argument, middle.facing afterArgument, rfl, isComma, room,
            shortArgument, shortRest⟩)

theorem arguments_shortensBefore (function : Token) (fuel : Nat) :
    (arguments context function expression fuel).ShortensBefore beyond
      (arguments shortened function shortExpression fuel) := by
  intro machine values finish stop kept done reached
  rcases arguments_eq_done_iff.mp done with
    ⟨closes, rfl, rfl⟩ | ⟨goesOn, first, middle, firstDone, restDone⟩
  · rw [reached] at closes
    exact ⟨stop :: kept, reached, arguments_eq_done_iff.mpr (.inl ⟨closes, rfl, rfl⟩)⟩
  · obtain ⟨afterFirst, splitMiddle, shortRest⟩ :=
      moreArguments_shortens cut expressions function fuel [first] _ _ _ (stop :: kept)
        restDone reached
    obtain ⟨begun, split, shortFirst⟩ := expressions _ _ _ _ firstDone splitMiddle
    rw [split] at goesOn
    have goesOnShort : (shortened.front begun).kind ≠ .closeParenthesis :=
      cut.not_front (· = .closeParenthesis) (by decide) goesOn
    exact ⟨begun, split,
      arguments_eq_done_iff.mpr
        (.inr ⟨goesOnShort, first, middle.facing afterFirst, shortFirst, shortRest⟩)⟩

theorem call_shortens
    {fuel : Nat} {machine finish : Machine σ} {value : Value} {token : Token}
    {rest kept : List Token}
    (cursor : machine.remaining = token :: rest)
    (done : call context expression fuel machine = .done value finish)
    (reached : finish.remaining = kept ++ beyond) :
    ∃ begun,
      rest = begun ++ beyond ∧
      call shortened shortExpression fuel (machine.facing (token :: begun)) =
        .done value (finish.facing kept) := by
  obtain ⟨opening, inside, values, middle, closing, after, world, rfl, isOpening, argumentsDone,
    cursorClosing, isClosing, invoked, rfl⟩ := (call_eq_done_iff cut.closed cursor).mp done
  have splitMiddle : middle.remaining = closing :: kept ++ beyond := by
    rw [cursorClosing, List.cons_append]
    exact congrArg (closing :: ·) reached
  obtain ⟨begunInside, split, shortArguments⟩ :=
    arguments_shortensBefore cut expressions token fuel _ _ _ _ _ argumentsDone splitMiddle
  rw [Machine.facing_remaining] at split
  subst split
  refine ⟨opening :: begunInside, rfl, ?_⟩
  rw [← cut.host_eq] at invoked
  exact (call_eq_done_iff cut.shortClosed rfl).mpr
    ⟨opening, begunInside, values, middle.facing (closing :: kept), closing, kept, world, rfl,
      isOpening, shortArguments, rfl, isClosing, invoked, rfl⟩

theorem parenthesised_shortens
    {machine finish : Machine σ} {value : Value} {token : Token} {rest kept : List Token}
    (cursor : machine.remaining = token :: rest)
    (done : parenthesised context expression machine = .done value finish)
    (reached : finish.remaining = kept ++ beyond) :
    ∃ begun,
      rest = begun ++ beyond ∧
      parenthesised shortened shortExpression (machine.facing (token :: begun)) =
        .done value (finish.facing kept) := by
  obtain ⟨middle, closing, after, innerDone, cursorClosing, isClosing, rfl⟩ :=
    (parenthesised_eq_done_iff cut.closed cursor).mp done
  have splitMiddle : middle.remaining = closing :: kept ++ beyond := by
    rw [cursorClosing, List.cons_append]
    exact congrArg (closing :: ·) reached
  obtain ⟨begun, split, shortInner⟩ := expressions _ _ _ _ innerDone splitMiddle
  refine ⟨begun, split, ?_⟩
  exact (parenthesised_eq_done_iff cut.shortClosed rfl).mpr
    ⟨middle.facing (closing :: kept), closing, kept, shortInner, rfl, isClosing, rfl⟩

/-! ## Blocks -/

omit cut in
theorem condition_shortens :
    (condition context expression).Shortens beyond (condition shortened shortExpression) := by
  intro machine truth finish kept done reached
  obtain ⟨value, valueDone, converted⟩ := condition_eq_done_iff.mp done
  obtain ⟨begun, split, shortValue⟩ := expressions _ _ _ kept valueDone reached
  exact ⟨begun, split, condition_eq_done_iff.mpr ⟨value, shortValue, converted⟩⟩

/-- A body ends at a token, so what stands behind that token makes no difference to it. -/
theorem block_shortensBefore
    (needsToken : shortExpression.NeedsToken shortened)
    (opener : TokenKind) (stops : List TokenKind) (fuel : Nat) :
    (block context opener stops expression fuel).ShortensBefore beyond
      (block shortened opener stops shortExpression fuel) := by
  induction fuel with
  | zero =>
      intro machine kind finish stop kept done _
      exact absurd done exhausted_ne_done
  | succ fuel inductionHypothesis =>
      intro machine kind finish stop kept done reached
      rcases block_succ_eq_done_iff.mp done with
        ⟨member, rfl, rfl⟩ |
        ⟨goesOn, notEnd, placed, value, middle, statementDone, restDone⟩
      · rw [reached] at member ⊢
        exact ⟨stop :: kept, rfl, block_succ_eq_done_iff.mpr (.inl ⟨member, rfl, rfl⟩)⟩
      · obtain ⟨afterStatement, splitMiddle, shortRest⟩ :=
          inductionHypothesis _ _ _ _ _ restDone reached
        obtain ⟨begun, split, shortStatement⟩ :=
          expressions _ _ _ _ statementDone splitMiddle
        -- The statement begins in front of the cut, so both runs look at its first token.
        obtain ⟨rest, cursor⟩ :=
          cut.shortClosed.exists_cons (needsToken _ _ _ shortStatement)
        rw [Machine.facing_remaining] at cursor
        generalize shortened.front begun = token at cursor
        subst cursor
        rw [split] at goesOn notEnd placed
        exact ⟨token :: rest, split,
          block_succ_eq_done_iff.mpr
            (.inr ⟨goesOn, notEnd, placed, value, middle.facing afterStatement, shortStatement,
              shortRest⟩)⟩

/-- The branches of an `if` end at its `end`, so what stands behind that makes no difference. -/
theorem branches_shortensBefore
    (passes : expression.PassesInert) (needsToken : shortExpression.NeedsToken shortened)
    (truth : Bool) (fuel : Nat) :
    (branches context truth expression fuel).ShortensBefore beyond
      (branches shortened truth shortExpression fuel) := by
  have blocks := fun stops fuel =>
    block_shortensBefore cut expressions needsToken .ifWord stops fuel
  intro machine result finish stop kept done reached
  cases truth with
  | true =>
      obtain ⟨found, middle, blockDone, outcome⟩ := branches_true_eq_done_iff.mp done
      rcases outcome with ⟨undivided, rfl⟩ | ⟨divides, closing, rest, skipped, rfl⟩
      · obtain ⟨begun, split, shortBlock⟩ := blocks _ fuel _ _ _ _ _ blockDone reached
        exact ⟨begun, split,
          branches_true_eq_done_iff.mpr ⟨found, _, shortBlock, .inl ⟨undivided, rfl⟩⟩⟩
      · obtain ⟨_, divider, following, front, _, _⟩ :=
          passed_of_block passes cut.closed isBlockEnd_elseWord_endWord blockDone
        rw [Machine.facing_remaining] at reached
        rw [reached, front, List.tail_cons] at skipped
        obtain ⟨inElse, splitElse, shortSkip⟩ := exists_skipBlock_shortened skipped
        have splitMiddle : middle.remaining = divider :: inElse ++ beyond := by
          rw [front, splitElse, List.cons_append]
        obtain ⟨begun, split, shortBlock⟩ := blocks _ fuel _ _ _ _ _ blockDone splitMiddle
        exact ⟨begun, split,
          branches_true_eq_done_iff.mpr ⟨found, middle.facing (divider :: inElse), shortBlock,
            .inr ⟨divides, closing, stop :: kept, shortSkip, rfl⟩⟩⟩
  | false =>
      obtain ⟨found, rest, skipped, outcome⟩ := branches_false_eq_done_iff.mp done
      rcases outcome with ⟨undivided, rfl⟩ | ⟨divides, closing, blockDone⟩
      · rw [Machine.facing_remaining] at reached
        rw [reached] at skipped
        obtain ⟨begun, split, shortSkip⟩ := exists_skipBlock_shortened skipped
        exact ⟨begun, split,
          branches_false_eq_done_iff.mpr
            ⟨found, stop :: kept, shortSkip, .inl ⟨undivided, rfl⟩⟩⟩
      · obtain ⟨_, divider, following, _, front, _, _, _⟩ :=
          exists_passed_of_skipBlock isBlockEnd_elseWord_endWord skipped
        obtain ⟨inElse, splitElse, shortBlock⟩ := blocks _ fuel _ _ _ _ _ blockDone reached
        rw [Machine.facing_remaining, front, List.tail_cons] at splitElse
        rw [front, splitElse, ← List.cons_append] at skipped
        obtain ⟨begun, split, shortSkip⟩ := exists_skipBlock_shortened skipped
        exact ⟨begun, split,
          branches_false_eq_done_iff.mpr
            ⟨found, divider :: inElse, shortSkip, .inr ⟨divides, closing, shortBlock⟩⟩⟩

theorem ifBlock_shortens
    (passes : expression.PassesInert) (needsToken : shortExpression.NeedsToken shortened)
    {fuel : Nat} {machine finish : Machine σ} {value : Value} {token : Token}
    {rest kept : List Token}
    (cursor : machine.remaining = token :: rest)
    (done : ifBlock context expression fuel machine = .done value finish)
    (reached : finish.remaining = kept ++ beyond) :
    ∃ begun,
      rest = begun ++ beyond ∧
      ifBlock shortened shortExpression fuel (machine.facing (token :: begun)) =
        .done value (finish.facing kept) := by
  obtain ⟨truth, middle, turned, closing, after, conditionDone, branchesDone, cursorClosing,
    isClosing, isTruth, rfl⟩ := (ifBlock_eq_done_iff cut.closed cursor).mp done
  have splitTurned : turned.remaining = closing :: kept ++ beyond := by
    rw [cursorClosing, List.cons_append]
    exact congrArg (closing :: ·) reached
  obtain ⟨afterCondition, splitMiddle, shortBranches⟩ :=
    branches_shortensBefore cut expressions passes needsToken truth fuel _ _ _ _ _ branchesDone
      splitTurned
  obtain ⟨begun, split, shortCondition⟩ :=
    condition_shortens expressions _ _ _ _ conditionDone splitMiddle
  refine ⟨begun, split, ?_⟩
  exact (ifBlock_eq_done_iff cut.shortClosed rfl).mpr
    ⟨truth, middle.facing afterCondition, turned.facing (closing :: kept), closing, kept,
      shortCondition, shortBranches, rfl, isClosing, isTruth, rfl⟩

end Nested

include cut in
/-- A loop can be cut off behind its last test if every turn of its body ends in front of the
cut. -/
theorem iterate_shortens
    {keyword : Token} {start : List Token}
    {test shortTest : Eval σ Bool} (tests : test.Shortens beyond shortTest)
    {body shortBody : Eval σ TokenKind} (bodies : body.ShortensBefore beyond shortBody)
    (turnsEnd : ∀ before middle stop turned,
      before.remaining = start ++ beyond →
      test before = .done true middle →
      body middle = .done stop turned →
      ∃ closing kept, turned.remaining = closing :: kept ++ beyond)
    {fuel : Nat} {iterations count : UInt64} {machine finish : Machine σ} {kept : List Token}
    (atStart : machine.remaining = start ++ beyond)
    (done : iterate context keyword (start ++ beyond) test body fuel iterations machine =
      .done count finish)
    (reached : finish.remaining = kept ++ beyond) :
    iterate shortened keyword start shortTest shortBody fuel iterations (machine.facing start) =
      .done count (finish.facing kept) := by
  induction fuel generalizing iterations machine with
  | zero => exact absurd done exhausted_ne_done
  | succ fuel inductionHypothesis =>
      have startsThere : ∀ {begun}, machine.remaining = begun ++ beyond → begun = start :=
        fun split => List.append_cancel_right (split.symm.trans atStart)
      rcases iterate_succ_eq_done_iff.mp done with
        ⟨testDone, isCount⟩ | ⟨middle, stop, turned, testDone, room, bodyDone, restDone⟩
      · obtain ⟨begun, split, shortTestDone⟩ := tests _ _ _ _ testDone reached
        obtain rfl := startsThere split
        exact iterate_succ_eq_done_iff.mpr (.inl ⟨shortTestDone, isCount⟩)
      · obtain ⟨closing, after, splitTurned⟩ := turnsEnd _ _ _ _ atStart testDone bodyDone
        obtain ⟨inBody, splitMiddle, shortBodyDone⟩ := bodies _ _ _ _ _ bodyDone splitTurned
        obtain ⟨begun, split, shortTestDone⟩ := tests _ _ _ _ testDone splitMiddle
        obtain rfl := startsThere split
        have shortRest := inductionHypothesis rfl restDone
        rw [← cut.loopLimit_eq] at room
        exact iterate_succ_eq_done_iff.mpr
          (.inr ⟨middle.facing inBody, stop, turned.facing (closing :: after), shortTestDone, room,
            shortBodyDone, shortRest⟩)

section Nested

variable {expression shortExpression : Eval σ Value}
  (expressions : expression.Shortens beyond shortExpression)

include cut expressions

/-- A loop ends behind its `end` whenever it does, so every turn of it is the same without what
stands behind. -/
theorem whileBlock_shortens
    (passes : expression.PassesInert) (extents : SameExtent expression expression)
    (needsToken : shortExpression.NeedsToken shortened)
    {fuel : Nat} {machine finish : Machine σ} {value : Value} {token : Token}
    {start kept : List Token}
    (cursor : machine.remaining = token :: start)
    (done : whileBlock context expression fuel machine = .done value finish)
    (reached : finish.remaining = kept ++ beyond) :
    ∃ begun,
      start = begun ++ beyond ∧
      whileBlock shortened shortExpression fuel (machine.facing (token :: begun)) =
        .done value (finish.facing kept) := by
  obtain ⟨iterations, last, closing, after, loopDone, skipped, isClosing, isNone, rfl⟩ :=
    (whileBlock_eq_done_iff cut.closed cursor).mp done
  have cutAfter : after = kept ++ beyond := reached
  subst cutAfter
  have tests : (condition context expression).Shortens beyond
      (condition shortened shortExpression) :=
    condition_shortens expressions
  obtain ⟨inBody, splitLast, shortSkip⟩ := exists_skipBlock_shortened skipped
  obtain ⟨before, atStart, testDone⟩ :=
    exists_last_of_iterate loopDone (fun before => before.remaining = start)
      (fun _ _ _ _ _ _ _ => rfl) rfl
  obtain ⟨begun, split, _⟩ := tests _ _ _ _ testDone splitLast
  rw [atStart] at split
  subst split
  have shortLoop := iterate_shortens cut tests
    (block_shortensBefore cut expressions needsToken .whileWord [.endWord] fuel)
    (by
      -- Every test ends where the last one did, so every turn ends where the loop is closed.
      intro start middle stop turned sameStart conditionDone bodyDone
      have sameMiddle := condition_sameExtent extents _ _ _ _ _ _
        (sameStart.trans atStart.symm) conditionDone testDone
      have ended := skipBlock_eq_of_loopBody cut.closed passes bodyDone
      rw [sameMiddle, skipped] at ended
      exact ⟨closing, kept, (congrArg Prod.snd ended).symm⟩)
    rfl loopDone splitLast
  refine ⟨begun, rfl, ?_⟩
  have sameNote :
      noteLoop context iterations token (last.facing (kept ++ beyond)) =
        noteLoop shortened iterations token (last.facing (kept ++ beyond)) := by
    rw [noteLoop, noteLoop, cut.host_eq]
  rw [sameNote]
  exact (whileBlock_eq_done_iff cut.shortClosed rfl).mpr
    ⟨iterations, last.facing inBody, closing, kept, shortLoop, shortSkip, isClosing, isNone, rfl⟩

/-! ## Primaries and expressions -/

omit cut expressions in
/-- A primary is cut off like the form that its first token decides on. -/
theorem exists_primary_shortened
    {form : Eval σ Value} {fuel : Nat} {machine finish : Machine σ} {value : Value} {token : Token}
    {rest kept : List Token}
    (cursor : machine.remaining = token :: rest)
    (decided : ∀ begun,
      primary shortened shortExpression fuel (machine.facing (token :: begun)) =
        form (machine.facing (token :: begun)))
    (formShortens : ∃ begun,
      rest = begun ++ beyond ∧
      form (machine.facing (token :: begun)) = .done value (finish.facing kept)) :
    ∃ begun,
      machine.remaining = begun ++ beyond ∧
      primary shortened shortExpression fuel (machine.facing begun) =
        .done value (finish.facing kept) := by
  obtain ⟨begun, rfl, shortForm⟩ := formShortens
  exact ⟨token :: begun, cursor, (decided begun).trans shortForm⟩

/-- What stands behind a primary makes no difference to it. -/
theorem primary_shortens
    (passes : expression.PassesInert) (extents : SameExtent expression expression)
    (needsToken : shortExpression.NeedsToken shortened) (fuel : Nat) :
    (primary context expression fuel).Shortens beyond
      (primary shortened shortExpression fuel) := by
  intro machine value finish kept done reached
  apply primary_done_cases cut.closed done
  case isLiteral =>
    intro token rest cursor kindOf formDone
    obtain ⟨known, rfl⟩ := literal_eq_done_iff.mp formDone
    rw [cursor, List.tail_cons, Machine.facing_remaining] at reached
    have decided : ∀ begun,
        primary shortened shortExpression fuel (machine.facing (token :: begun)) =
          literal token (machine.facing (token :: begun)) := by
      intro begun
      rw [primary, bind_current, Machine.facing_remaining, Context.front_cons]
      rcases kindOf with isNumber | isString | isBool
      · rw [isNumber]
      · rw [isString]
      · rw [isBool]
    exact exists_primary_shortened cursor decided
      ⟨kept, reached, literal_eq_done_iff.mpr ⟨known, rfl⟩⟩
  all_goals
    intro token rest cursor kindOf formDone
    apply exists_primary_shortened cursor
    · intro begun
      rw [primary, bind_current, Machine.facing_remaining, Context.front_cons, kindOf]
  · exact declaration_shortens cut expressions cursor formDone reached
  · exact identifier_shortens cut expressions cursor formDone reached
  · exact call_shortens cut expressions cursor formDone reached
  · exact parenthesised_shortens cut expressions cursor formDone reached
  · exact ifBlock_shortens cut expressions passes needsToken cursor formDone reached
  · exact whileBlock_shortens cut expressions passes extents needsToken cursor formDone reached

end Nested

/-- There is no expression without tokens. -/
theorem expression_needsToken (closed : context.IsClosed) (fuel : Nat) :
    (expression context fuel).NeedsToken context :=
  fun _ value finish done isEnd =>
    expression_ne_done_of_endOfInput closed fuel isEnd value finish done

include cut in
/-- An expression does the same when the tokens behind its end are cut off. -/
theorem expression_shortens (beyond : List Token) (fuel : Nat) :
    (expression context fuel).Shortens beyond (expression shortened fuel) := by
  induction fuel with
  | zero =>
      intro machine value finish kept done _
      exact absurd done exhausted_ne_done
  | succ fuel inductionHypothesis =>
      exact expressionOf_shortens cut fuel
        (primary_shortens cut inductionHypothesis (expression_passesInert cut.closed fuel)
          (expression_sameExtent cut.closed cut.closed fuel fuel)
          (expression_needsToken cut.shortClosed fuel) fuel)

end Evaluation

end PugScript
