import PugScript.Host.Memory
import PugScript.Proofs.Evaluation.Success

/-!
# What evaluations pass over

Every successful evaluation of an expression passes over an inert list of tokens: the blocks in it
are whole, and it takes neither an `else` nor an `end` of the block around it. So evaluating the
body of a block and skipping it reach the same place.
-/

namespace PugScript

variable {σ α : Type}

/-- The way from one machine to another passes over inert tokens and comes back to the same
depth. -/
structure Passed (machine finish : Machine σ) : Prop where
  depth_eq : finish.depth = machine.depth
  exists_inert : ∃ passed, machine.remaining = passed ++ finish.remaining ∧ Inert passed

/-- Whenever the step succeeds, it passes over inert tokens. -/
def Eval.PassesInert (step : Eval σ α) : Prop :=
  ∀ machine result finish, step machine = .done result finish → Passed machine finish

namespace Passed

theorem refl (machine : Machine σ) : Passed machine machine :=
  ⟨rfl, [], rfl, Inert.nil⟩

theorem trans
    {machine middle finish : Machine σ}
    (first : Passed machine middle) (second : Passed middle finish) :
    Passed machine finish := by
  obtain ⟨firstDepth, before, splitFirst, firstInert⟩ := first
  obtain ⟨secondDepth, after, splitSecond, secondInert⟩ := second
  refine ⟨secondDepth.trans firstDepth, before ++ after, ?_, firstInert.append secondInert⟩
  rw [splitFirst, splitSecond, List.append_assoc]

theorem plain
    {machine : Machine σ} {token : Token} {rest : List Token}
    (cursor : machine.remaining = token :: rest) (isPlain : token.kind.IsPlain) :
    Passed machine (machine.facing rest) :=
  ⟨rfl, [token], cursor, Inert.cons_plain isPlain Inert.nil⟩

/-- A plain token behind an inert stretch belongs to it. -/
theorem then_plain
    {machine middle : Machine σ} (passed : Passed machine middle)
    {token : Token} {rest : List Token}
    (cursor : middle.remaining = token :: rest) (isPlain : token.kind.IsPlain) :
    Passed machine (middle.facing rest) :=
  passed.trans (plain cursor isPlain)

/-- Only the cursor and the depth of the last machine matter. -/
theorem congr_finish
    {machine finish other : Machine σ} (passed : Passed machine finish)
    (sameTokens : other.remaining = finish.remaining) (sameDepth : other.depth = finish.depth) :
    Passed machine other := by
  obtain ⟨depth, tokens, split, inert⟩ := passed
  exact ⟨sameDepth.trans depth, tokens, sameTokens ▸ split, inert⟩

/-- Only the cursor and the depth of the first machine matter. -/
theorem congr_start
    {machine finish other : Machine σ} (passed : Passed machine finish)
    (sameTokens : other.remaining = machine.remaining)
    (sameDepth : other.depth = machine.depth) :
    Passed other finish := by
  obtain ⟨depth, tokens, split, inert⟩ := passed
  exact ⟨depth.trans sameDepth.symm, tokens, sameTokens.trans split, inert⟩

/-- A step that was taken one level deeper. -/
theorem of_deeper
    {machine finish : Machine σ} (passed : Passed machine.deeper finish) :
    Passed machine finish.higher := by
  obtain ⟨depth, tokens, split, inert⟩ := passed
  refine ⟨?_, tokens, split, inert⟩
  rw [Machine.higher_depth, depth, Machine.deeper_depth, Nat.add_sub_cancel]

end Passed

namespace Evaluation

open Eval

variable {context : Context σ}

/-! ## Operators -/

theorem applyTier_passesInert
    (closed : context.IsClosed) (tier : Tier)
    {operand : Eval σ Value} (operandPasses : operand.PassesInert)
    (fuel : Nat) (left : Value) :
    (applyTier context tier operand fuel left).PassesInert := by
  induction fuel generalizing left with
  | zero =>
      intro machine value finish done
      exact absurd done exhausted_ne_done
  | succ fuel inductionHypothesis =>
      intro machine value finish done
      rcases (applyTier_succ_eq_done_iff closed).mp done with
        ⟨_, _, rfl⟩ |
        ⟨operator, rest, right, middle, result, cursor, accepts, operandDone, _, restDone⟩
      · exact Passed.refl finish
      · have overOperator := Passed.plain cursor (isPlain_of_accepts accepts)
        have overOperand := operandPasses _ _ _ operandDone
        exact (overOperator.trans overOperand).trans
          (inductionHypothesis result _ _ _ restDone)

theorem tierOf_passesInert
    (closed : context.IsClosed) (tier : Tier) (fuel : Nat)
    {operand : Eval σ Value} (operandPasses : operand.PassesInert) :
    (tierOf context tier fuel operand).PassesInert := by
  intro machine value finish done
  obtain ⟨left, middle, leftDone, restDone⟩ := tierOf_eq_done_iff.mp done
  exact (operandPasses _ _ _ leftDone).trans
    (applyTier_passesInert closed tier operandPasses fuel left _ _ _ restDone)

theorem signed_passesInert
    (closed : context.IsClosed)
    {primary : Eval σ Value} (primaryPasses : primary.PassesInert) (fuel : Nat) :
    (signed context primary fuel).PassesInert := by
  induction fuel with
  | zero =>
      intro machine value finish done
      exact absurd done exhausted_ne_done
  | succ fuel inductionHypothesis =>
      intro machine value finish done
      obtain ⟨_, form⟩ := (signed_succ_eq_done_iff closed).mp done
      rcases form with
        ⟨sign, rest, operand, middle, cursor, isSign, operandDone, _, rfl⟩ |
        ⟨_, middle, primaryDone, rfl⟩
      · have overSign := Passed.plain cursor (isPlain_of_isSign isSign)
        exact overSign.trans (inductionHypothesis _ _ _ operandDone).of_deeper
      · exact (primaryPasses _ _ _ primaryDone).of_deeper

theorem expressionOf_passesInert
    (closed : context.IsClosed) (fuel : Nat)
    {primary : Eval σ Value} (primaryPasses : primary.PassesInert) :
    (expressionOf context fuel primary).PassesInert := by
  unfold expressionOf
  iterate 5 apply tierOf_passesInert closed
  exact signed_passesInert closed primaryPasses fuel

/-! ## Names and calls -/

section Nested

variable {expression : Eval σ Value} (expressionPasses : expression.PassesInert)

include expressionPasses

theorem passed_of_declaration
    (closed : context.IsClosed)
    {machine finish : Machine σ} {value : Value} {token : Token} {rest : List Token}
    (cursor : machine.remaining = token :: rest) (isType : token.kind = .dataType)
    (done : declaration context expression machine = .done value finish) :
    Passed machine finish := by
  have overType := Passed.plain cursor (by rw [isType]; decide)
  obtain ⟨name, after, dataType, cursorName, isName, _, form⟩ :=
    (declaration_eq_done_iff closed cursor).mp done
  have overName : Passed machine (machine.facing after) :=
    overType.then_plain cursorName (by rw [isName]; decide)
  rcases form with
    ⟨_, _, rfl⟩ |
    ⟨assign, initializer, initial, middle, cursorAssign, isAssign, initialDone, _, rfl⟩
  · exact overName.congr_finish rfl rfl
  · have overAssign : Passed machine (machine.facing initializer) :=
      overName.then_plain cursorAssign (by rw [isAssign]; decide)
    have overInitial := expressionPasses _ _ _ initialDone
    exact (overAssign.trans (overInitial.congr_start rfl rfl)).congr_finish rfl rfl

theorem passed_of_identifier
    (closed : context.IsClosed)
    {machine finish : Machine σ} {value : Value} {token : Token} {rest : List Token}
    (cursor : machine.remaining = token :: rest) (isName : token.kind = .identifier)
    (done : identifier context expression machine = .done value finish) :
    Passed machine finish := by
  have overName := Passed.plain cursor (by rw [isName]; decide)
  rcases (identifier_eq_done_iff closed cursor).mp done with
    ⟨_, _, rfl⟩ |
    ⟨assign, after, middle, bindings, cursorAssign, isAssign, valueDone, _, rfl⟩
  · exact overName
  · have overAssign : Passed machine (machine.facing after) :=
      overName.then_plain cursorAssign (by rw [isAssign]; decide)
    exact (overAssign.trans (expressionPasses _ _ _ valueDone)).congr_finish rfl rfl

theorem moreArguments_passesInert
    (closed : context.IsClosed) (function : Token) (fuel : Nat) (arguments : List Value) :
    (moreArguments context function expression fuel arguments).PassesInert := by
  induction fuel generalizing arguments with
  | zero =>
      intro machine values finish done
      exact absurd done exhausted_ne_done
  | succ fuel inductionHypothesis =>
      intro machine values finish done
      rcases (moreArguments_succ_eq_done_iff closed).mp done with
        ⟨_, _, rfl⟩ |
        ⟨comma, rest, argument, middle, cursor, isComma, _, argumentDone, restDone⟩
      · exact Passed.refl finish
      · have overComma := Passed.plain cursor (by rw [isComma]; decide)
        have overArgument := expressionPasses _ _ _ argumentDone
        exact (overComma.trans overArgument).trans (inductionHypothesis _ _ _ _ restDone)

theorem arguments_passesInert
    (closed : context.IsClosed) (function : Token) (fuel : Nat) :
    (arguments context function expression fuel).PassesInert := by
  intro machine values finish done
  rcases arguments_eq_done_iff.mp done with
    ⟨_, _, rfl⟩ | ⟨_, first, middle, firstDone, restDone⟩
  · exact Passed.refl finish
  · exact (expressionPasses _ _ _ firstDone).trans
      (moreArguments_passesInert expressionPasses closed function fuel [first] _ _ _ restDone)

theorem passed_of_call
    (closed : context.IsClosed) {fuel : Nat}
    {machine finish : Machine σ} {value : Value} {token : Token} {rest : List Token}
    (cursor : machine.remaining = token :: rest) (isFunction : token.kind = .function)
    (done : call context expression fuel machine = .done value finish) :
    Passed machine finish := by
  have overFunction := Passed.plain cursor (by rw [isFunction]; decide)
  obtain ⟨opening, inside, values, middle, closing, after, world, cursorOpening, isOpening,
    argumentsDone, cursorClosing, isClosing, _, rfl⟩ := (call_eq_done_iff closed cursor).mp done
  have overOpening : Passed machine (machine.facing inside) :=
    overFunction.then_plain cursorOpening (by rw [isOpening]; decide)
  have overArguments :=
    arguments_passesInert expressionPasses closed token fuel _ _ _ argumentsDone
  have overClosing := Passed.plain cursorClosing (by rw [isClosing]; decide)
  exact ((overOpening.trans overArguments).trans overClosing).congr_finish rfl rfl

theorem passed_of_parenthesised
    (closed : context.IsClosed)
    {machine finish : Machine σ} {value : Value} {token : Token} {rest : List Token}
    (cursor : machine.remaining = token :: rest) (isOpening : token.kind = .openParenthesis)
    (done : parenthesised context expression machine = .done value finish) :
    Passed machine finish := by
  have overOpening := Passed.plain cursor (by rw [isOpening]; decide)
  obtain ⟨middle, closing, after, innerDone, cursorClosing, isClosing, rfl⟩ :=
    (parenthesised_eq_done_iff closed cursor).mp done
  have overInner := expressionPasses _ _ _ innerDone
  have overClosing := Passed.plain cursorClosing (by rw [isClosing]; decide)
  exact (overOpening.trans overInner).trans overClosing

/-! ## Blocks -/

theorem condition_passesInert : (condition context expression).PassesInert := by
  intro machine truth finish done
  obtain ⟨value, valueDone, _⟩ := condition_eq_done_iff.mp done
  exact expressionPasses _ _ _ valueDone

/-- The body of a block is passed over up to the stop. -/
theorem passed_of_block
    (closed : context.IsClosed)
    {opener : TokenKind} {stops : List TokenKind} (blockEnd : IsBlockEnd stops) {fuel : Nat}
    {machine finish : Machine σ} {kind : TokenKind}
    (done : block context opener stops expression fuel machine = .done kind finish) :
    Passed machine finish ∧
      ∃ stop rest, finish.remaining = stop :: rest ∧ stop.kind = kind ∧ kind ∈ stops := by
  induction fuel generalizing machine with
  | zero => exact absurd done exhausted_ne_done
  | succ fuel inductionHypothesis =>
      rcases block_succ_eq_done_iff.mp done with
        ⟨member, rfl, rfl⟩ | ⟨_, _, _, value, middle, statementDone, restDone⟩
      · obtain ⟨rest, cursor⟩ := closed.exists_cons (blockEnd.ne_endOfInput member)
        exact ⟨Passed.refl finish, _, rest, cursor, rfl, member⟩
      · obtain ⟨overRest, stop⟩ := inductionHypothesis restDone
        exact ⟨(expressionPasses _ _ _ statementDone).trans overRest, stop⟩

/-- Where evaluating the body of a block ends, skipping it ends too. -/
theorem skipBlock_eq_of_block
    (closed : context.IsClosed)
    {opener : TokenKind} {stops : List TokenKind} (blockEnd : IsBlockEnd stops) {fuel : Nat}
    {machine finish : Machine σ} {kind : TokenKind}
    (done : block context opener stops expression fuel machine = .done kind finish) :
    skipBlock stops 0 machine.remaining = (some kind, finish.remaining) := by
  obtain ⟨⟨_, passed, split, inert⟩, stop, rest, cursor, rfl, member⟩ :=
    passed_of_block expressionPasses closed blockEnd done
  rw [split, cursor]
  exact inert.skipBlock_append_stop blockEnd member rest

end Nested

/-- A block from its keyword to its `end`. -/
theorem passed_of_inside
    {machine middle finish : Machine σ} {keyword closing : Token} {rest inside after : List Token}
    (cursor : machine.remaining = keyword :: rest) (opens : keyword.kind.opensBlock = true)
    (overCondition : Passed (machine.facing rest) middle)
    (split : middle.remaining = inside ++ closing :: after)
    (closes : closing.kind = .endWord) (passes : nestingAfter 1 inside = some 1)
    (sameDepth : finish.depth = middle.depth) (finished : finish.remaining = after) :
    Passed machine finish := by
  obtain ⟨depth, passed, splitCondition, inert⟩ := overCondition
  refine ⟨sameDepth.trans depth, keyword :: (passed ++ inside) ++ [closing], ?_, ?_⟩
  · rw [cursor, finished]
    rw [Machine.facing_remaining, split] at splitCondition
    rw [splitCondition]
    simp
  · apply Inert.block opens closes
    rw [inert.nestingAfter_one_append]
    exact passes

/-- What holds at the start of a loop and is kept by every turn holds when the condition is found
false at last. -/
theorem exists_last_of_iterate
    {keyword : Token} {start : List Token} {test : Eval σ Bool} {body : Eval σ TokenKind}
    {fuel : Nat} {iterations count : UInt64} {machine finish : Machine σ}
    (done : iterate context keyword start test body fuel iterations machine =
      .done count finish)
    (invariant : Machine σ → Prop)
    (kept : ∀ before middle stop reached,
      invariant before → test before = .done true middle → body middle = .done stop reached →
        invariant (reached.facing start))
    (initially : invariant machine) :
    ∃ last, invariant last ∧ test last = .done false finish := by
  induction fuel generalizing iterations machine with
  | zero => exact absurd done exhausted_ne_done
  | succ fuel inductionHypothesis =>
      rcases iterate_succ_eq_done_iff.mp done with
        ⟨testDone, _⟩ | ⟨middle, stop, reached, testDone, _, bodyDone, restDone⟩
      · exact ⟨machine, initially, testDone⟩
      · exact inductionHypothesis restDone (kept _ _ _ _ initially testDone bodyDone)

/-- Where the branches of an `if` end, whichever of them is evaluated. -/
def branchesEnd (tokens : List Token) : List Token :=
  match skipBlock [.elseWord, .endWord] 0 tokens with
  | (some .elseWord, rest) => (skipBlock [.endWord] 0 rest.tail).2
  | (_, rest) => rest

theorem branchesEnd_of_elseWord
    {tokens rest closing : List Token} {kind : TokenKind}
    (divided : skipBlock [.elseWord, .endWord] 0 tokens = (some .elseWord, rest))
    (closed : skipBlock [.endWord] 0 rest.tail = (some kind, closing)) :
    branchesEnd tokens = closing := by
  simp only [branchesEnd, divided, closed]

theorem branchesEnd_of_ne_elseWord
    {tokens rest : List Token} {kind : TokenKind} (undivided : kind ≠ .elseWord)
    (closed : skipBlock [.elseWord, .endWord] 0 tokens = (some kind, rest)) :
    branchesEnd tokens = rest := by
  unfold branchesEnd
  rw [closed]
  split
  · next same =>
      cases same
      exact absurd rfl undivided
  · next same =>
      cases same
      rfl

/-- Seen from inside the block, the branches come back to the depth where they start, and stop at
the `end` that closes the block. -/
theorem passed_branchesEnd
    {tokens rest : List Token} {kind : TokenKind}
    (found : skipBlock [.elseWord, .endWord] 0 tokens = (some kind, rest))
    (closes : kind = .elseWord →
      ∃ closing after, skipBlock [.endWord] 0 rest.tail = (some closing, after)) :
    ∃ passed closing after,
      tokens = passed ++ closing :: after ∧
      branchesEnd tokens = closing :: after ∧
      closing.kind = .endWord ∧
      nestingAfter 1 passed = some 1 := by
  obtain ⟨passed, stop, following, split, front, named, member, passes⟩ :=
    exists_passed_of_skipBlock isBlockEnd_elseWord_endWord found
  by_cases divides : kind = .elseWord
  · obtain ⟨closingKind, closingRest, closed⟩ := closes divides
    rw [divides] at found
    have reached := branchesEnd_of_elseWord found closed
    obtain ⟨passedElse, closing, after, splitElse, frontElse, namedElse, memberElse, passesElse⟩ :=
      exists_passed_of_skipBlock isBlockEnd_endWord closed
    rw [front, List.tail_cons] at splitElse
    refine ⟨passed ++ stop :: passedElse, closing, after, ?_, ?_, ?_, ?_⟩
    · rw [split, front, splitElse, frontElse, List.append_assoc, List.cons_append]
    · rw [reached, frontElse]
    · rw [namedElse]
      exact List.mem_singleton.mp memberElse
    · rw [nestingAfter_append, passes, Option.bind_some,
        nestingAfter_cons_of_elseWord (named.trans divides)]
      exact passesElse
  · refine ⟨passed, stop, following, ?_, ?_, ?_, passes⟩
    · rw [split, front]
    · rw [branchesEnd_of_ne_elseWord divides found, front]
    · rw [named]
      rcases isBlockEnd_elseWord_endWord.eq_of_mem kind member with isElse | isEnd
      · exact absurd isElse divides
      · exact isEnd

section Nested

variable {expression : Eval σ Value} (expressionPasses : expression.PassesInert)

include expressionPasses

/-- Whichever branch was evaluated, the branches have been passed over up to their common end. -/
theorem passed_of_branches
    (closed : context.IsClosed) {truth : Bool} {fuel : Nat} {machine finish : Machine σ}
    (done : branches context truth expression fuel machine = .done () finish) :
    finish.depth = machine.depth ∧
      finish.remaining = branchesEnd machine.remaining ∧
      ∃ passed closing after,
        machine.remaining = passed ++ closing :: after ∧
        branchesEnd machine.remaining = closing :: after ∧
        closing.kind = .endWord ∧
        nestingAfter 1 passed = some 1 := by
  cases truth with
  | true =>
      obtain ⟨stop, middle, blockDone, outcome⟩ := branches_true_eq_done_iff.mp done
      have skipped :=
        skipBlock_eq_of_block expressionPasses closed isBlockEnd_elseWord_endWord blockDone
      have sameDepth :=
        (passed_of_block expressionPasses closed isBlockEnd_elseWord_endWord blockDone).1.depth_eq
      rcases outcome with ⟨undivided, rfl⟩ | ⟨rfl, closing, rest, closes, rfl⟩
      · exact ⟨sameDepth, (branchesEnd_of_ne_elseWord undivided skipped).symm,
          passed_branchesEnd skipped fun divides => absurd divides undivided⟩
      · exact ⟨sameDepth, (branchesEnd_of_elseWord skipped closes).symm,
          passed_branchesEnd skipped fun _ => ⟨closing, rest, closes⟩⟩
  | false =>
      obtain ⟨stop, rest, skipped, outcome⟩ := branches_false_eq_done_iff.mp done
      rcases outcome with ⟨undivided, rfl⟩ | ⟨rfl, closing, blockDone⟩
      · exact ⟨rfl, (branchesEnd_of_ne_elseWord undivided skipped).symm,
          passed_branchesEnd skipped fun divides => absurd divides undivided⟩
      · have closes := skipBlock_eq_of_block expressionPasses closed isBlockEnd_endWord blockDone
        have sameDepth :=
          (passed_of_block expressionPasses closed isBlockEnd_endWord blockDone).1.depth_eq
        exact ⟨sameDepth, (branchesEnd_of_elseWord skipped closes).symm,
          passed_branchesEnd skipped fun _ => ⟨closing, _, closes⟩⟩

/-- An `if` block passes over tokens in which its `if` and its `end` belong together. -/
theorem passed_of_ifBlock
    (closed : context.IsClosed) {fuel : Nat}
    {machine finish : Machine σ} {value : Value} {token : Token} {rest : List Token}
    (cursor : machine.remaining = token :: rest) (isIf : token.kind = .ifWord)
    (done : ifBlock context expression fuel machine = .done value finish) :
    Passed machine finish := by
  obtain ⟨truth, middle, reached, closing, after, conditionDone, branchesDone,
    cursorClosing, isClosing, _, rfl⟩ := (ifBlock_eq_done_iff closed cursor).mp done
  have overCondition := condition_passesInert expressionPasses _ _ _ conditionDone
  obtain ⟨sameDepth, reachedEnd, inside, stop, following, split, ends, closes, passes⟩ :=
    passed_of_branches expressionPasses closed branchesDone
  rw [ends, cursorClosing] at reachedEnd
  cases reachedEnd
  exact passed_of_inside cursor (by rw [isIf]; rfl) overCondition split closes
    passes sameDepth rfl

/-- A `while` block passes over its tokens once in the end, however often it has gone back. -/
theorem passed_of_whileBlock
    (closed : context.IsClosed) {fuel : Nat}
    {machine finish : Machine σ} {value : Value} {token : Token} {start : List Token}
    (cursor : machine.remaining = token :: start) (isWhile : token.kind = .whileWord)
    (done : whileBlock context expression fuel machine = .done value finish) :
    Passed machine finish := by
  obtain ⟨iterations, reached, closing, after, loopDone, skipped, isClosing, _, rfl⟩ :=
    (whileBlock_eq_done_iff closed cursor).mp done
  have testPasses : (condition context expression).PassesInert :=
    condition_passesInert expressionPasses
  obtain ⟨last, ⟨atStart, lastDepth⟩, testDone⟩ :=
    exists_last_of_iterate loopDone
      (fun before => before.remaining = start ∧ before.depth = machine.depth)
      (by
        rintro before middle stop turned ⟨_, beforeDepth⟩ conditionDone bodyDone
        have overBody := (passed_of_block expressionPasses closed isBlockEnd_endWord bodyDone).1
        have overTest := testPasses _ _ _ conditionDone
        exact ⟨rfl, (overBody.depth_eq.trans overTest.depth_eq).trans beforeDepth⟩)
      ⟨rfl, rfl⟩
  have overTest : Passed (machine.facing start) reached :=
    (testPasses _ _ _ testDone).congr_start atStart.symm lastDepth.symm
  obtain ⟨inside, stop, following, split, front, _, _, passes⟩ :=
    exists_passed_of_skipBlock isBlockEnd_elseWord_endWord skipped
  exact passed_of_inside cursor (by rw [isWhile]; rfl) overTest split isClosing passes rfl rfl

/-- Every construct passes over inert tokens if the expressions nested in it do. -/
theorem primary_passesInert
    (closed : context.IsClosed) (fuel : Nat) :
    (primary context expression fuel).PassesInert := by
  intro machine value finish done
  apply primary_done_cases closed done
  · intro token rest cursor isType
    exact passed_of_declaration expressionPasses closed cursor isType
  · intro token rest cursor isName
    exact passed_of_identifier expressionPasses closed cursor isName
  · intro token rest cursor isFunction
    exact passed_of_call expressionPasses closed cursor isFunction
  · intro token rest cursor isLiteral literalDone
    obtain ⟨_, rfl⟩ := literal_eq_done_iff.mp literalDone
    rw [cursor]
    apply Passed.plain cursor
    rcases isLiteral with isNumber | isString | isBool
    · rw [isNumber]
      decide
    · rw [isString]
      decide
    · rw [isBool]
      decide
  · intro token rest cursor isOpening
    exact passed_of_parenthesised expressionPasses closed cursor isOpening
  · intro token rest cursor isIf
    exact passed_of_ifBlock expressionPasses closed cursor isIf
  · intro token rest cursor isWhile
    exact passed_of_whileBlock expressionPasses closed cursor isWhile

end Nested

/-- Every successful evaluation of an expression passes over inert tokens. -/
theorem expression_passesInert (closed : context.IsClosed) (fuel : Nat) :
    (expression context fuel).PassesInert := by
  induction fuel with
  | zero =>
      intro machine value finish done
      exact absurd done exhausted_ne_done
  | succ fuel inductionHypothesis =>
      exact expressionOf_passesInert closed fuel
        (primary_passesInert inductionHypothesis closed fuel)

/-! ## Evaluating a body and skipping it -/

/-- If the body of a block is evaluated up to one of its stops, then skipping from the same place
finds that stop there too. -/
theorem skip_reaches_the_stop_of_block
    (host : Host σ) (preferences : EvaluationPreferences) (tokens : List Token)
    (opener : TokenKind) {stops : List TokenKind}
    (areStops : stops = [.elseWord, .endWord] ∨ stops = [.endWord])
    (nestedFuel fuel : Nat) {machine finish : Machine σ} {kind : TokenKind}
    (done :
      block (contextOf host preferences tokens) opener stops
        (expression (contextOf host preferences tokens) nestedFuel) fuel machine =
        .done kind finish) :
    TokenStream.skip ⟨tokens, machine.remaining⟩ stops =
      (some kind, ⟨tokens, finish.remaining⟩) := by
  have closed := contextOf_isClosed host preferences tokens
  have blockEnd : IsBlockEnd stops := by
    rcases areStops with rfl | rfl
    · exact isBlockEnd_elseWord_endWord
    · exact isBlockEnd_endWord
  have skipped :=
    skipBlock_eq_of_block (expression_passesInert closed nestedFuel) closed blockEnd done
  unfold TokenStream.skip
  rw [skipped]

/-- The tokens of `if true "a" else "b" end while false "c" end else "d" end`, the rest of an `if`
whose first branch holds an `if` with two branches and a loop. -/
def nestedBodyTokens : List Token :=
  [⟨.ifWord, "if", 0⟩, ⟨.bool, "true", 3⟩, ⟨.string, "a", 8⟩, ⟨.elseWord, "else", 12⟩,
    ⟨.string, "b", 17⟩, ⟨.endWord, "end", 21⟩, ⟨.whileWord, "while", 25⟩,
    ⟨.bool, "false", 31⟩, ⟨.string, "c", 37⟩, ⟨.endWord, "end", 41⟩, ⟨.elseWord, "else", 45⟩,
    ⟨.string, "d", 50⟩, ⟨.endWord, "end", 54⟩, ⟨.endOfInput, "", 57⟩]

theorem skip_reaches_the_stop_of_nestedBody :
    block (contextOf seededHost {} nestedBodyTokens) .ifWord [.elseWord, .endWord]
        (expression (contextOf seededHost {} nestedBodyTokens) 4) 4
        (initialMachine nestedBodyTokens .empty (.seeded 0)) =
      .done .elseWord
        { initialMachine (nestedBodyTokens.drop 10) .empty (.seeded 0) with
          notes := [(0, .loopFinished 0 25)] } ∧
    TokenStream.skip ⟨nestedBodyTokens, nestedBodyTokens⟩ [.elseWord, .endWord] =
      (some .elseWord, ⟨nestedBodyTokens, nestedBodyTokens.drop 10⟩) := by
  have evaluated :
      block (contextOf seededHost {} nestedBodyTokens) .ifWord [.elseWord, .endWord]
          (expression (contextOf seededHost {} nestedBodyTokens) 4) 4
          (initialMachine nestedBodyTokens .empty (.seeded 0)) =
        .done .elseWord
          { initialMachine (nestedBodyTokens.drop 10) .empty (.seeded 0) with
            notes := [(0, .loopFinished 0 25)] } := by
    cbv
  exact ⟨evaluated,
    skip_reaches_the_stop_of_block seededHost {} nestedBodyTokens .ifWord (.inl rfl)
      4 4 evaluated⟩

end Evaluation

end PugScript
