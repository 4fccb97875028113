import PugScript.Proofs.Evaluation.Depth
import PugScript.Proofs.Evaluation.Untaken

/-!
# A repeated `else`

An `if` has one `else` at most, but not every further one is noticed. A branch that is evaluated
ends at the first `else`, or refuses it where only `end` may stand; skipping to the `end` passes
over every `else` on the way. So a repeated `else` is refused if the condition does not hold, and
passed over if it does.
-/

namespace PugScript

variable {σ : Type}

/-! ## Skipping over `else` -/

/-- The tokens of some branches, each of them behind its `else`. -/
def elseTokens : List (Token × List Token) → List Token
  | [] => []
  | (divider, branch) :: others => divider :: (branch ++ elseTokens others)

/-- An `else` and the inert tokens of the branch behind it. -/
def IsElsePart (part : Token × List Token) : Prop :=
  part.1.kind = .elseWord ∧ Inert part.2

instance (part : Token × List Token) : Decidable (IsElsePart part) :=
  inferInstanceAs (Decidable (_ ∧ _))

/-- Where only `end` stops, an `else` does not. -/
theorem skipBlock_endWord_of_elseWord
    {divider : Token} (divides : divider.kind = .elseWord) (tokens : List Token) :
    skipBlock [.endWord] 0 (divider :: tokens) = skipBlock [.endWord] 0 tokens := by
  simp [skipBlock, divides, TokenKind.opensBlock]

/-- Looking for an `end` alone, one passes over every further `else` with its branch. -/
theorem skipBlock_endWord_of_elseTokens
    {parts : List (Token × List Token)} (areParts : ∀ part ∈ parts, IsElsePart part)
    (tokens : List Token) :
    skipBlock [.endWord] 0 (elseTokens parts ++ tokens) = skipBlock [.endWord] 0 tokens := by
  induction parts with
  | nil => rfl
  | cons part others inductionHypothesis =>
      obtain ⟨⟨divides, inert⟩, areOthers⟩ := List.forall_mem_cons.mp areParts
      rw [elseTokens, List.cons_append, skipBlock_endWord_of_elseWord divides, List.append_assoc,
        skipBlock_append isBlockEnd_endWord inert]
      exact inductionHypothesis areOthers

namespace Evaluation

open Eval

variable {context : Context σ}

/-! ## Evaluating up to `else` -/

/-- No expression starts with `else`. -/
theorem expression_of_elseWord
    (context : Context σ) (fuel : Nat) {machine : Machine σ} {divider : Token}
    (front : context.front machine.remaining = divider) (divides : divider.kind = .elseWord)
    (room : machine.depth < Limits.maxParseDepth) :
    expression context (fuel + 2) machine =
      .failed ⟨.unexpectedPrimary .elseWord divider.offset, divider⟩ machine := by
  have primaryFails : nested (primary context (expression context (fuel + 1)) (fuel + 1)) machine =
      .failed ⟨.unexpectedPrimary .elseWord divider.offset, divider⟩ machine := by
    rw [nested_apply, primary, bind_current, Machine.deeper_remaining, front, divides]
    rfl
  have notSign : ¬ (divider.kind = .plus ∨ divider.kind = .minus) := by
    rw [divides]
    decide
  have signedFails :
      signed context (primary context (expression context (fuel + 1)) (fuel + 1)) (fuel + 1)
        machine = .failed ⟨.unexpectedPrimary .elseWord divider.offset, divider⟩ machine := by
    rw [signed, bind_current, bind_currentDepth, front, if_neg (Nat.not_le.mpr room),
      if_neg notSign]
    exact primaryFails
  rw [expression, expressionOf]
  iterate 5 refine bind_of_failed ?_
  exact signedFails

/-- A branch that ends at `else` would go on with it where only `end` may stand. -/
theorem exists_block_of_elseWord
    {expression : Eval σ Value} {fuel : Nat} {machine reached : Machine σ}
    (done : block context .ifWord [.elseWord, .endWord] expression fuel machine =
      .done .elseWord reached) :
    ∃ left,
      block context .ifWord [.endWord] expression fuel machine =
        block context .ifWord [.endWord] expression (left + 1) reached := by
  induction fuel generalizing machine with
  | zero => exact absurd done exhausted_ne_done
  | succ fuel inductionHypothesis =>
      rcases block_succ_eq_done_iff.mp done with
        ⟨_, _, rfl⟩ | ⟨notStop, notEnd, _, value, middle, statementDone, restDone⟩
      · exact ⟨fuel, rfl⟩
      · obtain ⟨left, goesOn⟩ := inductionHypothesis restDone
        refine ⟨left, ?_⟩
        have notClosing : (context.front machine.remaining).kind ∉ [TokenKind.endWord] :=
          fun closes => notStop (List.mem_cons_of_mem _ closes)
        have notMisplaced : ¬ ((context.front machine.remaining).kind = .elseWord ∧
            TokenKind.ifWord = .whileWord) := fun misplaced => by cases misplaced.2
        rw [← goesOn, block, bind_current, ite_step, if_neg notClosing, ite_step, if_neg notEnd,
          ite_step, if_neg notMisplaced, bind_of_done statementDone]

/-- Whatever succeeds has had fuel for a primary. -/
theorem exists_fuel_of_done
    {fuel : Nat} {machine finish : Machine σ} {value : Value}
    (done : expression context fuel machine = .done value finish) :
    ∃ spare, fuel = spare + 2 := by
  cases fuel with
  | zero => exact absurd done exhausted_ne_done
  | succ fuel =>
      obtain ⟨operand, middle, signedDone⟩ := exists_signed_of_expressionOf done
      cases fuel with
      | zero => exact absurd signedDone exhausted_ne_done
      | succ spare => exact ⟨spare, rfl⟩

/-- A branch that has come to an `else` fails there where only `end` may stand. -/
theorem block_fails_at_elseWord
    (closed : context.IsClosed) {spare fuel : Nat} {machine reached : Machine σ}
    (room : machine.depth < Limits.maxParseDepth)
    {inside rest : List Token} (inert : Inert inside) {divider : Token}
    (divides : divider.kind = .elseWord) (cursor : machine.remaining = inside ++ divider :: rest)
    (done : block context .ifWord [.elseWord, .endWord] (expression context (spare + 2)) fuel
      machine = .done .elseWord reached) :
    block context .ifWord [.endWord] (expression context (spare + 2)) fuel machine =
      .failed ⟨.unexpectedPrimary .elseWord divider.offset, divider⟩ reached := by
  have stops : divider.kind ∈ [TokenKind.elseWord, .endWord] := by simp [divides]
  obtain ⟨_, arrived⟩ := block_stops_at closed isBlockEnd_elseWord_endWord (Passed.refl machine)
    done inert stops cursor
  have front : context.front reached.remaining = divider := by rw [arrived, Context.front_cons]
  obtain ⟨passed, _⟩ := passed_of_block (expression_passesInert closed (spare + 2)) closed
    isBlockEnd_elseWord_endWord done
  have fails := expression_of_elseWord context spare front divides (passed.depth_eq ▸ room)
  obtain ⟨left, goesOn⟩ := exists_block_of_elseWord done
  rw [goesOn, block, bind_current, front, divides, if_neg (by decide), if_neg (by decide),
    if_neg (by decide)]
  exact bind_of_failed fails

/-- Where only `end` may stand, a branch does not come past an `else`. -/
theorem block_ne_done_of_elseWord
    (closed : context.IsClosed) {nested fuel : Nat} {machine : Machine σ}
    {inside rest : List Token} (inert : Inert inside) {divider : Token}
    (divides : divider.kind = .elseWord) (cursor : machine.remaining = inside ++ divider :: rest)
    (kind : TokenKind) (finish : Machine σ) :
    block context .ifWord [.endWord] (expression context nested) fuel machine ≠
      .done kind finish := by
  intro done
  obtain ⟨⟨_, passed, split, passedInert⟩, closing, following, front, rfl, closes⟩ :=
    passed_of_block (expression_passesInert closed nested) closed isBlockEnd_endWord done
  have toElse := inert.skipBlock_append_stop isBlockEnd_elseWord_endWord
    (show divider.kind ∈ [TokenKind.elseWord, .endWord] by simp [divides]) rest
  have toEnd := passedInert.skipBlock_append_stop isBlockEnd_elseWord_endWord
    (List.mem_cons_of_mem _ closes) following
  rw [← front, ← split, cursor, toElse] at toEnd
  have sameKind : divider.kind = closing.kind := Option.some.inj (Prod.mk.inj toEnd).1
  rw [divides, List.mem_singleton.mp closes] at sameKind
  cases sameKind

/-! ## The branches of an `if` -/

/-- The tokens behind the condition of an `if` that has two `else` or more on its own level: the
branches between them, its `end`, and the tokens behind. -/
structure RepeatedElse where
  first : List Token
  divider : Token
  second : List Token
  again : Token
  third : List Token
  others : List (Token × List Token)
  closing : Token
  rest : List Token
  firstInert : Inert first
  divides : divider.kind = .elseWord
  secondInert : Inert second
  dividesAgain : again.kind = .elseWord
  thirdInert : Inert third
  areOthers : ∀ part ∈ others, IsElsePart part
  closes : closing.kind = .endWord

namespace RepeatedElse

variable (body : RepeatedElse)

def afterSecond : List Token :=
  body.third ++ (elseTokens body.others ++ body.closing :: body.rest)

def afterFirst : List Token :=
  body.second ++ body.again :: body.afterSecond

def tokens : List Token :=
  body.first ++ body.divider :: body.afterFirst

/-- Looking for an `else` or an `end`, one finds the first `else`. -/
theorem skipBlock_first :
    skipBlock [.elseWord, .endWord] 0 body.tokens =
      (some .elseWord, body.divider :: body.afterFirst) := by
  have found := body.firstInert.skipBlock_append_stop isBlockEnd_elseWord_endWord
    (show body.divider.kind ∈ [TokenKind.elseWord, .endWord] by simp [body.divides])
    body.afterFirst
  rw [body.divides] at found
  exact found

/-- From behind the first `else`, skipping passes over all the others. -/
theorem skipBlock_afterFirst :
    skipBlock [.endWord] 0 body.afterFirst = (some .endWord, body.closing :: body.rest) := by
  have stops := skipBlock_stop isBlockEnd_endWord
    (List.mem_singleton.mpr body.closes) body.rest
  rw [body.closes] at stops
  rw [afterFirst, skipBlock_append isBlockEnd_endWord body.secondInert,
    skipBlock_endWord_of_elseWord body.dividesAgain, afterSecond,
    skipBlock_append isBlockEnd_endWord body.thirdInert,
    skipBlock_endWord_of_elseTokens body.areOthers]
  exact stops

variable {body} {fuel : Nat} {decided : Machine σ} (cursor : decided.remaining = body.tokens)

include cursor

/-- If the condition holds, all that matters is that the first branch comes to its end. -/
theorem branches_true_eq_done_iff
    (closed : context.IsClosed) {finish : Machine σ} :
    branches context true (expression context fuel) fuel decided = .done () finish ↔
      ∃ reached,
        block context .ifWord [.elseWord, .endWord] (expression context fuel) fuel decided =
          .done .elseWord reached ∧
        finish = reached.facing (body.closing :: body.rest) := by
  have stops : body.divider.kind ∈ [TokenKind.elseWord, .endWord] := by simp [body.divides]
  have stopsAt {kind : TokenKind} {reached : Machine σ}
      (done : block context .ifWord [.elseWord, .endWord] (expression context fuel) fuel decided =
        .done kind reached) :
      kind = .elseWord ∧ reached.remaining = body.divider :: body.afterFirst := by
    obtain ⟨rfl, front⟩ := block_stops_at closed isBlockEnd_elseWord_endWord (Passed.refl decided)
      done body.firstInert stops cursor
    exact ⟨body.divides, front⟩
  rw [Evaluation.branches_true_eq_done_iff]
  constructor
  · rintro ⟨kind, reached, done, outcome⟩
    obtain ⟨rfl, front⟩ := stopsAt done
    obtain ⟨divided, _⟩ | ⟨_, closingKind, rest, skipped, rfl⟩ := outcome
    · exact absurd rfl divided
    · rw [front, List.tail_cons, body.skipBlock_afterFirst] at skipped
      cases skipped
      exact ⟨reached, done, rfl⟩
  · rintro ⟨reached, done, rfl⟩
    obtain ⟨_, front⟩ := stopsAt done
    refine ⟨.elseWord, reached, done, .inr ⟨rfl, .endWord, body.closing :: body.rest, ?_, rfl⟩⟩
    rw [front]
    exact body.skipBlock_afterFirst

/-- If the condition does not hold, the branch behind the first `else` is evaluated up to `end`. -/
theorem branches_false_eq :
    branches context false (expression context fuel) fuel decided =
      (block context .ifWord [.endWord] (expression context fuel) fuel >>= fun _ => pure ())
        (decided.facing body.afterFirst) := by
  have skips : skipTo context .ifWord [.elseWord, .endWord] decided =
      .done .elseWord (decided.facing (body.divider :: body.afterFirst)) := by
    refine skipTo_eq_done_iff.mpr ⟨_, ?_, rfl⟩
    rw [cursor]
    exact body.skipBlock_first
  unfold branches
  rw [ite_step, if_neg Bool.false_ne_true, bind_of_done skips, ite_step, if_pos rfl, bind_advance]
  rfl

end RepeatedElse

/-- A repeated `else` is refused only if the condition does not hold. If it holds, the `if` succeeds
whenever the first branch comes to its end, whatever stands behind the first `else`. If it does not
hold, the `if` never succeeds; and once the branch behind the first `else` has come to its end, the
`if` fails at the second. -/
theorem repeated_else_is_refused_only_if_untrue
    {context : Context σ} (closed : context.IsClosed) (body : RepeatedElse) (keyword : Token)
    {fuel : Nat} {machine decided : Machine σ} {tokens : List Token} {truth : Bool}
    (tested : condition context (expression context fuel) (machine.facing tokens) =
      .done truth decided)
    (cursor : decided.remaining = body.tokens) :
    (truth = true → ∀ value finish,
      ifBlock context (expression context fuel) fuel (machine.facing (keyword :: tokens)) =
          .done value finish ↔
        value = .bool true ∧
        ∃ reached,
          block context .ifWord [.elseWord, .endWord] (expression context fuel) fuel decided =
            .done .elseWord reached ∧
          finish = reached.facing body.rest) ∧
    (truth = false →
      (∀ value finish,
        ifBlock context (expression context fuel) fuel (machine.facing (keyword :: tokens)) ≠
          .done value finish) ∧
      ∀ reached,
        block context .ifWord [.elseWord, .endWord] (expression context fuel) fuel
            (decided.facing body.afterFirst) = .done .elseWord reached →
        ifBlock context (expression context fuel) fuel (machine.facing (keyword :: tokens)) =
          .failed ⟨.unexpectedPrimary .elseWord body.again.offset, body.again⟩ reached) := by
  constructor
  · rintro rfl value finish
    rw [ifBlock_eq_done_iff closed rfl]
    constructor
    · rintro ⟨truth, middle, last, closing, after, testedAgain, done, front, _, rfl, rfl⟩
      cases tested.symm.trans testedAgain
      obtain ⟨reached, blockDone, rfl⟩ := (body.branches_true_eq_done_iff cursor closed).mp done
      cases front
      exact ⟨rfl, reached, blockDone, rfl⟩
    · rintro ⟨rfl, reached, blockDone, rfl⟩
      exact ⟨true, decided, reached.facing (body.closing :: body.rest), body.closing, body.rest,
        tested, (body.branches_true_eq_done_iff cursor closed).mpr ⟨reached, blockDone, rfl⟩, rfl,
        body.closes, rfl, rfl⟩
  · rintro rfl
    rw [ifBlock_of_condition keyword tested]
    constructor
    · intro value finish done
      obtain ⟨_, middle, branchesDone, _⟩ := bind_eq_done_iff.mp done
      rw [body.branches_false_eq cursor] at branchesDone
      obtain ⟨kind, _, blockDone, _⟩ := bind_eq_done_iff.mp branchesDone
      exact block_ne_done_of_elseWord closed body.secondInert body.dividesAgain rfl _ _ blockDone
    · intro reached secondDone
      obtain ⟨value, valueDone, _⟩ := condition_eq_done_iff.mp tested
      obtain ⟨spare, rfl⟩ := exists_fuel_of_done valueDone
      have room : (decided.facing body.afterFirst).depth < Limits.maxParseDepth := by
        have passed := expression_passesInert closed _ _ _ _ valueDone
        have limited := depth_lt_of_done closed valueDone
        rw [← passed.depth_eq] at limited
        exact limited
      have blockFails := block_fails_at_elseWord closed room body.secondInert body.dividesAgain rfl
        secondDone
      refine bind_of_failed ?_
      rw [body.branches_false_eq cursor]
      exact bind_of_failed blockFails

/-- The tokens `"a" else "b" else "c" end`. -/
def threeBranches : RepeatedElse where
  first := [⟨.string, "a", 8⟩]
  divider := ⟨.elseWord, "else", 12⟩
  second := [⟨.string, "b", 17⟩]
  again := ⟨.elseWord, "else", 21⟩
  third := [⟨.string, "c", 26⟩]
  others := []
  closing := ⟨.endWord, "end", 30⟩
  rest := []
  firstInert := by decide
  divides := rfl
  secondInert := by decide
  dividesAgain := rfl
  thirdInert := by decide
  areOthers := by decide
  closes := rfl

/-- An `if` with a literal as its condition and three branches. -/
def branchedTokens (literal : Token) : List Token :=
  ⟨.ifWord, "if", 0⟩ :: literal :: threeBranches.tokens

/-- The machine of a run inside its first primary. -/
def innerMachine (tokens : List Token) : Machine (MemoryHost Nat) :=
  (initialMachine tokens .empty (.seeded 0)).deeper

/-- Behind `if true` the second `else` is passed over, behind `if false` it is refused. -/
theorem repeated_else_of_threeBranches :
    let holding := branchedTokens ⟨.bool, "true", 3⟩
    let failing := branchedTokens ⟨.bool, "false", 3⟩
    let context := contextOf seededHost {} holding
    let otherContext := contextOf seededHost {} failing
    ifBlock context (expression context 3) 3 (innerMachine holding) =
      .done (.bool true) (innerMachine []) ∧
    ifBlock otherContext (expression otherContext 3) 3 (innerMachine failing) =
      .failed ⟨.unexpectedPrimary .elseWord 21, threeBranches.again⟩
        (innerMachine (threeBranches.again :: threeBranches.afterSecond)) := by
  intro holding failing context otherContext
  have holds : condition context (expression context 3)
      ((innerMachine []).facing holding.tail) =
        .done true (innerMachine threeBranches.tokens) := by
    cbv
  have fails : condition otherContext (expression otherContext 3)
      ((innerMachine []).facing failing.tail) =
        .done false (innerMachine threeBranches.tokens) := by
    cbv
  have firstDone : block context .ifWord [.elseWord, .endWord] (expression context 3) 3
      (innerMachine threeBranches.tokens) =
        .done .elseWord (innerMachine (threeBranches.divider :: threeBranches.afterFirst)) := by
    cbv
  have secondDone : block otherContext .ifWord [.elseWord, .endWord] (expression otherContext 3) 3
      (innerMachine threeBranches.afterFirst) =
        .done .elseWord (innerMachine (threeBranches.again :: threeBranches.afterSecond)) := by
    cbv
  obtain ⟨passes, _⟩ := repeated_else_is_refused_only_if_untrue
    (contextOf_isClosed seededHost {} holding) threeBranches
    ⟨.ifWord, "if", 0⟩ holds rfl
  obtain ⟨_, refuses⟩ := repeated_else_is_refused_only_if_untrue
    (contextOf_isClosed seededHost {} failing) threeBranches
    ⟨.ifWord, "if", 0⟩ fails rfl
  exact ⟨(passes rfl _ _).mpr ⟨rfl, _, firstDone, rfl⟩, (refuses rfl).2 _ secondDone⟩

/-- With a second `else` an `if` succeeds if its condition holds, but not if it does not. -/
theorem repeated_else_is_passed_over :
    evaluate 8 seededHost {} (branchedTokens ⟨.bool, "true", 3⟩) .empty (.seeded 0) =
      some { result := .ok [.bool true], bindings := .empty, world := .seeded 0, notes := [] } ∧
    evaluate 8 seededHost {} (branchedTokens ⟨.bool, "false", 3⟩) .empty (.seeded 0) =
      some
        { result :=
            .error
              { fault := .unexpectedPrimary .elseWord 21
                token := threeBranches.again
                tokens := branchedTokens ⟨.bool, "false", 3⟩
                bindings := .empty
                values := [] }
          bindings := .empty
          world := .seeded 0
          notes := [] } := by
  constructor
  · cbv
  · cbv

end Evaluation

end PugScript
