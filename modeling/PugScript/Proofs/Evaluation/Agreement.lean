import PugScript.Proofs.Evaluation.Simulation

/-!
# Simulated constructs

Construct by construct: if the nested expressions of a construct agree in a simulation, then so does
the construct. The body of a block is run one level further down, and the level is the same again
behind its end. Where the left run is at an overhang, every construct either ends there with what
it has or fails.
-/

namespace PugScript

/-! ## Faults without a place -/

/-- The errors of values know of no place. -/
theorem EvaluationFault.isPlaceless_of_mapError_value
    {α : Type} {computation : Except ValueError α} {fault : EvaluationFault}
    (failed : computation.mapError EvaluationFault.value = .error fault) :
    fault.IsPlaceless := by
  cases computation with
  | ok result => cases failed
  | error error =>
      cases failed
      trivial

theorem applySign_isPlaceless
    {sign : TokenKind} {operand : Value} {fault : EvaluationFault}
    (failed : applySign sign operand = .error fault) :
    fault.IsPlaceless := by
  unfold applySign at failed
  split at failed
  · cases failed
    trivial
  · cases failed
  · split at failed
    · cases failed
      trivial
    · split at failed <;> split at failed <;> cases failed

theorem doubleOperation_isPlaceless
    {operator : TokenKind} {left right : Float} {fault : EvaluationFault}
    (failed : doubleOperation operator left right = .error fault) :
    fault.IsPlaceless := by
  unfold doubleOperation at failed
  split at failed <;> cases failed
  trivial

theorem repeatString_isPlaceless
    {content : String} {count : Int64} {fault : EvaluationFault}
    (failed : repeatString content count = .error fault) :
    fault.IsPlaceless := by
  simp only [repeatString] at failed
  split at failed <;> cases failed
  trivial

theorem stringOperation_isPlaceless
    {operator : TokenKind} {left right : Value} {fault : EvaluationFault}
    (failed : stringOperation operator left right = .error fault) :
    fault.IsPlaceless := by
  unfold stringOperation at failed
  split at failed
  · exact EvaluationFault.isPlaceless_of_mapError_value failed
  · split at failed <;> exact EvaluationFault.isPlaceless_of_mapError_value failed
  · split at failed <;> split at failed
    · cases failed
      trivial
    · exact repeatString_isPlaceless failed
    · cases failed
      trivial
    · exact repeatString_isPlaceless failed
  · cases failed
    trivial

theorem arithmetic_isPlaceless
    {operator : TokenKind} {left right : Value} {fault : EvaluationFault}
    (failed : arithmetic operator left right = .error fault) :
    fault.IsPlaceless := by
  unfold arithmetic at failed
  split at failed
  · cases failed
    trivial
  · split at failed
    · exact stringOperation_isPlaceless failed
    · split at failed
      iterate 4 exact doubleOperation_isPlaceless failed
      cases failed
      trivial

theorem comparison_isPlaceless
    {operator : TokenKind} {left right : Value} {fault : EvaluationFault}
    (failed : comparison operator left right = .error fault) :
    fault.IsPlaceless := by
  unfold comparison at failed
  split at failed
  · cases failed
    trivial
  · simp only at failed
    split at failed
    iterate 6 exact EvaluationFault.isPlaceless_of_mapError_value failed
    cases failed
    trivial

theorem logic_isPlaceless
    {operator : TokenKind} {left right : Value} {fault : EvaluationFault}
    (failed : logic operator left right = .error fault) :
    fault.IsPlaceless := by
  unfold logic at failed
  split at failed
  · split at failed <;> cases failed
    trivial
  · cases failed
    trivial

/-- No operator complains about a place in the source. -/
theorem Tier.combine_isPlaceless
    {tier : Tier} {operator : TokenKind} {left right : Value} {fault : EvaluationFault}
    (failed : tier.combine operator left right = .error fault) :
    fault.IsPlaceless := by
  cases tier with
  | disjunction => exact logic_isPlaceless failed
  | conjunction => exact logic_isPlaceless failed
  | comparison => exact comparison_isPlaceless failed
  | additive => exact arithmetic_isPlaceless failed
  | multiplicative => exact arithmetic_isPlaceless failed

namespace Evaluation

open Eval Simulation

variable {σ τ : Type} {simulation : Simulation σ τ} {level : Nat}

/-! ## Operators -/

/-- The operators that follow an operand are applied alike. The token at the cursor decides whether
there is one more, and an overhang decides as the end of the input does. -/
theorem applyTier_simulates
    (tier : Tier) {operand : Eval σ Value} {operand' : Eval τ Value}
    (operands : simulation.Simulates operand operand')
    {fuel fuel' : Nat} (enough : simulation.Enough fuel fuel') (left : Value) :
    simulation.Simulates (applyTier simulation.left tier operand fuel left)
      (applyTier simulation.right tier operand' fuel' left) := by
  induction fuel generalizing fuel' left with
  | zero => exact fun _ _ _ _ => Agree.exhausted enough (by rintro rfl; rfl)
  | succ fuel inductionHypothesis =>
      obtain ⟨fuel', rfl, enoughRest⟩ := enough.exists_succ
      intro level machine machine' alike
      have accepts_iff := alike.kind_iff (fun kind => tier.accepts kind = true)
        (fun accepted => (isPlain_of_accepts accepted).1 rfl)
        (fun _ accepted => .inr ⟨tier, accepted⟩)
      rw [applyTier, applyTier, bind_current, bind_current]
      refine Agree.ite accepts_iff (fun accepted => ?_) (fun _ => Agree.pure alike left)
      have plain := isPlain_of_accepts accepted
      have same := alike.same_front plain.1
      rw [bind_advance, bind_advance, ← simulation.kind_eq _ _ same]
      refine Agree.bind (operands _ _ _ (alike.advance plain)) ?_
      rintro right reached _ reached' ⟨rfl, alikeReached⟩
      refine Agree.bind (Agree.ofExcept alikeReached same fun _ => tier.combine_isPlaceless) ?_
      rintro result finish _ finish' ⟨rfl, alikeFinish⟩
      exact inductionHypothesis enoughRest result _ _ _ alikeFinish

theorem tierOf_simulates
    (tier : Tier) {fuel fuel' : Nat} (enough : simulation.Enough fuel fuel')
    {operand : Eval σ Value} {operand' : Eval τ Value}
    (operands : simulation.Simulates operand operand') :
    simulation.Simulates (tierOf simulation.left tier fuel operand)
      (tierOf simulation.right tier fuel' operand') := by
  intro level machine machine' alike
  refine Agree.bind (operands _ _ _ alike) ?_
  rintro left reached _ reached' ⟨rfl, alikeReached⟩
  exact applyTier_simulates tier operands enough left _ _ _ alikeReached

theorem continuesExpression_of_isSign
    {kind : TokenKind} (isSign : IsSign kind) : kind.ContinuesExpression := by
  rcases isSign with rfl | rfl
  · exact .inr ⟨.additive, rfl⟩
  · exact .inr ⟨.additive, rfl⟩

/-- Signs are applied alike, and nesting that is too deep ends both runs or cuts the right one
short. -/
theorem signed_simulates
    {primary : Eval σ Value} {primary' : Eval τ Value}
    (primaries : simulation.Simulates primary primary')
    {fuel fuel' : Nat} (enough : simulation.Enough fuel fuel') :
    simulation.Simulates (signed simulation.left primary fuel)
      (signed simulation.right primary' fuel') := by
  induction fuel generalizing fuel' with
  | zero => exact fun _ _ _ _ => Agree.exhausted enough (by rintro rfl; rfl)
  | succ fuel inductionHypothesis =>
      obtain ⟨fuel', rfl, enoughRest⟩ := enough.exists_succ
      intro level machine machine' alike
      rw [signed, signed, bind_current, bind_current, bind_currentDepth, bind_currentDepth]
      refine Agree.unlessTooDeep alike fun reached' alikeHere room room' here => ?_
      have deeper := alikeHere.deeper room room'
      have isSign_iff := alike.kind_iff IsSign (by decide)
        (fun _ => continuesExpression_of_isSign)
      refine Agree.ite isSign_iff (fun isSign => Agree.nested ?_)
        (fun _ => Agree.nested (primaries _ _ _ deeper))
      have plain := isPlain_of_isSign isSign
      have same := alike.same_front plain.1
      rw [bind_advance, bind_advance, ← simulation.kind_eq _ _ same]
      refine Agree.bind (inductionHypothesis enoughRest _ _ _ (deeper.advance plain)) ?_
      rintro operand finish _ finish' ⟨rfl, alikeFinish⟩
      exact Agree.ofExcept alikeFinish same fun _ => applySign_isPlaceless

theorem expressionOf_simulates
    {fuel fuel' : Nat} (enough : simulation.Enough fuel fuel')
    {primary : Eval σ Value} {primary' : Eval τ Value}
    (primaries : simulation.Simulates primary primary') :
    simulation.Simulates (expressionOf simulation.left fuel primary)
      (expressionOf simulation.right fuel' primary') := by
  unfold expressionOf
  iterate 5 apply tierOf_simulates _ enough
  exact signed_simulates primaries enough

/-! ## Names and calls -/

section Nested

variable {expression : Eval σ Value} {expression' : Eval τ Value}
  (expressions : simulation.Simulates expression expression')
  {machine : Machine σ} {machine' : Machine τ} (alike : simulation.Alike level machine machine')

include expressions alike

theorem declaration_agree (plain : (simulation.left.front machine.remaining).kind.IsPlain) :
    simulation.Agree machine.world (simulation.SameResult level)
      (declaration simulation.left expression machine)
      (declaration simulation.right expression' machine') := by
  have same := alike.same_front plain.1
  have passed := alike.advance plain
  unfold declaration
  rw [bind_current, bind_current, bind_advance, bind_advance, ← simulation.text_eq _ _ same]
  cases DataType.ofName? (simulation.left.front machine.remaining).text with
  | none => exact Agree.fail passed same trivial
  | some dataType =>
      change simulation.Agree machine.world (simulation.SameResult level)
        ((peek simulation.left >>= _) _) ((peek simulation.right >>= _) _)
      rw [bind_peek, bind_peek]
      refine Agree.bind (Agree.expect passed (by decide)) ?_
      rintro name reached name' reached' ⟨sameName, alikeReached, behind, behind'⟩
      rw [← behind, ← behind', bind_declareVariable, bind_declareVariable,
        ← simulation.text_eq _ _ sameName]
      have declared := alikeReached.declare name.text (Value.initial dataType)
      refine Agree.ite alikeReached.assign_iff (fun _ => ?_)
        (fun _ => Agree.pure declared Value.none)
      refine Agree.bind (Agree.expect declared (by decide)) ?_
      rintro _ start _ start' ⟨_, alikeStart, _, _⟩
      refine Agree.bind (expressions _ _ _ alikeStart) ?_
      rintro value finish _ finish' ⟨rfl, alikeFinish⟩
      cases value.cast dataType with
      | error error => exact Agree.failHere alikeFinish trivial
      | ok value => exact Agree.pure (alikeFinish.declare name.text value) value

theorem identifier_agree (plain : (simulation.left.front machine.remaining).kind.IsPlain) :
    simulation.Agree machine.world (simulation.SameResult level)
      (identifier simulation.left expression machine)
      (identifier simulation.right expression' machine') := by
  have same := alike.same_front plain.1
  have passed := alike.advance plain
  unfold identifier
  rw [bind_current, bind_current, bind_advance, bind_advance, bind_current, bind_current,
    ← simulation.text_eq _ _ same]
  refine Agree.ite passed.assign_iff (fun isAssign => ?_) (fun _ => ?_)
  · rw [bind_advance, bind_advance]
    have start := passed.advance (by rw [isAssign]; decide)
    refine Agree.bind (expressions _ _ _ start) ?_
    rintro value finish _ finish' ⟨rfl, alikeFinish⟩
    refine Agree.bind (Agree.assignVariable alikeFinish _ value) ?_
    rintro known reached _ reached' ⟨rfl, alikeReached⟩
    exact Agree.ite Iff.rfl (fun _ => Agree.pure alikeReached value)
      (fun _ => Agree.fail alikeReached same trivial)
  · rw [bind_getVariable?, bind_getVariable?, ← passed.bindings]
    cases (machine.facing machine.remaining.tail).bindings.get?
        (simulation.left.front machine.remaining).text with
    | none => exact Agree.fail passed same trivial
    | some value => exact Agree.pure passed value

/-- The further arguments and what follows them. At an overhang the left list of arguments ends
where the right one may go on; what follows then fails on the left. -/
theorem moreArguments_agree
    {function function' : Token} (sameFunction : simulation.same function function')
    {next : List Value → Eval σ Value} {next' : List Value → Eval τ Value}
    (nexts : ∀ values, simulation.Simulates (next values) (next' values))
    (atEnd : ∀ values machine, (simulation.left.front machine.remaining).kind = .endOfInput →
      ∀ result finish, next values machine ≠ .done result finish)
    {fuel fuel' : Nat} (enough : simulation.Enough fuel fuel') (arguments : List Value) :
    simulation.Agree machine.world (simulation.SameResult level)
      ((moreArguments simulation.left function expression fuel arguments >>= next) machine)
      ((moreArguments simulation.right function' expression' fuel' arguments >>= next')
        machine') := by
  induction fuel generalizing fuel' arguments level machine machine' with
  | zero => exact Agree.exhausted enough (by rintro rfl; rfl)
  | succ fuel inductionHypothesis =>
      obtain ⟨fuel', rfl, enoughRest⟩ := enough.exists_succ
      rw [moreArguments, moreArguments, bind_bind, bind_bind, bind_current, bind_current, ite_bind,
        ite_bind]
      rcases alike.front with same | overhangs
      · rw [← simulation.kind_eq _ _ same]
        refine Agree.ite Iff.rfl (fun isComma => ?_) (fun _ => nexts _ _ _ _ alike)
        have passed := alike.advance (by rw [isComma]; decide)
        rw [bind_bind, bind_bind, bind_advance, bind_advance, ite_bind, ite_bind,
          ← simulation.text_eq _ _ sameFunction]
        refine Agree.ite Iff.rfl (fun _ => Agree.fail passed sameFunction trivial) (fun _ => ?_)
        rw [bind_bind, bind_bind]
        refine Agree.bind (expressions _ _ _ passed) ?_
        rintro argument reached _ reached' ⟨rfl, alikeReached⟩
        exact inductionHypothesis alikeReached enoughRest (argument :: arguments)
      · have isEnd := simulation.overhang_left _ _ overhangs
        rw [if_neg (by rw [isEnd]; decide)]
        exact Agree.of_not_done overhangs (atEnd arguments.reverse machine isEnd)

theorem arguments_agree
    {function function' : Token} (sameFunction : simulation.same function function')
    (expressionAtEnd : ∀ machine, (simulation.left.front machine.remaining).kind = .endOfInput →
      ∀ result finish, expression machine ≠ .done result finish)
    {next : List Value → Eval σ Value} {next' : List Value → Eval τ Value}
    (nexts : ∀ values, simulation.Simulates (next values) (next' values))
    (atEnd : ∀ values machine, (simulation.left.front machine.remaining).kind = .endOfInput →
      ∀ result finish, next values machine ≠ .done result finish)
    {fuel fuel' : Nat} (enough : simulation.Enough fuel fuel') :
    simulation.Agree machine.world (simulation.SameResult level)
      ((arguments simulation.left function expression fuel >>= next) machine)
      ((arguments simulation.right function' expression' fuel' >>= next') machine') := by
  unfold arguments
  rw [bind_bind, bind_bind, bind_current, bind_current, ite_bind, ite_bind, bind_bind, bind_bind]
  rcases alike.front with same | overhangs
  · rw [← simulation.kind_eq _ _ same]
    refine Agree.ite Iff.rfl (fun _ => nexts _ _ _ _ alike) (fun _ => ?_)
    refine Agree.bind (expressions _ _ _ alike) ?_
    rintro first reached _ reached' ⟨rfl, alikeReached⟩
    exact moreArguments_agree expressions alikeReached sameFunction nexts atEnd enough [first]
  · have isEnd := simulation.overhang_left _ _ overhangs
    rw [if_neg (by rw [isEnd]; decide)]
    refine Agree.of_not_done overhangs fun result finish done => ?_
    obtain ⟨first, reached, firstDone, _⟩ := bind_eq_done_iff.mp done
    exact expressionAtEnd machine isEnd first reached firstDone

theorem call_agree
    (expressionAtEnd : ∀ machine, (simulation.left.front machine.remaining).kind = .endOfInput →
      ∀ result finish, expression machine ≠ .done result finish)
    {fuel fuel' : Nat} (enough : simulation.Enough fuel fuel')
    (isFunction : (simulation.left.front machine.remaining).kind = .function) :
    simulation.Agree machine.world (simulation.SameResult level)
      (call simulation.left expression fuel machine)
      (call simulation.right expression' fuel' machine') := by
  have plain : (simulation.left.front machine.remaining).kind.IsPlain := by
    rw [isFunction]
    decide
  have same := alike.same_front plain.1
  unfold call
  rw [bind_current, bind_current, bind_advance, bind_advance, ← simulation.text_eq _ _ same]
  refine Agree.bind (Agree.expect (alike.advance plain) (by decide)) ?_
  rintro _ start _ start' ⟨_, alikeStart, _, _⟩
  refine arguments_agree expressions alikeStart same expressionAtEnd ?_ ?_ enough
  · intro values level reached reached' alikeReached
    refine Agree.bind (Agree.expect alikeReached (by decide)) ?_
    rintro _ finish _ finish' ⟨_, alikeFinish, _, _⟩
    exact Agree.withHost alikeFinish same isFunction values
  · intro values reached isEnd result finish done
    obtain ⟨closing, _, closingDone, _⟩ := bind_eq_done_iff.mp done
    obtain ⟨rest, cursor, isClosing, _⟩ :=
      (expect_eq_done_iff simulation.leftClosed (by decide)).mp closingDone
    rw [cursor, Context.front_cons, isClosing] at isEnd
    cases isEnd

theorem parenthesised_agree (plain : (simulation.left.front machine.remaining).kind.IsPlain) :
    simulation.Agree machine.world (simulation.SameResult level)
      (parenthesised simulation.left expression machine)
      (parenthesised simulation.right expression' machine') := by
  unfold parenthesised
  rw [bind_advance, bind_advance]
  refine Agree.bind (expressions _ _ _ (alike.advance plain)) ?_
  rintro value reached _ reached' ⟨rfl, alikeReached⟩
  refine Agree.bind (Agree.expect alikeReached (by decide)) ?_
  rintro _ finish _ finish' ⟨_, alikeFinish, _, _⟩
  exact Agree.pure alikeFinish value

omit expressions alike in
/-- A literal means the same wherever it stands. -/
theorem ofLiteral_congr
    {token other : Token} (sameKind : token.kind = other.kind)
    (sameText : token.text = other.text) :
    Value.ofLiteral token = Value.ofLiteral other := by
  unfold Value.ofLiteral
  rw [sameKind, sameText]

omit expressions in
theorem literal_agree
    {token other : Token} (same : simulation.same token other)
    (plain : (simulation.left.front machine.remaining).kind.IsPlain) :
    simulation.Agree machine.world (simulation.SameResult level) (literal token machine)
      (literal other machine') := by
  unfold literal
  rw [bind_advance, bind_advance,
    ← ofLiteral_congr (simulation.kind_eq _ _ same) (simulation.text_eq _ _ same)]
  exact Agree.ofExcept (alike.advance plain) same fun _ =>
    EvaluationFault.isPlaceless_of_mapError_value

/-! ## Blocks -/

omit alike in
theorem condition_simulates :
    simulation.Simulates (condition simulation.left expression)
      (condition simulation.right expression') := by
  intro level machine machine' alike
  refine Agree.bind (expressions _ _ _ alike) ?_
  rintro value reached _ reached' ⟨rfl, alikeReached⟩
  cases value.toBool with
  | ok truth => exact Agree.pure alikeReached truth
  | error error => exact Agree.failHere alikeReached trivial

/-- The statements of a body agree one by one, up to the same stop. -/
theorem block_agree
    (opener : TokenKind) {stops : List TokenKind} (blockEnd : IsBlockEnd stops)
    {fuel fuel' : Nat} (enough : simulation.Enough fuel fuel') :
    simulation.Agree machine.world (simulation.SameStop level)
      (block simulation.left opener stops expression fuel machine)
      (block simulation.right opener stops expression' fuel' machine') := by
  induction fuel generalizing fuel' machine machine' with
  | zero => exact Agree.exhausted enough (by rintro rfl; rfl)
  | succ fuel inductionHypothesis =>
      obtain ⟨fuel', rfl, enoughRest⟩ := enough.exists_succ
      rw [block, block, bind_current, bind_current]
      rcases alike.front with same | overhangs
      · rw [← simulation.kind_eq _ _ same]
        refine Agree.ite Iff.rfl (fun _ => ?_) (fun _ => ?_)
        · exact .done (simulation.later_refl _) ⟨rfl, alike, rfl⟩
        refine Agree.ite Iff.rfl (fun _ => Agree.fail alike same trivial) (fun _ => ?_)
        refine Agree.ite Iff.rfl (fun _ => Agree.fail alike same trivial) (fun _ => ?_)
        refine Agree.bind (expressions _ _ _ alike) ?_
        rintro _ reached _ reached' ⟨_, alikeReached⟩
        exact inductionHypothesis alikeReached enoughRest
      · have isEnd := simulation.overhang_left _ _ overhangs
        have notStop : (simulation.left.front machine.remaining).kind ∉ stops :=
          fun stopsHere => blockEnd.ne_endOfInput stopsHere isEnd
        rw [if_neg notStop, if_pos isEnd]
        exact Agree.of_not_done overhangs fun _ _ => fail_ne_done

omit alike in
theorem branches_agree
    (alike : simulation.Alike (level + 1) machine machine') (truth : Bool)
    {fuel fuel' : Nat} (enough : simulation.Enough fuel fuel') :
    simulation.Agree machine.world (simulation.SameResult (level + 1))
      (branches simulation.left truth expression fuel machine)
      (branches simulation.right truth expression' fuel' machine') := by
  unfold branches
  refine Agree.ite Iff.rfl (fun _ => ?_) (fun _ => ?_)
  · refine Agree.bind
      (block_agree expressions alike .ifWord isBlockEnd_elseWord_endWord enough) ?_
    rintro stop reached _ reached' ⟨rfl, alikeReached, isStop⟩
    refine Agree.ite Iff.rfl (fun isElse => ?_) (fun _ => Agree.pure alikeReached ())
    rw [bind_advance, bind_advance]
    have passed := alikeReached.passElse (isStop.trans isElse)
    refine Agree.bind (Agree.skipTo passed .ifWord isBlockEnd_endWord) ?_
    rintro _ finish _ finish' ⟨_, alikeFinish, _⟩
    exact Agree.pure alikeFinish ()
  · refine Agree.bind (Agree.skipTo alike .ifWord isBlockEnd_elseWord_endWord) ?_
    rintro stop reached _ reached' ⟨rfl, alikeReached, isStop⟩
    refine Agree.ite Iff.rfl (fun isElse => ?_) (fun _ => Agree.pure alikeReached ())
    rw [bind_advance, bind_advance]
    have passed := alikeReached.passElse (isStop.trans isElse)
    refine Agree.bind (block_agree expressions passed .ifWord isBlockEnd_endWord enough) ?_
    rintro _ finish _ finish' ⟨_, alikeFinish, _⟩
    exact Agree.pure alikeFinish ()

theorem ifBlock_agree
    {fuel fuel' : Nat} (enough : simulation.Enough fuel fuel')
    (opens : (simulation.left.front machine.remaining).kind.opensBlock = true) :
    simulation.Agree machine.world (simulation.SameResult level)
      (ifBlock simulation.left expression fuel machine)
      (ifBlock simulation.right expression' fuel' machine') := by
  unfold ifBlock
  rw [bind_advance, bind_advance]
  refine Agree.bind (condition_simulates expressions _ _ _ (alike.enter opens)) ?_
  rintro truth reached _ reached' ⟨rfl, alikeReached⟩
  refine Agree.bind (branches_agree expressions alikeReached truth enough) ?_
  rintro _ closing _ closing' ⟨_, alikeClosing⟩
  refine Agree.bind (Agree.expect_endWord alikeClosing) ?_
  rintro _ finish _ finish' ⟨_, alikeFinish, _, _⟩
  exact Agree.pure alikeFinish (Value.bool truth)

omit expressions in
/-- Two loops agree if their conditions and their bodies do; each turn starts from places that are
taken for each other. -/
theorem iterate_agree
    {keyword keyword' : Token} (sameKeyword : simulation.same keyword keyword')
    (isWhile : keyword.kind = .whileWord)
    {start start' : List Token} (starts : simulation.facing level start start')
    {test : Eval σ Bool} {test' : Eval τ Bool} (tests : simulation.Simulates test test')
    {body : Eval σ TokenKind} {body' : Eval τ TokenKind}
    (bodies : ∀ machine machine', simulation.Alike level machine machine' →
      simulation.Agree machine.world (simulation.SameStop level) (body machine) (body' machine'))
    {fuel fuel' : Nat} (enough : simulation.Enough fuel fuel') (iterations : UInt64) :
    simulation.Agree machine.world (simulation.SameResult level)
      (iterate simulation.left keyword start test body fuel iterations machine)
      (iterate simulation.right keyword' start' test' body' fuel' iterations machine') := by
  induction fuel generalizing fuel' iterations machine machine' with
  | zero => exact Agree.exhausted enough (by rintro rfl; rfl)
  | succ fuel inductionHypothesis =>
      obtain ⟨fuel', rfl, enoughRest⟩ := enough.exists_succ
      rw [iterate, iterate]
      refine Agree.bind (tests _ _ _ alike) ?_
      rintro truth reached _ reached' ⟨rfl, alikeReached⟩
      refine Agree.ite Iff.rfl (fun _ => ?_) (fun _ => Agree.pure alikeReached iterations)
      refine Agree.unlessStopped alikeReached sameKeyword isWhile (iterations + 1) ?_
      refine Agree.bind (bodies _ _ alikeReached) ?_
      rintro _ finish _ finish' ⟨_, alikeFinish, _⟩
      rw [bind_rewind, bind_rewind]
      exact inductionHypothesis (Alike.withFacing alikeFinish.toSameState starts) enoughRest
        (iterations + 1)

/-- Two loops agree turn by turn, and in what they find behind their last turn. -/
theorem whileBlock_agree
    {fuel fuel' : Nat} (enough : simulation.Enough fuel fuel')
    (isWhile : (simulation.left.front machine.remaining).kind = .whileWord) :
    simulation.Agree machine.world (simulation.SameResult level)
      (whileBlock simulation.left expression fuel machine)
      (whileBlock simulation.right expression' fuel' machine') := by
  have same := alike.same_front (by rw [isWhile]; decide)
  have passed := alike.enter (by rw [isWhile]; rfl)
  unfold whileBlock
  rw [bind_current, bind_current, bind_advance, bind_advance, bind_mark, bind_mark]
  refine Agree.bind
    (iterate_agree passed same isWhile passed.facing (condition_simulates expressions)
      (fun _ _ alikeBody => block_agree expressions alikeBody .whileWord isBlockEnd_endWord enough)
      enough 0) ?_
  rintro iterations reached _ reached' ⟨rfl, alikeReached⟩
  refine Agree.bind (Agree.skipTo alikeReached .whileWord isBlockEnd_elseWord_endWord) ?_
  rintro stop closing _ closing' ⟨rfl, alikeClosing, _⟩
  refine Agree.ite Iff.rfl (fun _ => Agree.failHere alikeClosing trivial) (fun _ => ?_)
  refine Agree.bind (Agree.expect_endWord alikeClosing) ?_
  rintro _ finish _ finish' ⟨_, alikeFinish, _, _⟩
  refine Agree.bind (Agree.noteLoop alikeFinish same iterations) ?_
  rintro _ noted _ noted' ⟨_, alikeNoted⟩
  exact Agree.pure alikeNoted Value.none

/-! ## Primaries and expressions -/

omit alike in
/-- Whatever starts a primary, the two runs read the same construct. Only at the end of the input
can the left run be alone, and there it does not succeed. -/
theorem primary_simulates
    (expressionAtEnd : ∀ machine, (simulation.left.front machine.remaining).kind = .endOfInput →
      ∀ result finish, expression machine ≠ .done result finish)
    {fuel fuel' : Nat} (enough : simulation.Enough fuel fuel') :
    simulation.Simulates (primary simulation.left expression fuel)
      (primary simulation.right expression' fuel') := by
  intro level machine machine' alike
  rw [primary, primary, bind_current, bind_current]
  rcases alike.front with same | overhangs
  · rw [← simulation.kind_eq _ _ same]
    cases kindOf : (simulation.left.front machine.remaining).kind with
    | dataType => exact declaration_agree expressions alike (by rw [kindOf]; decide)
    | identifier => exact identifier_agree expressions alike (by rw [kindOf]; decide)
    | function => exact call_agree expressions alike expressionAtEnd enough kindOf
    | number | string | bool => exact literal_agree alike same (by rw [kindOf]; decide)
    | openParenthesis => exact parenthesised_agree expressions alike (by rw [kindOf]; decide)
    | ifWord => exact ifBlock_agree expressions alike enough (by rw [kindOf]; rfl)
    | whileWord => exact whileBlock_agree expressions alike enough kindOf
    | _ =>
        have failures := SameFailure.unexpected same
        rw [← simulation.kind_eq _ _ same, kindOf] at failures
        exact .failed (simulation.later_refl _) failures alike
  · rw [simulation.overhang_left _ _ overhangs]
    exact Agree.of_not_done overhangs fun _ _ => fail_ne_done

end Nested

/-- In every simulation, from machines that are alike expressions come to ends that agree. -/
theorem expression_simulates {fuel fuel' : Nat} (enough : simulation.Enough fuel fuel') :
    simulation.Simulates (expression simulation.left fuel) (expression simulation.right fuel') := by
  induction fuel generalizing fuel' with
  | zero => exact fun _ _ _ _ => Agree.exhausted enough (by rintro rfl; rfl)
  | succ fuel inductionHypothesis =>
      obtain ⟨fuel', rfl, enoughRest⟩ := enough.exists_succ
      rw [expression, expression]
      exact expressionOf_simulates enoughRest
        (primary_simulates (inductionHypothesis enoughRest)
          (fun _ => expression_ne_done_of_endOfInput simulation.leftClosed fuel) enoughRest)

end Evaluation

end PugScript
