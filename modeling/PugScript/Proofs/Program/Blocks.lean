import PugScript.Proofs.Program.Names

/-!
# Conditions, blocks and loops

The evaluator finds the end of a block while it evaluates the block, passes over a branch that is
not taken, and goes back in the tokens for every turn of a loop. All of this does what the meaning
says, provided the condition and the statements in the block do. With the other constructs it
follows that every well-formed tree is evaluated as its meaning says.
-/

namespace PugScript

namespace Evaluation

open Eval Meaning PugScript.Tree

variable {σ : Type} {context : Context σ} {shorter : Shorter} {turns : Nat}

/-! ## Statements in a row -/

/-- What begins a statement goes on no expression, unless it is a sign. -/
theorem not_continuesExpression_of_begins
    {kind : TokenKind} (begins : Begins kind) (unsigned : ¬ IsSign kind) :
    ¬ kind.ContinuesExpression := by
  revert begins unsigned
  cases kind <;> decide

theorem ne_of_begins
    {kind : TokenKind} (begins : Begins kind) :
    kind ≠ .endOfInput ∧ kind ≠ .elseWord ∧ kind ≠ .endWord := by
  revert begins
  cases kind <;> decide

/-- The first token of a statement, as a block sees it. -/
theorem begins_front
    {statement : Tree} (wellFormed : WellFormed statement) (rest : List Token) :
    Begins (context.front (statement.tokens ++ rest)).kind := by
  obtain ⟨token, tail, first, begins⟩ := wellFormed.exists_first
  rw [first]
  exact begins

theorem not_isSign_front
    {statement : Tree} (wellFormed : WellFormed statement)
    (unsigned : ¬ statement.BeginsWithSign) (rest : List Token) :
    ¬ IsSign (context.front (statement.tokens ++ rest)).kind := by
  obtain ⟨token, tail, first, _⟩ := wellFormed.exists_first
  rw [first]
  intro isSign
  apply unsigned
  refine ⟨token, ?_, isSign⟩
  rw [first]
  rfl

/-- Statements that do not begin with a sign do not continue what stands before them. -/
theorem follows_blockTokens
    {body : List Tree} (wellFormed : ∀ statement ∈ body, WellFormed statement)
    (unsigned : ∀ statement ∈ body, ¬ statement.BeginsWithSign)
    {rest : List Token} (fresh : ¬ (context.front rest).kind.ContinuesExpression) :
    Follows context 5 (blockTokens body ++ rest) := by
  apply Follows.of_not_continues
  cases body with
  | nil => exact fresh
  | cons statement others =>
      have isFormed := wellFormed statement List.mem_cons_self
      have isUnsigned := unsigned statement List.mem_cons_self
      rw [blockTokens, List.append_assoc]
      exact not_continuesExpression_of_begins (begins_front isFormed _)
        (not_isSign_front isFormed isUnsigned _)

theorem not_continuesExpression_of_isBlockEnd
    {stops : List TokenKind} (blockEnd : IsBlockEnd stops) {kind : TokenKind}
    (isStop : kind ∈ stops) : ¬ kind.ContinuesExpression := by
  rcases blockEnd.eq_of_mem kind isStop with rfl | rfl <;> decide

theorem unsigned_tail
    {body : List Tree} (unsigned : ∀ statement ∈ body, ¬ statement.BeginsWithSign) :
    ∀ statement ∈ body.tail, ¬ statement.BeginsWithSign :=
  fun statement member => unsigned statement (List.mem_of_mem_tail member)

/-- The statements of a body are read one after another, up to the word that ends the body. -/
theorem block_matches
    {body : List Tree} (wellFormed : ∀ statement ∈ body, WellFormed statement)
    (unsigned : ∀ statement ∈ body.tail, ¬ statement.BeginsWithSign)
    (evaluate : ∀ statement ∈ body, Evaluates context shorter turns statement)
    (opener : TokenKind) {stops : List TokenKind} (blockEnd : IsBlockEnd stops)
    {kind : TokenKind} (isStop : kind ∈ stops) {text : String}
    {fuel bound : Nat} (enough : Enough shorter turns fuel (blockSize body))
    (enoughBound : Enough shorter turns bound (blockSize body))
    {rest : List Token} {depth : Nat} (deep : depth + blockNesting body ≤ Limits.maxParseDepth)
    {machine : Machine σ} {store : Store σ}
    (stands : machine.Stands (blockTokens body ++ word kind text :: rest) depth store) :
    Matches shorter
      (fun stop reached _ store => stop = kind ∧
        reached.Stands (word kind text :: rest) depth store)
      (block context opener stops (expression context fuel) bound machine)
      (blockMeaning context.host context.loopLimit turns body store) := by
  induction body generalizing bound machine store with
  | nil =>
      rw [blockTokens, List.nil_append] at stands
      cases bound with
      | zero => exact Matches.outOfFuel enoughBound.eq_machine _
      | succ bound =>
          have stopsHere : (word kind text).kind ∈ stops := isStop
          rw [block, bind_current, stands.front, blockMeaning, if_pos stopsHere]
          exact ⟨rfl, stands⟩
  | cons statement others inductionHypothesis =>
      rw [blockSize] at enough enoughBound
      rw [blockNesting] at deep
      rw [blockTokens, List.append_assoc] at stands
      cases bound with
      | zero => exact Matches.outOfFuel enoughBound.eq_machine _
      | succ bound =>
          have isFormed := wellFormed statement List.mem_cons_self
          have othersFormed : ∀ other ∈ others, WellFormed other := fun other member =>
            wellFormed other (List.mem_cons_of_mem statement member)
          have begins : Begins (context.front machine.remaining).kind := by
            rw [stands.remaining]
            exact begins_front isFormed _
          obtain ⟨notEnd, notElse, notClosing⟩ := ne_of_begins begins
          have notStop : ¬ (context.front machine.remaining).kind ∈ stops := by
            intro member
            rcases blockEnd.eq_of_mem _ member with isElse | isClosing
            · exact notElse isElse
            · exact notClosing isClosing
          rw [block, bind_current, if_neg notStop, if_neg notEnd,
            if_neg (fun both => notElse both.1), blockMeaning]
          have follows : Follows context 5 (blockTokens others ++ word kind text :: rest) :=
            follows_blockTokens othersFormed unsigned
              (not_continuesExpression_of_isBlockEnd blockEnd isStop)
          have first := (evaluate statement List.mem_cons_self).whole (enough.mono (by omega))
            follows (by omega) stands
          refine Matches.bind first ?_
          rintro value reached _ store' ⟨rfl, standsReached⟩
          refine inductionHypothesis othersFormed (unsigned_tail unsigned) ?_
            (enough.mono (by omega)) (enoughBound.pred.mono (by omega)) (by omega) standsReached
          intro other member
          exact evaluate other (List.mem_cons_of_mem statement member)

/-! ## Conditions -/

theorem condition_matches
    {tree : Tree} (evaluates : Evaluates context shorter turns tree)
    {fuel : Nat} (enough : Enough shorter turns fuel (tree.size + 1))
    {rest : List Token} (follows : Follows context 5 rest)
    {depth : Nat} (deep : depth + tree.nesting ≤ Limits.maxParseDepth)
    {machine : Machine σ} {store : Store σ}
    (stands : machine.Stands (tree.tokens ++ rest) depth store) :
    Matches shorter (Reaches rest depth)
      (condition context (expression context fuel) machine)
      (test (tree.meaning context.host context.loopLimit turns) store) := by
  refine Matches.bind (evaluates.whole enough follows deep stands) ?_
  rintro value reached _ store' ⟨rfl, standsReached⟩
  cases value.toBool with
  | ok truth => exact ⟨rfl, standsReached⟩
  | error error => exact ⟨rfl, trivial, standsReached.store⟩

/-! ## Branches -/

/-- An `if` whose branches do what the chosen meaning says. -/
theorem ifBlock_matches
    {tree : Tree} (evaluates : Evaluates context shorter turns tree)
    {fuel : Nat} (enough : Enough shorter turns fuel (tree.size + 1))
    {branchTokens rest : List Token} (follows : Follows context 5 branchTokens)
    {depth : Nat} (deep : depth + tree.nesting ≤ Limits.maxParseDepth)
    {chosen : Bool → Meaning σ Unit}
    (choose : ∀ (truth : Bool) {machine : Machine σ} {store : Store σ},
      machine.Stands branchTokens depth store →
      Matches shorter (Reaches (word .endWord "end" :: rest) depth)
        (branches context truth (expression context fuel) fuel machine) (chosen truth store))
    {machine : Machine σ} {store : Store σ}
    (stands : machine.Stands (word .ifWord "if" :: (tree.tokens ++ branchTokens)) depth store) :
    Matches shorter (Reaches rest depth)
      (primary context (expression context fuel) fuel machine)
      ((do
        let truth ← test (tree.meaning context.host context.loopLimit turns)
        let _ ← chosen truth
        return Value.bool truth) store) := by
  rw [primary, bind_current, stands.front]
  change Matches shorter _ (ifBlock context (expression context fuel) fuel machine) _
  rw [ifBlock, bind_advance]
  refine Matches.bind (condition_matches evaluates enough follows deep stands.tail) ?_
  rintro truth reached _ store' ⟨rfl, standsReached⟩
  refine Matches.bind (choose truth standsReached) ?_
  rintro _ behind _ storeBehind ⟨rfl, standsBehind⟩
  rw [bind_expect standsBehind]
  exact ⟨rfl, standsBehind.facing rest⟩

theorem evaluates_ifThen
    {tree : Tree} {body : List Tree} (evaluates : Evaluates context shorter turns tree)
    (wellFormed : ∀ statement ∈ body, WellFormed statement)
    (unsigned : ∀ statement ∈ body, ¬ statement.BeginsWithSign)
    (evaluate : ∀ statement ∈ body, Evaluates context shorter turns statement) :
    Evaluates context shorter turns (.ifThen tree body) := by
  apply Evaluates.of_primary rfl rfl rfl (by decide)
  intro fuel enough rest depth machine store _ deep stands
  rw [size] at enough
  rw [tokens, List.cons_append, List.append_assoc, List.append_assoc,
    List.singleton_append] at stands
  have sameMeaning : (ifThen tree body).meaning context.host context.loopLimit turns =
      (do
        let truth ← test (tree.meaning context.host context.loopLimit turns)
        let _ ← (if truth then blockMeaning context.host context.loopLimit turns body else pure ())
        return .bool truth : Meaning σ Value) := by
    rw [meaning]
    apply bind_congr
    intro truth
    cases truth <;> rfl
  rw [sameMeaning]
  have follows : Follows context 5 (blockTokens body ++ word .endWord "end" :: rest) :=
    follows_blockTokens wellFormed unsigned (by rw [Context.front_cons]; decide)
  have inert := inert_of_wellFormed wellFormed
  refine ifBlock_matches evaluates (enough.mono (by omega)) follows (by omega) ?_ stands
  intro truth machine store standsBranches
  cases truth with
  | true =>
      rw [branches, if_pos rfl, if_pos rfl,
        ← bind_pure (blockMeaning context.host context.loopLimit turns body)]
      refine Matches.bind
        (block_matches wellFormed (unsigned_tail unsigned) evaluate .ifWord
          isBlockEnd_elseWord_endWord (by decide) (enough.mono (by omega))
          (enough.mono (by omega)) (by omega) standsBranches) ?_
      rintro stop reached _ store' ⟨rfl, standsReached⟩
      exact ⟨rfl, standsReached⟩
  | false =>
      rw [branches, if_neg (by decide), if_neg (by decide),
        bind_skipTo .ifWord isBlockEnd_elseWord_endWord standsBranches inert (by decide)]
      exact ⟨rfl, standsBranches.facing _⟩

theorem evaluates_ifElse
    {tree : Tree} {body otherwise : List Tree} (evaluates : Evaluates context shorter turns tree)
    (bodyFormed : ∀ statement ∈ body, WellFormed statement)
    (bodyUnsigned : ∀ statement ∈ body, ¬ statement.BeginsWithSign)
    (otherwiseFormed : ∀ statement ∈ otherwise, WellFormed statement)
    (otherwiseUnsigned : ∀ statement ∈ otherwise.tail, ¬ statement.BeginsWithSign)
    (evaluateBody : ∀ statement ∈ body, Evaluates context shorter turns statement)
    (evaluateOtherwise : ∀ statement ∈ otherwise, Evaluates context shorter turns statement) :
    Evaluates context shorter turns (.ifElse tree body otherwise) := by
  apply Evaluates.of_primary rfl rfl rfl (by decide)
  intro fuel enough rest depth machine store _ deep stands
  rw [size] at enough
  rw [tokens, List.cons_append, List.append_assoc, List.append_assoc, List.cons_append,
    List.append_assoc, List.singleton_append] at stands
  have sameMeaning : (ifElse tree body otherwise).meaning context.host context.loopLimit turns =
      (do
        let truth ← test (tree.meaning context.host context.loopLimit turns)
        let _ ← (if truth then blockMeaning context.host context.loopLimit turns body
          else blockMeaning context.host context.loopLimit turns otherwise)
        return .bool truth : Meaning σ Value) := by
    rw [meaning]
    apply bind_congr
    intro truth
    cases truth <;> rfl
  rw [sameMeaning]
  have follows : Follows context 5
      (blockTokens body ++ word .elseWord "else" ::
        (blockTokens otherwise ++ word .endWord "end" :: rest)) :=
    follows_blockTokens bodyFormed bodyUnsigned (by rw [Context.front_cons]; decide)
  have bodyInert := inert_of_wellFormed bodyFormed
  have otherwiseInert := inert_of_wellFormed otherwiseFormed
  refine ifBlock_matches evaluates (enough.mono (by omega)) follows (by omega) ?_ stands
  intro truth machine store standsBranches
  cases truth with
  | true =>
      rw [branches, if_pos rfl, if_pos rfl,
        ← bind_pure (blockMeaning context.host context.loopLimit turns body)]
      refine Matches.bind
        (block_matches bodyFormed (unsigned_tail bodyUnsigned) evaluateBody .ifWord
          isBlockEnd_elseWord_endWord (by decide) (enough.mono (by omega))
          (enough.mono (by omega)) (by omega) standsBranches) ?_
      rintro stop reached _ store' ⟨rfl, standsReached⟩
      rw [if_pos rfl, bind_advance,
        bind_skipTo .ifWord isBlockEnd_endWord standsReached.tail otherwiseInert (by decide)]
      exact ⟨rfl, standsReached.facing _⟩
  | false =>
      rw [branches, if_neg (by decide), if_neg (by decide),
        bind_skipTo .ifWord isBlockEnd_elseWord_endWord standsBranches bodyInert (by decide),
        if_pos rfl, bind_advance,
        ← bind_pure (blockMeaning context.host context.loopLimit turns otherwise)]
      refine Matches.bind
        (block_matches otherwiseFormed otherwiseUnsigned evaluateOtherwise .ifWord
          isBlockEnd_endWord (by decide) (enough.mono (by omega)) (enough.mono (by omega))
          (by omega) (standsBranches.facing _).tail) ?_
      rintro stop reached _ store' ⟨_, standsReached⟩
      exact ⟨rfl, standsReached⟩

/-! ## Loops -/

/-- The turns of a loop. The machine goes back to the condition after every turn, so that both
sides are at the beginning again with less fuel and fewer turns. The tree counts them in natural
numbers, the machine in words; a limit that bounds loops has not been passed before. -/
theorem iterate_matches
    (keyword : Token) {start behind bodyEnd : List Token} {depth : Nat}
    {machineTest : Eval σ Bool} {treeTest : Meaning σ Bool}
    (testMatches : ∀ {machine : Machine σ} {store : Store σ},
      machine.Stands start depth store →
      Matches shorter (Reaches behind depth) (machineTest machine) (treeTest store))
    {machineBody : Eval σ TokenKind} {treeBody : Meaning σ Unit}
    (bodyMatches : ∀ {machine : Machine σ} {store : Store σ},
      machine.Stands behind depth store →
      Matches shorter
        (fun stop reached _ store => stop = .endWord ∧ reached.Stands bodyEnd depth store)
        (machineBody machine) (treeBody store))
    {bound : Nat} (enough : Enough shorter turns bound 0) {iterations : Nat}
    (within : BoundsLoops context.loopLimit → iterations ≤ context.loopLimit.toNat)
    {machine : Machine σ} {store : Store σ} (stands : machine.Stands start depth store) :
    Matches shorter (fun _ reached _ store => reached.Stands behind depth store)
      (iterate context keyword start machineTest machineBody bound (.ofNat iterations) machine)
      (repeatWhile context.loopLimit treeTest treeBody turns iterations store) := by
  induction turns generalizing bound iterations machine store with
  | zero =>
      cases shorter with
      | machine =>
          obtain rfl : bound = 0 := Nat.le_zero.mp enough
          exact Matches.outOfFuel rfl _
      | tree => exact Matches.unfinished rfl _
  | succ turns inductionHypothesis =>
      cases bound with
      | zero =>
          cases shorter with
          | machine => exact Matches.outOfFuel rfl _
          | tree =>
              simp only [Enough] at enough
              omega
      | succ bound =>
          rw [iterate, repeatWhile]
          refine Matches.bind (testMatches stands) ?_
          rintro truth reached _ store' ⟨rfl, standsReached⟩
          refine Matches.ite Iff.rfl (fun _ => ?_) (fun _ => standsReached)
          refine Matches.ite (exceeds_iff within)
            (fun _ => Matches.fail keyword standsReached.store trivial) (fun room => ?_)
          refine Matches.bind (bodyMatches standsReached) ?_
          rintro _ finish _ storeFinish ⟨_, standsFinish⟩
          rw [bind_rewind]
          have fewer : Enough shorter turns bound 0 := by
            cases shorter with
            | machine => exact Nat.le_of_succ_le_succ enough
            | tree => exact Nat.le_of_succ_le_succ enough
          have withinNext :
              BoundsLoops context.loopLimit → iterations + 1 ≤ context.loopLimit.toNat :=
            fun bounds => succ_le_of_not_exceeds bounds (within bounds) room
          have next := inductionHypothesis fewer withinNext (standsFinish.facing start)
          rwa [UInt64.ofNat_add] at next

/-- A loop is read turn by turn, up to the bound of the shorter side. -/
theorem evaluates_whileLoop
    {tree : Tree} {body : List Tree} (evaluates : Evaluates context shorter turns tree)
    (wellFormed : ∀ statement ∈ body, WellFormed statement)
    (unsigned : ∀ statement ∈ body, ¬ statement.BeginsWithSign)
    (evaluate : ∀ statement ∈ body, Evaluates context shorter turns statement) :
    Evaluates context shorter turns (.whileLoop tree body) := by
  apply Evaluates.of_primary rfl rfl rfl (by decide)
  intro fuel enough rest depth machine store _ deep stands
  rw [size] at enough
  rw [tokens, List.cons_append, List.append_assoc, List.append_assoc,
    List.singleton_append] at stands
  rw [primary, bind_current, stands.front, meaning]
  change Matches shorter _ (whileBlock context (expression context fuel) fuel machine) _
  rw [whileBlock, bind_current, bind_advance, bind_mark, stands.front, stands.tail.remaining]
  have follows : Follows context 5 (blockTokens body ++ word .endWord "end" :: rest) :=
    follows_blockTokens wellFormed unsigned (by rw [Context.front_cons]; decide)
  have inert := inert_of_wellFormed wellFormed
  have testMatches : ∀ {machine : Machine σ} {store : Store σ},
      machine.Stands (tree.tokens ++ (blockTokens body ++ word .endWord "end" :: rest)) depth
        store →
      Matches shorter (Reaches (blockTokens body ++ word .endWord "end" :: rest) depth)
        (condition context (expression context fuel) machine)
        (test (tree.meaning context.host context.loopLimit turns) store) :=
    condition_matches evaluates (enough.mono (by omega)) follows (by omega)
  have bodyMatches : ∀ {machine : Machine σ} {store : Store σ},
      machine.Stands (blockTokens body ++ word .endWord "end" :: rest) depth store →
      Matches shorter
        (fun stop reached _ store => stop = .endWord ∧
          reached.Stands (word .endWord "end" :: rest) depth store)
        (block context .whileWord [.endWord] (expression context fuel) fuel machine)
        (blockMeaning context.host context.loopLimit turns body store) :=
    block_matches wellFormed (unsigned_tail unsigned) evaluate .whileWord isBlockEnd_endWord
      (by decide) (enough.mono (by omega)) (enough.mono (by omega)) (by omega)
  refine Matches.bind
    (iterate_matches (word .whileWord "while") testMatches bodyMatches
      (enough.mono (Nat.zero_le _)) (fun _ => Nat.zero_le _) stands.tail) ?_
  intro iterations reached _ store' standsReached
  rw [bind_skipTo .whileWord isBlockEnd_elseWord_endWord standsReached inert (by decide),
    if_neg (by decide), bind_expect (standsReached.facing _)]
  exact ⟨rfl, rfl, standsReached.depth, standsReached.store⟩

/-! ## All trees -/

/-- Every well-formed tree is read wherever it may stand, by induction on the tree. -/
theorem evaluates_of_wellFormed {tree : Tree} (wellFormed : WellFormed tree) :
    Evaluates context shorter turns tree := by
  induction wellFormed with
  | number text => exact evaluates_number text
  | truth value => exact evaluates_truth value
  | quote content => exact evaluates_quote content
  | read name => exact evaluates_read name
  | assign name _ value => exact evaluates_assign name value
  | declare typeName name => exact evaluates_declare typeName name
  | define typeName name _ value => exact evaluates_define typeName name value
  | signed sign _ operand => exact Evaluates.of_signed sign operand
  | binary operator _ _ left right => exact Evaluates.of_binary operator left right
  | group _ inner => exact Evaluates.of_group inner
  | call function few formed arguments => exact evaluates_call function few formed arguments
  | ifThen _ formed unsigned condition body =>
      exact evaluates_ifThen condition formed unsigned body
  | ifElse _ bodyFormed bodyUnsigned otherwiseFormed otherwiseUnsigned condition body otherwise =>
      exact evaluates_ifElse condition bodyFormed bodyUnsigned otherwiseFormed otherwiseUnsigned
        body otherwise
  | whileLoop _ formed unsigned condition body =>
      exact evaluates_whileLoop condition formed unsigned body

end Evaluation

end PugScript
