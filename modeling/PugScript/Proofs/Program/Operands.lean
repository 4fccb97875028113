import PugScript.Proofs.Program.Matching

/-!
# Operands and precedence

The evaluator reads an operand at one of six levels: a signed primary at the bottom, and one level
for every tier of operators. This module says what it takes to read a printed tree at every level
that its place may ask for. Parentheses lead back to the bottom, an operand that is read at one
level is read at the looser ones too, and the operators of one tier are read as a chain from the
left.
-/

namespace PugScript

/-! ## Sizes -/

namespace Tree

mutual

/-- Fuel for a tree, apart from the turns of its loops. -/
@[simp]
def size : Tree → Nat
  | number _ | truth _ | quote _ | read _ | declare _ _ => 1
  | assign _ value | define _ _ value => value.size + 2
  | signed _ operand => operand.size + 2
  | binary _ left right => left.size + right.size + 2
  | group inner => inner.size + 2
  | call _ arguments => blockSize arguments + 1
  | ifThen condition body | whileLoop condition body => condition.size + blockSize body + 2
  | ifElse condition body otherwise =>
    condition.size + blockSize body + blockSize otherwise + 2

/-- Fuel for some trees, one after another. -/
@[simp]
def blockSize : List Tree → Nat
  | [] => 1
  | first :: others => first.size + blockSize others + 1

end

theorem one_le_size (tree : Tree) : 1 ≤ tree.size := by
  cases tree <;> simp only [size] <;> omega

end Tree

/-! ## Levels -/

/-- The tier above a level. -/
def tierAbove : Nat → Tier
  | 0 => .multiplicative
  | 1 => .additive
  | 2 => .comparison
  | 3 => .conjunction
  | _ => .disjunction

theorem tierAbove_looseness {lower : Nat} (within : lower < 5) :
    (tierAbove lower).looseness = lower + 1 := by
  match lower with
  | 0 | 1 | 2 | 3 | 4 => rfl
  | lower + 5 => omega

theorem Tier.one_le_looseness (tier : Tier) : 1 ≤ tier.looseness := by
  cases tier <;> decide

theorem Tier.looseness_le (tier : Tier) : tier.looseness ≤ 5 := by
  cases tier <;> decide

theorem Tier.eq_of_looseness_eq
    {first second : Tier} (same : first.looseness = second.looseness) : first = second := by
  cases first <;> cases second <;> first | rfl | cases same

namespace Evaluation

open Eval PugScript.Tree

variable {σ : Type}

/-- The evaluation of an operand at a level. -/
def level (context : Context σ) (fuel : Nat) : Nat → Eval σ Value
  | 0 => signed context (primary context (expression context fuel) fuel) fuel
  | lower + 1 => tierOf context (tierAbove lower) fuel (level context fuel lower)

theorem level_looseness (context : Context σ) (fuel : Nat) (tier : Tier) :
    level context fuel tier.looseness =
      tierOf context tier fuel (level context fuel (tier.looseness - 1)) := by
  cases tier <;> rfl

/-- What follows an operand is not taken for a part of it. -/
structure Follows (context : Context σ) (allowed : Nat) (rest : List Token) : Prop where
  not_assign : (context.front rest).kind ≠ .assign
  refused : ∀ tier : Tier, tier.looseness ≤ allowed →
    ¬ tier.accepts (context.front rest).kind = true

namespace Follows

variable {context : Context σ} {allowed : Nat} {rest : List Token}

theorem mono (follows : Follows context allowed rest) {smaller : Nat} (le : smaller ≤ allowed) :
    Follows context smaller rest :=
  ⟨follows.not_assign, fun tier within => follows.refused tier (Nat.le_trans within le)⟩

theorem of_not_continues
    (fresh : ¬ (context.front rest).kind.ContinuesExpression) : Follows context allowed rest :=
  ⟨fun isAssign => fresh (.inl isAssign), fun tier _ accepted => fresh (.inr ⟨tier, accepted⟩)⟩

/-- An operator follows an operand of a tighter tier. -/
theorem of_operator
    (operator : Operator) (text : String) (others : List Token) :
    Follows context (operator.tier.looseness - 1) (word operator.kind text :: others) where
  not_assign := by
    change operator.kind ≠ .assign
    cases operator <;> decide
  refused := by
    intro tier within accepted
    have same : tier = operator.tier := (operator.accepts_kind_iff tier).mp accepted
    have positive := tier.one_le_looseness
    rw [same] at within positive
    omega

end Follows

/-! ## Reading tokens -/

/-- A step reads some tokens, nested the given number of levels deep, and does what a meaning
says. -/
def Handles (context : Context σ) (shorter : Shorter) (step : Eval σ Value) (allowed : Nat)
    (tokens : List Token) (levels : Nat) (meaning : Meaning σ Value) : Prop :=
  ∀ ⦃rest : List Token⦄ ⦃depth : Nat⦄ ⦃machine : Machine σ⦄ ⦃store : Store σ⦄,
    Follows context allowed rest →
    depth + levels ≤ Limits.maxParseDepth →
    machine.Stands (tokens ++ rest) depth store →
    Matches shorter (Reaches rest depth) (step machine) (meaning store)

/-- The level below a tier and the operators of that tier read some tokens as the beginning of a
chain. Some of the bound is used up; what is done with the rest of it is a parameter. -/
def Chains (context : Context σ) (shorter : Shorter) (turns : Nat) (tier : Tier)
    (fuel bound more : Nat) (tokens : List Token) (levels : Nat) (meaning : Meaning σ Value) :
    Prop :=
  ∀ ⦃rest : List Token⦄ ⦃depth : Nat⦄ ⦃post : Value → Machine σ → Value → Store σ → Prop⦄
    ⦃next : Value → Meaning σ Value⦄,
    Follows context (tier.looseness - 1) rest →
    depth + levels ≤ Limits.maxParseDepth →
    (∀ ⦃bound : Nat⦄ ⦃value : Value⦄ ⦃machine : Machine σ⦄ ⦃store : Store σ⦄,
      Enough shorter turns bound more →
      machine.Stands rest depth store →
      Matches shorter post
        (applyTier context tier (level context fuel (tier.looseness - 1)) bound value machine)
        (next value store)) →
    ∀ ⦃machine : Machine σ⦄ ⦃store : Store σ⦄,
      machine.Stands (tokens ++ rest) depth store →
      Matches shorter post
        ((level context fuel (tier.looseness - 1) >>=
          applyTier context tier (level context fuel (tier.looseness - 1)) bound) machine)
        ((meaning >>= next) store)

section Reading

variable {context : Context σ} {shorter : Shorter} {turns fuel bound more allowed levels : Nat}
  {tokens : List Token} {meaning : Meaning σ Value}

theorem Handles.mono
    {step : Eval σ Value} (handles : Handles context shorter step allowed tokens levels meaning)
    {larger : Nat} (le : allowed ≤ larger) :
    Handles context shorter step larger tokens levels meaning :=
  fun _ _ _ _ follows within stands => handles (follows.mono le) within stands

/-- A chain of operators ends in front of anything that is no operator of its tier. -/
theorem applyTier_refuses
    {tier : Tier} {operand : Eval σ Value} {rest : List Token} {depth : Nat}
    {machine : Machine σ} {store : Store σ}
    (refused : ¬ tier.accepts (context.front rest).kind = true)
    (enough : Enough shorter turns bound 1) (stands : machine.Stands rest depth store)
    (value : Value) :
    Matches shorter (Reaches rest depth) (applyTier context tier operand bound value machine)
      ((pure value : Meaning σ Value) store) := by
  cases bound with
  | zero => exact Matches.outOfFuel enough.eq_machine _
  | succ bound =>
      rw [applyTier, bind_current, stands.remaining, if_neg refused]
      exact ⟨rfl, stands⟩

/-- What is read at one level is read at every looser one, if no operator follows. -/
theorem Handles.climb
    {lower : Nat}
    (handles : Handles context shorter (level context fuel lower) allowed tokens levels meaning)
    (enough : Enough shorter turns fuel 1) {higher : Nat} (le : lower ≤ higher)
    (within : higher ≤ allowed) (small : allowed ≤ 5) :
    Handles context shorter (level context fuel higher) allowed tokens levels meaning := by
  obtain ⟨steps, rfl⟩ := Nat.exists_eq_add_of_le le
  induction steps with
  | zero => exact handles
  | succ steps inductionHypothesis =>
      have below := inductionHypothesis (by omega) (by omega)
      intro rest depth machine store follows deep stands
      have isLooser := tierAbove_looseness (show lower + steps < 5 by omega)
      have refused := follows.refused (tierAbove (lower + steps)) (by omega)
      rw [← bind_pure meaning]
      refine Matches.bind (below follows deep stands) ?_
      rintro value reached _ store' ⟨rfl, standsReached⟩
      exact applyTier_refuses refused enough standsReached value

/-- An operand of the level below begins a chain of one. -/
theorem Handles.chains
    {tier : Tier}
    (handles : Handles context shorter (level context fuel (tier.looseness - 1))
      (tier.looseness - 1) tokens levels meaning)
    (enough : Enough shorter turns bound more) :
    Chains context shorter turns tier fuel bound more tokens levels meaning := by
  intro rest depth post next follows deep goesOn machine store stands
  refine Matches.bind (handles follows deep stands) ?_
  rintro value reached _ store' ⟨rfl, standsReached⟩
  exact goesOn enough standsReached

/-- A whole chain is an operand of the level of its tier. -/
theorem Chains.handles
    {tier : Tier}
    (chains : Chains context shorter turns tier fuel fuel 1 tokens levels meaning) :
    Handles context shorter (level context fuel tier.looseness) tier.looseness tokens levels
      meaning := by
  intro rest depth machine store follows deep stands
  rw [level_looseness, ← bind_pure meaning]
  refine chains (follows.mono (Nat.sub_le _ 1)) deep ?_ stands
  intro bound value reached store' enough standsReached
  exact applyTier_refuses (follows.refused tier (Nat.le_refl _)) enough standsReached value

/-- A chain is continued by an operator of its tier and one more operand. -/
theorem Chains.binary
    {operator : Operator} {leftTokens rightTokens : List Token} {leftLevels rightLevels : Nat}
    {leftMeaning rightMeaning : Meaning σ Value}
    (left : Chains context shorter turns operator.tier fuel bound (more + 1) leftTokens leftLevels
      leftMeaning)
    (right : Handles context shorter (level context fuel (operator.tier.looseness - 1))
      (operator.tier.looseness - 1) rightTokens rightLevels rightMeaning) :
    Chains context shorter turns operator.tier fuel bound more
      (leftTokens ++ word operator.kind operator.spelling :: rightTokens)
      (max leftLevels rightLevels)
      (do
        let leftValue ← leftMeaning
        let rightValue ← rightMeaning
        ofExcept (operator.tier.combine operator.kind leftValue rightValue)) := by
  intro rest depth post next follows deep goesOn machine store stands
  have leftDeep : depth + leftLevels ≤ Limits.maxParseDepth := by omega
  have rightDeep : depth + rightLevels ≤ Limits.maxParseDepth := by omega
  rw [List.append_assoc, List.cons_append] at stands
  rw [bind_assoc]
  refine left (Follows.of_operator operator _ _) leftDeep ?_ stands
  intro bound leftValue reached store' enough standsReached
  cases bound with
  | zero => exact Matches.outOfFuel enough.eq_machine _
  | succ bound =>
      have accepted :
          operator.tier.accepts (word operator.kind operator.spelling).kind = true :=
        (operator.accepts_kind_iff _).mpr rfl
      rw [applyTier, bind_current, standsReached.front, if_pos accepted, bind_advance, bind_assoc]
      refine Matches.bind (right follows rightDeep standsReached.tail) ?_
      rintro rightValue behind _ storeBehind ⟨rfl, standsBehind⟩
      refine Matches.bind
        (Matches.ofExcept (fun _ => operator.tier.combine_isPlaceless) _ standsBehind) ?_
      rintro result finish _ storeFinish ⟨rfl, standsFinish⟩
      exact goesOn enough.pred standsFinish

/-- A primary is read behind no sign. -/
theorem Handles.signed_of_primary
    {step : Eval σ Value} (handles : Handles context shorter step allowed tokens levels meaning)
    {token : Token} {others : List Token} (first : tokens = token :: others)
    (unsigned : ¬ IsSign token.kind) (enough : Enough shorter turns bound 1) :
    Handles context shorter (signed context step bound) allowed tokens (levels + 1) meaning := by
  intro rest depth machine store follows deep stands
  cases bound with
  | zero => exact Matches.outOfFuel enough.eq_machine _
  | succ bound =>
      have shallow : ¬ Limits.maxParseDepth ≤ machine.depth := by
        rw [stands.depth]
        omega
      have front : context.front machine.remaining = token := by
        rw [stands.remaining, first]
        rfl
      have noSign : ¬ (token.kind = .plus ∨ token.kind = .minus) := unsigned
      rw [signed, bind_current, bind_currentDepth, if_neg shallow, front, if_neg noSign]
      exact Matches.nested (handles follows (by omega) stands.deeper)

/-- An expression in parentheses is a primary. -/
theorem Handles.enclose
    (handles : Handles context shorter (expression context fuel) 5 tokens levels meaning) :
    Handles context shorter (primary context (expression context fuel) fuel) 0
      (Tree.enclose tokens) levels meaning := by
  intro rest depth machine store _ deep stands
  rw [Tree.enclose, List.cons_append, List.append_assoc, List.singleton_append] at stands
  rw [primary, bind_current, stands.front]
  change Matches shorter _ (parenthesised context (expression context fuel) machine) _
  rw [parenthesised, bind_advance, ← bind_pure meaning]
  have closes : Follows context 5 (word .closeParenthesis ")" :: rest) :=
    Follows.of_not_continues (by rw [Context.front_cons]; decide)
  refine Matches.bind (handles closes deep stands.tail) ?_
  rintro value reached _ store' ⟨rfl, standsReached⟩
  rw [bind_expect standsReached]
  exact ⟨rfl, standsReached.facing rest⟩

/-- A sign in front of a signed primary. -/
theorem Handles.sign
    {step : Eval σ Value}
    (handles : Handles context shorter (signed context step bound) 0 tokens levels meaning)
    (sign : Sign) :
    Handles context shorter (signed context step (bound + 1)) 0
      (word sign.kind sign.spelling :: tokens) (levels + 1)
      (do ofExcept (applySign sign.kind (← meaning))) := by
  intro rest depth machine store follows deep stands
  rw [List.cons_append] at stands
  have shallow : ¬ Limits.maxParseDepth ≤ machine.depth := by
    rw [stands.depth]
    omega
  have isSign : (word sign.kind sign.spelling).kind = .plus ∨
      (word sign.kind sign.spelling).kind = .minus := sign.isSign_kind
  rw [signed, bind_current, bind_currentDepth, if_neg shallow, stands.front, if_pos isSign]
  apply Matches.nested
  rw [bind_advance]
  refine Matches.bind (handles follows (by omega) stands.deeper.tail) ?_
  rintro value reached _ store' ⟨rfl, standsReached⟩
  exact Matches.ofExcept (fun _ => applySign_isPlaceless) _ standsReached

end Reading

/-! ## Trees at all levels -/

/-- A step reads a tree as it stands. -/
def Reads (context : Context σ) (shorter : Shorter) (turns : Nat) (step : Eval σ Value)
    (allowed : Nat) (tree : Tree) : Prop :=
  Handles context shorter step allowed tree.tokens tree.nesting
    (tree.meaning context.host context.loopLimit turns)

/-- A step reads a tree as an operand, in parentheses if it is too loose for its place. -/
def ReadsOperand (context : Context σ) (shorter : Shorter) (turns : Nat) (step : Eval σ Value)
    (allowed : Nat) (tree : Tree) : Prop :=
  Handles context shorter step allowed (tree.operandTokens allowed)
    (guardedNesting allowed tree tree.nesting)
    (tree.meaning context.host context.loopLimit turns)

/-- A tree is read wherever it may stand: as a whole, behind signs, as an operand at every level,
and as the beginning of a chain of every tier. -/
structure Evaluates (context : Context σ) (shorter : Shorter) (turns : Nat) (tree : Tree) :
    Prop where
  whole : ∀ {fuel : Nat}, Enough shorter turns fuel (tree.size + 1) →
    Reads context shorter turns (expression context fuel) 5 tree
  unary : ∀ {fuel bound : Nat}, Enough shorter turns fuel (tree.size + 1) →
    Enough shorter turns bound (tree.size + 1) →
    ReadsOperand context shorter turns
      (signed context (primary context (expression context fuel) fuel) bound) 0 tree
  operand : ∀ {fuel allowed : Nat}, Enough shorter turns fuel (tree.size + 1) → allowed ≤ 5 →
    ReadsOperand context shorter turns (level context fuel allowed) allowed tree
  chain : ∀ {fuel bound more : Nat} (tier : Tier), Enough shorter turns fuel (tree.size + 1) →
    Enough shorter turns bound (tree.size + more) →
    Chains context shorter turns tier fuel bound more
      (tree.operandTokens tier.looseness) (guardedNesting tier.looseness tree tree.nesting)
      (tree.meaning context.host context.loopLimit turns)

section Operand

variable {context : Context σ} {shorter : Shorter} {turns allowed : Nat} {tree : Tree}
  {step : Eval σ Value}

/-- A tree that is tight enough is an operand without parentheses. -/
theorem Reads.operand
    (reads : Reads context shorter turns step allowed tree) (tight : tree.looseness ≤ allowed) :
    ReadsOperand context shorter turns step allowed tree := by
  unfold ReadsOperand operandTokens guarded guardedNesting
  rw [if_pos tight, if_pos tight]
  exact reads

/-- Parentheses lead back to the level of signed primaries. -/
theorem Reads.enclosed
    {fuel bound : Nat} (reads : Reads context shorter turns (expression context fuel) 5 tree)
    (enough : Enough shorter turns bound 1) (loose : ¬ tree.looseness ≤ allowed) :
    Handles context shorter
      (signed context (primary context (expression context fuel) fuel) bound) 0
      (tree.operandTokens allowed) (guardedNesting allowed tree tree.nesting)
      (tree.meaning context.host context.loopLimit turns) := by
  unfold operandTokens guarded guardedNesting
  rw [if_neg loose, if_neg loose]
  exact reads.enclose.signed_of_primary rfl (by decide) enough

end Operand

namespace Evaluates

variable {context : Context σ} {shorter : Shorter} {turns : Nat} {tree : Tree}

/-- A tree is read wherever it may stand if it is read where it needs no parentheses. -/
theorem of_bare
    (whole : ∀ {fuel : Nat}, Enough shorter turns fuel (tree.size + 1) →
      Reads context shorter turns (expression context fuel) 5 tree)
    (bareUnary : tree.looseness = 0 → ∀ {fuel bound : Nat},
      Enough shorter turns fuel (tree.size + 1) → Enough shorter turns bound (tree.size + 1) →
      Reads context shorter turns
        (signed context (primary context (expression context fuel) fuel) bound) 0 tree)
    (bare : ∀ {fuel allowed : Nat}, Enough shorter turns fuel (tree.size + 1) → allowed ≤ 5 →
      tree.looseness ≤ allowed →
      Reads context shorter turns (level context fuel allowed) allowed tree)
    (bareChain : ∀ {fuel bound more : Nat} (tier : Tier), tree.looseness = tier.looseness →
      Enough shorter turns fuel (tree.size + 1) → Enough shorter turns bound (tree.size + more) →
      Chains context shorter turns tier fuel bound more tree.tokens tree.nesting
        (tree.meaning context.host context.loopLimit turns)) :
    Evaluates context shorter turns tree := by
  have operand : ∀ {fuel allowed : Nat}, Enough shorter turns fuel (tree.size + 1) →
      allowed ≤ 5 →
      ReadsOperand context shorter turns (level context fuel allowed) allowed tree := by
    intro fuel allowed enough within
    by_cases tight : tree.looseness ≤ allowed
    · exact (bare enough within tight).operand tight
    · have one : Enough shorter turns fuel 1 := enough.mono (by omega)
      have bottom : Handles context shorter (level context fuel 0) 0 _ _ _ :=
        (whole enough).enclosed one tight
      exact (bottom.mono (Nat.zero_le allowed)).climb one (Nat.zero_le _) (Nat.le_refl _) within
  refine ⟨whole, ?_, operand, ?_⟩
  · intro fuel bound enough enoughBound
    by_cases tight : tree.looseness ≤ 0
    · exact (bareUnary (by omega) enough enoughBound).operand tight
    · exact (whole enough).enclosed (enoughBound.mono (by omega)) tight
  · intro fuel bound more tier enough enoughBound
    have positive := tier.one_le_looseness
    have small := tier.looseness_le
    by_cases own : tree.looseness = tier.looseness
    · unfold operandTokens guarded guardedNesting
      rw [if_pos (by omega), if_pos (by omega)]
      exact bareChain tier own enough enoughBound
    · -- a tree that is not of this tier is a single operand of it
      have tighter : tree.looseness ≤ tier.looseness ↔ tree.looseness ≤ tier.looseness - 1 := by
        omega
      have sameTokens :
          tree.operandTokens tier.looseness = tree.operandTokens (tier.looseness - 1) := by
        simp only [operandTokens, guarded, tighter]
      have sameNesting : guardedNesting tier.looseness tree tree.nesting =
          guardedNesting (tier.looseness - 1) tree tree.nesting := by
        simp only [guardedNesting, tighter]
      rw [sameTokens, sameNesting]
      exact (operand enough (by omega)).chains (enoughBound.mono (by omega))

/-- A tree is read as a whole if it is read at the loosest level. -/
theorem whole_of_level
    (reads : ∀ {fuel : Nat}, Enough shorter turns fuel tree.size →
      Reads context shorter turns (level context fuel 5) 5 tree)
    {fuel : Nat} (enough : Enough shorter turns fuel (tree.size + 1)) :
    Reads context shorter turns (expression context fuel) 5 tree := by
  cases fuel with
  | zero =>
      intro rest depth machine store _ _ _
      exact Matches.outOfFuel enough.eq_machine _
  | succ fuel => exact reads enough.pred

/-- A tree that no operator can pull apart is read everywhere if it is read behind signs. -/
theorem of_unary
    (tight : tree.looseness = 0)
    (bareUnary : ∀ {fuel bound : Nat},
      Enough shorter turns fuel tree.size → Enough shorter turns bound tree.size →
      Reads context shorter turns
        (signed context (primary context (expression context fuel) fuel) bound) 0 tree) :
    Evaluates context shorter turns tree := by
  have positive := tree.one_le_size
  have bare : ∀ {fuel allowed : Nat}, Enough shorter turns fuel tree.size → allowed ≤ 5 →
      Reads context shorter turns (level context fuel allowed) allowed tree := by
    intro fuel allowed enough within
    have bottom : Reads context shorter turns (level context fuel 0) 0 tree :=
      bareUnary enough enough
    exact (bottom.mono (Nat.zero_le allowed)).climb (enough.mono positive) (Nat.zero_le _)
      (Nat.le_refl _) within
  apply of_bare
  · exact whole_of_level fun enough => bare enough (Nat.le_refl _)
  · intro _ fuel bound enough enoughBound
    exact bareUnary (enough.mono (by omega)) (enoughBound.mono (by omega))
  · intro fuel allowed enough within _
    exact bare (enough.mono (by omega)) within
  · intro fuel bound more tier own _ _
    have := tier.one_le_looseness
    omega

/-- A tree that is a primary is read everywhere if it is read as one. -/
theorem of_primary
    (tight : tree.looseness = 0) {levels : Nat} (nested : tree.nesting = levels + 1)
    {kind : TokenKind} {text : String} {others : List Token}
    (first : tree.tokens = word kind text :: others) (unsigned : ¬ IsSign kind)
    (handles : ∀ {fuel : Nat}, Enough shorter turns fuel tree.size →
      Handles context shorter (primary context (expression context fuel) fuel) 0
        tree.tokens levels (tree.meaning context.host context.loopLimit turns)) :
    Evaluates context shorter turns tree := by
  apply of_unary tight
  intro fuel bound enough enoughBound
  unfold Reads
  rw [nested]
  exact (handles enough).signed_of_primary first unsigned (enoughBound.mono tree.one_le_size)

/-- A tree that stands in parentheses as an operand is read everywhere if it is read as a
primary. -/
theorem of_loose
    (loose : tree.looseness = 6) {levels : Nat} (nested : tree.nesting = levels + 1)
    {kind : TokenKind} {text : String} {others : List Token}
    (first : tree.tokens = word kind text :: others) (unsigned : ¬ IsSign kind)
    (handles : ∀ {fuel : Nat}, Enough shorter turns fuel tree.size →
      Handles context shorter (primary context (expression context fuel) fuel) 5
        tree.tokens levels (tree.meaning context.host context.loopLimit turns)) :
    Evaluates context shorter turns tree := by
  have positive := tree.one_le_size
  apply of_bare
  · apply whole_of_level
    intro fuel enough
    have one : Enough shorter turns fuel 1 := enough.mono positive
    have bottom : Handles context shorter (level context fuel 0) 5 _ _ _ :=
      (handles enough).signed_of_primary first unsigned one
    unfold Reads
    rw [nested]
    exact bottom.climb one (Nat.zero_le _) (Nat.le_refl _) (Nat.le_refl _)
  · intro tight
    omega
  · intro fuel allowed _ within tight
    omega
  · intro fuel bound more tier own _ _
    have := tier.looseness_le
    omega

/-- A sign and its operand. -/
theorem of_signed (sign : Sign) {operand : Tree}
    (evaluates : Evaluates context shorter turns operand) :
    Evaluates context shorter turns (.signed sign operand) := by
  apply of_unary rfl
  intro fuel bound enough enoughBound
  rw [size] at enough enoughBound
  unfold Reads
  rw [tokens, nesting, meaning]
  cases bound with
  | zero =>
      intro rest depth machine store _ _ _
      exact Matches.outOfFuel enoughBound.eq_machine _
  | succ bound =>
      have inner := evaluates.unary (enough.mono (by omega)) enoughBound.pred
      exact inner.sign sign

/-- An operator and its operands. -/
theorem of_binary (operator : Operator) {left right : Tree}
    (leftEvaluates : Evaluates context shorter turns left)
    (rightEvaluates : Evaluates context shorter turns right) :
    Evaluates context shorter turns (.binary operator left right) := by
  have positive := right.one_le_size
  have small := operator.tier.looseness_le
  have chains : ∀ {fuel bound more : Nat},
      Enough shorter turns fuel (binary operator left right).size →
      Enough shorter turns bound (left.size + (more + 1)) →
      Chains context shorter turns operator.tier fuel bound more
        (binary operator left right).tokens (binary operator left right).nesting
        ((binary operator left right).meaning context.host context.loopLimit turns) := by
    intro fuel bound more enough enoughBound
    rw [size] at enough
    rw [tokens, nesting, meaning]
    have first := leftEvaluates.chain operator.tier (enough.mono (by omega)) enoughBound
    have second : ReadsOperand context shorter turns
        (level context fuel (operator.tier.looseness - 1)) (operator.tier.looseness - 1) right :=
      rightEvaluates.operand (enough.mono (by omega)) (by omega)
    exact first.binary second
  have bare : ∀ {fuel allowed : Nat},
      Enough shorter turns fuel (binary operator left right).size → allowed ≤ 5 →
      (binary operator left right).looseness ≤ allowed →
      Reads context shorter turns (level context fuel allowed) allowed
        (binary operator left right) := by
    intro fuel allowed enough within tight
    have room : left.size + (1 + 1) ≤ (binary operator left right).size := by
      rw [size]
      omega
    have own := (chains enough (enough.mono room)).handles
    exact (own.mono tight).climb (enough.mono (one_le_size _)) tight (Nat.le_refl _) within
  apply of_bare
  · exact whole_of_level fun enough => bare enough (Nat.le_refl _) small
  · intro tight
    have := operator.tier.one_le_looseness
    simp only [looseness] at tight
    omega
  · intro fuel allowed enough within tight
    exact bare (enough.mono (by omega)) within tight
  · intro fuel bound more tier own enough enoughBound
    obtain rfl := Tier.eq_of_looseness_eq own
    exact chains (enough.mono (by omega)) (enoughBound.mono (by rw [size]; omega))

/-- An expression in parentheses. -/
theorem of_group {inner : Tree} (evaluates : Evaluates context shorter turns inner) :
    Evaluates context shorter turns (.group inner) := by
  apply of_primary rfl rfl rfl (by decide)
  intro fuel enough
  rw [size] at enough
  rw [tokens, meaning]
  exact (evaluates.whole (enough.mono (by omega))).enclose

end Evaluates

end Evaluation

end PugScript
