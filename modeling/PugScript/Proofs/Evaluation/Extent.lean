import PugScript.Proofs.Evaluation.Passing

/-!
# How far an expression extends

Two evaluations from the same place in the same tokens may differ in the variables, the host, the
preferences and the depth, and take different branches and numbers of turns. If both succeed they
end at the same place. The proof compares two runs construct by construct; where they take
different branches, both end where skipping the body ends.
-/

namespace PugScript

variable {σ₁ σ₂ α β : Type}

/-- Two steps from the same place end at the same place, whenever both succeed. -/
def SameExtent (first : Eval σ₁ α) (second : Eval σ₂ β) : Prop :=
  ∀ machine₁ machine₂ result₁ result₂ finish₁ finish₂,
    machine₁.remaining = machine₂.remaining →
    first machine₁ = .done result₁ finish₁ →
    second machine₂ = .done result₂ finish₂ →
    finish₁.remaining = finish₂.remaining

/-- Closed contexts show the same kind of token in front of the same tokens. -/
theorem Context.IsClosed.front_kind_eq
    {context₁ : Context σ₁} {context₂ : Context σ₂}
    (closed₁ : context₁.IsClosed) (closed₂ : context₂.IsClosed) (tokens : List Token) :
    (context₁.front tokens).kind = (context₂.front tokens).kind := by
  cases tokens with
  | nil => exact closed₁.trans closed₂.symm
  | cons token rest => rfl

namespace Evaluation

open Eval

variable {context₁ : Context σ₁} {context₂ : Context σ₂}

/-! ## Operators -/

/-- Operators are told by their tokens, so two chains end at the same place. -/
theorem applyTier_sameExtent
    (closed₁ : context₁.IsClosed) (closed₂ : context₂.IsClosed) (tier : Tier)
    {operand₁ : Eval σ₁ Value} {operand₂ : Eval σ₂ Value}
    (operands : SameExtent operand₁ operand₂)
    (fuel₁ fuel₂ : Nat) (left₁ left₂ : Value) :
    SameExtent (applyTier context₁ tier operand₁ fuel₁ left₁)
      (applyTier context₂ tier operand₂ fuel₂ left₂) := by
  induction fuel₁ generalizing fuel₂ left₁ left₂ with
  | zero =>
      intro _ _ _ _ _ _ _ done₁ _
      exact absurd done₁ exhausted_ne_done
  | succ fuel₁ inductionHypothesis =>
      cases fuel₂ with
      | zero =>
          intro _ _ _ _ _ _ _ _ done₂
          exact absurd done₂ exhausted_ne_done
      | succ fuel₂ =>
          intro machine₁ machine₂ _ _ finish₁ finish₂ sameCursor done₁ done₂
          have sameKind := closed₁.front_kind_eq closed₂ machine₁.remaining
          rcases (applyTier_succ_eq_done_iff closed₁).mp done₁ with
            ⟨refused₁, _, rfl⟩ |
            ⟨operator, rest, _, middle₁, _, cursor₁, accepts₁, operandDone₁, _, restDone₁⟩
          · rcases (applyTier_succ_eq_done_iff closed₂).mp done₂ with
              ⟨_, _, rfl⟩ | ⟨operator₂, _, _, _, _, cursor₂, accepts₂, _⟩
            · exact sameCursor
            · rw [sameKind, sameCursor, cursor₂, Context.front_cons, accepts₂] at refused₁
              cases refused₁
          · rcases (applyTier_succ_eq_done_iff closed₂).mp done₂ with
              ⟨refused₂, _, rfl⟩ |
              ⟨_, _, _, middle₂, _, cursor₂, _, operandDone₂, _, restDone₂⟩
            · rw [← sameCursor, ← sameKind, cursor₁, Context.front_cons, accepts₁] at refused₂
              cases refused₂
            · have sameTokens := cursor₁.symm.trans (sameCursor.trans cursor₂)
              cases sameTokens
              have sameMiddle := operands _ _ _ _ _ _ rfl operandDone₁ operandDone₂
              exact inductionHypothesis _ _ _ _ _ _ _ _ _ sameMiddle restDone₁ restDone₂

theorem tierOf_sameExtent
    (closed₁ : context₁.IsClosed) (closed₂ : context₂.IsClosed) (tier : Tier)
    (fuel₁ fuel₂ : Nat)
    {operand₁ : Eval σ₁ Value} {operand₂ : Eval σ₂ Value}
    (operands : SameExtent operand₁ operand₂) :
    SameExtent (tierOf context₁ tier fuel₁ operand₁) (tierOf context₂ tier fuel₂ operand₂) := by
  intro machine₁ machine₂ _ _ finish₁ finish₂ sameCursor done₁ done₂
  obtain ⟨left₁, middle₁, leftDone₁, restDone₁⟩ := tierOf_eq_done_iff.mp done₁
  obtain ⟨left₂, middle₂, leftDone₂, restDone₂⟩ := tierOf_eq_done_iff.mp done₂
  have sameMiddle := operands _ _ _ _ _ _ sameCursor leftDone₁ leftDone₂
  exact applyTier_sameExtent closed₁ closed₂ tier operands fuel₁ fuel₂ left₁ left₂
    _ _ _ _ _ _ sameMiddle restDone₁ restDone₂

theorem signed_sameExtent
    (closed₁ : context₁.IsClosed) (closed₂ : context₂.IsClosed)
    {primary₁ : Eval σ₁ Value} {primary₂ : Eval σ₂ Value}
    (primaries : SameExtent primary₁ primary₂) (fuel₁ fuel₂ : Nat) :
    SameExtent (signed context₁ primary₁ fuel₁) (signed context₂ primary₂ fuel₂) := by
  induction fuel₁ generalizing fuel₂ with
  | zero =>
      intro _ _ _ _ _ _ _ done₁ _
      exact absurd done₁ exhausted_ne_done
  | succ fuel₁ inductionHypothesis =>
      cases fuel₂ with
      | zero =>
          intro _ _ _ _ _ _ _ _ done₂
          exact absurd done₂ exhausted_ne_done
      | succ fuel₂ =>
          intro machine₁ machine₂ _ _ finish₁ finish₂ sameCursor done₁ done₂
          have sameKind := closed₁.front_kind_eq closed₂ machine₁.remaining
          obtain ⟨_, form₁⟩ := (signed_succ_eq_done_iff closed₁).mp done₁
          obtain ⟨_, form₂⟩ := (signed_succ_eq_done_iff closed₂).mp done₂
          rcases form₁ with
            ⟨sign, rest, _, middle₁, cursor₁, isSign₁, operandDone₁, _, rfl⟩ |
            ⟨noSign₁, middle₁, primaryDone₁, rfl⟩
          · rcases form₂ with
              ⟨_, _, _, middle₂, cursor₂, _, operandDone₂, _, rfl⟩ | ⟨noSign₂, _⟩
            · have sameTokens := cursor₁.symm.trans (sameCursor.trans cursor₂)
              cases sameTokens
              have sameMiddle := inductionHypothesis fuel₂ (machine₁.facing rest).deeper
                (machine₂.facing rest).deeper _ _ _ _ rfl operandDone₁ operandDone₂
              exact sameMiddle
            · rw [← sameCursor, ← sameKind, cursor₁] at noSign₂
              exact absurd isSign₁ noSign₂
          · rcases form₂ with
              ⟨_, _, _, _, cursor₂, isSign₂, _⟩ | ⟨_, middle₂, primaryDone₂, rfl⟩
            · rw [sameKind, sameCursor, cursor₂] at noSign₁
              exact absurd isSign₂ noSign₁
            · have sameMiddle := primaries machine₁.deeper machine₂.deeper _ _ _ _ sameCursor
                primaryDone₁ primaryDone₂
              exact sameMiddle

theorem expressionOf_sameExtent
    (closed₁ : context₁.IsClosed) (closed₂ : context₂.IsClosed) (fuel₁ fuel₂ : Nat)
    {primary₁ : Eval σ₁ Value} {primary₂ : Eval σ₂ Value}
    (primaries : SameExtent primary₁ primary₂) :
    SameExtent (expressionOf context₁ fuel₁ primary₁) (expressionOf context₂ fuel₂ primary₂) := by
  unfold expressionOf
  iterate 5 apply tierOf_sameExtent closed₁ closed₂
  exact signed_sameExtent closed₁ closed₂ primaries fuel₁ fuel₂

/-! ## Names and calls -/

section Nested

variable {expression₁ : Eval σ₁ Value} {expression₂ : Eval σ₂ Value}
  (expressions : SameExtent expression₁ expression₂)

include expressions

theorem declaration_sameEnd
    (closed₁ : context₁.IsClosed) (closed₂ : context₂.IsClosed)
    {machine₁ finish₁ : Machine σ₁} {machine₂ finish₂ : Machine σ₂} {value₁ value₂ : Value}
    {token : Token} {rest : List Token}
    (cursor₁ : machine₁.remaining = token :: rest)
    (cursor₂ : machine₂.remaining = token :: rest)
    (done₁ : declaration context₁ expression₁ machine₁ = .done value₁ finish₁)
    (done₂ : declaration context₂ expression₂ machine₂ = .done value₂ finish₂) :
    finish₁.remaining = finish₂.remaining := by
  obtain ⟨name, after, _, rfl, _, _, form₁⟩ := (declaration_eq_done_iff closed₁ cursor₁).mp done₁
  obtain ⟨_, _, _, same, _, _, form₂⟩ := (declaration_eq_done_iff closed₂ cursor₂).mp done₂
  cases same
  have sameKind := closed₁.front_kind_eq closed₂ after
  rcases form₁ with
    ⟨bare₁, _, rfl⟩ | ⟨assign, initializer, _, middle₁, rfl, isAssign, initialDone₁, _, rfl⟩
  · rcases form₂ with ⟨_, _, rfl⟩ | ⟨assign, initializer, _, _, rfl, isAssign, _⟩
    · rfl
    · exact absurd isAssign bare₁
  · rcases form₂ with ⟨bare₂, _⟩ | ⟨_, _, _, middle₂, same, _, initialDone₂, _, rfl⟩
    · exact absurd isAssign bare₂
    · cases same
      have sameMiddle := expressions _ _ _ _ _ _ rfl initialDone₁ initialDone₂
      exact sameMiddle

theorem identifier_sameEnd
    (closed₁ : context₁.IsClosed) (closed₂ : context₂.IsClosed)
    {machine₁ finish₁ : Machine σ₁} {machine₂ finish₂ : Machine σ₂} {value₁ value₂ : Value}
    {token : Token} {rest : List Token}
    (cursor₁ : machine₁.remaining = token :: rest)
    (cursor₂ : machine₂.remaining = token :: rest)
    (done₁ : identifier context₁ expression₁ machine₁ = .done value₁ finish₁)
    (done₂ : identifier context₂ expression₂ machine₂ = .done value₂ finish₂) :
    finish₁.remaining = finish₂.remaining := by
  rcases (identifier_eq_done_iff closed₁ cursor₁).mp done₁ with
    ⟨reads₁, _, rfl⟩ | ⟨assign, after, middle₁, _, rfl, isAssign, valueDone₁, _, rfl⟩
  · rcases (identifier_eq_done_iff closed₂ cursor₂).mp done₂ with
      ⟨_, _, rfl⟩ | ⟨assign, after, _, _, rfl, isAssign, _⟩
    · rfl
    · exact absurd isAssign reads₁
  · rcases (identifier_eq_done_iff closed₂ cursor₂).mp done₂ with
      ⟨reads₂, _⟩ | ⟨_, _, middle₂, _, same, _, valueDone₂, _, rfl⟩
    · exact absurd isAssign reads₂
    · cases same
      have sameMiddle := expressions _ _ _ _ _ _ rfl valueDone₁ valueDone₂
      exact sameMiddle

theorem moreArguments_sameExtent
    (closed₁ : context₁.IsClosed) (closed₂ : context₂.IsClosed)
    (function₁ function₂ : Token) (fuel₁ fuel₂ : Nat) (arguments₁ arguments₂ : List Value) :
    SameExtent (moreArguments context₁ function₁ expression₁ fuel₁ arguments₁)
      (moreArguments context₂ function₂ expression₂ fuel₂ arguments₂) := by
  induction fuel₁ generalizing fuel₂ arguments₁ arguments₂ with
  | zero =>
      intro _ _ _ _ _ _ _ done₁ _
      exact absurd done₁ exhausted_ne_done
  | succ fuel₁ inductionHypothesis =>
      cases fuel₂ with
      | zero =>
          intro _ _ _ _ _ _ _ _ done₂
          exact absurd done₂ exhausted_ne_done
      | succ fuel₂ =>
          intro machine₁ machine₂ _ _ finish₁ finish₂ sameCursor done₁ done₂
          have sameKind := closed₁.front_kind_eq closed₂ machine₁.remaining
          rcases (moreArguments_succ_eq_done_iff closed₁).mp done₁ with
            ⟨noComma₁, _, rfl⟩ |
            ⟨comma, rest, _, middle₁, cursor₁, isComma, _, argumentDone₁, restDone₁⟩
          · rcases (moreArguments_succ_eq_done_iff closed₂).mp done₂ with
              ⟨_, _, rfl⟩ | ⟨_, _, _, _, cursor₂, isComma, _⟩
            · exact sameCursor
            · rw [sameKind, sameCursor, cursor₂] at noComma₁
              exact absurd isComma noComma₁
          · rcases (moreArguments_succ_eq_done_iff closed₂).mp done₂ with
              ⟨noComma₂, _⟩ | ⟨_, _, _, middle₂, cursor₂, _, _, argumentDone₂, restDone₂⟩
            · rw [← sameCursor, ← sameKind, cursor₁] at noComma₂
              exact absurd isComma noComma₂
            · have sameTokens := cursor₁.symm.trans (sameCursor.trans cursor₂)
              cases sameTokens
              have sameMiddle := expressions _ _ _ _ _ _ rfl argumentDone₁ argumentDone₂
              exact inductionHypothesis _ _ _ _ _ _ _ _ _ sameMiddle restDone₁ restDone₂

theorem arguments_sameExtent
    (closed₁ : context₁.IsClosed) (closed₂ : context₂.IsClosed)
    (function₁ function₂ : Token) (fuel₁ fuel₂ : Nat) :
    SameExtent (arguments context₁ function₁ expression₁ fuel₁)
      (arguments context₂ function₂ expression₂ fuel₂) := by
  intro machine₁ machine₂ _ _ finish₁ finish₂ sameCursor done₁ done₂
  have sameKind := closed₁.front_kind_eq closed₂ machine₁.remaining
  rcases arguments_eq_done_iff.mp done₁ with
    ⟨closes₁, _, rfl⟩ | ⟨goesOn₁, first₁, middle₁, firstDone₁, restDone₁⟩
  · rcases arguments_eq_done_iff.mp done₂ with ⟨_, _, rfl⟩ | ⟨goesOn₂, _⟩
    · exact sameCursor
    · rw [← sameCursor, ← sameKind] at goesOn₂
      exact absurd closes₁ goesOn₂
  · rcases arguments_eq_done_iff.mp done₂ with
      ⟨closes₂, _⟩ | ⟨_, first₂, middle₂, firstDone₂, restDone₂⟩
    · rw [← sameCursor, ← sameKind] at closes₂
      exact absurd closes₂ goesOn₁
    · have sameMiddle := expressions _ _ _ _ _ _ sameCursor firstDone₁ firstDone₂
      exact moreArguments_sameExtent expressions closed₁ closed₂ function₁ function₂ fuel₁ fuel₂
        _ _ _ _ _ _ _ _ sameMiddle restDone₁ restDone₂

theorem call_sameEnd
    (closed₁ : context₁.IsClosed) (closed₂ : context₂.IsClosed) {fuel₁ fuel₂ : Nat}
    {machine₁ finish₁ : Machine σ₁} {machine₂ finish₂ : Machine σ₂} {value₁ value₂ : Value}
    {token : Token} {rest : List Token}
    (cursor₁ : machine₁.remaining = token :: rest)
    (cursor₂ : machine₂.remaining = token :: rest)
    (done₁ : call context₁ expression₁ fuel₁ machine₁ = .done value₁ finish₁)
    (done₂ : call context₂ expression₂ fuel₂ machine₂ = .done value₂ finish₂) :
    finish₁.remaining = finish₂.remaining := by
  obtain ⟨_, inside, _, middle₁, _, after₁, _, rfl, _, argumentsDone₁, cursorClosing₁, _, _, rfl⟩ :=
    (call_eq_done_iff closed₁ cursor₁).mp done₁
  obtain ⟨_, _, _, middle₂, _, after₂, _, same, _, argumentsDone₂, cursorClosing₂, _, _, rfl⟩ :=
    (call_eq_done_iff closed₂ cursor₂).mp done₂
  cases same
  have sameMiddle := arguments_sameExtent expressions closed₁ closed₂ token token fuel₁ fuel₂
    (machine₁.facing inside) (machine₂.facing inside) _ _ _ _ rfl argumentsDone₁ argumentsDone₂
  rw [cursorClosing₁, cursorClosing₂] at sameMiddle
  cases sameMiddle
  rfl

theorem parenthesised_sameEnd
    (closed₁ : context₁.IsClosed) (closed₂ : context₂.IsClosed)
    {machine₁ finish₁ : Machine σ₁} {machine₂ finish₂ : Machine σ₂} {value₁ value₂ : Value}
    {token : Token} {rest : List Token}
    (cursor₁ : machine₁.remaining = token :: rest)
    (cursor₂ : machine₂.remaining = token :: rest)
    (done₁ : parenthesised context₁ expression₁ machine₁ = .done value₁ finish₁)
    (done₂ : parenthesised context₂ expression₂ machine₂ = .done value₂ finish₂) :
    finish₁.remaining = finish₂.remaining := by
  obtain ⟨middle₁, _, after₁, innerDone₁, cursorClosing₁, _, rfl⟩ :=
    (parenthesised_eq_done_iff closed₁ cursor₁).mp done₁
  obtain ⟨middle₂, _, after₂, innerDone₂, cursorClosing₂, _, rfl⟩ :=
    (parenthesised_eq_done_iff closed₂ cursor₂).mp done₂
  have sameMiddle := expressions (machine₁.facing rest) (machine₂.facing rest) _ _ _ _ rfl
    innerDone₁ innerDone₂
  rw [cursorClosing₁, cursorClosing₂] at sameMiddle
  cases sameMiddle
  rfl

/-! ## Blocks -/

theorem condition_sameExtent :
    SameExtent (condition context₁ expression₁) (condition context₂ expression₂) := by
  intro machine₁ machine₂ _ _ finish₁ finish₂ sameCursor done₁ done₂
  obtain ⟨value₁, valueDone₁, _⟩ := condition_eq_done_iff.mp done₁
  obtain ⟨value₂, valueDone₂, _⟩ := condition_eq_done_iff.mp done₂
  exact expressions _ _ _ _ _ _ sameCursor valueDone₁ valueDone₂

/-- Whichever branches the two runs evaluate, their `if` blocks end at the same `end`. -/
theorem ifBlock_sameEnd
    (passes₁ : expression₁.PassesInert) (passes₂ : expression₂.PassesInert)
    (closed₁ : context₁.IsClosed) (closed₂ : context₂.IsClosed) {fuel₁ fuel₂ : Nat}
    {machine₁ finish₁ : Machine σ₁} {machine₂ finish₂ : Machine σ₂} {value₁ value₂ : Value}
    {token : Token} {rest : List Token}
    (cursor₁ : machine₁.remaining = token :: rest)
    (cursor₂ : machine₂.remaining = token :: rest)
    (done₁ : ifBlock context₁ expression₁ fuel₁ machine₁ = .done value₁ finish₁)
    (done₂ : ifBlock context₂ expression₂ fuel₂ machine₂ = .done value₂ finish₂) :
    finish₁.remaining = finish₂.remaining := by
  obtain ⟨_, middle₁, reached₁, _, after₁, conditionDone₁, branchesDone₁, cursorClosing₁, _, _,
    rfl⟩ := (ifBlock_eq_done_iff closed₁ cursor₁).mp done₁
  obtain ⟨_, middle₂, reached₂, _, after₂, conditionDone₂, branchesDone₂, cursorClosing₂, _, _,
    rfl⟩ := (ifBlock_eq_done_iff closed₂ cursor₂).mp done₂
  have sameMiddle := condition_sameExtent expressions (machine₁.facing rest)
    (machine₂.facing rest) _ _ _ _ rfl conditionDone₁ conditionDone₂
  have end₁ := (passed_of_branches passes₁ closed₁ branchesDone₁).2.1
  have end₂ := (passed_of_branches passes₂ closed₂ branchesDone₂).2.1
  rw [cursorClosing₁, sameMiddle] at end₁
  rw [cursorClosing₂, ← end₁] at end₂
  cases end₂
  rfl

/-- However often the two runs go round, their loops end at the same `end`. -/
theorem whileBlock_sameEnd
    (closed₁ : context₁.IsClosed) (closed₂ : context₂.IsClosed) {fuel₁ fuel₂ : Nat}
    {machine₁ finish₁ : Machine σ₁} {machine₂ finish₂ : Machine σ₂} {value₁ value₂ : Value}
    {token : Token} {start : List Token}
    (cursor₁ : machine₁.remaining = token :: start)
    (cursor₂ : machine₂.remaining = token :: start)
    (done₁ : whileBlock context₁ expression₁ fuel₁ machine₁ = .done value₁ finish₁)
    (done₂ : whileBlock context₂ expression₂ fuel₂ machine₂ = .done value₂ finish₂) :
    finish₁.remaining = finish₂.remaining := by
  obtain ⟨_, reached₁, _, after₁, loopDone₁, skipped₁, _, _, rfl⟩ :=
    (whileBlock_eq_done_iff closed₁ cursor₁).mp done₁
  obtain ⟨_, reached₂, _, after₂, loopDone₂, skipped₂, _, _, rfl⟩ :=
    (whileBlock_eq_done_iff closed₂ cursor₂).mp done₂
  obtain ⟨last₁, atStart₁, testDone₁⟩ :=
    exists_last_of_iterate loopDone₁ (fun before => before.remaining = start)
      (fun _ _ _ _ _ _ _ => rfl) rfl
  obtain ⟨last₂, atStart₂, testDone₂⟩ :=
    exists_last_of_iterate loopDone₂ (fun before => before.remaining = start)
      (fun _ _ _ _ _ _ _ => rfl) rfl
  have sameReached := condition_sameExtent expressions _ _ _ _ _ _
    (atStart₁.trans atStart₂.symm) testDone₁ testDone₂
  rw [sameReached, skipped₂] at skipped₁
  cases skipped₁
  rfl

/-- The tokens decide where a primary ends. For the blocks this needs that a body passes over inert
tokens, since a branch may be evaluated in one run and passed over in the other. -/
theorem primary_sameExtent
    (passes₁ : expression₁.PassesInert) (passes₂ : expression₂.PassesInert)
    (closed₁ : context₁.IsClosed) (closed₂ : context₂.IsClosed) (fuel₁ fuel₂ : Nat) :
    SameExtent (primary context₁ expression₁ fuel₁) (primary context₂ expression₂ fuel₂) := by
  intro machine₁ machine₂ value₁ value₂ finish₁ finish₂ sameCursor done₁ done₂
  have opened₂ := done₂
  rw [primary, bind_current] at opened₂
  apply primary_done_cases closed₁ done₁
  all_goals
    intro token rest cursor₁ kindOf formDone₁
    have cursor₂ := sameCursor.symm.trans cursor₁
    rw [cursor₂, Context.front_cons] at opened₂
  · rw [kindOf] at opened₂
    exact declaration_sameEnd expressions closed₁ closed₂ cursor₁ cursor₂ formDone₁ opened₂
  · rw [kindOf] at opened₂
    exact identifier_sameEnd expressions closed₁ closed₂ cursor₁ cursor₂ formDone₁ opened₂
  · rw [kindOf] at opened₂
    exact call_sameEnd expressions closed₁ closed₂ cursor₁ cursor₂ formDone₁ opened₂
  · have literalDone₂ : literal token machine₂ = .done value₂ finish₂ := by
      rcases kindOf with isNumber | isString | isBool
      · rw [isNumber] at opened₂
        exact opened₂
      · rw [isString] at opened₂
        exact opened₂
      · rw [isBool] at opened₂
        exact opened₂
    obtain ⟨_, rfl⟩ := literal_eq_done_iff.mp formDone₁
    obtain ⟨_, rfl⟩ := literal_eq_done_iff.mp literalDone₂
    rw [Machine.facing_remaining, Machine.facing_remaining, sameCursor]
  · rw [kindOf] at opened₂
    exact parenthesised_sameEnd expressions closed₁ closed₂ cursor₁ cursor₂ formDone₁ opened₂
  · rw [kindOf] at opened₂
    exact ifBlock_sameEnd expressions passes₁ passes₂ closed₁ closed₂ cursor₁ cursor₂
      formDone₁ opened₂
  · rw [kindOf] at opened₂
    exact whileBlock_sameEnd expressions closed₁ closed₂ cursor₁ cursor₂ formDone₁ opened₂

end Nested

/-- Any two successful evaluations of an expression from the same place end at the same place. -/
theorem expression_sameExtent
    (closed₁ : context₁.IsClosed) (closed₂ : context₂.IsClosed) (fuel₁ fuel₂ : Nat) :
    SameExtent (expression context₁ fuel₁) (expression context₂ fuel₂) := by
  induction fuel₁ generalizing fuel₂ with
  | zero =>
      intro _ _ _ _ _ _ _ done₁ _
      exact absurd done₁ exhausted_ne_done
  | succ fuel₁ inductionHypothesis =>
      cases fuel₂ with
      | zero =>
          intro _ _ _ _ _ _ _ _ done₂
          exact absurd done₂ exhausted_ne_done
      | succ fuel₂ =>
          have primaries := primary_sameExtent (inductionHypothesis fuel₂)
            (expression_passesInert closed₁ fuel₁) (expression_passesInert closed₂ fuel₂)
            closed₁ closed₂ fuel₁ fuel₂
          exact expressionOf_sameExtent closed₁ closed₂ fuel₁ fuel₂ primaries

/-! ## The extent of conditions and blocks -/

/-- The machines in front of which a loop tests its condition: the one that reaches the loop, and
after each turn the one that has gone back to the condition. -/
inductive ReachesTest {σ : Type} (test : Eval σ Bool) (body : Eval σ TokenKind)
    (start : Machine σ) : Machine σ → Prop
  | first : ReachesTest test body start start
  | next {before middle reached : Machine σ} {stop : TokenKind} :
      ReachesTest test body start before →
      test before = .done true middle →
      body middle = .done stop reached →
      ReachesTest test body start (reached.facing start.remaining)

/-- Every test of the condition starts at the same place. -/
theorem ReachesTest.remaining_eq
    {σ : Type} {test : Eval σ Bool} {body : Eval σ TokenKind} {start before : Machine σ}
    (reaches : ReachesTest test body start before) :
    before.remaining = start.remaining := by
  cases reaches with
  | first => rfl
  | next _ _ _ => rfl

/-- How far expressions, conditions and `if` blocks extend is decided by the tokens alone. -/
theorem extent_decided_by_tokens
    (host₁ : Host σ₁) (host₂ : Host σ₂) (preferences₁ preferences₂ : EvaluationPreferences)
    (tokens : List Token) (fuel₁ fuel₂ : Nat) (machine₁ : Machine σ₁) (machine₂ : Machine σ₂)
    (sameCursor : machine₁.remaining = machine₂.remaining) :
    let context₁ := contextOf host₁ preferences₁ tokens
    let context₂ := contextOf host₂ preferences₂ tokens
    (∀ value₁ value₂ finish₁ finish₂,
      expression context₁ fuel₁ machine₁ = .done value₁ finish₁ →
      expression context₂ fuel₂ machine₂ = .done value₂ finish₂ →
        finish₁.remaining = finish₂.remaining) ∧
    (∀ body₁ body₂ before₁ before₂ truth₁ truth₂ finish₁ finish₂,
      ReachesTest (condition context₁ (expression context₁ fuel₁)) body₁ machine₁ before₁ →
      ReachesTest (condition context₂ (expression context₂ fuel₂)) body₂ machine₂ before₂ →
      condition context₁ (expression context₁ fuel₁) before₁ = .done truth₁ finish₁ →
      condition context₂ (expression context₂ fuel₂) before₂ = .done truth₂ finish₂ →
        finish₁.remaining = finish₂.remaining) ∧
    (∀ keyword rest blockFuel₁ blockFuel₂ value₁ value₂ finish₁ finish₂,
      machine₁.remaining = keyword :: rest →
      ifBlock context₁ (expression context₁ fuel₁) blockFuel₁ machine₁ = .done value₁ finish₁ →
      ifBlock context₂ (expression context₂ fuel₂) blockFuel₂ machine₂ = .done value₂ finish₂ →
        ∃ inside closing,
          rest = inside ++ closing :: finish₁.remaining ∧
          closing.kind = .endWord ∧
          finish₁.remaining = finish₂.remaining) := by
  intro context₁ context₂
  have closed₁ : context₁.IsClosed := contextOf_isClosed host₁ preferences₁ tokens
  have closed₂ : context₂.IsClosed := contextOf_isClosed host₂ preferences₂ tokens
  have expressions : SameExtent (expression context₁ fuel₁) (expression context₂ fuel₂) :=
    expression_sameExtent closed₁ closed₂ fuel₁ fuel₂
  have passes₁ := expression_passesInert closed₁ fuel₁
  have passes₂ := expression_passesInert closed₂ fuel₂
  refine ⟨?_, ?_, ?_⟩
  · intro value₁ value₂ finish₁ finish₂ done₁ done₂
    exact expressions _ _ _ _ _ _ sameCursor done₁ done₂
  · intro body₁ body₂ before₁ before₂ truth₁ truth₂ finish₁ finish₂ reaches₁ reaches₂ done₁ done₂
    have sameStart : before₁.remaining = before₂.remaining := by
      rw [reaches₁.remaining_eq, reaches₂.remaining_eq, sameCursor]
    exact condition_sameExtent expressions _ _ _ _ _ _ sameStart done₁ done₂
  · intro keyword rest blockFuel₁ blockFuel₂ value₁ value₂ finish₁ finish₂ cursor₁ done₁ done₂
    have cursor₂ : machine₂.remaining = keyword :: rest := sameCursor.symm.trans cursor₁
    have sameEnd := ifBlock_sameEnd expressions passes₁ passes₂ closed₁ closed₂ cursor₁ cursor₂
      done₁ done₂
    obtain ⟨_, middle, reached, closing, after, conditionDone, branchesDone, cursorClosing,
      isClosing, _, rfl⟩ := (ifBlock_eq_done_iff closed₁ cursor₁).mp done₁
    obtain ⟨_, passedCondition, splitCondition, _⟩ :=
      condition_passesInert passes₁ _ _ _ conditionDone
    obtain ⟨_, reachedEnd, inside, stop, following, split, ends, _, _⟩ :=
      passed_of_branches passes₁ closed₁ branchesDone
    rw [ends, cursorClosing] at reachedEnd
    cases reachedEnd
    refine ⟨passedCondition ++ inside, closing, ?_, isClosing, sameEnd⟩
    rw [Machine.facing_remaining] at splitCondition
    rw [splitCondition, split, List.append_assoc]
    rfl

/-- The tokens of `if flag "a" else "b" end "c"`. -/
def dividedTokens : List Token :=
  [⟨.ifWord, "if", 0⟩, ⟨.identifier, "flag", 3⟩, ⟨.string, "a", 8⟩, ⟨.elseWord, "else", 12⟩,
    ⟨.string, "b", 17⟩, ⟨.endWord, "end", 21⟩, ⟨.string, "c", 25⟩, ⟨.endOfInput, "", 28⟩]

/-- The machine in front of `dividedTokens` with the given value for the condition. -/
def dividedMachine (flag : Bool) : Machine (MemoryHost Nat) :=
  initialMachine dividedTokens ⟨[("flag", .bool flag)]⟩ (.seeded 0)

theorem extent_of_dividedTokens :
    let context := contextOf seededHost {} dividedTokens
    let ends := fun flag => (dividedMachine flag).facing (dividedTokens.drop 6)
    ifBlock context (expression context 2) 2 (dividedMachine true) =
      .done (.bool true) (ends true) ∧
    ifBlock context (expression context 2) 2 (dividedMachine false) =
      .done (.bool false) (ends false) ∧
    ∃ inside closing,
      dividedTokens.tail = inside ++ closing :: (ends true).remaining ∧
      closing.kind = .endWord ∧
      (ends true).remaining = (ends false).remaining := by
  intro context ends
  have whenTrue :
      ifBlock context (expression context 2) 2 (dividedMachine true) =
        .done (.bool true) (ends true) := by
    cbv
  have whenFalse :
      ifBlock context (expression context 2) 2 (dividedMachine false) =
        .done (.bool false) (ends false) := by
    cbv
  exact ⟨whenTrue, whenFalse,
    (extent_decided_by_tokens seededHost seededHost {} {} dividedTokens 2 2
      (dividedMachine true) (dividedMachine false) rfl).2.2
      _ _ 2 2 _ _ _ _ rfl whenTrue whenFalse⟩

end Evaluation

end PugScript
