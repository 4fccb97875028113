import PugScript.Proofs.Program.Operands

/-!
# Literals, names and calls

The evaluator does what the meaning says for literals, variables, declarations and calls, provided
it does so for the expressions in them.
-/

namespace PugScript

/-! ## The store -/

namespace Meaning

variable {σ α : Type}

theorem readVariable_apply (name : String) (store : Store σ) :
    readVariable name store =
      match store.bindings.get? name with
      | some value => some (.ok value, store)
      | none => some (.error (.unknownIdentifier name), store) := by
  change (match store.bindings.get? name with
    | some value => (pure value : Meaning σ Value)
    | none => throw (EvaluationFault.unknownIdentifier name)) store = _
  cases store.bindings.get? name <;> rfl

theorem assignVariable_apply (name : String) (value : Value) (store : Store σ) :
    assignVariable name value store =
      match store.bindings.assign? name value with
      | some bindings => some (.ok value, { store with bindings })
      | none => some (.error (.unknownIdentifier name), store) := by
  unfold assignVariable
  change (match store.bindings.assign? name value with
    | some bindings => (do
        modify fun (store : Store σ) => { store with bindings }
        return value : Meaning σ Value)
    | none => throw (EvaluationFault.unknownIdentifier name)) store = _
  cases store.bindings.assign? name value <;> rfl

theorem declareVariable_bind_apply
    (name : String) (value : Value) (next : Unit → Meaning σ α) (store : Store σ) :
    (declareVariable name value >>= next) store =
      next () { store with bindings := store.bindings.declare name value } :=
  rfl

theorem typeOf_bind_apply
    (typeName : String) (next : DataType → Meaning σ α) (store : Store σ) :
    (typeOf typeName >>= next) store =
      match DataType.ofName? typeName with
      | some dataType => next dataType store
      | none => some (.error (.value (.unknownType typeName)), store) := by
  unfold typeOf
  cases DataType.ofName? typeName <;> rfl

end Meaning

namespace Machine.Stands

variable {σ : Type} {machine : Machine σ} {tokens : List Token} {depth : Nat} {store : Store σ}

theorem bindings (stands : machine.Stands tokens depth store) :
    machine.bindings = store.bindings :=
  congrArg Store.bindings stands.store

theorem world (stands : machine.Stands tokens depth store) : machine.world = store.world :=
  congrArg Store.world stands.store

theorem declare (stands : machine.Stands tokens depth store) (name : String) (value : Value) :
    (machine.declare name value).Stands tokens depth
      { store with bindings := store.bindings.declare name value } := by
  refine ⟨stands.remaining, stands.depth, ?_⟩
  rw [← stands.store]
  rfl

end Machine.Stands

namespace Evaluation

open Eval Meaning PugScript.Tree

variable {σ : Type} {context : Context σ} {shorter : Shorter} {turns : Nat}

/-! ## Literals -/

/-- Kinds of literals. -/
def IsLiteral (kind : TokenKind) : Prop :=
  kind = .number ∨ kind = .string ∨ kind = .bool

/-- A literal is read as it stands. -/
theorem literal_handles
    {kind : TokenKind} (isLiteral : IsLiteral kind) (text : String) (fuel : Nat) :
    Handles context shorter (primary context (expression context fuel) fuel) 0 [word kind text] 0
      (ofExcept ((Value.ofLiteral (word kind text)).mapError .value)) := by
  intro rest depth machine store _ _ stands
  rw [List.singleton_append] at stands
  have isPrimary : primary context (expression context fuel) fuel machine =
      literal (word kind text) machine := by
    rw [primary, bind_current, stands.front]
    rcases isLiteral with rfl | rfl | rfl <;> rfl
  rw [isPrimary, literal, bind_advance]
  exact Matches.ofExcept (fun _ => EvaluationFault.isPlaceless_of_mapError_value) _ stands.tail

theorem evaluates_number (text : String) : Evaluates context shorter turns (.number text) := by
  apply Evaluates.of_primary rfl rfl rfl (by decide)
  intro fuel _
  have sameMeaning : (number text).meaning context.host context.loopLimit turns =
      ofExcept ((Value.ofLiteral (word .number text)).mapError .value) := by
    simp only [meaning, Value.ofLiteral, word]
    cases Decimal.readFloat? text <;> rfl
  rw [sameMeaning]
  exact literal_handles (.inl rfl) text fuel

theorem evaluates_truth (value : Bool) : Evaluates context shorter turns (.truth value) := by
  apply Evaluates.of_primary rfl rfl rfl (by decide)
  intro fuel _
  have sameMeaning : (truth value).meaning context.host context.loopLimit turns =
      ofExcept ((Value.ofLiteral (word .bool (if value then "true" else "false"))).mapError
        .value) := by
    cases value <;> rfl
  rw [sameMeaning]
  exact literal_handles (.inr (.inr rfl)) _ fuel

theorem evaluates_quote (content : String) : Evaluates context shorter turns (.quote content) := by
  apply Evaluates.of_primary rfl rfl rfl (by decide)
  intro fuel _
  exact literal_handles (.inr (.inl rfl)) content fuel

/-! ## Variables -/

theorem evaluates_read (name : String) : Evaluates context shorter turns (.read name) := by
  apply Evaluates.of_primary rfl rfl rfl (by decide)
  intro fuel _ rest depth machine store follows _ stands
  rw [tokens, List.singleton_append] at stands
  rw [primary, bind_current, stands.front, meaning, readVariable_apply]
  change Matches shorter _ (identifier context (expression context fuel) machine) _
  rw [identifier, bind_current, bind_advance, bind_current, stands.front, stands.tail.remaining,
    if_neg follows.not_assign, bind_getVariable?, stands.tail.bindings]
  change Matches shorter _ ((match store.bindings.get? name with
    | some value => (pure value : Eval σ Value)
    | none => fail (.unknownIdentifier name) (word .identifier name)) _) _
  cases store.bindings.get? name with
  | none => exact ⟨rfl, trivial, stands.store⟩
  | some value => exact ⟨rfl, stands.tail⟩

theorem assignVariable_matches
    {name : String} {value : Value} {machine : Machine σ} {tokens : List Token} {depth : Nat}
    {store : Store σ} (stands : machine.Stands tokens depth store) (token : Token) :
    Matches shorter (Reaches tokens depth)
      ((do
        if ← Eval.assignVariable name value then
          return value
        else
          fail (.unknownIdentifier name) token : Eval σ Value) machine)
      (Meaning.assignVariable name value store) := by
  rw [assignVariable_apply]
  change Matches shorter _ (Eval.bind (Eval.assignVariable name value) _ machine) _
  unfold Eval.bind Eval.assignVariable
  rw [stands.bindings]
  cases store.bindings.assign? name value with
  | none => exact ⟨rfl, trivial, stands.store⟩
  | some bindings =>
      refine ⟨rfl, stands.remaining, stands.depth, ?_⟩
      rw [← stands.store]
      rfl

theorem evaluates_assign
    (name : String) {value : Tree} (evaluates : Evaluates context shorter turns value) :
    Evaluates context shorter turns (.assign name value) := by
  apply Evaluates.of_loose rfl rfl rfl (by decide)
  intro fuel enough rest depth machine store follows deep stands
  rw [size] at enough
  rw [tokens, List.cons_append, List.cons_append] at stands
  rw [primary, bind_current, stands.front, meaning]
  change Matches shorter _ (identifier context (expression context fuel) machine) _
  have isAssign : (word .assign "=").kind = .assign := rfl
  rw [identifier, bind_current, bind_advance, bind_current, stands.front, stands.tail.front,
    if_pos isAssign, bind_advance]
  refine Matches.bind
    (evaluates.whole (enough.mono (by omega)) follows deep stands.tail.tail) ?_
  rintro result reached _ store' ⟨rfl, standsReached⟩
  exact assignVariable_matches standsReached (word .identifier name)

/-! ## Declarations -/

/-- A declaration up to the point where its initial value may follow. -/
theorem declaration_eq
    {expression : Eval σ Value} {typeName name : String} {rest : List Token} {machine : Machine σ}
    {depth : Nat} {store : Store σ}
    (stands : machine.Stands (word .dataType typeName :: word .identifier name :: rest) depth
      store) :
    declaration context expression machine =
      match DataType.ofName? typeName with
      | none =>
        (fail (.value (.unknownType typeName)) (word .dataType typeName) : Eval σ Value)
          (machine.facing machine.remaining.tail)
      | some dataType =>
        (if (context.front rest).kind = .assign then do
          let _ ← expect context .assign
          let value ← expression
          match value.cast dataType with
          | .error error => failHere context (.value error)
          | .ok value =>
            Eval.declareVariable name value
            return value
        else
          return .none : Eval σ Value)
          ((machine.facing rest).declare name (Value.initial dataType)) := by
  rw [declaration, bind_current, bind_advance, stands.front]
  change (match DataType.ofName? typeName with
    | none => (fail (.value (.unknownType typeName)) (word .dataType typeName) : Eval σ Value)
    | some dataType => _) _ = _
  cases DataType.ofName? typeName with
  | none => rfl
  | some dataType =>
      change (peek context >>= _) _ = _
      rw [bind_peek, stands.tail.remaining, bind_expect stands.tail]
      rfl

theorem evaluates_declare (typeName name : String) :
    Evaluates context shorter turns (.declare typeName name) := by
  apply Evaluates.of_loose rfl rfl rfl (by decide)
  intro fuel _ rest depth machine store follows _ stands
  rw [tokens, List.cons_append, List.singleton_append] at stands
  rw [primary, bind_current, stands.front, meaning, typeOf_bind_apply]
  change Matches shorter _ (declaration context (expression context fuel) machine) _
  rw [declaration_eq stands]
  cases DataType.ofName? typeName with
  | none => exact ⟨rfl, trivial, stands.store⟩
  | some dataType =>
      have behind := (stands.facing rest).declare name (Value.initial dataType)
      change Matches shorter _ ((if _ then _ else _ : Eval σ Value) _)
        ((Meaning.declareVariable name (Value.initial dataType) >>= _) store)
      rw [if_neg follows.not_assign, declareVariable_bind_apply]
      exact ⟨rfl, behind⟩

theorem evaluates_define
    (typeName name : String) {value : Tree} (evaluates : Evaluates context shorter turns value) :
    Evaluates context shorter turns (.define typeName name value) := by
  apply Evaluates.of_loose rfl rfl rfl (by decide)
  intro fuel enough rest depth machine store follows deep stands
  rw [size] at enough
  rw [tokens, List.cons_append, List.cons_append, List.cons_append] at stands
  rw [primary, bind_current, stands.front, meaning, typeOf_bind_apply]
  change Matches shorter _ (declaration context (expression context fuel) machine) _
  rw [declaration_eq stands]
  cases DataType.ofName? typeName with
  | none => exact ⟨rfl, trivial, stands.store⟩
  | some dataType =>
      have behind := (stands.facing (word .assign "=" :: (value.tokens ++ rest))).declare name
        (Value.initial dataType)
      have isAssign : (context.front
          (word .assign "=" :: (value.tokens ++ rest))).kind = .assign := rfl
      change Matches shorter _ ((if _ then _ else _ : Eval σ Value) _)
        ((Meaning.declareVariable name (Value.initial dataType) >>= _) store)
      rw [if_pos isAssign, bind_expect behind, declareVariable_bind_apply]
      refine Matches.bind
        (evaluates.whole (enough.mono (by omega)) follows deep (behind.facing _)) ?_
      rintro result reached _ store' ⟨rfl, standsReached⟩
      cases result.cast dataType with
      | error error => exact ⟨rfl, trivial, standsReached.store⟩
      | ok initial => exact ⟨rfl, standsReached.declare name initial⟩

/-! ## Calls -/

theorem withHost_matches
    (function : String) (values : List Value) (token : Token) {machine : Machine σ}
    {tokens : List Token} {depth : Nat} {store : Store σ}
    (stands : machine.Stands tokens depth store) :
    Matches shorter (Reaches tokens depth)
      (withHost (Builtin.invoke context.host function values) token machine)
      (invoke context.host function values store) := by
  have unfolded : invoke context.host function values store =
      ((ofExcept ((Builtin.invoke context.host function values store.world).1.mapError .value) :
          Meaning σ Value)
        { store with world := (Builtin.invoke context.host function values store.world).2 }) :=
    rfl
  rw [unfolded, withHost, stands.world]
  rcases Builtin.invoke context.host function values store.world with ⟨error | result, world⟩
  · refine ⟨rfl, trivial, ?_⟩
    rw [← stands.store]
    rfl
  · refine ⟨rfl, stands.remaining, stands.depth, ?_⟩
    rw [← stands.store]
    rfl

theorem follows_moreArgumentTokens (others : List Tree) (rest : List Token) :
    Follows context 5 (moreArgumentTokens others ++ word .closeParenthesis ")" :: rest) := by
  apply Follows.of_not_continues
  cases others with
  | nil =>
      rw [moreArgumentTokens, List.nil_append, Context.front_cons]
      decide
  | cons next others =>
      rw [moreArgumentTokens, List.cons_append, Context.front_cons]
      decide

/-- Arguments are read one after another, each behind its comma. -/
theorem moreArguments_matches
    {others : List Tree}
    (evaluate : ∀ argument ∈ others, Evaluates context shorter turns argument)
    (function : Token) {fuel bound : Nat} (enough : Enough shorter turns fuel (blockSize others))
    (enoughBound : Enough shorter turns bound (blockSize others))
    (values : List Value) (few : values.length + others.length ≤ Limits.maxCallArguments)
    {rest : List Token} {depth : Nat} (deep : depth + blockNesting others ≤ Limits.maxParseDepth)
    {machine : Machine σ} {store : Store σ}
    (stands : machine.Stands
      (moreArgumentTokens others ++ word .closeParenthesis ")" :: rest) depth store) :
    Matches shorter (Reaches (word .closeParenthesis ")" :: rest) depth)
      (moreArguments context function (expression context fuel) bound values machine)
      ((do
        let others ← argumentsMeaning context.host context.loopLimit turns others
        return values.reverse ++ others) store) := by
  induction others generalizing bound values machine store with
  | nil =>
      rw [moreArgumentTokens, List.nil_append] at stands
      cases bound with
      | zero => exact Matches.outOfFuel enoughBound.eq_machine _
      | succ bound =>
          have noComma : ¬ (word .closeParenthesis ")").kind = .comma := by decide
          rw [moreArguments, bind_current, stands.front, if_neg noComma, argumentsMeaning,
            pure_bind, List.append_nil]
          exact ⟨rfl, stands⟩
  | cons next others inductionHypothesis =>
      rw [blockSize] at enough enoughBound
      rw [blockNesting] at deep
      rw [moreArgumentTokens, List.cons_append, List.append_assoc] at stands
      cases bound with
      | zero => exact Matches.outOfFuel enoughBound.eq_machine _
      | succ bound =>
          have isComma : (word .comma ",").kind = .comma := rfl
          have room : ¬ Limits.maxCallArguments ≤ values.length := by
            rw [List.length_cons] at few
            omega
          have sameMeaning :
              (do
                let others ← argumentsMeaning context.host context.loopLimit turns (next :: others)
                return values.reverse ++ others : Meaning σ (List Value)) =
              (do
                let value ← next.meaning context.host context.loopLimit turns
                let others ← argumentsMeaning context.host context.loopLimit turns others
                return (value :: values).reverse ++ others) := by
            simp only [argumentsMeaning, bind_assoc, pure_bind, List.reverse_cons,
              List.append_assoc, List.singleton_append]
          rw [moreArguments, bind_current, stands.front, if_pos isComma, bind_advance, if_neg room,
            sameMeaning]
          have first := (evaluate next List.mem_cons_self).whole (enough.mono (by omega))
            (follows_moreArgumentTokens others rest) (by omega) stands.tail
          refine Matches.bind first ?_
          rintro value reached _ store' ⟨rfl, standsReached⟩
          refine inductionHypothesis ?_ (enough.mono (by omega)) (enoughBound.pred.mono (by omega))
            (value :: values) ?_ (by omega) standsReached
          · intro argument member
            exact evaluate argument (List.mem_cons_of_mem next member)
          · rw [List.length_cons] at few ⊢
            omega

theorem arguments_matches
    {trees : List Tree} (wellFormed : ∀ argument ∈ trees, WellFormed argument)
    (evaluate : ∀ argument ∈ trees, Evaluates context shorter turns argument)
    (function : Token) {fuel : Nat} (enough : Enough shorter turns fuel (blockSize trees))
    (few : trees.length ≤ Limits.maxCallArguments)
    {rest : List Token} {depth : Nat} (deep : depth + blockNesting trees ≤ Limits.maxParseDepth)
    {machine : Machine σ} {store : Store σ}
    (stands : machine.Stands
      (argumentTokens trees ++ word .closeParenthesis ")" :: rest) depth store) :
    Matches shorter (Reaches (word .closeParenthesis ")" :: rest) depth)
      (arguments context function (expression context fuel) fuel machine)
      (argumentsMeaning context.host context.loopLimit turns trees store) := by
  cases trees with
  | nil =>
      rw [argumentTokens, List.nil_append] at stands
      have isClosing : (word .closeParenthesis ")").kind = .closeParenthesis := rfl
      rw [arguments, bind_current, stands.front, if_pos isClosing, argumentsMeaning]
      exact ⟨rfl, stands⟩
  | cons first others =>
      rw [blockSize] at enough
      rw [blockNesting] at deep
      rw [argumentTokens, List.append_assoc] at stands
      obtain ⟨token, tail, isFirst, begins⟩ :=
        (wellFormed first List.mem_cons_self).exists_first
      have notClosing : ¬ (context.front machine.remaining).kind = .closeParenthesis := by
        rw [stands.remaining, isFirst, List.cons_append, Context.front_cons]
        intro isClosing
        rw [isClosing] at begins
        revert begins
        decide
      rw [arguments, bind_current, if_neg notClosing, argumentsMeaning]
      have head := (evaluate first List.mem_cons_self).whole (enough.mono (by omega))
        (follows_moreArgumentTokens others rest) (by omega) stands
      refine Matches.bind head ?_
      rintro value reached _ store' ⟨rfl, standsReached⟩
      refine moreArguments_matches ?_ function (enough.mono (by omega))
        (enough.mono (by omega)) [value] ?_ (by omega) standsReached
      · intro argument member
        exact evaluate argument (List.mem_cons_of_mem first member)
      · rw [List.length_cons] at few
        rw [List.length_singleton]
        omega

theorem evaluates_call
    (function : String) {trees : List Tree} (few : trees.length ≤ Limits.maxCallArguments)
    (wellFormed : ∀ argument ∈ trees, WellFormed argument)
    (evaluate : ∀ argument ∈ trees, Evaluates context shorter turns argument) :
    Evaluates context shorter turns (.call function trees) := by
  apply Evaluates.of_primary rfl rfl rfl (by decide)
  intro fuel enough rest depth machine store _ deep stands
  rw [size] at enough
  rw [tokens, enclose, List.cons_append, List.cons_append, List.append_assoc,
    List.singleton_append] at stands
  rw [primary, bind_current, stands.front, meaning]
  change Matches shorter _ (call context (expression context fuel) fuel machine) _
  rw [call, bind_current, bind_advance, stands.front, bind_expect stands.tail]
  have start := stands.tail.facing (argumentTokens trees ++ word .closeParenthesis ")" :: rest)
  refine Matches.bind
    (arguments_matches wellFormed evaluate (word .function function) (enough.mono (by omega)) few
      deep start) ?_
  rintro values reached _ store' ⟨rfl, standsReached⟩
  rw [bind_expect standsReached]
  exact withHost_matches function values _ (standsReached.facing rest)

end Evaluation

end PugScript
