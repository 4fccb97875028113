import PugScript.Proofs.Evaluation.Steps
import PugScript.Proofs.Token.Nesting

/-!
# When a construct succeeds

One equivalence for each construct: it succeeds exactly if the tokens at the cursor have the right
shape and its parts succeed one after another.
-/

namespace PugScript

namespace Evaluation

open Eval

variable {σ : Type} {context : Context σ}

/-! ## Operators -/

theorem isPlain_of_accepts
    {tier : Tier} {kind : TokenKind} (accepts : tier.accepts kind = true) :
    kind.IsPlain := by
  revert accepts
  cases tier <;> cases kind <;> decide

/-- No operator of the tier follows, or one does and is applied to the operand behind it. -/
theorem applyTier_succ_eq_done_iff
    (closed : context.IsClosed)
    {tier : Tier} {operand : Eval σ Value} {fuel : Nat} {left value : Value}
    {machine finish : Machine σ} :
    applyTier context tier operand (fuel + 1) left machine = .done value finish ↔
      (tier.accepts (context.front machine.remaining).kind = false ∧
        value = left ∧ finish = machine) ∨
      ∃ operator rest right middle result,
        machine.remaining = operator :: rest ∧
        tier.accepts operator.kind = true ∧
        operand (machine.facing rest) = .done right middle ∧
        tier.combine operator.kind left right = .ok result ∧
        applyTier context tier operand fuel result middle = .done value finish := by
  rw [applyTier, bind_current, ite_step]
  by_cases accepted : tier.accepts (context.front machine.remaining).kind = true
  · rw [if_pos accepted]
    obtain ⟨rest, cursor⟩ := closed.exists_cons (isPlain_of_accepts accepted).1
    generalize context.front machine.remaining = operator at accepted cursor
    rw [bind_advance, cursor, List.tail_cons, bind_eq_done_iff]
    simp only [bind_eq_done_iff, ofExcept_eq_done_iff]
    constructor
    · rintro ⟨right, _, operandDone, result, middle, ⟨combined, rfl⟩, restDone⟩
      exact .inr ⟨operator, rest, right, middle, result,
        rfl, accepted, operandDone, combined, restDone⟩
    · rintro (⟨refused, _⟩ |
      ⟨_, _, right, middle, result, same, _, operandDone, combined, restDone⟩)
      · rw [accepted] at refused
        cases refused
      · cases same
        exact ⟨right, middle, operandDone, result, middle, ⟨combined, rfl⟩, restDone⟩
  · rw [if_neg accepted, pure_eq_done_iff]
    constructor
    · exact fun both => .inl ⟨by simpa using accepted, both⟩
    · rintro (⟨_, both⟩ | ⟨operator, rest, right, middle, result, cursor, accepts, _⟩)
      · exact both
      · rw [cursor] at accepted
        exact absurd accepts accepted

theorem tierOf_eq_done_iff
    {tier : Tier} {fuel : Nat} {operand : Eval σ Value} {value : Value}
    {machine finish : Machine σ} :
    tierOf context tier fuel operand machine = .done value finish ↔
      ∃ left middle,
        operand machine = .done left middle ∧
        applyTier context tier operand fuel left middle = .done value finish :=
  bind_eq_done_iff

/-- The kinds that are a sign in front of an operand. -/
def IsSign (kind : TokenKind) : Prop :=
  kind = .plus ∨ kind = .minus

instance (kind : TokenKind) : Decidable (IsSign kind) :=
  inferInstanceAs (Decidable (_ ∨ _))

theorem isPlain_of_isSign {kind : TokenKind} (isSign : IsSign kind) : kind.IsPlain := by
  rcases isSign with rfl | rfl <;> decide

/-- Below the depth limit, a sign stands in front of the rest, or there is a primary. -/
theorem signed_succ_eq_done_iff
    (closed : context.IsClosed)
    {primary : Eval σ Value} {fuel : Nat} {value : Value} {machine finish : Machine σ} :
    signed context primary (fuel + 1) machine = .done value finish ↔
      machine.depth < Limits.maxParseDepth ∧
      ((∃ sign rest operand middle,
          machine.remaining = sign :: rest ∧
          IsSign sign.kind ∧
          signed context primary fuel (machine.facing rest).deeper = .done operand middle ∧
          applySign sign.kind operand = .ok value ∧
          finish = middle.higher) ∨
        (¬ IsSign (context.front machine.remaining).kind ∧
          ∃ middle,
            primary machine.deeper = .done value middle ∧
            finish = middle.higher)) := by
  rw [signed, bind_current, bind_currentDepth, ite_step]
  by_cases tooDeep : Limits.maxParseDepth ≤ machine.depth
  · rw [if_pos tooDeep]
    constructor
    · exact fun impossible => absurd impossible fail_ne_done
    · exact fun both => absurd both.1 (Nat.not_lt.mpr tooDeep)
  · rw [if_neg tooDeep, ite_step]
    by_cases isSign : IsSign (context.front machine.remaining).kind
    · rw [if_pos (show _ ∨ _ from isSign)]
      have notEnd : (context.front machine.remaining).kind ≠ .endOfInput := by
        intro isEnd
        rcases isSign with isPlus | isMinus
        · exact nomatch isEnd.symm.trans isPlus
        · exact nomatch isEnd.symm.trans isMinus
      obtain ⟨rest, cursor⟩ := closed.exists_cons notEnd
      generalize context.front machine.remaining = sign at isSign cursor
      simp only [nested_eq_done_iff, bind_advance, bind_eq_done_iff, ofExcept_eq_done_iff,
        Machine.deeper_remaining, cursor, List.tail_cons]
      constructor
      · rintro ⟨middle, ⟨operand, _, operandDone, applied, rfl⟩, rfl⟩
        exact ⟨Nat.not_le.mp tooDeep,
          .inl ⟨sign, rest, operand, middle, rfl, isSign, operandDone, applied, rfl⟩⟩
      · rintro ⟨_, ⟨_, _, operand, middle, same, _, operandDone, applied, rfl⟩ | ⟨noSign, _⟩⟩
        · cases same
          exact ⟨middle, ⟨operand, middle, operandDone, applied, rfl⟩, rfl⟩
        · exact absurd isSign noSign
    · rw [if_neg (show ¬ (_ ∨ _) from isSign), nested_eq_done_iff]
      constructor
      · exact fun primaryDone => ⟨Nat.not_le.mp tooDeep, .inr ⟨isSign, primaryDone⟩⟩
      · rintro ⟨_, ⟨sign, rest, operand, middle, cursor, signKind, _⟩ | ⟨_, primaryDone⟩⟩
        · rw [cursor] at isSign
          exact absurd signKind isSign
        · exact primaryDone

/-! ## Names and calls -/

/-- A declaration succeeds at the name of a type and an identifier, with or without an initial value
that can be cast. -/
theorem declaration_eq_done_iff
    (closed : context.IsClosed)
    {expression : Eval σ Value} {value : Value} {machine finish : Machine σ}
    {typeToken : Token} {following : List Token}
    (cursor : machine.remaining = typeToken :: following) :
    declaration context expression machine = .done value finish ↔
      ∃ name rest dataType,
        following = name :: rest ∧
        name.kind = .identifier ∧
        DataType.ofName? typeToken.text = some dataType ∧
        (((context.front rest).kind ≠ .assign ∧ value = .none ∧
            finish = (machine.declare name.text (Value.initial dataType)).facing rest) ∨
          ∃ assign after initial middle,
            rest = assign :: after ∧
            assign.kind = .assign ∧
            expression ((machine.declare name.text (Value.initial dataType)).facing after) =
              .done initial middle ∧
            initial.cast dataType = .ok value ∧
            finish = middle.declare name.text value) := by
  rw [declaration, bind_current, bind_advance, cursor, List.tail_cons, Context.front_cons]
  cases known : DataType.ofName? typeToken.text with
  | none =>
      constructor
      · exact fun impossible => absurd impossible fail_ne_done
      · rintro ⟨_, _, _, _, _, impossible, _⟩
        cases impossible
  | some dataType =>
      change (peek context >>= _) (machine.facing following) = _ ↔ _
      rw [bind_peek, bind_eq_done_iff]
      constructor
      · rintro ⟨name, _, nameDone, done⟩
        obtain ⟨rest, cursorName, isName, rfl⟩ :=
          (expect_eq_done_iff closed (by decide)).mp nameDone
        cases cursorName
        refine ⟨name, rest, dataType, rfl, isName, rfl, ?_⟩
        rw [bind_declareVariable, ite_step] at done
        change (if (context.front rest).kind = .assign then _ else _) = _ at done
        by_cases assigns : (context.front rest).kind = .assign
        · rw [if_pos assigns, bind_eq_done_iff] at done
          obtain ⟨assign, _, assignDone, done⟩ := done
          rw [expect_eq_done_iff closed (by decide)] at assignDone
          obtain ⟨after, cursorAssign, isAssign, rfl⟩ := assignDone
          obtain ⟨initial, middle, initialDone, done⟩ := bind_eq_done_iff.mp done
          cases castResult : initial.cast dataType with
          | error error =>
              rw [castResult] at done
              exact absurd done failHere_ne_done
          | ok converted =>
              rw [castResult] at done
              obtain ⟨rfl, rfl⟩ := pure_eq_done_iff.mp done
              exact .inr ⟨assign, after, initial, middle, cursorAssign, isAssign,
                initialDone, castResult, rfl⟩
        · rw [if_neg assigns] at done
          obtain ⟨rfl, rfl⟩ := pure_eq_done_iff.mp done
          exact .inl ⟨assigns, rfl, rfl⟩
      · rintro ⟨name, rest, _, rfl, isName, same, outcome⟩
        cases same
        refine ⟨name, machine.facing rest,
          (expect_eq_done_iff closed (by decide)).mpr ⟨rest, rfl, isName, rfl⟩, ?_⟩
        rw [bind_declareVariable, ite_step]
        change (if (context.front rest).kind = .assign then _ else _) = _
        rcases outcome with
          ⟨noAssign, rfl, rfl⟩ |
          ⟨assign, after, initial, middle, rfl, isAssign, initialDone, castResult, rfl⟩
        · rw [if_neg noAssign]
          exact pure_eq_done_iff.mpr ⟨rfl, rfl⟩
        · rw [Context.front_cons, if_pos isAssign, bind_eq_done_iff]
          refine ⟨assign, (machine.declare name.text (Value.initial dataType)).facing after,
            (expect_eq_done_iff closed (by decide)).mpr ⟨after, rfl, isAssign, rfl⟩,
            bind_eq_done_iff.mpr ⟨initial, middle, initialDone, ?_⟩⟩
          rw [castResult]
          exact pure_eq_done_iff.mpr ⟨rfl, rfl⟩

theorem bind_assignVariable_eq_done_iff
    {name : Token} {value result : Value} {machine finish : Machine σ} :
    (do
        if ← assignVariable name.text value then
          return value
        else
          fail (.unknownIdentifier name.text) name : Eval σ Value) machine =
        .done result finish ↔
      ∃ bindings,
        machine.bindings.assign? name.text value = some bindings ∧
        result = value ∧
        finish = { machine with bindings } := by
  rw [bind_eq_done_iff]
  unfold assignVariable
  cases machine.bindings.assign? name.text value with
  | none =>
      simp only [Outcome.done.injEq, reduceCtorEq, false_and, exists_false, iff_false]
      rintro ⟨_, _, ⟨rfl, rfl⟩, impossible⟩
      exact fail_ne_done impossible
  | some bindings =>
      constructor
      · rintro ⟨_, _, same, done⟩
        cases same
        obtain ⟨rfl, rfl⟩ := pure_eq_done_iff.mp done
        exact ⟨bindings, rfl, rfl, rfl⟩
      · rintro ⟨_, same, rfl, rfl⟩
        cases same
        exact ⟨true, _, rfl, rfl⟩

/-- An identifier succeeds as a known variable or as an assignment to one. -/
theorem identifier_eq_done_iff
    (closed : context.IsClosed)
    {expression : Eval σ Value} {value : Value} {machine finish : Machine σ}
    {name : Token} {rest : List Token} (cursor : machine.remaining = name :: rest) :
    identifier context expression machine = .done value finish ↔
      ((context.front rest).kind ≠ .assign ∧
        machine.bindings.get? name.text = some value ∧
        finish = machine.facing rest) ∨
      ∃ assign after middle bindings,
        rest = assign :: after ∧
        assign.kind = .assign ∧
        expression (machine.facing after) = .done value middle ∧
        middle.bindings.assign? name.text value = some bindings ∧
        finish = { middle with bindings } := by
  rw [identifier, bind_current, bind_advance, bind_current, cursor, List.tail_cons,
    Context.front_cons, Machine.facing_remaining, ite_step]
  by_cases assigns : (context.front rest).kind = .assign
  · rw [if_pos assigns]
    obtain ⟨after, cursorAssign⟩ :=
      closed.exists_cons (fun isEnd => nomatch isEnd.symm.trans assigns)
    generalize context.front rest = assign at assigns cursorAssign
    rw [bind_advance, bind_eq_done_iff]
    simp only [bind_assignVariable_eq_done_iff, Machine.facing_remaining, Machine.facing_facing,
      cursorAssign, List.tail_cons, assigns, ne_eq, not_true, false_and,
      false_or]
    constructor
    · rintro ⟨_, middle, valueDone, bindings, assigned, rfl, rfl⟩
      exact ⟨assign, after, middle, bindings, rfl, assigns, valueDone, assigned, rfl⟩
    · rintro ⟨_, _, middle, bindings, same, _, valueDone, assigned, rfl⟩
      cases same
      exact ⟨value, middle, valueDone, bindings, assigned, rfl, rfl⟩
  · rw [if_neg assigns, bind_getVariable?, Machine.facing_bindings]
    cases machine.bindings.get? name.text with
    | none =>
        constructor
        · exact fun impossible => absurd impossible fail_ne_done
        · rintro (⟨_, impossible, _⟩ | ⟨assign, after, _, _, rfl, isAssign, _⟩)
          · cases impossible
          · exact absurd isAssign assigns
    | some found =>
        constructor
        · intro done
          obtain ⟨rfl, rfl⟩ := pure_eq_done_iff.mp done
          exact .inl ⟨assigns, rfl, rfl⟩
        · rintro (⟨_, same, rfl⟩ | ⟨assign, after, _, _, rfl, isAssign, _⟩)
          · cases same
            rfl
          · exact absurd isAssign assigns

theorem moreArguments_succ_eq_done_iff
    (closed : context.IsClosed)
    {function : Token} {expression : Eval σ Value} {fuel : Nat}
    {arguments values : List Value} {machine finish : Machine σ} :
    moreArguments context function expression (fuel + 1) arguments machine =
        .done values finish ↔
      ((context.front machine.remaining).kind ≠ .comma ∧
        values = arguments.reverse ∧ finish = machine) ∨
      ∃ comma rest argument middle,
        machine.remaining = comma :: rest ∧
        comma.kind = .comma ∧
        arguments.length < Limits.maxCallArguments ∧
        expression (machine.facing rest) = .done argument middle ∧
        moreArguments context function expression fuel (argument :: arguments) middle =
          .done values finish := by
  rw [moreArguments, bind_current, ite_step]
  by_cases isComma : (context.front machine.remaining).kind = .comma
  · rw [if_pos isComma]
    obtain ⟨rest, cursor⟩ :=
      closed.exists_cons (fun isEnd => nomatch isEnd.symm.trans isComma)
    generalize context.front machine.remaining = comma at isComma cursor
    rw [bind_advance, cursor, List.tail_cons, ite_step]
    by_cases full : Limits.maxCallArguments ≤ arguments.length
    · rw [if_pos full]
      constructor
      · exact fun impossible => absurd impossible fail_ne_done
      · rintro (⟨noComma, _⟩ | ⟨_, _, _, _, _, _, room, _⟩)
        · exact absurd isComma noComma
        · exact absurd room (Nat.not_lt.mpr full)
    · rw [if_neg full, bind_eq_done_iff]
      constructor
      · rintro ⟨argument, middle, argumentDone, restDone⟩
        exact .inr ⟨comma, rest, argument, middle, rfl, isComma,
          Nat.not_le.mp full, argumentDone, restDone⟩
      · rintro (⟨noComma, _⟩ | ⟨_, _, argument, middle, same, _, _, argumentDone, restDone⟩)
        · exact absurd isComma noComma
        · cases same
          exact ⟨argument, middle, argumentDone, restDone⟩
  · rw [if_neg isComma, pure_eq_done_iff]
    constructor
    · exact fun both => .inl ⟨isComma, both⟩
    · rintro (⟨_, both⟩ | ⟨comma, rest, _, _, cursor, commaKind, _⟩)
      · exact both
      · rw [cursor] at isComma
        exact absurd commaKind isComma

theorem arguments_eq_done_iff
    {function : Token} {expression : Eval σ Value} {fuel : Nat}
    {values : List Value} {machine finish : Machine σ} :
    arguments context function expression fuel machine = .done values finish ↔
      ((context.front machine.remaining).kind = .closeParenthesis ∧
        values = [] ∧ finish = machine) ∨
      ((context.front machine.remaining).kind ≠ .closeParenthesis ∧
        ∃ first middle,
          expression machine = .done first middle ∧
          moreArguments context function expression fuel [first] middle =
            .done values finish) := by
  rw [arguments, bind_current, ite_step]
  by_cases closes : (context.front machine.remaining).kind = .closeParenthesis
  · rw [if_pos closes, pure_eq_done_iff]
    simp [closes]
  · rw [if_neg closes, bind_eq_done_iff]
    simp [closes]

theorem withHost_eq_done_iff
    {α : Type} {use : σ → Except ValueError α × σ} {token : Token} {result : α}
    {machine finish : Machine σ} :
    withHost use token machine = .done result finish ↔
      ∃ world, use machine.world = (.ok result, world) ∧ finish = { machine with world } := by
  unfold withHost
  rcases use machine.world with ⟨_ | value, world⟩
  · simp
  · simp only [Outcome.done.injEq, Prod.mk.injEq, Except.ok.injEq]
    constructor
    · rintro ⟨rfl, rfl⟩
      exact ⟨world, ⟨rfl, rfl⟩, rfl⟩
    · rintro ⟨_, ⟨rfl, rfl⟩, rfl⟩
      exact ⟨rfl, rfl⟩

/-- A call succeeds if its arguments do and the function accepts their values. -/
theorem call_eq_done_iff
    (closed : context.IsClosed)
    {expression : Eval σ Value} {fuel : Nat} {value : Value} {machine finish : Machine σ}
    {function : Token} {following : List Token}
    (cursor : machine.remaining = function :: following) :
    call context expression fuel machine = .done value finish ↔
      ∃ opening rest values middle closing after world,
        following = opening :: rest ∧
        opening.kind = .openParenthesis ∧
        arguments context function expression fuel (machine.facing rest) =
          .done values middle ∧
        middle.remaining = closing :: after ∧
        closing.kind = .closeParenthesis ∧
        Builtin.invoke context.host function.text values middle.world = (.ok value, world) ∧
        finish = { middle.facing after with world } := by
  rw [call, bind_current, bind_advance, cursor, List.tail_cons, Context.front_cons]
  constructor
  · intro done
    obtain ⟨opening, _, openingDone, done⟩ := bind_eq_done_iff.mp done
    obtain ⟨rest, cursorOpening, isOpening, rfl⟩ :=
      (expect_eq_done_iff closed (by decide)).mp openingDone
    obtain ⟨values, middle, argumentsDone, done⟩ := bind_eq_done_iff.mp done
    obtain ⟨closing, _, closingDone, done⟩ := bind_eq_done_iff.mp done
    obtain ⟨after, cursorClosing, isClosing, rfl⟩ :=
      (expect_eq_done_iff closed (by decide)).mp closingDone
    obtain ⟨world, invoked, rfl⟩ := withHost_eq_done_iff.mp done
    exact ⟨opening, rest, values, middle, closing, after, world, cursorOpening, isOpening,
      argumentsDone, cursorClosing, isClosing, invoked, rfl⟩
  · rintro ⟨opening, rest, values, middle, closing, after, world, rfl, isOpening,
      argumentsDone, cursorClosing, isClosing, invoked, rfl⟩
    refine bind_eq_done_iff.mpr ⟨opening, machine.facing rest,
      (expect_eq_done_iff closed (by decide)).mpr ⟨rest, rfl, isOpening, rfl⟩, ?_⟩
    refine bind_eq_done_iff.mpr ⟨values, middle, argumentsDone, ?_⟩
    refine bind_eq_done_iff.mpr ⟨closing, middle.facing after,
      (expect_eq_done_iff closed (by decide)).mpr ⟨after, cursorClosing, isClosing, rfl⟩, ?_⟩
    exact withHost_eq_done_iff.mpr ⟨world, invoked, rfl⟩

theorem parenthesised_eq_done_iff
    (closed : context.IsClosed)
    {expression : Eval σ Value} {value : Value} {machine finish : Machine σ}
    {opening : Token} {rest : List Token} (cursor : machine.remaining = opening :: rest) :
    parenthesised context expression machine = .done value finish ↔
      ∃ middle closing after,
        expression (machine.facing rest) = .done value middle ∧
        middle.remaining = closing :: after ∧
        closing.kind = .closeParenthesis ∧
        finish = middle.facing after := by
  rw [parenthesised, bind_advance, cursor, List.tail_cons, bind_eq_done_iff]
  constructor
  · rintro ⟨inner, middle, innerDone, done⟩
    obtain ⟨closing, _, closingDone, done⟩ := bind_eq_done_iff.mp done
    obtain ⟨after, cursorClosing, isClosing, rfl⟩ :=
      (expect_eq_done_iff closed (by decide)).mp closingDone
    obtain ⟨rfl, rfl⟩ := pure_eq_done_iff.mp done
    exact ⟨middle, closing, after, innerDone, cursorClosing, isClosing, rfl⟩
  · rintro ⟨middle, closing, after, innerDone, cursorClosing, isClosing, rfl⟩
    refine ⟨value, middle, innerDone, bind_eq_done_iff.mpr ⟨closing, middle.facing after,
      (expect_eq_done_iff closed (by decide)).mpr ⟨after, cursorClosing, isClosing, rfl⟩, ?_⟩⟩
    exact pure_eq_done_iff.mpr ⟨rfl, rfl⟩

theorem literal_eq_done_iff
    {token : Token} {value : Value} {machine finish : Machine σ} :
    literal token machine = .done value finish ↔
      Value.ofLiteral token = .ok value ∧
      finish = machine.facing machine.remaining.tail := by
  rw [literal, bind_advance, ofExcept_eq_done_iff]
  cases Value.ofLiteral token <;> simp [Except.mapError]

/-! ## Blocks -/

theorem condition_eq_done_iff
    {expression : Eval σ Value} {truth : Bool} {machine finish : Machine σ} :
    condition context expression machine = .done truth finish ↔
      ∃ value, expression machine = .done value finish ∧ value.toBool = .ok truth := by
  rw [condition, bind_eq_done_iff]
  constructor
  · rintro ⟨value, middle, valueDone, done⟩
    cases converted : value.toBool with
    | error error =>
        rw [converted] at done
        exact absurd done failHere_ne_done
    | ok found =>
        rw [converted] at done
        obtain ⟨rfl, rfl⟩ := pure_eq_done_iff.mp done
        exact ⟨value, valueDone, converted⟩
  · rintro ⟨value, valueDone, converted⟩
    refine ⟨value, finish, valueDone, ?_⟩
    rw [converted]
    rfl

/-- A body ends at one of its stops, or goes on behind one more statement. -/
theorem block_succ_eq_done_iff
    {opener : TokenKind} {stops : List TokenKind} {expression : Eval σ Value} {fuel : Nat}
    {kind : TokenKind} {machine finish : Machine σ} :
    block context opener stops expression (fuel + 1) machine = .done kind finish ↔
      ((context.front machine.remaining).kind ∈ stops ∧
        kind = (context.front machine.remaining).kind ∧ finish = machine) ∨
      ((context.front machine.remaining).kind ∉ stops ∧
        (context.front machine.remaining).kind ≠ .endOfInput ∧
        ¬ ((context.front machine.remaining).kind = .elseWord ∧ opener = .whileWord) ∧
        ∃ value middle,
          expression machine = .done value middle ∧
          block context opener stops expression fuel middle = .done kind finish) := by
  rw [block, bind_current, ite_step]
  by_cases stopsHere : (context.front machine.remaining).kind ∈ stops
  · rw [if_pos stopsHere, pure_eq_done_iff]
    simp [stopsHere]
  · rw [if_neg stopsHere, ite_step]
    by_cases isEnd : (context.front machine.remaining).kind = .endOfInput
    · rw [if_pos isEnd]
      constructor
      · exact fun impossible => absurd impossible fail_ne_done
      · rintro (⟨member, _⟩ | ⟨_, notEnd, _⟩)
        · exact absurd member stopsHere
        · exact absurd isEnd notEnd
    · rw [if_neg isEnd, ite_step]
      by_cases misplaced :
          (context.front machine.remaining).kind = .elseWord ∧ opener = .whileWord
      · rw [if_pos misplaced]
        constructor
        · exact fun impossible => absurd impossible fail_ne_done
        · rintro (⟨member, _⟩ | ⟨_, _, placed, _⟩)
          · exact absurd member stopsHere
          · exact absurd misplaced placed
      · rw [if_neg misplaced, bind_eq_done_iff]
        simp [stopsHere, isEnd, misplaced]

/-- With a true condition the first branch is evaluated, and everything from its `else` up to the
`end` is passed over. -/
theorem branches_true_eq_done_iff
    {expression : Eval σ Value} {fuel : Nat} {machine finish : Machine σ} :
    branches context true expression fuel machine = .done () finish ↔
      ∃ stop middle,
        block context .ifWord [.elseWord, .endWord] expression fuel machine =
          .done stop middle ∧
        ((stop ≠ .elseWord ∧ finish = middle) ∨
          (stop = .elseWord ∧
            ∃ closing rest,
              skipBlock [.endWord] 0 middle.remaining.tail = (some closing, rest) ∧
              finish = middle.facing rest)) := by
  unfold branches
  rw [if_pos rfl, bind_eq_done_iff]
  refine exists_congr fun stop => exists_congr fun middle => and_congr_right fun _ => ?_
  rw [ite_step]
  by_cases divides : stop = .elseWord
  · rw [if_pos divides, bind_advance, bind_eq_done_iff]
    simp only [divides, ne_eq, not_true, false_and, true_and, false_or, skipTo_eq_done_iff,
      pure_eq_done_iff]
    constructor
    · rintro ⟨closing, _, ⟨rest, skipped, rfl⟩, rfl⟩
      exact ⟨closing, rest, skipped, rfl⟩
    · rintro ⟨closing, rest, skipped, rfl⟩
      exact ⟨closing, _, ⟨rest, skipped, rfl⟩, rfl⟩
  · rw [if_neg divides, pure_eq_done_iff]
    simp [divides]

/-- With a false condition the first branch is passed over, and the one behind its `else` is
evaluated, if there is one. -/
theorem branches_false_eq_done_iff
    {expression : Eval σ Value} {fuel : Nat} {machine finish : Machine σ} :
    branches context false expression fuel machine = .done () finish ↔
      ∃ stop rest,
        skipBlock [.elseWord, .endWord] 0 machine.remaining = (some stop, rest) ∧
        ((stop ≠ .elseWord ∧ finish = machine.facing rest) ∨
          (stop = .elseWord ∧
            ∃ closing,
              block context .ifWord [.endWord] expression fuel (machine.facing rest.tail) =
                .done closing finish)) := by
  unfold branches
  rw [if_neg Bool.false_ne_true, bind_eq_done_iff]
  refine exists_congr fun stop => ?_
  simp only [skipTo_eq_done_iff]
  constructor
  · rintro ⟨_, ⟨rest, skipped, rfl⟩, done⟩
    refine ⟨rest, skipped, ?_⟩
    rw [ite_step] at done
    by_cases divides : stop = .elseWord
    · rw [if_pos divides, bind_advance, bind_eq_done_iff] at done
      obtain ⟨closing, middle, blockDone, done⟩ := done
      obtain ⟨_, rfl⟩ := pure_eq_done_iff.mp done
      exact .inr ⟨divides, closing, blockDone⟩
    · rw [if_neg divides] at done
      exact .inl ⟨divides, (pure_eq_done_iff.mp done).2⟩
  · rintro ⟨rest, skipped, outcome⟩
    refine ⟨machine.facing rest, ⟨rest, skipped, rfl⟩, ?_⟩
    rw [ite_step]
    rcases outcome with ⟨undivided, rfl⟩ | ⟨divides, closing, blockDone⟩
    · rw [if_neg undivided]
      rfl
    · rw [if_pos divides, bind_advance, bind_eq_done_iff]
      exact ⟨closing, finish, blockDone, rfl⟩

/-- An `if` block succeeds if its condition and its branches do and an `end` stands behind them. -/
theorem ifBlock_eq_done_iff
    (closed : context.IsClosed)
    {expression : Eval σ Value} {fuel : Nat} {value : Value} {machine finish : Machine σ}
    {keyword : Token} {rest : List Token} (cursor : machine.remaining = keyword :: rest) :
    ifBlock context expression fuel machine = .done value finish ↔
      ∃ truth middle reached closing after,
        condition context expression (machine.facing rest) = .done truth middle ∧
        branches context truth expression fuel middle = .done () reached ∧
        reached.remaining = closing :: after ∧
        closing.kind = .endWord ∧
        value = .bool truth ∧
        finish = reached.facing after := by
  rw [ifBlock, bind_advance, cursor, List.tail_cons, bind_eq_done_iff]
  constructor
  · rintro ⟨truth, middle, conditionDone, done⟩
    obtain ⟨_, reached, branchesDone, done⟩ := bind_eq_done_iff.mp done
    obtain ⟨closing, _, closingDone, done⟩ := bind_eq_done_iff.mp done
    obtain ⟨after, cursorClosing, isClosing, rfl⟩ :=
      (expect_eq_done_iff closed (by decide)).mp closingDone
    obtain ⟨rfl, rfl⟩ := pure_eq_done_iff.mp done
    exact ⟨truth, middle, reached, closing, after, conditionDone, branchesDone,
      cursorClosing, isClosing, rfl, rfl⟩
  · rintro ⟨truth, middle, reached, closing, after, conditionDone, branchesDone,
      cursorClosing, isClosing, rfl, rfl⟩
    refine ⟨truth, middle, conditionDone, bind_eq_done_iff.mpr ⟨(), reached, branchesDone, ?_⟩⟩
    refine bind_eq_done_iff.mpr ⟨closing, reached.facing after,
      (expect_eq_done_iff closed (by decide)).mpr ⟨after, cursorClosing, isClosing, rfl⟩, ?_⟩
    exact pure_eq_done_iff.mpr ⟨rfl, rfl⟩

/-- A repetition ends where the condition does not hold, or goes on behind one more turn that the
limit allows. -/
theorem iterate_succ_eq_done_iff
    {keyword : Token} {start : List Token} {test : Eval σ Bool} {body : Eval σ TokenKind}
    {fuel : Nat} {iterations count : UInt64} {machine finish : Machine σ} :
    iterate context keyword start test body (fuel + 1) iterations machine =
        .done count finish ↔
      (test machine = .done false finish ∧ count = iterations) ∨
      ∃ middle stop reached,
        test machine = .done true middle ∧
        ¬ (0 < context.loopLimit ∧ context.loopLimit < iterations + 1) ∧
        body middle = .done stop reached ∧
        iterate context keyword start test body fuel (iterations + 1)
          (reached.facing start) = .done count finish := by
  rw [iterate, bind_eq_done_iff]
  constructor
  · rintro ⟨truth, middle, testDone, done⟩
    cases truth with
    | false =>
        rw [if_neg Bool.false_ne_true] at done
        obtain ⟨rfl, rfl⟩ := pure_eq_done_iff.mp done
        exact .inl ⟨testDone, rfl⟩
    | true =>
        rw [if_pos rfl, ite_step] at done
        by_cases full : 0 < context.loopLimit ∧ context.loopLimit < iterations + 1
        · rw [if_pos full] at done
          exact absurd done fail_ne_done
        · rw [if_neg full] at done
          obtain ⟨stop, reached, bodyDone, done⟩ := bind_eq_done_iff.mp done
          exact .inr ⟨middle, stop, reached, testDone, full, bodyDone, done⟩
  · rintro (⟨testDone, rfl⟩ | ⟨middle, stop, reached, testDone, room, bodyDone, done⟩)
    · exact ⟨false, finish, testDone, rfl⟩
    · refine ⟨true, middle, testDone, ?_⟩
      rw [if_pos rfl, ite_step, if_neg room]
      exact bind_eq_done_iff.mpr ⟨stop, reached, bodyDone, done⟩

def noteLoop (context : Context σ) (iterations : UInt64) (keyword : Token) (machine : Machine σ) :
    Machine σ :=
  { machine with
    notes :=
      (context.host.written machine.world, .loopFinished iterations keyword.offset) ::
        machine.notes }

/-- A `while` block succeeds if its repetition does and an `end` is found behind it. -/
theorem whileBlock_eq_done_iff
    (closed : context.IsClosed)
    {expression : Eval σ Value} {fuel : Nat} {value : Value} {machine finish : Machine σ}
    {keyword : Token} {start : List Token} (cursor : machine.remaining = keyword :: start) :
    whileBlock context expression fuel machine = .done value finish ↔
      ∃ iterations reached closing after,
        iterate context keyword start (condition context expression)
            (block context .whileWord [.endWord] expression fuel) fuel 0
            (machine.facing start) =
          .done iterations reached ∧
        skipBlock [.elseWord, .endWord] 0 reached.remaining =
          (some .endWord, closing :: after) ∧
        closing.kind = .endWord ∧
        value = .none ∧
        finish = noteLoop context iterations keyword (reached.facing after) := by
  rw [whileBlock, bind_current, bind_advance, bind_mark, cursor, List.tail_cons,
    Context.front_cons, Machine.facing_remaining, bind_eq_done_iff]
  constructor
  · rintro ⟨iterations, reached, loopDone, done⟩
    obtain ⟨stop, _, skipDone, done⟩ := bind_eq_done_iff.mp done
    obtain ⟨rest, skipped, rfl⟩ := skipTo_eq_done_iff.mp skipDone
    rw [ite_step] at done
    by_cases divides : stop = .elseWord
    · rw [if_pos divides] at done
      exact absurd done failHere_ne_done
    · rw [if_neg divides] at done
      obtain ⟨closing, _, closingDone, done⟩ := bind_eq_done_iff.mp done
      obtain ⟨after, cursorClosing, isClosing, rfl⟩ :=
        (expect_eq_done_iff closed (by decide)).mp closingDone
      obtain ⟨_, stopToken, following, _, front, named, _, _⟩ :=
        exists_passed_of_skipBlock isBlockEnd_elseWord_endWord skipped
      cases cursorClosing
      cases front
      cases done
      rw [← named, isClosing] at skipped
      exact ⟨iterations, reached, closing, after, loopDone, skipped, isClosing, rfl, rfl⟩
  · rintro ⟨iterations, reached, closing, after, loopDone, skipped, isClosing, rfl, rfl⟩
    refine ⟨iterations, reached, loopDone, bind_eq_done_iff.mpr ⟨.endWord, _,
      skipTo_eq_done_iff.mpr ⟨closing :: after, skipped, rfl⟩, ?_⟩⟩
    rw [ite_step, if_neg (by decide)]
    exact bind_eq_done_iff.mpr ⟨closing, reached.facing after,
      (expect_eq_done_iff closed (by decide)).mpr ⟨after, rfl, isClosing, rfl⟩, rfl⟩

/-! ## Primaries -/

/-- A primary that succeeds is one of the seven forms, by the kind of its first token. -/
theorem primary_done_cases
    (closed : context.IsClosed)
    {expression : Eval σ Value} {fuel : Nat} {value : Value} {machine finish : Machine σ}
    (primaryDone : primary context expression fuel machine = .done value finish)
    {motive : Prop}
    (declares : ∀ token rest, machine.remaining = token :: rest → token.kind = .dataType →
      declaration context expression machine = .done value finish → motive)
    (names : ∀ token rest, machine.remaining = token :: rest → token.kind = .identifier →
      identifier context expression machine = .done value finish → motive)
    (calls : ∀ token rest, machine.remaining = token :: rest → token.kind = .function →
      call context expression fuel machine = .done value finish → motive)
    (isLiteral : ∀ token rest, machine.remaining = token :: rest →
      token.kind = .number ∨ token.kind = .string ∨ token.kind = .bool →
      literal token machine = .done value finish → motive)
    (opens : ∀ token rest, machine.remaining = token :: rest →
      token.kind = .openParenthesis →
      parenthesised context expression machine = .done value finish → motive)
    (chooses : ∀ token rest, machine.remaining = token :: rest → token.kind = .ifWord →
      ifBlock context expression fuel machine = .done value finish → motive)
    (repeats : ∀ token rest, machine.remaining = token :: rest → token.kind = .whileWord →
      whileBlock context expression fuel machine = .done value finish → motive) :
    motive := by
  rw [primary, bind_current] at primaryDone
  have notEnd : (context.front machine.remaining).kind ≠ .endOfInput := by
    intro isEnd
    rw [isEnd] at primaryDone
    exact fail_ne_done primaryDone
  obtain ⟨rest, cursor⟩ := closed.exists_cons notEnd
  generalize context.front machine.remaining = token at primaryDone cursor
  cases kindOf : token.kind with
  | dataType =>
      rw [kindOf] at primaryDone
      exact declares token rest cursor kindOf primaryDone
  | identifier =>
      rw [kindOf] at primaryDone
      exact names token rest cursor kindOf primaryDone
  | function =>
      rw [kindOf] at primaryDone
      exact calls token rest cursor kindOf primaryDone
  | number =>
      rw [kindOf] at primaryDone
      exact isLiteral token rest cursor (.inl kindOf) primaryDone
  | string =>
      rw [kindOf] at primaryDone
      exact isLiteral token rest cursor (.inr (.inl kindOf)) primaryDone
  | bool =>
      rw [kindOf] at primaryDone
      exact isLiteral token rest cursor (.inr (.inr kindOf)) primaryDone
  | openParenthesis =>
      rw [kindOf] at primaryDone
      exact opens token rest cursor kindOf primaryDone
  | ifWord =>
      rw [kindOf] at primaryDone
      exact chooses token rest cursor kindOf primaryDone
  | whileWord =>
      rw [kindOf] at primaryDone
      exact repeats token rest cursor kindOf primaryDone
  | _ =>
      rw [kindOf] at primaryDone
      exact absurd primaryDone fail_ne_done

theorem exists_signed_of_expressionOf
    {fuel : Nat} {primary : Eval σ Value} {value : Value} {machine finish : Machine σ}
    (done : expressionOf context fuel primary machine = .done value finish) :
    ∃ operand middle, signed context primary fuel machine = .done operand middle := by
  unfold expressionOf at done
  obtain ⟨_, _, conjunctionDone, _⟩ := tierOf_eq_done_iff.mp done
  obtain ⟨_, _, comparisonDone, _⟩ := tierOf_eq_done_iff.mp conjunctionDone
  obtain ⟨_, _, sumDone, _⟩ := tierOf_eq_done_iff.mp comparisonDone
  obtain ⟨_, _, productDone, _⟩ := tierOf_eq_done_iff.mp sumDone
  obtain ⟨operand, middle, signedDone, _⟩ := tierOf_eq_done_iff.mp productDone
  exact ⟨operand, middle, signedDone⟩

/-- In front of the end of the input there is no expression. -/
theorem expression_ne_done_of_endOfInput
    (closed : context.IsClosed) (fuel : Nat) {machine : Machine σ}
    (isEnd : (context.front machine.remaining).kind = .endOfInput)
    (value : Value) (finish : Machine σ) :
    expression context fuel machine ≠ .done value finish := by
  intro done
  cases fuel with
  | zero => exact exhausted_ne_done done
  | succ fuel =>
      obtain ⟨operand, middle, signedDone⟩ := exists_signed_of_expressionOf done
      cases fuel with
      | zero => exact exhausted_ne_done signedDone
      | succ fuel =>
          obtain ⟨_, ⟨sign, rest, _, _, cursor, isSign, _⟩ | ⟨_, _, primaryDone, _⟩⟩ :=
            (signed_succ_eq_done_iff closed).mp signedDone
          · rw [cursor, Context.front_cons] at isEnd
            rw [isEnd] at isSign
            cases isSign <;> contradiction
          · rw [primary, bind_current, Machine.deeper_remaining, isEnd] at primaryDone
            exact fail_ne_done primaryDone

end Evaluation

end PugScript
