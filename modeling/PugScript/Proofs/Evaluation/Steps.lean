import Mathlib
import PugScript.Evaluation

/-!
# What a successful step did

For every construct of the language this module says when its evaluation succeeds, in terms of
the tokens at the cursor and of the nested evaluations. Statements about successful evaluations
follow from these equivalences without opening the constructs again.
-/

namespace PugScript

/-! ## Machines at another place -/

namespace Machine

variable {σ : Type}

/-- The machine with the cursor in front of other tokens. -/
def facing (machine : Machine σ) (remaining : List Token) : Machine σ :=
  { machine with remaining }

def declare (machine : Machine σ) (name : String) (value : Value) : Machine σ :=
  { machine with bindings := machine.bindings.declare name value }

def deeper (machine : Machine σ) : Machine σ :=
  { machine with depth := machine.depth + 1 }

def higher (machine : Machine σ) : Machine σ :=
  { machine with depth := machine.depth - 1 }

@[simp]
theorem facing_remaining (machine : Machine σ) (tokens : List Token) :
    (machine.facing tokens).remaining = tokens :=
  rfl

@[simp]
theorem facing_bindings (machine : Machine σ) (tokens : List Token) :
    (machine.facing tokens).bindings = machine.bindings :=
  rfl

@[simp]
theorem facing_facing (machine : Machine σ) (first second : List Token) :
    (machine.facing first).facing second = machine.facing second :=
  rfl

@[simp]
theorem deeper_remaining (machine : Machine σ) : machine.deeper.remaining = machine.remaining :=
  rfl

@[simp]
theorem deeper_depth (machine : Machine σ) : machine.deeper.depth = machine.depth + 1 :=
  rfl

@[simp]
theorem higher_depth (machine : Machine σ) : machine.higher.depth = machine.depth - 1 :=
  rfl

end Machine

def Outcome.higher {σ α : Type} : Outcome σ α → Outcome σ α
  | done result machine => .done result machine.higher
  | failed failure machine => .failed failure machine.higher
  | outOfFuel => .outOfFuel

/-- Behind the last token the context shows the end of the input. -/
def Context.IsClosed {σ : Type} (context : Context σ) : Prop :=
  context.endMark.kind = .endOfInput

theorem endMark_kind (tokens : List Token) : (endMark tokens).kind = .endOfInput := by
  unfold endMark
  split <;> rfl

theorem endMark_text (tokens : List Token) : (endMark tokens).text = "" := by
  unfold endMark
  split <;> rfl

theorem endMark_concat_endOfInput (tokens : List Token) (offset : Nat) :
    endMark (tokens ++ [Token.endOfInput offset]) = Token.endOfInput offset := by
  rw [endMark, List.getLast?_concat]
  rfl

theorem Evaluation.contextOf_isClosed
    {σ : Type} (host : Host σ) (preferences : EvaluationPreferences) (tokens : List Token) :
    (Evaluation.contextOf host preferences tokens).IsClosed :=
  endMark_kind tokens

/-- The token at the cursor in front of the given tokens. -/
def Context.front {σ : Type} (context : Context σ) (tokens : List Token) : Token :=
  tokens.headD context.endMark

@[simp]
theorem Context.front_cons
    {σ : Type} (context : Context σ) (token : Token) (rest : List Token) :
    context.front (token :: rest) = token :=
  rfl

/-- In front of anything but the end of the input there is a token. -/
theorem Context.IsClosed.exists_cons
    {σ : Type} {context : Context σ} (closed : context.IsClosed)
    {tokens : List Token} (notEnd : (context.front tokens).kind ≠ .endOfInput) :
    ∃ rest, tokens = context.front tokens :: rest := by
  cases tokens with
  | nil => exact absurd closed notEnd
  | cons token rest => exact ⟨rest, rfl⟩

namespace Eval

variable {σ α β : Type}

/-! ## Sequences of steps -/

/-- A sequence succeeds if both of its steps do. -/
theorem bind_eq_done_iff
    {first : Eval σ α} {second : α → Eval σ β}
    {machine finish : Machine σ} {result : β} :
    (first >>= second) machine = .done result finish ↔
      ∃ value middle,
        first machine = .done value middle ∧
        second value middle = .done result finish := by
  change Eval.bind first second machine = _ ↔ _
  unfold Eval.bind
  cases first machine with
  | done value middle =>
      simp only [Outcome.done.injEq]
      constructor
      · exact fun finished => ⟨value, middle, ⟨rfl, rfl⟩, finished⟩
      · rintro ⟨_, _, ⟨rfl, rfl⟩, finished⟩
        exact finished
  | failed failure middle => simp
  | outOfFuel => simp

theorem bind_of_done
    {first : Eval σ α} {next : α → Eval σ β} {machine reached : Machine σ} {result : α}
    (done : first machine = .done result reached) :
    (first >>= next) machine = next result reached := by
  change Eval.bind first next machine = _
  unfold Eval.bind
  rw [done]

theorem bind_of_failed
    {first : Eval σ α} {next : α → Eval σ β} {machine reached : Machine σ} {failure : Failure}
    (failed : first machine = .failed failure reached) :
    (first >>= next) machine = .failed failure reached := by
  change Eval.bind first next machine = _
  unfold Eval.bind
  rw [failed]

theorem bind_of_outOfFuel
    {first : Eval σ α} {next : α → Eval σ β} {machine : Machine σ}
    (stuck : first machine = .outOfFuel) :
    (first >>= next) machine = .outOfFuel := by
  change Eval.bind first next machine = _
  unfold Eval.bind
  rw [stuck]

theorem pure_apply (result : α) (machine : Machine σ) :
    (pure result : Eval σ α) machine = .done result machine :=
  rfl

theorem pure_eq_done_iff
    {value result : α} {machine finish : Machine σ} :
    (pure value : Eval σ α) machine = .done result finish ↔
      result = value ∧ finish = machine := by
  rw [pure_apply, Outcome.done.injEq]
  exact ⟨fun both => ⟨both.1.symm, both.2.symm⟩, fun both => ⟨both.1.symm, both.2.symm⟩⟩

theorem bind_current
    (context : Context σ) (next : Token → Eval σ α) (machine : Machine σ) :
    (current context >>= next) machine =
      next (context.front machine.remaining) machine :=
  rfl

theorem bind_peek
    (context : Context σ) (next : Token → Eval σ α) (machine : Machine σ) :
    (peek context >>= next) machine =
      next (context.front machine.remaining.tail) machine :=
  rfl

theorem bind_advance (next : Unit → Eval σ α) (machine : Machine σ) :
    (advance >>= next) machine = next () (machine.facing machine.remaining.tail) :=
  rfl

theorem bind_mark (next : List Token → Eval σ α) (machine : Machine σ) :
    (mark >>= next) machine = next machine.remaining machine :=
  rfl

theorem bind_rewind
    (place : List Token) (next : Unit → Eval σ α) (machine : Machine σ) :
    (rewind place >>= next) machine = next () (machine.facing place) :=
  rfl

theorem bind_currentDepth (next : Nat → Eval σ α) (machine : Machine σ) :
    (currentDepth >>= next) machine = next machine.depth machine :=
  rfl

theorem bind_declareVariable
    (name : String) (value : Value) (next : Unit → Eval σ α) (machine : Machine σ) :
    (declareVariable name value >>= next) machine = next () (machine.declare name value) :=
  rfl

theorem bind_getVariable?
    (name : String) (next : Option Value → Eval σ α) (machine : Machine σ) :
    (getVariable? name >>= next) machine = next (machine.bindings.get? name) machine :=
  rfl

theorem ite_step (condition : Prop) [Decidable condition]
    (first second : Eval σ α) (machine : Machine σ) :
    (if condition then first else second) machine =
      if condition then first machine else second machine := by
  split <;> rfl

theorem bind_bind {γ : Type}
    (first : Eval σ α) (second : α → Eval σ β) (third : β → Eval σ γ) :
    (first >>= second) >>= third = first >>= fun result => second result >>= third := by
  funext machine
  change Eval.bind (Eval.bind first second) third machine =
    Eval.bind first (fun result => Eval.bind (second result) third) machine
  unfold Eval.bind
  cases first machine <;> rfl

theorem ite_bind (condition : Prop) [Decidable condition]
    (first second : Eval σ α) (next : α → Eval σ β) :
    (if condition then first else second) >>= next =
      if condition then first >>= next else second >>= next := by
  split <;> rfl

theorem fail_ne_done
    {fault : EvaluationFault} {token : Token} {machine finish : Machine σ} {result : α} :
    ¬ (fail fault token : Eval σ α) machine = .done result finish := by
  intro impossible
  cases impossible

theorem failHere_ne_done
    {context : Context σ} {fault : EvaluationFault}
    {machine finish : Machine σ} {result : α} :
    ¬ (failHere context fault : Eval σ α) machine = .done result finish := by
  intro impossible
  cases impossible

theorem exhausted_ne_done
    {machine finish : Machine σ} {result : α} :
    ¬ (exhausted : Eval σ α) machine = .done result finish := by
  intro impossible
  cases impossible

theorem ofExcept_eq_done_iff
    {token : Token} {computation : Except EvaluationFault α}
    {machine finish : Machine σ} {result : α} :
    (ofExcept token computation : Eval σ α) machine = .done result finish ↔
      computation = .ok result ∧ finish = machine := by
  cases computation with
  | ok value =>
      change (pure value : Eval σ α) machine = _ ↔ _
      rw [pure_eq_done_iff, Except.ok.injEq]
      exact and_congr_left' eq_comm
  | error fault =>
      exact ⟨fun impossible => absurd impossible fail_ne_done,
        fun both => nomatch both.1⟩

/-- A token that is expected is there and is passed. -/
theorem expect_eq_done_iff
    {context : Context σ} (closed : context.IsClosed)
    {kind : TokenKind} (notEnd : kind ≠ .endOfInput)
    {machine finish : Machine σ} {token : Token} :
    expect context kind machine = .done token finish ↔
      ∃ rest,
        machine.remaining = token :: rest ∧
        token.kind = kind ∧
        finish = machine.facing rest := by
  unfold expect
  rw [bind_current, ite_step]
  by_cases found : (context.front machine.remaining).kind = kind
  · rw [if_pos found, bind_advance, pure_eq_done_iff]
    obtain ⟨rest, cursor⟩ :=
      closed.exists_cons (fun isEnd => notEnd (found.symm.trans isEnd))
    constructor
    · rintro ⟨rfl, rfl⟩
      refine ⟨rest, cursor, found, ?_⟩
      rw [cursor]
      rfl
    · rintro ⟨after, cursorAfter, _, rfl⟩
      rw [cursorAfter]
      exact ⟨rfl, rfl⟩
  · rw [if_neg found]
    constructor
    · exact fun impossible => absurd impossible fail_ne_done
    · rintro ⟨after, cursorAfter, isKind, _⟩
      rw [cursorAfter] at found
      exact absurd isKind found

/-- Skipping succeeds where one of the kinds is found. -/
theorem skipTo_eq_done_iff
    {context : Context σ} {opener : TokenKind} {stops : List TokenKind}
    {machine finish : Machine σ} {kind : TokenKind} :
    skipTo context opener stops machine = .done kind finish ↔
      ∃ rest,
        skipBlock stops 0 machine.remaining = (some kind, rest) ∧
        finish = machine.facing rest := by
  unfold skipTo
  rcases skipBlock stops 0 machine.remaining with ⟨found, rest⟩
  cases found with
  | none =>
      simp only [Prod.mk.injEq, reduceCtorEq, false_and, exists_false, iff_false]
      exact failHere_ne_done
  | some stop =>
      simp only [Outcome.done.injEq, Prod.mk.injEq, Option.some.injEq]
      constructor
      · rintro ⟨rfl, rfl⟩
        exact ⟨rest, ⟨rfl, rfl⟩, rfl⟩
      · rintro ⟨after, ⟨rfl, rfl⟩, rfl⟩
        exact ⟨rfl, rfl⟩

theorem nested_apply (step : Eval σ α) (machine : Machine σ) :
    nested step machine = (step machine.deeper).higher := by
  unfold nested Machine.deeper
  cases step { machine with depth := machine.depth + 1 } <;> rfl

/-- A nested step succeeds one level deeper. -/
theorem nested_eq_done_iff
    {step : Eval σ α} {machine finish : Machine σ} {result : α} :
    nested step machine = .done result finish ↔
      ∃ middle, step machine.deeper = .done result middle ∧ finish = middle.higher := by
  rw [nested_apply]
  cases step machine.deeper with
  | done value middle =>
      simp only [Outcome.higher, Outcome.done.injEq]
      constructor
      · rintro ⟨rfl, rfl⟩
        exact ⟨middle, ⟨rfl, rfl⟩, rfl⟩
      · rintro ⟨_, ⟨rfl, rfl⟩, rfl⟩
        exact ⟨rfl, rfl⟩
  | failed failure middle => simp [Outcome.higher]
  | outOfFuel => simp [Outcome.higher]

end Eval

end PugScript
