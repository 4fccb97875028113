import PugScript.Proofs.Evaluation.Agreement
import PugScript.Proofs.Program.Meaning

/-!
# Machines that do what a meaning says

A step of the machine is compared with a meaning: both fail for the same reason in the same store,
or both succeed and the machine then stands at a known place with the store of the meaning. Either
may also give up, the machine for want of fuel and the meaning for want of turns. Which of the two
may do so alone is a parameter, so that one proof serves both directions.
-/

namespace PugScript

variable {σ α β γ δ : Type}

/-- The side whose bound may be the first to be reached. -/
inductive Shorter where
  | machine
  | tree

/-- The fuel of the machine and the turns of a meaning fit together: the shorter side is bounded by
the other one, which also has enough for the parts of a tree of the given size. -/
def Enough (shorter : Shorter) (turns fuel size : Nat) : Prop :=
  match shorter with
  | .machine => fuel ≤ turns
  | .tree => turns + size ≤ fuel

namespace Enough

variable {shorter : Shorter} {turns fuel size : Nat}

theorem mono (enough : Enough shorter turns fuel size) {smaller : Nat} (le : smaller ≤ size) :
    Enough shorter turns fuel smaller := by
  cases shorter with
  | machine => exact enough
  | tree =>
      simp only [Enough] at enough ⊢
      omega

theorem pred (enough : Enough shorter turns (fuel + 1) (size + 1)) :
    Enough shorter turns fuel size := by
  cases shorter with
  | machine =>
      simp only [Enough] at enough ⊢
      omega
  | tree =>
      simp only [Enough] at enough ⊢
      omega

theorem eq_machine (enough : Enough shorter turns 0 (size + 1)) : shorter = .machine := by
  cases shorter with
  | machine => rfl
  | tree =>
      simp only [Enough] at enough
      omega

end Enough

/-! ## Outcomes -/

/-- The variables and the host of a machine. -/
def Machine.store (machine : Machine σ) : Store σ :=
  ⟨machine.bindings, machine.world⟩

/-- The machine stands in front of the given tokens, at a depth and with a store. -/
structure Machine.Stands (machine : Machine σ) (tokens : List Token) (depth : Nat)
    (store : Store σ) : Prop where
  remaining : machine.remaining = tokens
  depth : machine.depth = depth
  store : machine.store = store

/-- The outcome of the machine is the one of the meaning, or the shorter side has given up. -/
def Matches (shorter : Shorter) (post : α → Machine σ → β → Store σ → Prop) :
    Outcome σ α → Option (Except EvaluationFault β × Store σ) → Prop
  | .outOfFuel, none => True
  | .outOfFuel, some _ => shorter = .machine
  | .done _ _, none => shorter = .tree
  | .failed _ _, none => shorter = .tree
  | .done result machine, some (.ok value, store) => post result machine value store
  | .done _ _, some (.error _, _) => False
  | .failed _ _, some (.ok _, _) => False
  | .failed failure machine, some (.error fault, store) =>
      failure.fault = fault ∧ fault.IsPlaceless ∧ machine.store = store

/-- The same result, with the machine in front of the given tokens. -/
def Reaches (tokens : List Token) (depth : Nat) (result : α) (machine : Machine σ) (value : α)
    (store : Store σ) : Prop :=
  result = value ∧ machine.Stands tokens depth store

theorem meaning_bind_apply
    (first : Meaning σ α) (next : α → Meaning σ β) (store : Store σ) :
    (first >>= next) store =
      match first store with
      | none => none
      | some (.ok value, reached) => next value reached
      | some (.error fault, reached) => some (.error fault, reached) := by
  change (first store).bind _ = _
  rcases first store with _ | ⟨_ | _, _⟩ <;> rfl

namespace Matches

variable {shorter : Shorter}
  {middle : α → Machine σ → β → Store σ → Prop} {post : γ → Machine σ → δ → Store σ → Prop}
  {machine : Machine σ} {store : Store σ}

/-- The machine may run out of fuel if it is the shorter side. -/
theorem outOfFuel (isShorter : shorter = .machine)
    (result : Option (Except EvaluationFault δ × Store σ)) :
    Matches shorter post (.outOfFuel : Outcome σ γ) result := by
  cases result with
  | none => trivial
  | some _ => exact isShorter

/-- The meaning may be unfinished if it is the shorter side. -/
theorem unfinished (isShorter : shorter = .tree) (outcome : Outcome σ γ) :
    Matches shorter post outcome (none : Option (Except EvaluationFault δ × Store σ)) := by
  cases outcome with
  | outOfFuel => trivial
  | done _ _ => exact isShorter
  | failed _ _ => exact isShorter

/-- Steps that match one after another match as a sequence; the bound of the shorter side may end
either of them. -/
theorem bind
    {first : Eval σ α} {meaning : Meaning σ β} {next : α → Eval σ γ} {next' : β → Meaning σ δ}
    (firstMatches : Matches shorter middle (first machine) (meaning store))
    (nextMatches : ∀ result reached value store', middle result reached value store' →
      Matches shorter post (next result reached) (next' value store')) :
    Matches shorter post ((first >>= next) machine) ((meaning >>= next') store) := by
  rw [meaning_bind_apply]
  change Matches shorter post (Eval.bind first next machine) _
  unfold Eval.bind
  generalize first machine = outcome at firstMatches
  generalize meaning store = result at firstMatches
  rcases result with _ | ⟨fault | value, reached'⟩
  · cases outcome with
    | outOfFuel => trivial
    | done result reached => exact unfinished firstMatches (next result reached)
    | failed failure reached => exact unfinished firstMatches (.failed failure reached)
  · cases outcome with
    | outOfFuel => exact outOfFuel firstMatches _
    | done result reached => exact firstMatches.elim
    | failed failure reached => exact firstMatches
  · cases outcome with
    | outOfFuel => exact outOfFuel firstMatches (next' value reached')
    | done result reached => exact nextMatches _ _ _ _ firstMatches
    | failed failure reached => exact firstMatches.elim

theorem ite
    {condition condition' : Prop} [Decidable condition] [Decidable condition']
    (conditions : condition ↔ condition')
    {first second : Eval σ γ} {first' second' : Meaning σ δ}
    (holds : condition → Matches shorter post (first machine) (first' store))
    (fails : ¬ condition → Matches shorter post (second machine) (second' store)) :
    Matches shorter post ((if condition then first else second) machine)
      ((if condition' then first' else second') store) := by
  by_cases decided : condition
  · rw [if_pos decided, if_pos (conditions.mp decided)]
    exact holds decided
  · rw [if_neg decided, if_neg (mt conditions.mpr decided)]
    exact fails decided

theorem fail
    {fault : EvaluationFault} (token : Token) (stores : machine.store = store)
    (placeless : fault.IsPlaceless) :
    Matches shorter post ((Eval.fail fault token : Eval σ γ) machine)
      ((throw fault : Meaning σ δ) store) :=
  ⟨rfl, placeless, stores⟩

theorem ofExcept
    {computation : Except EvaluationFault α}
    (placeless : ∀ fault, computation = .error fault → fault.IsPlaceless)
    (token : Token) {tokens : List Token} {depth : Nat}
    (stands : machine.Stands tokens depth store) :
    Matches shorter (Reaches tokens depth) ((Eval.ofExcept token computation : Eval σ α) machine)
      ((MonadExcept.ofExcept computation : Meaning σ α) store) := by
  cases computation with
  | ok result => exact ⟨rfl, stands⟩
  | error fault => exact ⟨rfl, placeless fault rfl, stands.store⟩

theorem nested
    {step : Eval σ α} {meaning : Meaning σ α} {tokens : List Token} {depth : Nat}
    (inner : Matches shorter (Reaches tokens (depth + 1)) (step machine.deeper) (meaning store)) :
    Matches shorter (Reaches tokens depth) (Eval.nested step machine) (meaning store) := by
  rw [Eval.nested_apply]
  generalize step machine.deeper = outcome at inner
  generalize meaning store = result at inner
  rcases result with _ | ⟨fault | value, reached'⟩
  · cases outcome with
    | outOfFuel => trivial
    | done result reached => exact inner
    | failed failure reached => exact inner
  · cases outcome with
    | outOfFuel => exact inner
    | done result reached => exact inner.elim
    | failed failure reached => exact inner
  · cases outcome with
    | outOfFuel => exact inner
    | done result reached =>
        obtain ⟨same, stands⟩ := inner
        exact ⟨same, stands.remaining, congrArg (· - 1) stands.depth, stands.store⟩
    | failed failure reached => exact inner.elim

end Matches

/-! ## The machine alone -/

namespace Machine.Stands

variable {machine : Machine σ} {token : Token} {tokens others : List Token} {depth : Nat}
  {store : Store σ}

theorem front (stands : machine.Stands (token :: tokens) depth store) (context : Context σ) :
    context.front machine.remaining = token := by
  rw [stands.remaining]
  rfl

theorem tail (stands : machine.Stands (token :: tokens) depth store) :
    (machine.facing machine.remaining.tail).Stands tokens depth store := by
  rw [stands.remaining]
  exact ⟨rfl, stands.depth, stands.store⟩

theorem facing (stands : machine.Stands tokens depth store) (others : List Token) :
    (machine.facing others).Stands others depth store :=
  ⟨rfl, stands.depth, stands.store⟩

theorem deeper (stands : machine.Stands tokens depth store) :
    machine.deeper.Stands tokens (depth + 1) store :=
  ⟨stands.remaining, congrArg (· + 1) stands.depth, stands.store⟩

end Machine.Stands

/-- A word that is expected is passed. -/
theorem bind_expect
    {context : Context σ} {machine : Machine σ} {kind : TokenKind} {text : String}
    {tokens : List Token} {depth : Nat} {store : Store σ}
    (stands : machine.Stands (word kind text :: tokens) depth store) (next : Token → Eval σ α) :
    (Eval.expect context kind >>= next) machine =
      next (word kind text) (machine.facing tokens) := by
  have passes :
      Eval.expect context kind machine = .done (word kind text) (machine.facing tokens) := by
    have found : (word kind text).kind = kind := rfl
    unfold Eval.expect
    rw [Eval.bind_current, stands.front, if_pos found, Eval.bind_advance, stands.remaining]
    rfl
  exact Eval.bind_of_done passes

/-- Inert tokens are passed over up to the word behind them. -/
theorem bind_skipTo
    {context : Context σ} (opener : TokenKind) {stops : List TokenKind}
    (blockEnd : IsBlockEnd stops) {machine : Machine σ} {passed tokens : List Token}
    {kind : TokenKind} {text : String} {depth : Nat} {store : Store σ}
    (stands : machine.Stands (passed ++ word kind text :: tokens) depth store)
    (inert : Inert passed) (isStop : kind ∈ stops) (next : TokenKind → Eval σ α) :
    (Eval.skipTo context opener stops >>= next) machine =
      next kind (machine.facing (word kind text :: tokens)) := by
  have stopsHere : (word kind text).kind ∈ stops := isStop
  have skipped : Eval.skipTo context opener stops machine =
      .done kind (machine.facing (word kind text :: tokens)) := by
    unfold Eval.skipTo
    rw [stands.remaining, inert.skipBlock_append_stop blockEnd stopsHere]
    rfl
  exact Eval.bind_of_done skipped

end PugScript
