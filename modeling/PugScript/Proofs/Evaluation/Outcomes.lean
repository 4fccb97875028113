import PugScript.Proofs.Evaluation.Steps
import PugScript.Proofs.Value.Results

/-!
# What holds of an outcome

A property of outcomes says what a success leaves behind, which failures are allowed and whether
the fuel may run out. The rules of this module carry such a property through the steps that every
construct is made of, so that a walk over the constructs says only what is particular to it.
-/

namespace PugScript

variable {σ α β : Type}

/-- A success meets the postcondition, a failure is one of those allowed, and the fuel runs out
only where it may. -/
def Outcome.Meets (starves : Prop) (allowed : Failure → Machine σ → Prop)
    (post : α → Machine σ → Prop) : Outcome σ α → Prop
  | .done result machine => post result machine
  | .failed failure machine => allowed failure machine
  | .outOfFuel => starves

namespace Outcome.Meets

variable {starves : Prop} {allowed : Failure → Machine σ → Prop} {machine : Machine σ}

/-- A second step is looked at only where the first one leads. -/
theorem bind_of_done
    {middle : α → Machine σ → Prop} {post : β → Machine σ → Prop}
    {first : Eval σ α} {next : α → Eval σ β}
    (firstMeets : (first machine).Meets starves allowed middle)
    (nextMeets : ∀ result reached, first machine = .done result reached →
      (next result reached).Meets starves allowed post) :
    ((first >>= next) machine).Meets starves allowed post := by
  cases outcome : first machine with
  | done result reached =>
      rw [Eval.bind_of_done outcome]
      exact nextMeets result reached outcome
  | failed failure reached =>
      rw [Eval.bind_of_failed outcome]
      rw [outcome] at firstMeets
      exact firstMeets
  | outOfFuel =>
      rw [Eval.bind_of_outOfFuel outcome]
      rw [outcome] at firstMeets
      exact firstMeets

theorem bind
    {middle : α → Machine σ → Prop} {post : β → Machine σ → Prop}
    {first : Eval σ α} {next : α → Eval σ β}
    (firstMeets : (first machine).Meets starves allowed middle)
    (nextMeets : ∀ result reached, middle result reached →
      (next result reached).Meets starves allowed post) :
    ((first >>= next) machine).Meets starves allowed post := by
  refine bind_of_done firstMeets ?_
  intro result reached done
  rw [done] at firstMeets
  exact nextMeets result reached firstMeets

variable {post : α → Machine σ → Prop}

theorem ite
    {condition : Prop} [Decidable condition] {first second : Eval σ α}
    (firstMeets : condition → (first machine).Meets starves allowed post)
    (secondMeets : ¬ condition → (second machine).Meets starves allowed post) :
    ((if condition then first else second) machine).Meets starves allowed post := by
  by_cases holds : condition
  · rw [if_pos holds]
    exact firstMeets holds
  · rw [if_neg holds]
    exact secondMeets holds

theorem ofExcept
    {token : Token} {computation : Except EvaluationFault α}
    (yields : Yields (fun result => post result machine)
      (fun fault => allowed ⟨fault, token⟩ machine) computation) :
    ((Eval.ofExcept token computation : Eval σ α) machine).Meets starves allowed post := by
  cases computation with
  | ok result => exact yields
  | error fault => exact yields

/-- A token that is expected stands at the cursor and is passed. -/
theorem expect
    {context : Context σ} (closed : context.IsClosed)
    {kind : TokenKind} (notEnd : kind ≠ .endOfInput) {post : Token → Machine σ → Prop}
    (found : ∀ token rest, machine.remaining = token :: rest → token.kind = kind →
      post token (machine.facing rest))
    (missing : ∀ found, allowed ⟨.unexpectedToken found kind, context.front machine.remaining⟩
      machine) :
    (Eval.expect context kind machine).Meets starves allowed post := by
  unfold Eval.expect
  rw [Eval.bind_current]
  refine ite (fun isKind => ?_) (fun _ => missing _)
  obtain ⟨rest, cursor⟩ := closed.exists_cons (fun isEnd => notEnd (isKind.symm.trans isEnd))
  have behind : machine.remaining.tail = rest := congrArg List.tail cursor
  rw [Eval.bind_advance, behind]
  exact found _ rest cursor isKind

theorem skipTo
    {context : Context σ} {opener : TokenKind} {stops : List TokenKind}
    {post : TokenKind → Machine σ → Prop}
    (found : ∀ kind rest, skipBlock stops 0 machine.remaining = (some kind, rest) →
      post kind (machine.facing rest))
    (missing : ∀ rest, skipBlock stops 0 machine.remaining = (none, rest) →
      allowed ⟨.unterminatedBlock opener, context.front rest⟩ (machine.facing rest)) :
    (Eval.skipTo context opener stops machine).Meets starves allowed post := by
  unfold Eval.skipTo
  rcases skipped : skipBlock stops 0 machine.remaining with ⟨_ | kind, rest⟩
  · exact missing rest skipped
  · exact found kind rest skipped

theorem assignVariable
    {name : String} {value : Value} {post : Bool → Machine σ → Prop}
    (unknown : post false machine)
    (known : ∀ bindings, machine.bindings.assign? name value = some bindings →
      post true { machine with bindings }) :
    (Eval.assignVariable name value machine).Meets starves allowed post := by
  unfold Eval.assignVariable
  cases assigned : machine.bindings.assign? name value with
  | none => exact unknown
  | some bindings => exact known bindings assigned

theorem withHost
    {use : σ → Except ValueError α × σ} {token : Token}
    (yields : Yields (fun result => post result { machine with world := (use machine.world).2 })
      (fun error => allowed ⟨.value error, token⟩ { machine with world := (use machine.world).2 })
      (use machine.world).1) :
    (Eval.withHost use token machine).Meets starves allowed post := by
  unfold Eval.withHost
  rcases used : use machine.world with ⟨error | result, world⟩
  · rw [used] at yields
    exact yields
  · rw [used] at yields
    exact yields

theorem nested
    {inside : Failure → Machine σ → Prop} {middle : α → Machine σ → Prop} {step : Eval σ α}
    (stepMeets : (step machine.deeper).Meets starves inside middle)
    (done : ∀ result reached, middle result reached → post result reached.higher)
    (failed : ∀ failure reached, inside failure reached → allowed failure reached.higher) :
    (Eval.nested step machine).Meets starves allowed post := by
  rw [Eval.nested_apply]
  cases outcome : step machine.deeper with
  | done result reached =>
      rw [outcome] at stepMeets
      exact done result reached stepMeets
  | failed failure reached =>
      rw [outcome] at stepMeets
      exact failed failure reached stepMeets
  | outOfFuel =>
      rw [outcome] at stepMeets
      exact stepMeets

end Outcome.Meets

end PugScript
