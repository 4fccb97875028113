import PugScript.Proofs.Evaluation.Agreement

/-!
# Runs of statements

The statements of two runs are compared as their expressions are. Where the tokens of the left run
end and the right one has more, the right run has done what the left one did when it comes to them;
and where the right run was cut short, its values are the first ones of the left run.
-/

namespace PugScript

namespace Evaluation

open Simulation

variable {σ τ : Type} {simulation : Simulation σ τ} {level : Nat}

/-! ## One run -/

theorem statements_of_endOfInput
    {context : Context σ} {trace : Bool} (fuel : Nat) (values : List Value)
    {machine : Machine σ} (isEnd : (context.front machine.remaining).kind = .endOfInput) :
    statements context trace (fuel + 1) values machine =
      some ⟨values.reverse, none, machine⟩ := by
  rw [statements]
  exact if_pos isEnd

theorem statements_of_done
    {context : Context σ} {trace : Bool} {fuel : Nat} (values : List Value)
    {machine reached : Machine σ} {value : Value}
    (notEnd : (context.front machine.remaining).kind ≠ .endOfInput)
    (done : expression context fuel machine = .done value reached) :
    statements context trace (fuel + 1) values machine =
      statements context trace fuel (value :: values)
        (afterStatement context trace value reached) := by
  rw [statements]
  refine (if_neg notEnd).trans ?_
  rw [done]

theorem statements_of_failed
    {context : Context σ} {trace : Bool} {fuel : Nat} (values : List Value)
    {machine reached : Machine σ} {failure : Failure}
    (notEnd : (context.front machine.remaining).kind ≠ .endOfInput)
    (failed : expression context fuel machine = .failed failure reached) :
    statements context trace (fuel + 1) values machine =
      some ⟨values.reverse, some failure, reached⟩ := by
  rw [statements]
  refine (if_neg notEnd).trans ?_
  rw [failed]

theorem statements_of_outOfFuel
    {context : Context σ} {trace : Bool} {fuel : Nat} (values : List Value)
    {machine : Machine σ} (notEnd : (context.front machine.remaining).kind ≠ .endOfInput)
    (stuck : expression context fuel machine = .outOfFuel) :
    statements context trace (fuel + 1) values machine = none := by
  rw [statements]
  refine (if_neg notEnd).trans ?_
  rw [stuck]

/-- A run of statements ends at the end of the input, at a failure, or goes on. -/
theorem statements_cases
    {context : Context σ} {trace : Bool} {fuel : Nat} {values : List Value}
    {machine : Machine σ} {progress : Progress σ}
    (reached : statements context trace (fuel + 1) values machine = some progress) :
    ((context.front machine.remaining).kind = .endOfInput ∧
      progress = ⟨values.reverse, none, machine⟩) ∨
    ((context.front machine.remaining).kind ≠ .endOfInput ∧
      ((∃ failure finish, expression context fuel machine = .failed failure finish ∧
          progress = ⟨values.reverse, some failure, finish⟩) ∨
        ∃ value finish, expression context fuel machine = .done value finish ∧
          statements context trace fuel (value :: values)
            (afterStatement context trace value finish) = some progress)) := by
  by_cases isEnd : (context.front machine.remaining).kind = .endOfInput
  · rw [statements_of_endOfInput fuel values isEnd] at reached
    exact .inl ⟨isEnd, (Option.some.inj reached).symm⟩
  · refine .inr ⟨isEnd, ?_⟩
    cases outcome : expression context fuel machine with
    | done value finish =>
        rw [statements_of_done values isEnd outcome] at reached
        exact .inr ⟨value, finish, rfl, reached⟩
    | failed failure finish =>
        rw [statements_of_failed values isEnd outcome] at reached
        exact .inl ⟨failure, finish, rfl, (Option.some.inj reached).symm⟩
    | outOfFuel =>
        rw [statements_of_outOfFuel values isEnd outcome] at reached
        cases reached

theorem afterStatement_world
    (context : Context σ) (trace : Bool) (value : Value) (machine : Machine σ) :
    (afterStatement context trace value machine).world = machine.world := by
  cases trace <;> rfl

/-! ## Two runs -/

variable {machine : Machine σ} {machine' : Machine τ} {trace trace' : Bool}

theorem afterStatement_alike
    (alike : simulation.Alike level machine machine') (traces : simulation.noted → trace = trace')
    (value : Value) :
    simulation.Alike level (afterStatement simulation.left trace value machine)
      (afterStatement simulation.right trace' value machine') := by
  have notes (noted : simulation.noted) :
      (afterStatement simulation.left trace value machine).notes =
        (afterStatement simulation.right trace' value machine').notes := by
    obtain rfl := traces noted
    cases trace with
    | false => exact alike.notes noted
    | true =>
        simp only [afterStatement, if_true]
        rw [simulation.written_eq _ _ noted alike.world, alike.notes noted]
  cases trace <;> cases trace' <;>
    exact ⟨⟨alike.bindings, alike.world, alike.depth, notes⟩, alike.facing⟩

/-- What the right run does when the left one has come to an end with the given values behind those
that were there before. -/
inductive GoesAlong (simulation : Simulation σ τ) (start : σ) (trace' : Bool) (more : Nat)
    (progress : Progress σ) (values before' : List Value) (run : Option (Progress τ)) : Prop
  | onward (rest : Nat) {level : Nat} {reached' : Machine τ} :
      progress.failure? = none →
      (simulation.left.front progress.machine.remaining).kind = .endOfInput →
      simulation.later start progress.machine.world →
      simulation.Alike level progress.machine reached' →
      run = statements simulation.right trace' (rest + 1 + more) (values.reverse ++ before')
        reached' →
      GoesAlong simulation start trace' more progress values before' run
  | failed {failure failure' : Failure} {level : Nat} {reached' : Machine τ} :
      progress.failure? = some failure →
      SameFailure simulation.same failure failure' →
      simulation.later start progress.machine.world →
      simulation.Alike level progress.machine reached' →
      run = some ⟨before'.reverse ++ values, some failure', reached'⟩ →
      GoesAlong simulation start trace' more progress values before' run
  | cut {failure : Failure} {stopped : Machine τ} {fewer : List Value} :
      fewer <+: values →
      simulation.IsCut start failure stopped progress.machine.world →
      run = some ⟨before'.reverse ++ fewer, some failure, stopped⟩ →
      GoesAlong simulation start trace' more progress values before' run
  | overhanging :
      simulation.Overhangs →
      progress.failure? ≠ none →
      GoesAlong simulation start trace' more progress values before' run

section GoesAlong

variable {start : σ} {more : Nat} {progress : Progress σ} {values before' : List Value}
  {run : Option (Progress τ)}

/-- Where the left run goes on alone its host only moves forward, so the runs stay comparable. -/
theorem GoesAlong.later
    (follows : GoesAlong simulation start trace' more progress values before' run)
    (exactly : ¬ simulation.Overhangs) :
    simulation.later start progress.machine.world := by
  cases follows with
  | onward _ _ _ isLater _ _ => exact isLater
  | failed _ _ isLater _ _ => exact isLater
  | cut _ isCut _ => exact isCut.later
  | overhanging overhangs _ => exact absurd overhangs exactly

/-- One more statement in front. -/
theorem GoesAlong.cons
    {reached : σ} (isLater : simulation.later start reached) {value : Value}
    (follows : GoesAlong simulation reached trace' more progress values (value :: before') run) :
    GoesAlong simulation start trace' more progress (value :: values) before' run := by
  have front (values : List Value) :
      (value :: before').reverse ++ values = before'.reverse ++ value :: values := by
    rw [List.reverse_cons, List.append_assoc, List.singleton_append]
  cases follows with
  | onward rest successful isEnd isLater' alike runs =>
      refine .onward rest successful isEnd (simulation.later_trans _ _ _ isLater isLater') alike ?_
      rw [runs, List.reverse_cons, List.append_assoc, List.singleton_append]
  | failed failed failures isLater' alike runs =>
      refine .failed failed failures (simulation.later_trans _ _ _ isLater isLater') alike ?_
      rw [runs, front]
  | cut fewerValues isCut runs =>
      refine .cut (List.cons_prefix_cons.mpr ⟨rfl, fewerValues⟩)
        ⟨isCut.cuts, simulation.later_trans _ _ _ isLater isCut.later, isCut.added⟩ ?_
      rw [runs, front]
  | overhanging overhangs failed => exact .overhanging overhangs failed

end GoesAlong

/-- Statements that come to an end on the left are followed by those on the right, whatever values
were there before. -/
theorem statements_simulate
    (traces : simulation.noted → trace = trace') {fuel more : Nat}
    (enough : simulation.Enough fuel (fuel + more)) (before before' : List Value)
    (alike : simulation.Alike level machine machine') {progress : Progress σ}
    (reached : statements simulation.left trace fuel before machine = some progress) :
    ∃ values,
      progress.values = before.reverse ++ values ∧
      GoesAlong simulation machine.world trace' more progress values before'
        (statements simulation.right trace' (fuel + more) before' machine') := by
  induction fuel generalizing before before' level machine machine' with
  | zero => cases reached
  | succ fuel inductionHypothesis =>
      have enoughRest : simulation.Enough fuel (fuel + more) :=
        enough.imp (fun same => by omega) (fun ⟨starves, _⟩ => ⟨starves, Nat.le_add_right ..⟩)
      have agree := expression_simulates enoughRest _ _ _ alike
      rw [Nat.add_right_comm]
      rcases statements_cases reached with
        ⟨isEnd, rfl⟩ | ⟨notEnd, ⟨failure, finish, failed, rfl⟩ | ⟨value, finish, done, reached⟩⟩
      · refine ⟨[], (List.append_nil _).symm,
          .onward fuel rfl isEnd (simulation.later_refl _) alike ?_⟩
        exact congrArg (statements _ _ · _ _) (Nat.add_right_comm fuel more 1)
      all_goals
        have notEnd' : (simulation.right.front machine'.remaining).kind ≠ .endOfInput :=
          simulation.kind_eq _ _ (alike.same_front notEnd) ▸ notEnd
        generalize outcome : expression simulation.right (fuel + more) machine' = right at agree
      · rw [failed] at agree
        refine ⟨[], (List.append_nil _).symm, ?_⟩
        cases agree with
        | failed isLater failures alikeFinish =>
            refine .failed rfl failures isLater alikeFinish ?_
            rw [statements_of_failed before' notEnd' outcome, List.append_nil]
        | cutFailed isCut =>
            refine .cut List.nil_prefix isCut ?_
            rw [statements_of_failed before' notEnd' outcome, List.append_nil]
        | overhanging overhangs => exact .overhanging overhangs nofun
      · rw [done] at agree
        cases agree with
        | done isLater related =>
            obtain ⟨rfl, alikeFinish⟩ := related
            obtain ⟨values, valuesEq, follows⟩ :=
              inductionHypothesis enoughRest (value :: before) (value :: before')
                (afterStatement_alike alikeFinish traces value) reached
            rw [afterStatement_world, ← statements_of_done before' notEnd' outcome] at follows
            refine ⟨value :: values, ?_, follows.cons isLater⟩
            rw [valuesEq, List.reverse_cons, List.append_assoc, List.singleton_append]
        | cutDone isCut related =>
            -- the left run goes on alone: compared with a right run from the same place
            obtain ⟨rfl, alikeFinish⟩ := related
            obtain ⟨values, valuesEq, follows⟩ :=
              inductionHypothesis enoughRest (value :: before) (value :: before')
                (afterStatement_alike alikeFinish traces value) reached
            have exactly : ¬ simulation.Overhangs := fun ⟨_, _, overhangs⟩ =>
              simulation.not_overhang_of_cuts _ _ _ isCut.cuts overhangs
            have isLater := follows.later exactly
            rw [afterStatement_world] at isLater
            refine ⟨value :: values, ?_, .cut List.nil_prefix (isCut.trans isLater) ?_⟩
            · rw [valuesEq, List.reverse_cons, List.append_assoc, List.singleton_append]
            · rw [statements_of_failed before' notEnd' outcome, List.append_nil]

/-- Where the left run does not starve, statements that do not come to an end on the left do not on
the right either. -/
theorem statements_eq_none
    (sated : ¬ simulation.starves) (traces : simulation.noted → trace = trace') (fuel : Nat)
    (before before' : List Value) (alike : simulation.Alike level machine machine')
    (stuck : statements simulation.left trace fuel before machine = none) :
    statements simulation.right trace' fuel before' machine' = none := by
  induction fuel generalizing before before' level machine machine' with
  | zero => rfl
  | succ fuel inductionHypothesis =>
      by_cases isEnd : (simulation.left.front machine.remaining).kind = .endOfInput
      · rw [statements_of_endOfInput fuel before isEnd] at stuck
        cases stuck
      have notEnd' : (simulation.right.front machine'.remaining).kind ≠ .endOfInput :=
        simulation.kind_eq _ _ (alike.same_front isEnd) ▸ isEnd
      have agree := expression_simulates (Enough.same fuel) _ _ _ alike
      generalize outcome : expression simulation.left fuel machine = left at agree
      generalize outcome' : expression simulation.right fuel machine' = right at agree
      cases agree with
      | @done value _ _ _ _ related =>
          obtain ⟨rfl, alikeFinish⟩ := related
          rw [statements_of_done before isEnd outcome] at stuck
          rw [statements_of_done before' notEnd' outcome']
          exact inductionHypothesis (value :: before) (value :: before')
            (afterStatement_alike alikeFinish traces value) stuck
      | outOfFuel => exact statements_of_outOfFuel before' notEnd' outcome'
      | cutDone isCut _ => exact absurd (simulation.starves_of_cuts _ isCut.cuts) sated
      | starved starves => exact absurd starves sated
      | failed _ _ _ | cutFailed _ | overhanging _ =>
          rw [statements_of_failed before isEnd outcome] at stuck
          cases stuck

/-- The same values and, if there is one, the same failure, in states that correspond to each
other. -/
structure SameProgress (simulation : Simulation σ τ) (progress : Progress σ) (other : Progress τ) :
    Prop where
  values : progress.values = other.values
  failure? : Option.Rel (SameFailure simulation.same) progress.failure? other.failure?
  alike : ∃ level, simulation.Alike level progress.machine other.machine

/-- Statements that come to an end on the left and are not cut short on the right come to the same
end there, whatever values were there before. -/
theorem statements_simulate_exactly
    (exactly : ¬ simulation.Overhangs) (uncut : ∀ failure, ¬ simulation.cuts failure)
    (traces : simulation.noted → trace = trace') {fuel fuel' : Nat}
    (enough : simulation.Enough fuel fuel') (before before' : List Value)
    (alike : simulation.Alike level machine machine') {progress : Progress σ}
    (reached : statements simulation.left trace fuel before machine = some progress) :
    ∃ progress' values,
      statements simulation.right trace' fuel' before' machine' = some progress' ∧
      progress.values = before.reverse ++ values ∧
      progress'.values = before'.reverse ++ values ∧
      Option.Rel (SameFailure simulation.same) progress.failure? progress'.failure? ∧
      ∃ level, simulation.Alike level progress.machine progress'.machine := by
  have le : fuel ≤ fuel' := enough.elim Nat.le_of_eq And.right
  obtain ⟨more, rfl⟩ := Nat.exists_eq_add_of_le le
  obtain ⟨values, valuesEq, follows⟩ :=
    statements_simulate traces enough before before' alike reached
  cases follows with
  | onward rest successful isEnd _ alikeReached runs =>
      have same := alikeReached.front.resolve_right fun overhangs => exactly ⟨_, _, overhangs⟩
      have isEnd' := simulation.kind_eq _ _ same ▸ isEnd
      rw [Nat.add_right_comm, statements_of_endOfInput _ _ isEnd'] at runs
      refine ⟨_, values, runs, valuesEq, ?_, ?_, _, alikeReached⟩
      · rw [List.reverse_append, List.reverse_reverse]
      · rw [successful]
        exact .none
  | failed failed failures _ alikeReached runs =>
      exact ⟨_, values, runs, valuesEq, rfl, failed ▸ .some failures, _, alikeReached⟩
  | cut _ isCut _ => exact absurd isCut.cuts (uncut _)
  | overhanging overhangs _ => exact absurd overhangs exactly

/-- Two runs neither of which starves come to the same end, or neither comes to one. -/
theorem statements_rel
    (sated : ¬ simulation.starves) (traces : simulation.noted → trace = trace') (fuel : Nat)
    (before : List Value) (alike : simulation.Alike level machine machine') :
    Option.Rel (SameProgress simulation) (statements simulation.left trace fuel before machine)
      (statements simulation.right trace' fuel before machine') := by
  have exactly : ¬ simulation.Overhangs :=
    fun ⟨_, _, overhangs⟩ => sated (simulation.starves_of_overhang _ _ overhangs)
  have uncut (failure : Failure) : ¬ simulation.cuts failure :=
    fun cuts => sated (simulation.starves_of_cuts _ cuts)
  cases reached : statements simulation.left trace fuel before machine with
  | none =>
      rw [statements_eq_none sated traces fuel before before alike reached]
      exact .none
  | some progress =>
      obtain ⟨progress', values, reached', left, right, failures, alikeReached⟩ :=
        statements_simulate_exactly exactly uncut traces (.inl rfl) before before alike reached
      rw [reached']
      exact .some ⟨left.trans right.symm, failures, alikeReached⟩

/-- Two evaluations are related as the ends of their statements are. -/
theorem evaluate_rel
    {τ : Type} {host : Host σ} {other : Host τ}
    {preferences otherPreferences : EvaluationPreferences} {tokens others : List Token}
    {fuel : Nat} {bindings : VariableTable} {world : σ} {otherWorld : τ}
    {related : Progress σ → Progress τ → Prop}
    {alike : Evaluation σ → Evaluation τ → Prop}
    (same : Option.Rel related
      (statements (contextOf host preferences tokens) preferences.traceStatements fuel []
        (initialMachine tokens bindings world))
      (statements (contextOf other otherPreferences others) otherPreferences.traceStatements fuel []
        (initialMachine others bindings otherWorld)))
    (ends : ∀ progress progress', related progress progress' →
      alike (ofProgress tokens progress) (ofProgress others progress')) :
    Option.Rel alike (evaluate fuel host preferences tokens bindings world)
      (evaluate fuel other otherPreferences others bindings otherWorld) := by
  unfold evaluate
  generalize statements (contextOf host preferences tokens) preferences.traceStatements fuel []
    (initialMachine tokens bindings world) = progress at same ⊢
  generalize statements (contextOf other otherPreferences others)
    otherPreferences.traceStatements fuel []
    (initialMachine others bindings otherWorld) = progress' at same ⊢
  cases same with
  | none => exact .none
  | some both => exact .some (ends _ _ both)


end Evaluation

end PugScript
