import PugScript.Host.Memory
import PugScript.Proofs.Evaluation.Completion
import PugScript.Proofs.Evaluation.Curbing
import PugScript.Proofs.Evaluation.Extent
import PugScript.Proofs.Evaluation.HostCalls

/-!
# The nesting depth

Whatever is nested passes through a sign or a primary, where the depth is checked, raised and
lowered again. So an expression that succeeds comes back to the depth it started at, the depth stays
within its limit all the way, and starting deeper makes no difference until the limit is reached.
-/

namespace PugScript

variable {σ α : Type}

def Machine.atDepth (machine : Machine σ) (depth : Nat) : Machine σ :=
  { machine with depth }

/-! ## Watching the depth -/

/-- The step, given up if the depth is above its limit before or after it. -/
def Eval.watched (step : Eval σ α) : Eval σ α := fun machine =>
  if Limits.maxParseDepth < machine.depth then .outOfFuel
  else
    match step machine with
    | .done result finish =>
      if Limits.maxParseDepth < finish.depth then .outOfFuel else .done result finish
    | .failed failure finish =>
      if Limits.maxParseDepth < finish.depth then .outOfFuel else .failed failure finish
    | .outOfFuel => .outOfFuel

namespace Evaluation

open Eval Simulation

/-- A primary behind any number of signs, watched wherever the depth has changed. -/
def watchedSigned (context : Context σ) (primary : Eval σ Value) : Nat → Eval σ Value
  | 0 => exhausted
  | fuel + 1 => do
    let token ← current context
    let depth ← currentDepth
    if Limits.maxParseDepth ≤ depth then
      fail .maxDepthExceeded token
    else if token.kind = .plus ∨ token.kind = .minus then
      nested <| watched do
        advance
        let operand ← watchedSigned context primary fuel
        ofExcept token (applySign token.kind operand)
    else
      nested (watched primary)

/-- One expression, watched wherever the depth has changed. -/
def watchedExpression (context : Context σ) : Nat → Eval σ Value
  | 0 => exhausted
  | fuel + 1 =>
    tierOf context .disjunction fuel <|
      tierOf context .conjunction fuel <|
        tierOf context .comparison fuel <|
          tierOf context .additive fuel <|
            tierOf context .multiplicative fuel <|
              watchedSigned context (primary context (watchedExpression context fuel) fuel) fuel

section Watching

variable {context : Context σ} (closed : context.IsClosed)

/-- A run that is watched and the same run that is not, at a depth within the limit. -/
def watchCurb : Curb σ where
  lenient := context
  strictLimit := context.loopLimit
  depths := fun depth depth' => depth = depth' ∧ depth ≤ Limits.maxParseDepth
  later := fun _ _ => True
  cuts := fun _ => False
  lenientClosed := closed
  later_refl := fun _ => trivial
  later_trans := fun _ _ _ _ _ => trivial
  later_invoke := fun _ _ _ => trivial
  depths_self := fun _ _ never => never.elim
  depths_deeper := fun _ _ both room _ => ⟨congrArg (· + 1) both.1, room⟩
  depths_higher := fun _ _ both =>
    ⟨congrArg (· - 1) both.1, (Nat.sub_le _ _).trans both.2⟩
  depths_le := fun _ _ both => both.1.ge
  cuts_depth := fun _ _ _ both full room => Nat.not_le_of_lt room (both.1 ▸ full)
  limits := .inl rfl

variable {closed}

/-- As long as the depth stays within its limit, it makes no difference to watch it. -/
theorem watched_agree
    {step other : Eval σ α} {level : Nat} {machine machine' : Machine σ}
    (alike : (watchCurb closed).simulation.Alike level machine machine')
    (agree : (watchCurb closed).simulation.Agree machine.world
      ((watchCurb closed).simulation.SameResult level) (step machine) (other machine')) :
    (watchCurb closed).simulation.Agree machine.world
      ((watchCurb closed).simulation.SameResult level) (step machine) (watched other machine') := by
  unfold watched
  rw [if_neg (Nat.not_lt_of_le alike.depth.2)]
  generalize step machine = outcome at agree ⊢
  generalize other machine' = outcome' at agree ⊢
  cases agree with
  | done isLater related =>
      dsimp only
      rw [if_neg (Nat.not_lt_of_le related.2.depth.2)]
      exact .done isLater related
  | failed isLater failures alikeFinish =>
      dsimp only
      rw [if_neg (Nat.not_lt_of_le alikeFinish.depth.2)]
      exact .failed isLater failures alikeFinish
  | cutDone isCut _ => exact isCut.cuts.elim
  | cutFailed isCut => exact isCut.cuts.elim
  | overhanging overhangs => exact .overhanging overhangs
  | starved starves => exact .starved starves
  | outOfFuel => exact .outOfFuel

theorem watchedSigned_simulates
    {primary primary' : Eval σ Value}
    (primaries : (watchCurb closed).simulation.Simulates primary primary') (fuel : Nat) :
    (watchCurb closed).simulation.Simulates (signed context primary fuel)
      (watchedSigned context primary' fuel) := by
  induction fuel with
  | zero => exact fun _ _ _ _ => .outOfFuel
  | succ fuel inductionHypothesis =>
      intro level machine machine' alike
      have front : context.front machine.remaining = context.front machine'.remaining :=
        congrArg context.front alike.facing
      rw [watchedSigned, signed, bind_current, bind_current, bind_currentDepth, bind_currentDepth]
      refine Agree.unlessTooDeep alike fun reached' alikeHere room room' _ => ?_
      have deeper := alikeHere.deeper room room'
      rw [← front]
      refine Agree.ite Iff.rfl (fun isSign => Agree.nested (watched_agree deeper ?_))
        (fun _ => Agree.nested (watched_agree deeper (primaries _ _ _ deeper)))
      rw [bind_advance, bind_advance]
      refine Agree.bind
        (inductionHypothesis _ _ _ (deeper.advance (isPlain_of_isSign isSign))) ?_
      rintro operand finish _ finish' ⟨rfl, alikeFinish⟩
      exact Agree.ofExcept alikeFinish rfl fun _ => applySign_isPlaceless

/-- Watching the depth never makes an expression give up. -/
theorem watchedExpression_simulates (fuel : Nat) :
    (watchCurb closed).simulation.Simulates (expression context fuel)
      (watchedExpression context fuel) := by
  induction fuel with
  | zero => exact fun _ _ _ _ => .outOfFuel
  | succ fuel inductionHypothesis =>
      rw [watchedExpression, expression, expressionOf]
      iterate 5 apply tierOf_simulates _ (Enough.same fuel)
      exact watchedSigned_simulates
        (primary_simulates inductionHypothesis
          (fun _ => expression_ne_done_of_endOfInput closed fuel) (Enough.same fuel)) fuel

theorem eq_of_watchCurb_alike
    {level : Nat} {machine machine' : Machine σ}
    (alike : (watchCurb closed).simulation.Alike level machine machine') :
    machine' = machine := by
  have same := Curb.eq_of_alike alike
  rw [alike.depth.1] at same
  exact same

/-- Nobody who watches the depth of an expression sees it above the limit. -/
theorem watchedExpression_of_done
    (closed : context.IsClosed) {fuel : Nat} {machine finish : Machine σ} {value : Value}
    (within : machine.depth ≤ Limits.maxParseDepth)
    (done : expression context fuel machine = .done value finish) :
    watchedExpression context fuel machine = .done value finish := by
  have alike : (watchCurb closed).simulation.Alike 0 machine machine :=
    Curb.alike_of_eq rfl ⟨rfl, within⟩
  have agree := watchedExpression_simulates fuel _ _ _ alike
  rw [done] at agree
  generalize watchedExpression context fuel machine = outcome at agree
  cases agree with
  | done _ related =>
      obtain ⟨rfl, alikeFinish⟩ := related
      rw [eq_of_watchCurb_alike alikeFinish]
  | cutDone isCut _ => exact isCut.cuts.elim

end Watching

/-! ## Coming back to the same depth -/

section Balance

variable {context : Context σ} (closed : context.IsClosed)

include closed

/-- An expression succeeds only below the depth limit. -/
theorem depth_lt_of_done
    {fuel : Nat} {machine finish : Machine σ} {value : Value}
    (done : expression context fuel machine = .done value finish) :
    machine.depth < Limits.maxParseDepth := by
  cases fuel with
  | zero => exact absurd done exhausted_ne_done
  | succ fuel =>
      obtain ⟨operand, middle, signedDone⟩ := exists_signed_of_expressionOf done
      cases fuel with
      | zero => exact absurd signedDone exhausted_ne_done
      | succ fuel => exact ((signed_succ_eq_done_iff closed).mp signedDone).1

/-- Completed statements use up no depth. -/
theorem Completes.depth_eq
    {trace : Bool} {machine reached : Machine σ} {values : List Value}
    (completes : Completes context trace machine values reached) :
    reached.depth = machine.depth := by
  induction completes with
  | none machine => rfl
  | @next fuel machine reached finish value values _ done _ inductionHypothesis =>
      have passed := expression_passesInert closed fuel _ _ _ done
      have traced : (afterStatement context trace value reached).depth = reached.depth := by
        cases trace <;> rfl
      exact inductionHypothesis.trans (traced.trans passed.depth_eq)

/-- The turns of a loop use up no depth. -/
theorem depth_eq_of_reachesTest
    {fuel blockFuel : Nat} {start before : Machine σ}
    (reaches : ReachesTest (condition context (expression context fuel))
      (block context .whileWord [.endWord] (expression context fuel) blockFuel) start before) :
    before.depth = start.depth := by
  have passes := expression_passesInert closed fuel
  induction reaches with
  | first => rfl
  | @next before middle reached stop _ tested ran inductionHypothesis =>
      have overTest := condition_passesInert passes _ _ _ tested
      have overBody := (passed_of_block passes closed isBlockEnd_endWord ran).1
      exact overBody.depth_eq.trans (overTest.depth_eq.trans inductionHypothesis)

end Balance

/-! ## Starting deeper -/

/-- The evaluation fails because it is nested too deep. -/
def ExceedsDepth (outcome : Outcome σ α) : Prop :=
  ∃ failure finish, outcome = .failed failure finish ∧ failure.fault = .maxDepthExceeded

section Deeper

variable {context : Context σ} (closed : context.IsClosed)

/-- A run from a greater depth and the same run from a smaller one. -/
def depthCurb : Curb σ where
  lenient := context
  strictLimit := context.loopLimit
  depths := fun depth depth' => depth' ≤ depth
  later := fun _ _ => True
  cuts := fun failure => failure.fault = .maxDepthExceeded
  lenientClosed := closed
  later_refl := fun _ => trivial
  later_trans := fun _ _ _ _ _ => trivial
  later_invoke := fun _ _ _ => trivial
  depths_self := fun _ _ _ => Nat.le_refl _
  depths_deeper := fun _ _ le _ _ => Nat.succ_le_succ le
  depths_higher := fun _ _ le => Nat.sub_le_sub_right le 1
  depths_le := fun _ _ le => le
  cuts_depth := fun _ _ _ _ _ _ => rfl
  limits := .inl rfl

variable {fuel depth : Nat} {machine finish : Machine σ} (deeper : machine.depth ≤ depth)

include deeper

/-- From a greater depth an expression does the same, or it is cut short because it is nested too
deep. -/
theorem expression_agrees_atDepth (fuel : Nat) :
    (depthCurb closed).simulation.Agree machine.world
      ((depthCurb closed).simulation.SameResult 0) (expression context fuel machine)
      (expression context fuel (machine.atDepth depth)) := by
  have alike : (depthCurb closed).simulation.Alike 0 machine (machine.atDepth depth) :=
    Curb.alike_of_eq rfl deeper
  exact expression_simulates (Enough.same fuel) _ _ _ alike

include closed

/-- An expression that succeeds does the same from a greater depth, or comes to be nested too
deep. -/
theorem expression_atDepth_of_done
    {value : Value} (done : expression context fuel machine = .done value finish) :
    expression context fuel (machine.atDepth depth) = .done value (finish.atDepth depth) ∨
      ExceedsDepth (expression context fuel (machine.atDepth depth)) := by
  have agree := expression_agrees_atDepth closed deeper fuel
  rw [done] at agree
  generalize outcome : expression context fuel (machine.atDepth depth) = right at agree
  cases agree with
  | @done _ _ _ finish' _ related =>
      obtain ⟨rfl, alikeFinish⟩ := related
      have sameDepth : finish'.depth = depth :=
        (expression_passesInert closed fuel _ _ _ outcome).depth_eq
      rw [Curb.eq_of_alike alikeFinish, sameDepth]
      exact .inl rfl
  | cutDone isCut _ => exact .inr ⟨_, _, rfl, isCut.cuts⟩

/-- An expression that fails does so from a greater depth as well, or comes to be nested too
deep before. -/
theorem expression_atDepth_of_failed
    {failure : Failure} (failed : expression context fuel machine = .failed failure finish) :
    (∃ reached, expression context fuel (machine.atDepth depth) =
        .failed failure (finish.atDepth reached)) ∨
      ExceedsDepth (expression context fuel (machine.atDepth depth)) := by
  have agree := expression_agrees_atDepth closed deeper fuel
  rw [failed] at agree
  generalize expression context fuel (machine.atDepth depth) = right at agree
  cases agree with
  | failed _ failures alikeFinish =>
      rw [Curb.eq_of_alike alikeFinish, ← failures.eq fun _ _ => id]
      exact .inl ⟨_, rfl⟩
  | cutFailed isCut => exact .inr ⟨_, _, rfl, isCut.cuts⟩
  | overhanging overhangs =>
      obtain ⟨_, _, overhangs⟩ := overhangs
      exact overhangs.elim

end Deeper

/-- The nesting depth is exact and bounded, and it only cuts runs short. An expression that succeeds
comes back to the depth it started at, and the depth is never above its limit on the way; so all
statements of an evaluation start at depth zero, and all turns of a loop at the same depth. From a
greater depth, an expression that comes to an end leads to the same result, cursor, variables and
state of the host, its log of calls included if it keeps one, or else it fails because it is nested
too deep. -/
theorem nesting_is_exact_and_only_cuts_short
    (host : Host σ) (preferences : EvaluationPreferences) (tokens : List Token) :
    let context := contextOf host preferences tokens
    (∀ fuel machine value finish, expression context fuel machine = .done value finish →
      finish.depth = machine.depth ∧
      machine.depth < Limits.maxParseDepth ∧
      watchedExpression context fuel machine = .done value finish) ∧
    (∀ trace bindings world values reached,
      Completes context trace (initialMachine tokens bindings world) values reached →
        reached.depth = 0) ∧
    (∀ fuel blockFuel start before,
      ReachesTest (condition context (expression context fuel))
        (block context .whileWord [.endWord] (expression context fuel) blockFuel) start before →
          before.depth = start.depth) ∧
    (∀ fuel machine depth, machine.depth ≤ depth →
      (∀ value finish, expression context fuel machine = .done value finish →
        expression context fuel (machine.atDepth depth) = .done value (finish.atDepth depth) ∨
        ExceedsDepth (expression context fuel (machine.atDepth depth))) ∧
      ∀ failure finish, expression context fuel machine = .failed failure finish →
        (∃ reached, expression context fuel (machine.atDepth depth) =
          .failed failure (finish.atDepth reached)) ∨
        ExceedsDepth (expression context fuel (machine.atDepth depth))) := by
  intro context
  have closed : context.IsClosed := contextOf_isClosed host preferences tokens
  refine ⟨?_, ?_, ?_, ?_⟩
  · intro fuel machine value finish done
    have below := depth_lt_of_done closed done
    exact ⟨(expression_passesInert closed fuel _ _ _ done).depth_eq, below,
      watchedExpression_of_done closed below.le done⟩
  · intro trace bindings world values reached completes
    exact completes.depth_eq closed
  · intro fuel blockFuel start before reaches
    exact depth_eq_of_reachesTest closed reaches
  · intro fuel machine depth deeper
    exact ⟨fun value finish done => expression_atDepth_of_done closed deeper done,
      fun failure finish failed => expression_atDepth_of_failed closed deeper failed⟩

/-- The tokens of `(print("a"))`. -/
def nestedCallTokens : List Token :=
  [⟨.openParenthesis, "(", 0⟩, ⟨.function, "print", 1⟩, ⟨.openParenthesis, "(", 6⟩,
    ⟨.string, "a", 7⟩, ⟨.closeParenthesis, ")", 10⟩, ⟨.closeParenthesis, ")", 11⟩]

theorem nesting_of_nestedCallTokens_only_cuts_short :
    let context := contextOf seededHost.logging {} nestedCallTokens
    let machine := initialMachine nestedCallTokens .empty (.seeded 0, [])
    ∃ finish,
      expression context 9 machine = .done .none finish ∧
      finish.world.2 = [.print "a" (.ok ())] ∧
      finish.depth = 0 ∧
      watchedExpression context 9 machine = .done .none finish ∧
      machine.depth ≤ 199 ∧
      (expression context 9 (machine.atDepth 199) = .done .none (finish.atDepth 199) ∨
        ExceedsDepth (expression context 9 (machine.atDepth 199))) := by
  intro context machine
  have evaluated : ∃ finish,
      expression context 9 machine = .done .none finish ∧
      finish.world.2 = [.print "a" (.ok ())] :=
    ⟨_, by cbv, rfl⟩
  obtain ⟨finish, done, calls⟩ := evaluated
  obtain ⟨balances, _, _, cuts⟩ :=
    nesting_is_exact_and_only_cuts_short seededHost.logging {} nestedCallTokens
  obtain ⟨balanced, _, watched⟩ := balances 9 machine .none finish done
  have deeper : machine.depth ≤ 199 := Nat.zero_le 199
  exact ⟨finish, done, calls, balanced, watched, deeper,
    (cuts 9 machine 199 deeper).1 .none finish done⟩

end Evaluation

end PugScript
