import PugScript.Host.Memory
import PugScript.Proofs.Evaluation.Causes
import PugScript.Proofs.Evaluation.Curbing
import PugScript.Proofs.Evaluation.HostCalls

/-!
# The loop limit only cuts runs short

Lowering the limit of loops changes nothing in an evaluation but where it ends: it does the same as
before, or fails at a loop that has run its body as often as it may and finds its condition true
once more. Each loop counts its own turns, and starts at zero whenever it is reached.
-/

namespace PugScript

variable {σ : Type}

/-! ## One loop -/

/-- Where a loop has led. -/
inductive LoopEnd (σ : Type) where
  /-- The condition or the body failed. -/
  | failed (failure : Failure) (machine : Machine σ)
  /-- The condition did not hold any more. -/
  | finished (machine : Machine σ)
  /-- The condition held, but the body was not run any more. -/
  | stopped (machine : Machine σ)

def LoopEnd.IsStopped : LoopEnd σ → Prop
  | stopped _ => True
  | _ => False

/-- The course of a loop from a machine in front of its condition: how often the condition held,
how often the body was run, and where that led. -/
inductive LoopCourse (test : Eval σ Bool) (body : Eval σ TokenKind) (place : List Token) :
    Machine σ → Nat → Nat → LoopEnd σ → Prop
  | testFails {machine reached : Machine σ} {failure : Failure} :
      test machine = .failed failure reached →
      LoopCourse test body place machine 0 0 (.failed failure reached)
  | finishes {machine reached : Machine σ} :
      test machine = .done false reached →
      LoopCourse test body place machine 0 0 (.finished reached)
  | stops {machine reached : Machine σ} :
      test machine = .done true reached →
      LoopCourse test body place machine 1 0 (.stopped reached)
  | bodyFails {machine reached finish : Machine σ} {failure : Failure} :
      test machine = .done true reached →
      body reached = .failed failure finish →
      LoopCourse test body place machine 1 1 (.failed failure finish)
  | turn {machine reached finish : Machine σ} {stop : TokenKind} {held runs : Nat}
      {ending : LoopEnd σ} :
      test machine = .done true reached →
      body reached = .done stop finish →
      LoopCourse test body place (finish.facing place) held runs ending →
      LoopCourse test body place machine (held + 1) (runs + 1) ending

namespace Evaluation

open Eval

/-- How the repetition of a loop ends, after so many turns in all. -/
def iterateOutcome (limit : UInt64) (keyword : Token) (turns : UInt64) :
    LoopEnd σ → Outcome σ UInt64
  | .failed failure machine => .failed failure machine
  | .finished machine => .done turns machine
  | .stopped machine => .failed ⟨.loopLimitExceeded limit, keyword⟩ machine

/-- A loop that has made some turns runs its body up to the limit, and is stopped if and only if
its condition holds one time more than that; a limit that bounds no loop neither bounds nor stops
it. The induction carries that such a limit has not been passed. -/
theorem exists_course_of_iterate
    (context : Context σ) (keyword : Token)
    (place : List Token) (test : Eval σ Bool) (body : Eval σ TokenKind)
    (fuel : Nat) {turns : Nat}
    (within : BoundsLoops context.loopLimit → turns ≤ context.loopLimit.toNat)
    {machine : Machine σ}
    (ends : iterate context keyword place test body fuel (.ofNat turns) machine ≠ .outOfFuel) :
    ∃ held runs ending,
      LoopCourse test body place machine held runs ending ∧
      (BoundsLoops context.loopLimit → turns + runs ≤ context.loopLimit.toNat) ∧
      (ending.IsStopped ↔
        BoundsLoops context.loopLimit ∧ turns + held = context.loopLimit.toNat + 1) ∧
      iterate context keyword place test body fuel (.ofNat turns) machine =
        iterateOutcome context.loopLimit keyword (.ofNat (turns + runs)) ending := by
  induction fuel generalizing turns machine with
  | zero => exact absurd rfl ends
  | succ fuel inductionHypothesis =>
      rw [iterate] at ends ⊢
      cases tested : test machine with
      | outOfFuel => exact absurd (bind_of_outOfFuel tested) ends
      | failed failure reached =>
          refine ⟨0, 0, _, .testFails tested, within, ?_, bind_of_failed tested⟩
          refine iff_of_false id ?_
          rintro ⟨bounds, passed⟩
          have reached := within bounds
          omega
      | done truth reached =>
          rw [bind_of_done tested] at ends ⊢
          cases truth with
          | false =>
              refine ⟨0, 0, _, .finishes tested, within, ?_, rfl⟩
              refine iff_of_false id ?_
              rintro ⟨bounds, passed⟩
              have reached := within bounds
              omega
          | true =>
              rw [if_pos rfl, ite_step] at ends ⊢
              by_cases full : 0 < context.loopLimit ∧ context.loopLimit < .ofNat turns + 1
              · rw [if_pos full]
                obtain ⟨bounds, reached⟩ := (exceeds_iff within).mp full
                have passed := within bounds
                refine ⟨1, 0, _, .stops tested, within, ?_, rfl⟩
                exact iff_of_true trivial ⟨bounds, by omega⟩
              rw [if_neg full] at ends ⊢
              have withinNext :
                  BoundsLoops context.loopLimit → turns + 1 ≤ context.loopLimit.toNat :=
                fun bounds => succ_le_of_not_exceeds bounds (within bounds) full
              cases ran : body reached with
              | outOfFuel => exact absurd (bind_of_outOfFuel ran) ends
              | failed failure finish =>
                  refine ⟨1, 1, _, .bodyFails tested ran, withinNext, ?_, bind_of_failed ran⟩
                  refine iff_of_false id ?_
                  rintro ⟨bounds, passed⟩
                  have reached := withinNext bounds
                  omega
              | done stop finish =>
                  have next : UInt64.ofNat turns + 1 = .ofNat (turns + 1) :=
                    (UInt64.ofNat_add turns 1).symm
                  rw [bind_of_done ran, bind_rewind, next] at ends ⊢
                  obtain ⟨held, runs, ending, course, bound, stopped, outcome⟩ :=
                    inductionHypothesis withinNext ends
                  rw [Nat.add_assoc, Nat.add_comm 1] at bound stopped outcome
                  exact ⟨held + 1, runs + 1, ending, .turn tested ran course, bound, stopped,
                    outcome⟩

/-- Behind its last turn, a loop is closed: its end is looked for and passed. -/
def closeLoop (context : Context σ) (keyword : Token) (iterations : UInt64) : Eval σ Value := do
  let stop ← skipTo context .whileWord [.elseWord, .endWord]
  if stop = .elseWord then
    failHere context .elseInWhile
  else
    let _ ← expect context .endWord
    leaveNote context (.loopFinished iterations keyword.offset)
    return .none

/-- A `while` block is the repetition of its body and then the closing of the loop. -/
theorem whileBlock_eq
    (context : Context σ) (expression : Eval σ Value) (fuel : Nat) (machine : Machine σ) :
    whileBlock context expression fuel machine =
      (iterate context (context.front machine.remaining) machine.remaining.tail
          (condition context expression) (block context .whileWord [.endWord] expression fuel)
          fuel (.ofNat 0) >>= closeLoop context (context.front machine.remaining))
        (machine.facing machine.remaining.tail) :=
  rfl

/-- Closing a loop may fail, but not for its limit. -/
theorem closeLoop_fault
    {context : Context σ} {keyword : Token} {iterations : UInt64} {machine reached : Machine σ}
    {failure : Failure}
    (failed : closeLoop context keyword iterations machine = .failed failure reached) :
    failure.fault = .unterminatedBlock .whileWord ∨ failure.fault = .elseInWhile ∨
      ∃ found, failure.fault = .unexpectedToken found .endWord := by
  unfold closeLoop at failed
  cases skipped : skipTo context .whileWord [.elseWord, .endWord] machine with
  | outOfFuel => exact absurd skipped (skipTo_finishes _ _ _).ne_outOfFuel
  | failed _ _ =>
      rw [bind_of_failed skipped] at failed
      cases failed
      unfold skipTo at skipped
      split at skipped
      · cases skipped
      · cases skipped
        exact .inl rfl
  | done stop closing =>
      rw [bind_of_done skipped, ite_step] at failed
      split at failed
      · cases failed
        exact .inr (.inl rfl)
      · unfold expect at failed
        rw [bind_bind, bind_current, ite_bind, ite_step] at failed
        split at failed
        · cases failed
        · cases failed
          exact .inr (.inr ⟨_, rfl⟩)

/-- How an execution of a `while` block goes: the course of its loop, and what it ends with. -/
structure WhileCourse (context : Context σ) (expression : Eval σ Value) (fuel : Nat)
    (machine : Machine σ) (held runs : Nat) (ending : LoopEnd σ) : Prop where
  course : LoopCourse (condition context expression)
    (block context .whileWord [.endWord] expression fuel) machine.remaining.tail
    (machine.facing machine.remaining.tail) held runs ending
  of_failed : ∀ failure finish, ending = .failed failure finish →
    whileBlock context expression fuel machine = .failed failure finish
  of_stopped : ∀ finish, ending = .stopped finish →
    whileBlock context expression fuel machine =
      .failed ⟨.loopLimitExceeded context.loopLimit, context.front machine.remaining⟩ finish
  of_finished : ∀ finish failure reached limit, ending = .finished finish →
    whileBlock context expression fuel machine = .failed failure reached →
      failure.fault ≠ .loopLimitExceeded limit

/-- Every execution of a `while` block that ends has a course, and it is stopped exactly if its
condition held once more often than the limit allows. -/
theorem exists_whileCourse
    (context : Context σ) (expression : Eval σ Value) (fuel : Nat) {machine : Machine σ}
    (ends : whileBlock context expression fuel machine ≠ .outOfFuel) :
    ∃ held runs ending,
      WhileCourse context expression fuel machine held runs ending ∧
      (BoundsLoops context.loopLimit → runs ≤ context.loopLimit.toNat) ∧
      (ending.IsStopped ↔
        BoundsLoops context.loopLimit ∧ held = context.loopLimit.toNat + 1) := by
  have turns : iterate context (context.front machine.remaining) machine.remaining.tail
      (condition context expression) (block context .whileWord [.endWord] expression fuel) fuel
      (.ofNat 0) (machine.facing machine.remaining.tail) ≠ .outOfFuel := by
    intro stuck
    rw [whileBlock_eq, bind_of_outOfFuel stuck] at ends
    exact ends rfl
  obtain ⟨held, runs, ending, course, bound, stopped, outcome⟩ :=
    exists_course_of_iterate _ _ _ _ _ fuel (fun _ => Nat.zero_le _) turns
  rw [Nat.zero_add] at bound stopped outcome
  refine ⟨held, runs, ending, ⟨course, ?_, ?_, ?_⟩, bound, stopped⟩
  · rintro failure finish rfl
    rw [whileBlock_eq]
    exact bind_of_failed outcome
  · rintro finish rfl
    rw [whileBlock_eq]
    exact bind_of_failed outcome
  · rintro finish failure reached limit rfl failed isLimit
    rw [whileBlock_eq, bind_of_done outcome] at failed
    have fault := closeLoop_fault failed
    simp [isLimit] at fault

/-! ## Two limits -/

/-- The values of the completed statements of an evaluation. -/
def completedValues (evaluation : Evaluation σ) : List Value :=
  match evaluation.result with
  | .ok values => values
  | .error error => error.values

theorem completedValues_ofProgress (tokens : List Token) (progress : Progress σ) :
    completedValues (ofProgress tokens progress) = progress.values := by
  unfold completedValues ofProgress
  cases progress.failure? <;> rfl

/-- Two evaluations of the same tokens with a log of their calls, under two limits for loops. -/
def limitCurb
    (host : Host σ) (preferences : EvaluationPreferences) (tokens : List Token)
    {limit other : UInt64} (positive : 0 < limit) (wider : limit ≤ other ∨ other = 0) :
    Curb (σ × List HostCall) where
  lenient := contextOf host.logging { preferences with maxLoopIterations := other } tokens
  strictLimit := limit
  depths := Eq
  later := fun state after => state.2 <+: after.2
  cuts := fun failure =>
    failure.fault = .loopLimitExceeded limit ∧ failure.token.kind = .whileWord
  lenientClosed := contextOf_isClosed ..
  later_refl := fun _ => List.prefix_rfl
  later_trans := fun _ _ _ first second => first.trans second
  later_invoke := fun name arguments state => host.calls_isPrefix_of_invoke name arguments state
  depths_self := fun _ _ _ => rfl
  depths_deeper := deeper_of_eq
  depths_higher := higher_of_eq
  depths_le := fun _ _ same => same.ge
  cuts_depth := fun _ _ _ same full room => absurd (same ▸ full) (Nat.not_le_of_lt room)
  limits := by
    refine .inr ⟨fun count stops => ⟨positive, ?_⟩, fun keyword isWhile => ⟨rfl, isWhile⟩⟩
    obtain ⟨otherPositive, exceeded⟩ := stops
    rcases wider with larger | rfl
    · exact UInt64.lt_of_le_of_lt larger exceeded
    · exact absurd otherPositive (UInt64.lt_irrefl 0)

/-- What is wider than the largest limit bounds no loop either. -/
theorem exists_evaluate_of_largestLimit
    (host : Host σ) (preferences : EvaluationPreferences) (tokens : List Token)
    (bindings : VariableTable) {other : UInt64} (wider : largestLimit ≤ other ∨ other = 0)
    {fuel : Nat} {world : σ} {lenient : Evaluation σ}
    (evaluated : evaluate fuel host { preferences with maxLoopIterations := other } tokens bindings
      world = some lenient) :
    ∃ strict,
      evaluate fuel host { preferences with maxLoopIterations := largestLimit } tokens bindings
        world = some strict ∧
      EndsLike strict lenient := by
  have boundless : ¬ BoundsLoops largestLimit := (not_boundsLoops_iff _).mpr (.inr rfl)
  have otherBoundless : ¬ BoundsLoops other :=
    (not_boundsLoops_iff _).mpr (wider.symm.imp_right eq_largestLimit_of_le)
  have same := evaluate_of_not_boundsLoops host preferences tokens bindings world boundless
    otherBoundless fuel
  rw [evaluated] at same
  generalize evaluate fuel host { preferences with maxLoopIterations := largestLimit } tokens
    bindings world = strict? at same ⊢
  cases same with
  | some same => exact ⟨_, rfl, same⟩

section Limits

variable (host : Host σ) (preferences : EvaluationPreferences) (tokens : List Token)
  (bindings : VariableTable) {limit other : UInt64} (positive : 0 < limit)
  (wider : limit ≤ other ∨ other = 0) {fuel : Nat}

include positive wider

/-- With a log of the calls, an evaluation under the lower limit ends as the one under the higher
limit does, or fails at a loop after some of its statements and some of its calls. -/
theorem exists_logged_under_lower_limit
    {state : σ × List HostCall} {lenient : Evaluation (σ × List HostCall)}
    (evaluated : evaluate fuel host.logging { preferences with maxLoopIterations := other } tokens
      bindings state = some lenient) :
    ∃ strict,
      evaluate fuel host.logging { preferences with maxLoopIterations := limit } tokens bindings
        state = some strict ∧
      ((strict.result = lenient.result ∧ strict.bindings = lenient.bindings ∧
          strict.world = lenient.world) ∨
        limit ≠ largestLimit ∧ ∃ error,
          strict.result = .error error ∧
          error.fault = .loopLimitExceeded limit ∧
          error.token.kind = .whileWord ∧
          error.values <+: completedValues lenient ∧
          strict.world.2 <+: lenient.world.2) := by
  by_cases isLargest : limit = largestLimit
  · obtain ⟨strict, evaluatedStrict, same⟩ :=
      exists_evaluate_of_largestLimit host.logging preferences tokens bindings
        (isLargest ▸ wider) evaluated
    exact ⟨strict, isLargest ▸ evaluatedStrict, .inl same⟩
  let curb := limitCurb host preferences tokens positive wider
  have alike : curb.simulation.Alike 0 (initialMachine tokens bindings state)
      (initialMachine tokens bindings state) :=
    Curb.alike_of_eq rfl rfl
  obtain ⟨progress', reached', rfl⟩ := Option.map_eq_some_iff.mp evaluated
  obtain ⟨progress, reached, stays⟩ :=
    exists_statements_of_lenient preferences.traceStatements fuel [] alike reached'
  refine ⟨ofProgress tokens progress, Option.map_eq_some_iff.mpr ⟨progress, reached, rfl⟩, ?_⟩
  rw [completedValues_ofProgress]
  cases stays with
  | @same _ values failures alikeEnd =>
      refine .inl ⟨?_, alikeEnd.bindings.symm, alikeEnd.world.symm⟩
      dsimp only [ofProgress]
      rw [values, failures, alikeEnd.bindings]
  | @cut failure failed isCut values calls =>
      refine .inr ⟨isLargest, ⟨failure.fault, failure.token, tokens, progress.machine.bindings,
        progress.values⟩, ?_, isCut.1, isCut.2, values, calls⟩
      dsimp only [ofProgress]
      rw [failed]

end Limits

/-- The tokens of `string s = "" while s != "aa" print(s) s = s + "a" end`. -/
def growingTokens : List Token :=
  [⟨.dataType, "string", 0⟩, ⟨.identifier, "s", 7⟩, ⟨.assign, "=", 9⟩, ⟨.string, "", 11⟩,
    ⟨.whileWord, "while", 14⟩, ⟨.identifier, "s", 20⟩, ⟨.notEqual, "!=", 22⟩,
    ⟨.string, "aa", 25⟩, ⟨.function, "print", 30⟩, ⟨.openParenthesis, "(", 35⟩,
    ⟨.identifier, "s", 36⟩, ⟨.closeParenthesis, ")", 37⟩, ⟨.identifier, "s", 39⟩,
    ⟨.assign, "=", 41⟩, ⟨.identifier, "s", 43⟩, ⟨.plus, "+", 45⟩, ⟨.string, "a", 47⟩,
    ⟨.endWord, "end", 51⟩]

/-- The machine in front of the `while` of these tokens. -/
def growingMachine : Machine (MemoryHost Nat) :=
  { remaining := growingTokens.drop 4
    bindings := ⟨[("s", .string "")]⟩
    world := .seeded 0
    depth := 1
    notes := [] }

end Evaluation

end PugScript
