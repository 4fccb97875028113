import PugScript.Proofs.Evaluation.Shortening
import PugScript.Proofs.Evaluation.Statements

/-!
# What was completed before a failure

Statements have no separators, so the tokens before a failing statement are known only by the place
where the statement before it ended. Cut off there, they are a source of their own: evaluating it
succeeds, gives the values that the error reports, and leads to the variables and the host with
which the failing statement began.
-/

namespace PugScript

namespace Evaluation

variable {σ : Type}

/-- Statements with the given values are evaluated one after another, leading from the one machine
to the other. -/
inductive Completes (context : Context σ) (trace : Bool) :
    Machine σ → List Value → Machine σ → Prop
  | none (machine : Machine σ) :
      Completes context trace machine [] machine
  | next {fuel : Nat} {machine reached finish : Machine σ} {value : Value} {values : List Value} :
      (context.front machine.remaining).kind ≠ .endOfInput →
      expression context fuel machine = .done value reached →
      Completes context trace (afterStatement context trace value reached) values finish →
      Completes context trace machine (value :: values) finish

/-- Statements with the given values are completed from the machine `first` on, and the one after
them fails: it begins with the machine `start` and leaves the machine `finish`. -/
structure FailsAfter (context : Context σ) (trace : Bool) (first : Machine σ)
    (values : List Value) (start : Machine σ) (failure : Failure) (finish : Machine σ) : Prop where
  completes : Completes context trace first values start
  begins : (context.front start.remaining).kind ≠ .endOfInput
  fails : ∃ fuel, expression context fuel start = .failed failure finish

theorem afterStatement_facing
    {context shortened : Context σ} (cut : context.Shortens shortened)
    (trace : Bool) (value : Value) (machine : Machine σ) (tokens : List Token) :
    afterStatement shortened trace value (machine.facing tokens) =
      (afterStatement context trace value machine).facing tokens := by
  unfold afterStatement
  rw [cut.host_eq]
  split <;> rfl

theorem afterStatement_remaining
    (context : Context σ) (trace : Bool) (value : Value) (machine : Machine σ) :
    (afterStatement context trace value machine).remaining = machine.remaining := by
  unfold afterStatement
  split <;> rfl

/-- A run of statements that fails has completed the statements before the failing one, and over
the tokens of these alone it succeeds. -/
theorem exists_failsAfter
    {context : Context σ} (closed : context.IsClosed) {trace : Bool}
    {fuel : Nat} {before : List Value} {machine : Machine σ} {progress : Progress σ}
    {failure : Failure}
    (reached : statements context trace fuel before machine = some progress)
    (failed : progress.failure? = some failure) :
    ∃ values start begun,
      FailsAfter context trace machine values start failure progress.machine ∧
      progress.values = before.reverse ++ values ∧
      machine.remaining = begun ++ start.remaining ∧
      ∀ shortened, context.Shortens shortened →
        statements shortened trace fuel before (machine.facing begun) =
          some ⟨progress.values, none, start.facing []⟩ := by
  induction fuel generalizing before machine with
  | zero => cases reached
  | succ fuel inductionHypothesis =>
      rcases statements_cases reached with
        ⟨_, rfl⟩ | ⟨begins, ⟨_, finish, fails, rfl⟩ | ⟨value, finish, done, reached⟩⟩
      · cases failed
      · cases failed
        refine ⟨[], machine, [], ⟨.none machine, begins, fuel, fails⟩,
          (List.append_nil _).symm, rfl, ?_⟩
        intro shortened cut
        exact statements_of_endOfInput fuel before cut.shortClosed
      · obtain ⟨values, start, after, failsAfter, reported, split, shortRun⟩ :=
          inductionHypothesis reached
        rw [afterStatement_remaining] at split
        obtain ⟨_, passed, splitPassed, _⟩ := expression_passesInert closed fuel _ _ _ done
        have splitMachine : machine.remaining = (passed ++ after) ++ start.remaining := by
          rw [splitPassed, split, List.append_assoc]
        refine ⟨value :: values, start, passed ++ after,
          ⟨.next begins done failsAfter.completes, failsAfter.begins, failsAfter.fails⟩,
          ?_, splitMachine, ?_⟩
        · rw [reported, List.reverse_cons, List.append_assoc]
          rfl
        · intro shortened cut
          obtain ⟨begun, splitBegun, shortDone⟩ :=
            expression_shortens cut start.remaining fuel _ _ _ after done split
          obtain rfl : begun = passed ++ after :=
            List.append_cancel_right (splitBegun.symm.trans splitMachine)
          have shortBegins := expression_needsToken cut.shortClosed fuel _ _ _ shortDone
          rw [statements_of_done before shortBegins shortDone, afterStatement_facing cut]
          exact shortRun shortened cut

/-- A failed evaluation reports all its tokens, the variables it leaves, and the values of exactly
the statements before the failing one: their tokens, evaluated on their own, give these values and
the variables and the host with which the failing statement begins. -/
theorem failure_reports_completed_statements
    (host : Host σ) (preferences : EvaluationPreferences) (tokens : List Token)
    (bindings : VariableTable) (world : σ) (fuel : Nat)
    {evaluation : Evaluation σ} {error : EvaluationError}
    (evaluated : evaluate fuel host preferences tokens bindings world = some evaluation)
    (failed : evaluation.result = .error error) :
    error.tokens = tokens ∧
    error.bindings = evaluation.bindings ∧
    ∃ completed failing completion start finish,
      tokens = completed ++ failing ∧
      FailsAfter (contextOf host preferences tokens) preferences.traceStatements
        (initialMachine tokens bindings world) error.values start ⟨error.fault, error.token⟩
        finish ∧
      start.remaining = failing ∧
      finish.bindings = evaluation.bindings ∧
      finish.world = evaluation.world ∧
      evaluate fuel host preferences completed bindings world = some completion ∧
      completion.result = .ok error.values ∧
      completion.bindings = start.bindings ∧
      completion.world = start.world := by
  obtain ⟨progress, reached, rfl⟩ := Option.map_eq_some_iff.mp evaluated
  cases failure : progress.failure? with
  | none =>
      rw [ofProgress, failure] at failed
      cases failed
  | some cause =>
      rw [ofProgress, failure] at failed
      cases failed
      refine ⟨rfl, rfl, ?_⟩
      obtain ⟨values, start, begun, failsAfter, reported, split, shortRun⟩ :=
        exists_failsAfter (contextOf_isClosed host preferences tokens) reached failure
      have cut : (contextOf host preferences tokens).Shortens
          (contextOf host preferences begun) :=
        ⟨endMark_kind tokens, endMark_kind begun, rfl, rfl⟩
      rw [List.reverse_nil, List.nil_append] at reported
      rw [← reported] at failsAfter
      have completed : evaluate fuel host preferences begun bindings world =
          some (ofProgress begun ⟨progress.values, none, start.facing []⟩) :=
        congrArg (Option.map (ofProgress begun)) (shortRun _ cut)
      exact ⟨begun, start.remaining, _, start, progress.machine, split, failsAfter, rfl, rfl, rfl,
        completed, rfl, rfl, rfl⟩

/-- The tokens of `bool on = true while on on = false end print("a") int y = missing "b"`. -/
def interruptedTokens : List Token :=
  [⟨.dataType, "bool", 0⟩, ⟨.identifier, "on", 5⟩, ⟨.assign, "=", 8⟩, ⟨.bool, "true", 10⟩,
    ⟨.whileWord, "while", 15⟩, ⟨.identifier, "on", 21⟩, ⟨.identifier, "on", 24⟩,
    ⟨.assign, "=", 27⟩, ⟨.bool, "false", 29⟩, ⟨.endWord, "end", 35⟩, ⟨.function, "print", 39⟩,
    ⟨.openParenthesis, "(", 44⟩, ⟨.string, "a", 45⟩, ⟨.closeParenthesis, ")", 48⟩,
    ⟨.dataType, "int", 50⟩, ⟨.identifier, "y", 54⟩, ⟨.assign, "=", 56⟩,
    ⟨.identifier, "missing", 58⟩, ⟨.string, "b", 66⟩, ⟨.endOfInput, "", 69⟩]

/-- The error of `interruptedTokens`: `y` has been declared, but no value was found for it. -/
def interruption : EvaluationError where
  fault := .unknownIdentifier "missing"
  token := ⟨.identifier, "missing", 58⟩
  tokens := interruptedTokens
  bindings := ⟨[("on", .bool false), ("y", .int 0)]⟩
  values := [.bool true, .none, .none]

theorem failure_of_interruptedTokens :
    ∃ evaluation : Evaluation (MemoryHost Nat),
      evaluate 8 seededHost {} interruptedTokens .empty (.seeded 0) = some evaluation ∧
      evaluation.result = .error interruption ∧
      ∃ completed failing completion start finish,
        interruptedTokens = completed ++ failing ∧
        FailsAfter (contextOf seededHost {} interruptedTokens) false
          (initialMachine interruptedTokens .empty (.seeded 0)) interruption.values start
          ⟨interruption.fault, interruption.token⟩ finish ∧
        start.remaining = failing ∧
        finish.bindings = evaluation.bindings ∧
        finish.world = evaluation.world ∧
        evaluate 8 seededHost {} completed .empty (.seeded 0) = some completion ∧
        completion.result = .ok interruption.values ∧
        completion.bindings = start.bindings ∧
        completion.world = start.world := by
  have evaluated : evaluate 8 seededHost {} interruptedTokens .empty (.seeded 0) =
      some
        { result := .error interruption
          bindings := interruption.bindings
          world := { output := #["a"], generator := 0 }
          notes := [(0, .loopFinished 1 15)] } := by
    cbv
  exact ⟨_, evaluated, rfl,
    (failure_reports_completed_statements seededHost {} interruptedTokens .empty (.seeded 0) 8
      evaluated rfl).2.2⟩

end Evaluation

end PugScript
