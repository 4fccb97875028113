import Mathlib
import PugScript.Run

/-!
# The stages of a run

A run splits its source and then evaluates the tokens. It ends as the first of the two stages that
fails, or else with the values of the second one; events are all that it adds.
-/

namespace PugScript

variable {σ : Type}

/-- The run ends as the evaluation of its tokens does. -/
structure Run.Reports (run : Run σ) (tokens : List Token) (evaluation : Evaluation σ) : Prop where
  result : run.result =
    (evaluation.result.map fun values => { tokens, values := presentValues values }).mapError
      RunError.evaluation
  bindings : run.bindings = evaluation.bindings
  world : run.world = evaluation.world

theorem Run.ofEvaluation_reports
    (host : Host σ) (elapsed : String) (tokens : List Token) (evaluation : Evaluation σ)
    (events : List (Nat × Journal.Event)) :
    (Run.ofEvaluation host elapsed tokens evaluation events).Reports tokens evaluation := by
  rcases evaluation with ⟨error | values, bindings, world, notes⟩
  · exact ⟨rfl, rfl, rfl⟩
  · exact ⟨rfl, rfl, rfl⟩

section Runs

variable {settings : Settings} {source : String}
  (fuel : Nat) (elapsed : String) (host : Host σ) (bindings : VariableTable) (world : σ)

/-- A run whose source splits comes to an end if and only if the evaluation of the tokens does. -/
theorem runSource_reports
    {tokens : List Token}
    (splits : (tokenize settings.lexical.collectDetailedMetrics source).result = .ok tokens) :
    Option.Rel (fun evaluation run => Run.Reports run tokens evaluation)
      (evaluate fuel host settings.evaluation tokens bindings world)
      (runSource fuel elapsed settings host source bindings world) := by
  simp only [runSource, splits]
  cases evaluate fuel host settings.evaluation tokens bindings world with
  | none => exact .none
  | some evaluation => exact .some (Run.ofEvaluation_reports host elapsed tokens evaluation _)

/-- A source that splits and whose tokens are evaluated has a run that reports the evaluation. -/
theorem exists_runSource_of_evaluate
    {tokens : List Token}
    (splits : (tokenize settings.lexical.collectDetailedMetrics source).result = .ok tokens)
    {evaluation : Evaluation σ}
    (evaluated : evaluate fuel host settings.evaluation tokens bindings world = some evaluation) :
    ∃ run,
      runSource fuel elapsed settings host source bindings world = some run ∧
      run.Reports tokens evaluation := by
  have reports := runSource_reports fuel elapsed host bindings world splits
  rw [evaluated] at reports
  generalize runSource fuel elapsed settings host source bindings world = ended at reports ⊢
  cases reports with
  | @some _ run reported => exact ⟨run, rfl, reported⟩

/-- The run of a source that splits reports an evaluation of its tokens. -/
theorem exists_evaluate_of_runSource
    {tokens : List Token}
    (splits : (tokenize settings.lexical.collectDetailedMetrics source).result = .ok tokens)
    {run : Run σ}
    (ran : runSource fuel elapsed settings host source bindings world = some run) :
    ∃ evaluation,
      evaluate fuel host settings.evaluation tokens bindings world = some evaluation ∧
      run.Reports tokens evaluation := by
  have reports := runSource_reports fuel elapsed host bindings world splits
  rw [ran] at reports
  generalize evaluate fuel host settings.evaluation tokens bindings world = ended at reports ⊢
  cases reports with
  | @some evaluation _ reported => exact ⟨evaluation, rfl, reported⟩

theorem exists_runSource_of_lexicalError
    {error : LexicalError}
    (fails : (tokenize settings.lexical.collectDetailedMetrics source).result = .error error) :
    ∃ events,
      runSource fuel elapsed settings host source bindings world =
        some (Run.ofLexicalError error bindings world events) := by
  simp only [runSource, fails]
  exact ⟨_, rfl⟩

end Runs

/-- A run fails in the one stage or in the other. -/
theorem runSource_error_cases
    {settings : Settings} {source : String} {fuel : Nat} {elapsed : String} {host : Host σ}
    {bindings : VariableTable} {world : σ} {run : Run σ} {error : RunError}
    (ran : runSource fuel elapsed settings host source bindings world = some run)
    (failed : run.result = .error error) :
    (∃ lexicalError,
      (tokenize settings.lexical.collectDetailedMetrics source).result = .error lexicalError ∧
      error = .lexical lexicalError) ∨
    ∃ tokens evaluation evaluationError,
      (tokenize settings.lexical.collectDetailedMetrics source).result = .ok tokens ∧
      evaluate fuel host settings.evaluation tokens bindings world = some evaluation ∧
      evaluation.result = .error evaluationError ∧
      error = .evaluation evaluationError := by
  cases splits : (tokenize settings.lexical.collectDetailedMetrics source).result with
  | error lexicalError =>
      obtain ⟨events, equation⟩ :=
        exists_runSource_of_lexicalError fuel elapsed host bindings world splits
      rw [ran] at equation
      cases equation
      cases failed
      exact .inl ⟨lexicalError, rfl, rfl⟩
  | ok tokens =>
      obtain ⟨evaluation, evaluated, reported⟩ :=
        exists_evaluate_of_runSource fuel elapsed host bindings world splits ran
      have result := reported.result
      rw [failed] at result
      cases ended : evaluation.result with
      | ok values =>
          rw [ended] at result
          cases result
      | error evaluationError =>
          rw [ended] at result
          cases result
          exact .inr ⟨tokens, evaluation, evaluationError, rfl, evaluated, ended, rfl⟩

end PugScript
