import PugScript.Host.Memory
import PugScript.Proofs.Evaluation.Pairing
import PugScript.Proofs.Run.Stages

/-!
# Layout does not change what a source means

Two sources whose tokens have the same kinds and texts, one after another, do the same wherever the
tokens stand. If they fail, they fail for the same reason at tokens that are as far from the front
of the one list as from that of the other; only the offset that an unexpected token is reported
with may differ.
-/

namespace PugScript

open Evaluation Pairing

variable {σ : Type}

/-! ## What may differ -/

/-- The kind and the text of a token, without its place. -/
def Token.word (token : Token) : TokenKind × String :=
  (token.kind, token.text)

def EvaluationFault.withoutOffset : EvaluationFault → EvaluationFault
  | unexpectedPrimary kind _ => unexpectedPrimary kind 0
  | fault => fault

/-- Two tokens at the same index of their lists, or the marks behind both lists. -/
inductive SameIndex (tokens others : List Token) : Token → Token → Prop
  | listed {token other : Token} (index : Nat) :
      tokens[index]? = some token →
      others[index]? = some other →
      SameIndex tokens others token other
  | behind :
      SameIndex tokens others (endMark tokens) (endMark others)

/-- Two errors that differ only in the places of the tokens. -/
structure SameError (tokens others : List Token) (error other : EvaluationError) : Prop where
  fault : error.fault.withoutOffset = other.fault.withoutOffset
  token : SameIndex tokens others error.token other.token
  bindings : error.bindings = other.bindings
  values : error.values = other.values

/-- Two results that are both errors or both not, and similar as such. -/
inductive ResultRel {ε ε' α α' : Type} (errors : ε → ε' → Prop) (results : α → α' → Prop) :
    Except ε α → Except ε' α' → Prop
  | error {error : ε} {other : ε'} :
      errors error other →
      ResultRel errors results (.error error) (.error other)
  | ok {result : α} {other : α'} :
      results result other →
      ResultRel errors results (.ok result) (.ok other)

theorem ResultRel.exists_error
    {ε ε' α α' : Type} {errors : ε → ε' → Prop} {results : α → α' → Prop}
    {error : ε} {other : Except ε' α'}
    (related : ResultRel errors results (.error error) other) :
    ∃ otherError, other = .error otherError ∧ errors error otherError := by
  cases related with
  | error both => exact ⟨_, rfl, both⟩

/-- Two evaluations with the same values, or with errors that differ only in places, and with the
same variables and host at their ends. -/
structure SameEvaluation (tokens others : List Token) (evaluation other : Evaluation σ) :
    Prop where
  result : ResultRel (SameError tokens others) Eq evaluation.result other.result
  bindings : evaluation.bindings = other.bindings
  world : evaluation.world = other.world

/-- Two failed runs whose evaluations failed with errors that differ only in places. -/
inductive SameRunError (tokens others : List Token) : RunError → RunError → Prop
  | evaluation {error other : EvaluationError} :
      SameError tokens others error other →
      SameRunError tokens others (.evaluation error) (.evaluation other)

/-- Two runs with the same values, or with errors that differ only in places, and with the same
variables and host at their ends. -/
structure SameRun (tokens others : List Token) (run other : Run σ) : Prop where
  result : ResultRel (SameRunError tokens others)
    (fun result otherResult => result.values = otherResult.values) run.result other.result
  bindings : run.bindings = other.bindings
  world : run.world = other.world

/-! ## Tokens at the same index -/

section Words

variable {tokens others : List Token}

/-- In lists of one length each token has its counterpart at the same index. -/
theorem forall₂_sameIndex (sameLength : tokens.length = others.length) :
    List.Forall₂ (SameIndex tokens others) tokens others := by
  refine List.forall₂_iff_get.mpr ⟨sameLength, ?_⟩
  intro index inside inside'
  exact .listed index (List.getElem?_eq_getElem inside) (List.getElem?_eq_getElem inside')

theorem SameIndex.word_eq
    (sameWords : tokens.map Token.word = others.map Token.word)
    {token other : Token} (same : SameIndex tokens others token other) :
    token.word = other.word := by
  cases same with
  | listed index found found' =>
      have atIndex := congrArg (·[index]?) sameWords
      simp only [List.getElem?_map, found, found', Option.map_some] at atIndex
      exact Option.some.inj atIndex
  | behind =>
      rw [Token.word, Token.word, endMark_kind, endMark_kind, endMark_text, endMark_text]

end Words

/-! ## Evaluations -/

section Evaluations

variable {tokens others : List Token}

/-- Two evaluations of tokens that differ only in their places. -/
def layoutPairing
    (sameWords : tokens.map Token.word = others.map Token.word)
    (host : Host σ) (preferences : EvaluationPreferences) :
    Pairing σ :=
  -- tokens with the same word at different indices are not taken for each other, so that failures
  -- at tokens that are taken for each other are failures at the same index
  withoutOverhang (contextOf host preferences tokens) (contextOf host preferences others)
    (SameIndex tokens others) (contextOf_isClosed host preferences tokens) rfl rfl
    (fun _ _ same => congrArg Prod.fst (same.word_eq sameWords))
    (fun _ _ same => congrArg Prod.snd (same.word_eq sameWords))

/-- Evaluations of the same words begin alike. -/
theorem layoutPairing_alike
    (sameWords : tokens.map Token.word = others.map Token.word)
    (host : Host σ) (preferences : EvaluationPreferences) (bindings : VariableTable) (world : σ) :
    (layoutPairing sameWords host preferences).Alike (initialMachine tokens bindings world)
      (initialMachine others bindings world) := by
  have sameLength : tokens.length = others.length := by
    simpa using congrArg List.length sameWords
  exact ⟨⟨rfl, rfl, rfl⟩, .of_forall₂ (forall₂_sameIndex sameLength) .behind⟩

/-- Failures that correspond differ only in the places that they mention. -/
theorem fault_and_token_of_sameFailure
    (sameWords : tokens.map Token.word = others.map Token.word) {failure other : Failure}
    (same : SameFailure (SameIndex tokens others) failure other) :
    failure.fault.withoutOffset = other.fault.withoutOffset ∧
      SameIndex tokens others failure.token other.token := by
  cases same with
  | placeless _ index => exact ⟨rfl, index⟩
  | unexpected index =>
      refine ⟨?_, index⟩
      rw [EvaluationFault.withoutOffset, EvaluationFault.withoutOffset]
      exact congrArg (EvaluationFault.unexpectedPrimary · 0)
        (congrArg Prod.fst (index.word_eq sameWords))

/-- Runs of statements that correspond give evaluations that do. -/
theorem SameEvaluation.of_sameProgress
    {sameWords : tokens.map Token.word = others.map Token.word}
    {host : Host σ} {preferences : EvaluationPreferences}
    {exactly : ¬ (layoutPairing sameWords host preferences).Overhangs}
    {progress other : Progress σ}
    (same : SameProgress ((layoutPairing sameWords host preferences).simulation False exactly)
      progress other) :
    SameEvaluation tokens others (ofProgress tokens progress) (ofProgress others other) := by
  obtain ⟨_, alike⟩ := same.alike
  refine ⟨?_, alike.bindings, alike.world⟩
  have failures := same.failure?
  rw [ofProgress, ofProgress]
  generalize progress.failure? = failure at failures
  generalize other.failure? = otherFailure at failures
  cases failures with
  | none => exact .ok same.values
  | some both =>
      obtain ⟨fault, index⟩ := fault_and_token_of_sameFailure sameWords both
      exact .error ⟨fault, index, alike.bindings, same.values⟩

/-- Tokens that differ only in their places are evaluated alike. -/
theorem evaluate_sameEvaluation
    (sameWords : tokens.map Token.word = others.map Token.word)
    (fuel : Nat) (host : Host σ) (preferences : EvaluationPreferences) (bindings : VariableTable)
    (world : σ) :
    Option.Rel (SameEvaluation tokens others)
      (evaluate fuel host preferences tokens bindings world)
      (evaluate fuel host preferences others bindings world) := by
  have alike := layoutPairing_alike sameWords host preferences bindings world
  have exactly : ¬ (layoutPairing sameWords host preferences).Overhangs :=
    not_overhangs_withoutOverhang
  exact evaluate_rel (statements_rel id (fun _ => rfl) fuel [] (alike.simulated False exactly))
    fun _ _ both => .of_sameProgress both

/-! ## Runs -/

/-- Evaluations that correspond give runs that do. -/
theorem SameRun.of_sameEvaluation
    {run other : Run σ} {evaluation otherEvaluation : Evaluation σ}
    (same : SameEvaluation tokens others evaluation otherEvaluation)
    (reports : run.Reports tokens evaluation)
    (otherReports : other.Reports others otherEvaluation) :
    SameRun tokens others run other := by
  refine ⟨?_, ?_, ?_⟩
  · have results := same.result
    rw [reports.result, otherReports.result]
    generalize evaluation.result = result at results
    generalize otherEvaluation.result = otherResult at results
    cases results with
    | error errors => exact .error (.evaluation errors)
    | ok values => exact .ok (congrArg presentValues values)
  · rw [reports.bindings, otherReports.bindings, same.bindings]
  · rw [reports.world, otherReports.world, same.world]

end Evaluations

/-- Two sources whose tokens have the same kinds and texts do the same with the same variables and
with any host, one that keeps a record of its calls included, and fail at the same token if they
fail. Either both come to an end or neither does. -/
theorem layout_does_not_change_meaning
    {settings : Settings} {source otherSource : String} {tokens others : List Token}
    (splits : (tokenize settings.lexical.collectDetailedMetrics source).result = .ok tokens)
    (otherSplits :
      (tokenize settings.lexical.collectDetailedMetrics otherSource).result = .ok others)
    (sameWords : tokens.map Token.word = others.map Token.word)
    (fuel : Nat) (elapsed otherElapsed : String) (host : Host σ) (bindings : VariableTable)
    (world : σ) :
    Option.Rel (SameEvaluation tokens others)
      (evaluate fuel host settings.evaluation tokens bindings world)
      (evaluate fuel host settings.evaluation others bindings world) ∧
    Option.Rel (SameRun tokens others)
      (runSource fuel elapsed settings host source bindings world)
      (runSource fuel otherElapsed settings host otherSource bindings world) := by
  have same := evaluate_sameEvaluation sameWords fuel host settings.evaluation bindings world
  refine ⟨same, ?_⟩
  have reports := runSource_reports fuel elapsed host bindings world splits
  have otherReports := runSource_reports fuel otherElapsed host bindings world otherSplits
  generalize evaluate fuel host settings.evaluation tokens bindings world = evaluation
    at same reports
  generalize evaluate fuel host settings.evaluation others bindings world = otherEvaluation
    at same otherReports
  generalize runSource fuel elapsed settings host source bindings world = run at reports ⊢
  generalize runSource fuel otherElapsed settings host otherSource bindings world = otherRun
    at otherReports ⊢
  cases same with
  | none =>
      cases reports
      cases otherReports
      exact .none
  | some same =>
      cases reports with
      | some reports =>
          cases otherReports with
          | some otherReports => exact .some (.of_sameEvaluation same reports otherReports)

def compactSource : String :=
  "print(\"é\")\"b\")"

/-- The same source with blanks, line ends and a comment. -/
def spreadSource : String :=
  "print // a\n ( \"é\" )\n\"b\" )"

def compactTokens : List Token :=
  [⟨.function, "print", 0⟩, ⟨.openParenthesis, "(", 5⟩, ⟨.string, "é", 6⟩,
    ⟨.closeParenthesis, ")", 9⟩, ⟨.string, "b", 10⟩, ⟨.closeParenthesis, ")", 13⟩,
    ⟨.endOfInput, "", 14⟩]

def spreadTokens : List Token :=
  [⟨.function, "print", 0⟩, ⟨.openParenthesis, "(", 12⟩, ⟨.string, "é", 14⟩,
    ⟨.closeParenthesis, ")", 18⟩, ⟨.string, "b", 20⟩, ⟨.closeParenthesis, ")", 24⟩,
    ⟨.endOfInput, "", 25⟩]

theorem spreadSource_means_what_compactSource_means :
    (tokenize true compactSource).result = .ok compactTokens ∧
    (tokenize true spreadSource).result = .ok spreadTokens ∧
    ∃ evaluation error,
      evaluate 9 seededHost {} spreadTokens .empty (.seeded 0) = some evaluation ∧
      evaluation.result = .error error ∧
      error.fault.withoutOffset = .unexpectedPrimary .closeParenthesis 0 ∧
      SameIndex compactTokens spreadTokens ⟨.closeParenthesis, ")", 13⟩ error.token ∧
      error.values = [.none, .string "b"] ∧
      evaluation.world = { output := #["é"], generator := 0 } ∧
      Option.Rel (SameRun compactTokens spreadTokens)
        (runSource 9 "0" {} seededHost compactSource .empty (.seeded 0))
        (runSource 9 "1" {} seededHost spreadSource .empty (.seeded 0)) := by
  let settings : Settings := {}
  have splits : (tokenize settings.lexical.collectDetailedMetrics compactSource).result =
      .ok compactTokens := by
    cbv
  have otherSplits : (tokenize settings.lexical.collectDetailedMetrics spreadSource).result =
      .ok spreadTokens := by
    cbv
  have evaluated : evaluate 9 seededHost {} compactTokens .empty (.seeded 0) =
      some
        { result := .error
            { fault := .unexpectedPrimary .closeParenthesis 13
              token := ⟨.closeParenthesis, ")", 13⟩
              tokens := compactTokens
              bindings := .empty
              values := [.none, .string "b"] }
          bindings := .empty
          world := { output := #["é"], generator := 0 }
          notes := [] } := by
    cbv
  obtain ⟨same, sameRun⟩ :
      Option.Rel (SameEvaluation compactTokens spreadTokens)
        (evaluate 9 seededHost {} compactTokens .empty (.seeded 0))
        (evaluate 9 seededHost {} spreadTokens .empty (.seeded 0)) ∧
      Option.Rel (SameRun compactTokens spreadTokens) _ _ :=
    layout_does_not_change_meaning splits otherSplits (by decide) 9 "0" "1" seededHost .empty
      (.seeded 0)
  refine ⟨splits, otherSplits, ?_⟩
  rw [evaluated] at same
  generalize evaluate 9 seededHost {} spreadTokens .empty (.seeded 0) = ended at same ⊢
  cases same with
  | @some _ evaluation same =>
      obtain ⟨error, failed, errors⟩ := same.result.exists_error
      exact ⟨evaluation, error, rfl, failed, errors.fault.symm, errors.token, errors.values.symm,
        same.world.symm, sameRun⟩

end PugScript
