import PugScript.Host.Memory
import PugScript.Proofs.Evaluation.Pairing
import PugScript.Proofs.Program.Blocks

/-!
# Printed programs are evaluated as trees

The evaluator never builds a tree: it reads, evaluates, passes over branches and goes back in loops
on one cursor. On the tokens of a printed program it comes to the same end as the meaning of the
statements, and it comes to an end only if the meaning does.
-/

namespace PugScript

/-! ## Programs -/

namespace Tree

/-- Programs whose tokens can be told apart and whose nesting is within the limit. -/
structure IsProgram (program : List Tree) : Prop where
  wellFormed : ∀ statement ∈ program, WellFormed statement
  unsigned : ∀ statement ∈ program.tail, ¬ statement.BeginsWithSign
  shallow : blockNesting program ≤ Limits.maxParseDepth

/-- The tokens of a program, wherever they stand in a source, up to the end of the input. -/
def Prints (program : List Tree) (tokens : List Token) : Prop :=
  ∃ body closing,
    tokens = body ++ closing ∧
    body.map (fun token => (token.kind, token.text)) =
      (blockTokens program).map (fun token => (token.kind, token.text)) ∧
    ∀ token, closing.head? = some token → token.kind = .endOfInput

end Tree

/-- An evaluation came to the end of a program: with the values of all statements, or with a fault
and the values of the completed ones; the variables and the host are the same, and an error shows
the same variables. -/
inductive Evaluation.Shows {σ : Type} : Evaluation σ → Summary σ → Prop
  | success {values : List Value} {bindings : VariableTable} {world : σ}
      {notes : List (Nat × Note)} :
      Shows ⟨.ok values, bindings, world, notes⟩ ⟨values, none, bindings, world⟩
  | failure {error : EvaluationError} {world : σ} {notes : List (Nat × Note)} :
      Shows ⟨.error error, error.bindings, world, notes⟩
        ⟨error.values, some error.fault, error.bindings, world⟩

namespace Evaluation

open Eval Pairing PugScript.Tree

variable {σ : Type}

/-- An evaluation shows at most one end of a program. -/
theorem Shows.unique
    {evaluation : Evaluation σ} {first second : Summary σ}
    (showsFirst : evaluation.Shows first) (showsSecond : evaluation.Shows second) :
    first = second := by
  cases showsFirst <;> cases showsSecond <;> rfl

/-! ## Statements -/

/-- Where the statements of a run have led is where a program has led, given the values of earlier
statements. -/
structure Progress.Shows (progress : Progress σ) (before : List Value) (summary : Summary σ) :
    Prop where
  values : progress.values = before.reverse ++ summary.values
  fault : progress.failure?.map Failure.fault = summary.fault?
  placeless : ∀ fault, summary.fault? = some fault → fault.IsPlaceless
  store : progress.machine.store = summary.store

/-- The run has led where the program has, or the shorter side has given up. -/
def SameEnd (shorter : Shorter) (before : List Value) :
    Option (Progress σ) → Option (Summary σ) → Prop
  | none, none => True
  | none, some _ => shorter = .machine
  | some _, none => shorter = .tree
  | some progress, some summary => progress.Shows before summary

variable {context : Context σ} {shorter : Shorter} {turns : Nat}

theorem SameEnd.exhausted
    {before : List Value} (isShorter : shorter = .machine) (summary? : Option (Summary σ)) :
    SameEnd shorter before none summary? := by
  cases summary? with
  | none => trivial
  | some _ => exact isShorter

theorem SameEnd.unfinished
    {before : List Value} (isShorter : shorter = .tree) (progress? : Option (Progress σ)) :
    SameEnd shorter before progress? none := by
  cases progress? with
  | none => trivial
  | some _ => exact isShorter

theorem SameEnd.cons
    {before : List Value} {value : Value} {progress? : Option (Progress σ)}
    {summary? : Option (Summary σ)}
    (ends : SameEnd shorter (value :: before) progress? summary?) :
    SameEnd shorter before progress?
      (summary?.map fun summary => { summary with values := value :: summary.values }) := by
  cases progress? with
  | none =>
      cases summary? with
      | none => trivial
      | some _ => exact ends
  | some progress =>
      cases summary? with
      | none => exact ends
      | some summary =>
          refine ⟨?_, ends.fault, ends.placeless, ends.store⟩
          rw [ends.values, List.reverse_cons, List.append_assoc]
          rfl

/-- If the turns are the bound and suffice, the run has an end. -/
theorem SameEnd.exists_progress
    {before : List Value} {progress? : Option (Progress σ)} {summary : Summary σ}
    (ends : SameEnd .tree before progress? (some summary)) :
    ∃ progress, progress? = some progress ∧ progress.Shows before summary := by
  cases progress? with
  | none => cases ends
  | some progress => exact ⟨progress, rfl, ends⟩

/-- If the fuel is the bound and suffices, the program has an end. -/
theorem SameEnd.exists_summary
    {before : List Value} {progress : Progress σ} {summary? : Option (Summary σ)}
    (ends : SameEnd .machine before (some progress) summary?) :
    ∃ summary, summary? = some summary ∧ progress.Shows before summary := by
  cases summary? with
  | none => cases ends
  | some summary => exact ⟨summary, rfl, ends⟩

theorem afterStatement_stands
    {machine : Machine σ} {tokens : List Token} {depth : Nat} {store : Store σ}
    (stands : machine.Stands tokens depth store) (trace : Bool) (value : Value) :
    (afterStatement context trace value machine).Stands tokens depth store := by
  cases trace <;> exact ⟨stands.remaining, stands.depth, stands.store⟩

/-- The machine runs the tokens of a program as the program means, up to the bound of the shorter
side. -/
theorem statements_sameEnd
    {program : List Tree} (wellFormed : ∀ statement ∈ program, WellFormed statement)
    (unsigned : ∀ statement ∈ program.tail, ¬ statement.BeginsWithSign)
    (shallow : blockNesting program ≤ Limits.maxParseDepth)
    {closing : List Token} (closes : (context.front closing).kind = .endOfInput)
    (trace : Bool) {fuel : Nat} (enough : Enough shorter turns fuel (blockSize program))
    (before : List Value) {machine : Machine σ} {store : Store σ}
    (stands : machine.Stands (blockTokens program ++ closing) 0 store) :
    SameEnd shorter before (statements context trace fuel before machine)
      (runProgram context.host context.loopLimit turns program store) := by
  induction program generalizing fuel before machine store with
  | nil =>
      rw [blockTokens, List.nil_append] at stands
      cases fuel with
      | zero => exact SameEnd.exhausted enough.eq_machine _
      | succ fuel =>
          rw [statements_of_endOfInput fuel before (by rw [stands.remaining]; exact closes)]
          refine ⟨(List.append_nil _).symm, rfl, ?_, stands.store⟩
          intro fault impossible
          cases impossible
  | cons statement others inductionHypothesis =>
      rw [blockSize] at enough
      rw [blockNesting] at shallow
      rw [blockTokens, List.append_assoc] at stands
      cases fuel with
      | zero => exact SameEnd.exhausted enough.eq_machine _
      | succ fuel =>
          have isFormed := wellFormed statement List.mem_cons_self
          have othersFormed : ∀ other ∈ others, WellFormed other := fun other member =>
            wellFormed other (List.mem_cons_of_mem statement member)
          have notEnd : (context.front machine.remaining).kind ≠ .endOfInput := by
            rw [stands.remaining]
            exact (ne_of_begins (begins_front isFormed _)).1
          have fresh : ¬ (context.front closing).kind.ContinuesExpression := by
            rw [closes]
            decide
          have follows : Follows context 5 (blockTokens others ++ closing) :=
            follows_blockTokens othersFormed unsigned fresh
          have positive : 1 ≤ blockSize others := by
            cases others <;> simp only [blockSize] <;> omega
          have evaluates : Evaluates context shorter turns statement :=
            evaluates_of_wellFormed isFormed
          have first := evaluates.whole (enough.pred.mono (by omega)) follows (by omega) stands
          rw [runProgram]
          generalize statement.meaning context.host context.loopLimit turns store = result at first
          cases outcome : expression context fuel machine with
          | outOfFuel =>
              rw [outcome] at first
              rw [statements_of_outOfFuel before notEnd outcome]
              rcases result with _ | _
              · trivial
              · exact SameEnd.exhausted first _
          | failed failure reached =>
              rw [outcome] at first
              rw [statements_of_failed before notEnd outcome]
              rcases result with _ | ⟨fault | value, store'⟩
              · exact first
              · obtain ⟨sameFault, isPlaceless, stores⟩ := first
                refine ⟨(List.append_nil _).symm, congrArg some sameFault, ?_, stores⟩
                intro other same
                cases same
                exact isPlaceless
              · exact first.elim
          | done value reached =>
              rw [outcome] at first
              rw [statements_of_done before notEnd outcome]
              rcases result with _ | ⟨fault | value', store'⟩
              · exact SameEnd.unfinished first _
              · exact first.elim
              · obtain ⟨rfl, standsReached⟩ := first
                apply SameEnd.cons
                exact inductionHypothesis othersFormed (unsigned_tail unsigned) (by omega)
                  (enough.pred.mono (by omega)) (value :: before)
                  (afterStatement_stands standsReached trace value)

/-! ## Tokens at other places -/

/-- Tokens that are taken for each other wherever they stand. -/
def placeless (context : Context σ) (closed : context.IsClosed) : Pairing σ :=
  inContext context closed
    (fun token other => (token.kind, token.text) = (other.kind, other.text))
    (fun _ _ => congrArg Prod.fst) (fun _ _ => congrArg Prod.snd)

theorem placeless_facing
    (closed : context.IsClosed) {tokens others : List Token}
    (same : tokens.map (fun token => (token.kind, token.text)) =
      others.map (fun token => (token.kind, token.text))) :
    (placeless context closed).Facing tokens others := by
  rw [← List.forall₂_eq_eq_eq, List.forall₂_map_left_iff, List.forall₂_map_right_iff] at same
  exact .of_forall₂ same rfl

/-- Faults that mention no place are the same wherever the tokens stand. -/
theorem faults_eq_of_sameFailure
    {closed : context.IsClosed} {failure? other? : Option Failure}
    (failures : Option.Rel (SameFailure (placeless context closed).same) failure? other?)
    (isPlaceless : ∀ fault, failure?.map Failure.fault = some fault → fault.IsPlaceless) :
    other?.map Failure.fault = failure?.map Failure.fault := by
  cases failures with
  | none => rfl
  | some failures =>
      cases failures with
      | placeless _ _ => rfl
      | unexpected _ => exact (isPlaceless _ rfl).elim

/-- A run over some tokens and a run over the same tokens at other places. -/
theorem statements_same_words
    (closed : context.IsClosed) (trace : Bool) {tokens others : List Token}
    (same : tokens.map (fun token => (token.kind, token.text)) =
      others.map (fun token => (token.kind, token.text)))
    {fuel : Nat} {bindings : VariableTable} {world : σ} {progress : Progress σ}
    (reached : statements context trace fuel [] (initialMachine tokens bindings world) =
      some progress) :
    ∃ progress',
      statements context trace fuel [] (initialMachine others bindings world) = some progress' ∧
      ∀ summary, progress.Shows [] summary → progress'.Shows [] summary := by
  have alike : (placeless context closed).Alike (initialMachine tokens bindings world)
      (initialMachine others bindings world) :=
    ⟨⟨rfl, rfl, rfl⟩, placeless_facing closed same⟩
  obtain ⟨progress', values, reached', left, right, failures, states⟩ :=
    statements_agree not_overhangs_withoutOverhang trace trace (Nat.le_refl fuel) [] [] alike
      reached
  refine ⟨progress', reached', ?_⟩
  intro summary shown
  have sameFaults : progress'.failure?.map Failure.fault = progress.failure?.map Failure.fault := by
    apply faults_eq_of_sameFailure failures
    intro fault isFault
    exact shown.placeless fault (shown.fault.symm.trans isFault)
  have sameStore : progress'.machine.store = progress.machine.store := by
    unfold Machine.store
    rw [states.bindings, states.world]
  refine ⟨?_, sameFaults.trans shown.fault, shown.placeless, sameStore.trans shown.store⟩
  exact right.trans (left.symm.trans shown.values)

theorem Progress.Shows.ofProgress
    {progress : Progress σ} {summary : Summary σ} (shown : progress.Shows [] summary)
    (tokens : List Token) :
    (Evaluation.ofProgress tokens progress).Shows summary := by
  obtain ⟨values, failure?, machine⟩ := progress
  obtain ⟨summaryValues, summaryFault, store⟩ := summary
  obtain ⟨rfl, rfl, _, rfl⟩ := shown
  cases failure? with
  | none => exact .success
  | some failure => exact .failure

end Evaluation

/-! ## The evaluator and the trees -/

open Evaluation in
/-- On the tokens of a program the evaluator comes to exactly the ends that the meaning of the
program has: the values of the statements in order, the final variables and host, or the same
fault with what had been completed. The state of the host is arbitrary and may record every call. -/
theorem evaluate_printed_iff_runProgram
    {σ : Type} (host : Host σ) (preferences : EvaluationPreferences)
    {program : List Tree} (isProgram : Tree.IsProgram program)
    {tokens : List Token} (printed : Tree.Prints program tokens)
    (bindings : VariableTable) (world : σ) (summary : Summary σ) :
    (∃ fuel evaluation,
      evaluate fuel host preferences tokens bindings world = some evaluation ∧
      evaluation.Shows summary) ↔
    ∃ turns,
      runProgram host preferences.maxLoopIterations turns program ⟨bindings, world⟩ =
        some summary := by
  obtain ⟨body, closing, rfl, words, closes⟩ := printed
  have closed := contextOf_isClosed host preferences (body ++ closing)
  have same : (body ++ closing).map (fun token => (token.kind, token.text)) =
      (Tree.blockTokens program ++ closing).map (fun token => (token.kind, token.text)) := by
    rw [List.map_append, List.map_append, words]
  have ends : ((contextOf host preferences (body ++ closing)).front closing).kind =
      .endOfInput := by
    cases closing with
    | nil => exact closed
    | cons token rest => exact closes token rfl
  have stands : (initialMachine (Tree.blockTokens program ++ closing) bindings world).Stands
      (Tree.blockTokens program ++ closing) 0 ⟨bindings, world⟩ :=
    ⟨rfl, rfl, rfl⟩
  constructor
  · rintro ⟨fuel, evaluation, evaluated, shown⟩
    obtain ⟨progress, reached, rfl⟩ := Option.map_eq_some_iff.mp evaluated
    -- the run over the printed tokens ends as well, and back again it shows what it showed
    obtain ⟨printedProgress, printedReached, _⟩ :=
      statements_same_words closed preferences.traceStatements same reached
    have enough : Enough .machine fuel fuel (Tree.blockSize program) := Nat.le_refl fuel
    have sameEnd := statements_sameEnd isProgram.wellFormed isProgram.unsigned isProgram.shallow
      ends preferences.traceStatements enough [] stands
    rw [printedReached] at sameEnd
    obtain ⟨other, finished, printedShown⟩ := sameEnd.exists_summary
    obtain ⟨again, reachedAgain, shownAgain⟩ :=
      statements_same_words closed preferences.traceStatements same.symm printedReached
    obtain rfl : again = progress := Option.some.inj (reachedAgain.symm.trans reached)
    obtain rfl := shown.unique ((shownAgain other printedShown).ofProgress (body ++ closing))
    exact ⟨fuel, finished⟩
  · rintro ⟨turns, finished⟩
    have enough : Enough .tree turns (turns + Tree.blockSize program) (Tree.blockSize program) :=
      Nat.le_refl _
    have sameEnd := statements_sameEnd isProgram.wellFormed isProgram.unsigned isProgram.shallow
      ends preferences.traceStatements enough [] stands
    have finished' : runProgram (contextOf host preferences (body ++ closing)).host
        (contextOf host preferences (body ++ closing)).loopLimit turns program
        ⟨bindings, world⟩ = some summary := finished
    rw [finished'] at sameEnd
    obtain ⟨printedProgress, printedReached, printedShown⟩ := sameEnd.exists_progress
    obtain ⟨progress, reached, shown⟩ :=
      statements_same_words closed preferences.traceStatements same.symm printedReached
    refine ⟨turns + Tree.blockSize program, ofProgress (body ++ closing) progress, ?_, ?_⟩
    · unfold evaluate
      rw [reached]
      rfl
    · exact (shown summary printedShown).ofProgress (body ++ closing)

/-- `bool on = true while on && true on = false end` -/
def settlingProgram : List Tree :=
  [.define "bool" "on" (.truth true),
    .whileLoop (.binary .and (.read "on") (.truth true)) [.assign "on" (.truth false)]]

def settlingTokens : List Token :=
  [⟨.dataType, "bool", 0⟩, ⟨.identifier, "on", 5⟩, ⟨.assign, "=", 8⟩, ⟨.bool, "true", 10⟩,
    ⟨.whileWord, "while", 15⟩, ⟨.identifier, "on", 21⟩, ⟨.and, "&&", 24⟩, ⟨.bool, "true", 27⟩,
    ⟨.identifier, "on", 32⟩, ⟨.assign, "=", 35⟩, ⟨.bool, "false", 37⟩, ⟨.endWord, "end", 43⟩,
    ⟨.endOfInput, "", 46⟩]

theorem Tree.settlingProgram_isProgram : IsProgram settlingProgram := by
  have unsigned : ∀ {tree : Tree} {kind : TokenKind} {text : String} {rest : List Token},
      tree.tokens = word kind text :: rest → ¬ Evaluation.IsSign kind → ¬ tree.BeginsWithSign := by
    rintro tree kind text rest first notSign ⟨token, isFirst, isSign⟩
    rw [first] at isFirst
    cases isFirst
    exact notSign isSign
  have loop : WellFormed
      (.whileLoop (.binary .and (.read "on") (.truth true)) [.assign "on" (.truth false)]) := by
    refine .whileLoop (.binary _ (.read _) (.truth _)) ?_ ?_
    · simp only [List.forall_mem_singleton]
      exact .assign _ (.truth _)
    · simp only [List.forall_mem_singleton]
      exact unsigned rfl (by decide)
  refine ⟨?_, ?_, by decide⟩
  · simp only [settlingProgram, List.forall_mem_cons]
    exact ⟨.define _ _ (.truth _), loop, List.forall_mem_nil _⟩
  · simp only [settlingProgram, List.tail_cons, List.forall_mem_singleton]
    exact unsigned rfl (by decide)

/-- The loop is entered once, and the variable keeps what its body assigned. -/
theorem evaluate_settlingTokens :
    Tree.IsProgram settlingProgram ∧ Tree.Prints settlingProgram settlingTokens ∧
    ∃ fuel evaluation,
      evaluate fuel seededHost {} settlingTokens .empty (.seeded 0) = some evaluation ∧
      evaluation.Shows
        ⟨[.bool true, .none], none, VariableTable.empty.declare "on" (.bool false), .seeded 0⟩ := by
  have printed : Tree.Prints settlingProgram settlingTokens := by
    refine ⟨settlingTokens.dropLast, [⟨.endOfInput, "", 46⟩], rfl, rfl, ?_⟩
    intro token isFirst
    cases isFirst
    rfl
  refine ⟨Tree.settlingProgram_isProgram, printed, ?_⟩
  have finished : runProgram seededHost 0 2 settlingProgram ⟨.empty, .seeded 0⟩ =
      some
        ⟨[.bool true, .none], none, VariableTable.empty.declare "on" (.bool false), .seeded 0⟩ := by
    cbv
  exact (evaluate_printed_iff_runProgram seededHost {} Tree.settlingProgram_isProgram printed
    .empty (.seeded 0) _).mpr ⟨2, finished⟩

end PugScript
