import PugScript.Proofs.Evaluation.HostCalls
import PugScript.Proofs.Run.Stages
import PugScript.Run.Report

/-!
# Whose lines a report shows

A report of a successful execution takes all the lines that the host holds. A failed execution takes
none, and what it printed stays with the host. So when sources are executed one after another on
the same host, the next successful one reports the lines of the failed ones before it together with
its own.
-/

namespace PugScript

variable {γ : Type} {generator : Generator γ}

/-! ## What is printed -/

/-- The line that a use of the host printed. -/
def HostCall.printed? : HostCall → Option String
  | print line (.ok _) => some line
  | _ => none

/-- The lines that were printed, oldest first. -/
def printedLines (calls : List HostCall) : List String :=
  calls.filterMap HostCall.printed?

theorem printedLines_concat (calls : List HostCall) (call : HostCall) :
    printedLines (calls ++ [call]) = printedLines calls ++ call.printed?.toList := by
  unfold printedLines
  rw [List.filterMap_append]
  cases printed : call.printed? <;> simp [printed]

/-- The lines that a run of a source prints. -/
def printedBy (fuel : Nat) (elapsed : String) (settings : Settings) (generator : Generator γ)
    (source : String) (memory : MemoryHost γ) : Option (List String) :=
  (runSource fuel elapsed settings (MemoryHost.host generator).logging source .empty
      (memory, [])).map
    fun run => printedLines run.world.2

def isShown (line : String) : Bool :=
  !Text.isAllBlank line

namespace MemoryHost

/-- The states of a host in memory and of the same host with a log, where the host holds the given
lines and those printed since. -/
structure Holding (lines : List String) (memory : MemoryHost γ)
    (logged : MemoryHost γ × List HostCall) : Prop where
  memory_eq : memory = logged.1
  output_eq : memory.output.toList = lines ++ printedLines logged.2

section Holding

variable {lines : List String} {memory after : MemoryHost γ} {calls : List HostCall}
  (holding : Holding lines memory (memory, calls))

include holding

/-- A use that prints nothing and leaves the output as it is. -/
theorem Holding.of_silent
    {call : HostCall} (silent : call.printed? = none) (unchanged : after.output = memory.output) :
    Holding lines after (after, calls ++ [call]) := by
  refine ⟨rfl, ?_⟩
  rw [printedLines_concat, silent, unchanged, holding.output_eq]
  exact (congrArg (lines ++ ·) (List.append_nil _)).symm

/-- A printed line is held by the host and entered into the log. -/
theorem Holding.print (line : String) :
    Holding lines (memory.print line) (memory.print line, calls ++ [.print line (.ok ())]) := by
  refine ⟨rfl, ?_⟩
  rw [printedLines_concat, MemoryHost.print, Array.toList_push, holding.output_eq,
    List.append_assoc]
  rfl

end Holding

theorem readLine_output (memory : MemoryHost γ) : memory.readLine.2.output = memory.output := by
  unfold readLine
  split <;> rfl

/-- The log of a host in memory tells what it holds. -/
theorem logging_holding (generator : Generator γ) (lines : List String) :
    (host generator).Mimics (host generator).logging (Holding lines) where
  print := by
    rintro line memory ⟨_, calls⟩ holding
    obtain rfl := holding.memory_eq
    exact ⟨rfl, holding.print line⟩
  readLine := by
    rintro memory ⟨_, calls⟩ holding
    obtain rfl := holding.memory_eq
    exact ⟨rfl, holding.of_silent rfl memory.readLine_output⟩
  clear := by
    rintro memory ⟨_, calls⟩ holding
    obtain rfl := holding.memory_eq
    exact ⟨rfl, holding.of_silent rfl rfl⟩
  randomUnit := by
    rintro memory ⟨_, calls⟩ holding
    obtain rfl := holding.memory_eq
    exact ⟨rfl, holding.of_silent rfl rfl⟩
  randomRange := by
    rintro lower upper memory ⟨_, calls⟩ holding
    obtain rfl := holding.memory_eq
    exact ⟨rfl, holding.of_silent rfl rfl⟩

end MemoryHost

/-! ## One execution -/

/-- A run comes to the same end with a host that answers alike. -/
theorem exists_runSource_of_mimics
    {σ τ : Type} {host : Host σ} {other : Host τ} {states : σ → τ → Prop}
    (mimics : host.Mimics other states)
    {fuel : Nat} {elapsed : String} {settings : Settings} {source : String}
    {bindings : VariableTable} {world : σ} {otherWorld : τ} {run : Run σ}
    (ran : runSource fuel elapsed settings host source bindings world = some run)
    (correspond : states world otherWorld) :
    ∃ mimicked,
      runSource fuel elapsed settings other source bindings otherWorld = some mimicked ∧
      states run.world mimicked.world := by
  cases splits : (tokenize settings.lexical.collectDetailedMetrics source).result with
  | error error =>
      obtain ⟨events, ended⟩ :=
        exists_runSource_of_lexicalError fuel elapsed host bindings world splits
      obtain ⟨otherEvents, otherEnded⟩ :=
        exists_runSource_of_lexicalError fuel elapsed other bindings otherWorld splits
      obtain rfl := Option.some.inj (ran.symm.trans ended)
      exact ⟨_, otherEnded, correspond⟩
  | ok tokens =>
      obtain ⟨evaluation, evaluated, reported⟩ :=
        exists_evaluate_of_runSource fuel elapsed host bindings world splits ran
      obtain ⟨mimicked, evaluatedToo, _, _, worlds⟩ :=
        Evaluation.exists_evaluate_of_mimics mimics evaluated correspond
      obtain ⟨mimickedRun, ranToo, reportedToo⟩ :=
        exists_runSource_of_evaluate fuel elapsed other bindings otherWorld splits evaluatedToo
      refine ⟨mimickedRun, ranToo, ?_⟩
      rw [reported.world, reportedToo.world]
      exact worlds

/-- A run adds the lines that it prints to those that the host holds. -/
theorem exists_printedBy_of_runSource
    {fuel : Nat} {elapsed : String} {settings : Settings} {source : String} {memory : MemoryHost γ}
    {run : Run (MemoryHost γ)}
    (ran : runSource fuel elapsed settings (MemoryHost.host generator) source .empty memory =
      some run) :
    ∃ printed,
      printedBy fuel elapsed settings generator source memory = some printed ∧
      run.world.output.toList = memory.output.toList ++ printed := by
  have holding : MemoryHost.Holding memory.output.toList memory (memory, []) :=
    ⟨rfl, (List.append_nil _).symm⟩
  obtain ⟨logged, ranLogged, holdingAfter⟩ :=
    exists_runSource_of_mimics (MemoryHost.logging_holding _ _) ran holding
  refine ⟨printedLines logged.world.2, ?_, holdingAfter.output_eq⟩
  rw [printedBy, ranLogged]
  rfl

/-- An execution that succeeds takes over all the lines that the host holds then; one that fails
leaves them there. -/
theorem execute_cases
    {fuel : Nat} {elapsed : String} {settings : Settings} {source : String} {memory : MemoryHost γ}
    {execution : Execution γ}
    (executed : execute fuel elapsed settings generator source memory = some execution) :
    ∃ printed,
      printedBy fuel elapsed settings generator source memory = some printed ∧
      ((execution.report.hasError = true ∧
          execution.memory.output.toList = memory.output.toList ++ printed) ∨
        (execution.report.hasError = false ∧
          execution.memory.output.toList = [] ∧
          execution.report.output = (memory.output.toList ++ printed).filter isShown)) := by
  obtain ⟨run, ran, rfl⟩ := Option.map_eq_some_iff.mp executed
  obtain ⟨printed, isPrinted, held⟩ := exists_printedBy_of_runSource ran
  refine ⟨printed, isPrinted, ?_⟩
  unfold Execution.ofRun
  cases run.result with
  | error error => exact .inl ⟨rfl, held⟩
  | ok result => exact .inr ⟨rfl, rfl, congrArg (List.filter isShown) held⟩

/-- An execution fails as the evaluation of the tokens of its source does. -/
theorem exists_execute_of_error
    {fuel : Nat} (elapsed : String) (settings : Settings) {source : String} {memory : MemoryHost γ}
    {tokens : List Token} {evaluation : Evaluation (MemoryHost γ)} {error : EvaluationError}
    (splits : (tokenize settings.lexical.collectDetailedMetrics source).result = .ok tokens)
    (evaluated :
      evaluate fuel (MemoryHost.host generator) settings.evaluation tokens .empty memory =
        some evaluation)
    (failed : evaluation.result = .error error) :
    ∃ execution,
      execute fuel elapsed settings generator source memory = some execution ∧
      execution.report = .ofError (.evaluation error) ∧
      execution.memory = evaluation.world := by
  obtain ⟨run, ran, reported⟩ :=
    exists_runSource_of_evaluate fuel elapsed (MemoryHost.host generator) .empty memory splits
      evaluated
  have result : run.result = .error (.evaluation error) := by
    rw [reported.result, failed]
    rfl
  refine ⟨Execution.ofRun run, ?_, ?_, ?_⟩
  · rw [execute, ran]
    rfl
  · rw [Execution.ofRun, result]
  · rw [Execution.ofRun, result]
    exact reported.world

/-! ## Executions on the same host -/

/-- An execution among others on the same host. -/
structure Turn (γ : Type) where
  execution : Execution γ
  /-- The lines that it printed. -/
  printed : List String

/-- Sources that were executed one after another on the same host. -/
inductive Succession (generator : Generator γ) (first : MemoryHost γ) :
    List (Turn γ) → MemoryHost γ → Prop
  | nil : Succession generator first [] first
  | concat {turns : List (Turn γ)} {reached : MemoryHost γ} {fuel : Nat} {elapsed : String}
      {settings : Settings} {source : String} {execution : Execution γ} {printed : List String} :
      Succession generator first turns reached →
      execute fuel elapsed settings generator source reached = some execution →
      printedBy fuel elapsed settings generator source reached = some printed →
      Succession generator first (turns ++ [⟨execution, printed⟩]) execution.memory

/-- The lines left with the host after an execution. -/
def Turn.leaves (held : List String) (turn : Turn γ) : List String :=
  if turn.execution.report.hasError then held ++ turn.printed else []

/-- The lines left with the host after executions: those of the failed ones since the last
success, behind those that were there at first if there was no success. -/
def leftAfter (held : List String) (turns : List (Turn γ)) : List String :=
  turns.foldl Turn.leaves held

/-- What is left after one more execution depends on what was left before it. -/
theorem leftAfter_concat (held : List String) (turns : List (Turn γ)) (turn : Turn γ) :
    leftAfter held (turns ++ [turn]) = turn.leaves (leftAfter held turns) :=
  List.foldl_concat _ _ _ _

/-- Between two executions the host holds exactly the lines left by the failed ones. -/
theorem Succession.output_eq
    {first reached : MemoryHost γ} {turns : List (Turn γ)}
    (succession : Succession generator first turns reached) :
    reached.output.toList = leftAfter first.output.toList turns := by
  induction succession with
  | nil => rfl
  | @concat turns reached fuel elapsed settings source execution printed _ executed isPrinted
      inductionHypothesis =>
      obtain ⟨_, isPrintedToo, ends⟩ := execute_cases executed
      obtain rfl := Option.some.inj (isPrinted.symm.trans isPrintedToo)
      rw [leftAfter_concat, ← inductionHypothesis, Turn.leaves]
      rcases ends with ⟨failed, kept⟩ | ⟨succeeded, taken, _⟩
      · rw [if_pos failed]
        exact kept
      · rw [if_neg (ne_true_of_eq_false succeeded)]
        exact taken

/-- After any executions on the same host, a successful one reports what the failed ones since the
last success have left, followed by what it has printed itself, less the blank lines. So it reports
just its own lines if and only if there is nothing but blank lines left. -/
theorem report_shows_lines_of_failures
    {first reached : MemoryHost γ} {turns : List (Turn γ)}
    (succession : Succession generator first turns reached)
    {fuel : Nat} {elapsed : String} {settings : Settings} {source : String}
    {execution : Execution γ}
    (executed : execute fuel elapsed settings generator source reached = some execution)
    (succeeded : execution.report.hasError = false) :
    ∃ printed,
      printedBy fuel elapsed settings generator source reached = some printed ∧
      execution.report.output =
        (leftAfter first.output.toList turns).filter isShown ++ printed.filter isShown ∧
      (execution.report.output = printed.filter isShown ↔
        ∀ line ∈ leftAfter first.output.toList turns, Text.isAllBlank line = true) := by
  obtain ⟨printed, isPrinted, ends⟩ := execute_cases executed
  have output : execution.report.output =
      (leftAfter first.output.toList turns).filter isShown ++ printed.filter isShown := by
    rcases ends with ⟨failed, _⟩ | ⟨_, _, shown⟩
    · rw [succeeded] at failed
      cases failed
    · rw [shown, succession.output_eq, List.filter_append]
  refine ⟨printed, isPrinted, output, ?_⟩
  rw [output, List.append_left_eq_self, List.filter_eq_nil_iff]
  simp only [isShown, Bool.not_eq_true', Bool.not_eq_false]

/-- A source that prints a line and then asks for a variable that there is not. -/
def interruptedSource : String :=
  "print(\"a\") x"

def printingSource : String :=
  "print(\"b\")"

theorem exists_execute_interruptedSource :
    ∃ failed,
      execute 9 "0" {} .linear interruptedSource (.seeded 0) = some failed ∧
      failed.report.hasError = true ∧
      failed.memory = { output := #["a"], generator := 0 } := by
  have splits : (tokenize true interruptedSource).result = .ok
      [⟨.function, "print", 0⟩, ⟨.openParenthesis, "(", 5⟩, ⟨.string, "a", 6⟩,
        ⟨.closeParenthesis, ")", 9⟩, ⟨.identifier, "x", 11⟩, ⟨.endOfInput, "", 12⟩] := by
    cbv
  have evaluated : ∃ evaluation error,
      evaluate 9 seededHost {}
        [⟨.function, "print", 0⟩, ⟨.openParenthesis, "(", 5⟩, ⟨.string, "a", 6⟩,
          ⟨.closeParenthesis, ")", 9⟩, ⟨.identifier, "x", 11⟩, ⟨.endOfInput, "", 12⟩]
        .empty (.seeded 0) = some evaluation ∧
      evaluation.result = .error error ∧
      evaluation.world = { output := #["a"], generator := 0 } :=
    ⟨_, _, by cbv, rfl, rfl⟩
  obtain ⟨evaluation, error, ended, isError, world⟩ := evaluated
  obtain ⟨failed, executed, report, memory⟩ := exists_execute_of_error "0" {} splits ended isError
  exact ⟨failed, executed, by rw [report]; rfl, memory.trans world⟩

theorem exists_execute_printingSource :
    ∃ execution,
      execute 9 "0" {} .linear printingSource { output := #["a"], generator := 0 } =
        some execution ∧
      execution.report.hasError = false ∧
      execution.report.output = ["a", "b"] := by
  have ended : (execute 9 "0" {} .linear printingSource { output := #["a"], generator := 0 }).map
      (fun execution => (execution.report.hasError, execution.report.output)) =
        some (false, ["a", "b"]) := by
    cbv
  obtain ⟨execution, executed, both⟩ := Option.map_eq_some_iff.mp ended
  exact ⟨execution, executed, congrArg Prod.fst both, congrArg Prod.snd both⟩

theorem printedBy_printingSource :
    printedBy 9 "0" {} .linear printingSource { output := #["a"], generator := 0 } =
      some ["b"] := by
  cbv

theorem report_of_printingSource_shows_lines_of_failures :
    ∃ failed execution printed,
      Succession .linear (.seeded 0) [⟨failed, ["a"]⟩] failed.memory ∧
      execute 9 "0" {} .linear printingSource failed.memory = some execution ∧
      execution.report.hasError = false ∧
      printedBy 9 "0" {} .linear printingSource failed.memory = some printed ∧
      leftAfter [] [⟨failed, ["a"]⟩] = ["a"] ∧
      execution.report.output = ["a"].filter isShown ++ printed.filter isShown ∧
      execution.report.output ≠ printed.filter isShown := by
  obtain ⟨failed, failedExecuted, hasError, memory⟩ := exists_execute_interruptedSource
  obtain ⟨lines, isPrinted, ends⟩ := execute_cases failedExecuted
  have held : lines = ["a"] := by
    rcases ends with ⟨_, kept⟩ | ⟨noError, _⟩
    · rw [memory] at kept
      exact kept.symm
    · rw [hasError] at noError
      cases noError
  have succession : Succession .linear (.seeded 0) [⟨failed, ["a"]⟩] failed.memory :=
    .concat .nil failedExecuted (held ▸ isPrinted)
  obtain ⟨execution, executed, succeeded, _⟩ := exists_execute_printingSource
  rw [← memory] at executed
  obtain ⟨printed, isPrintedToo, output, own⟩ :=
    report_shows_lines_of_failures succession executed succeeded
  have left : leftAfter (MemoryHost.seeded 0).output.toList [⟨failed, ["a"]⟩] = ["a"] :=
    if_pos hasError
  rw [left] at output own
  refine ⟨failed, execution, printed, succession, executed, succeeded, isPrintedToo, left, output,
    ?_⟩
  intro onlyOwn
  have blank := own.mp onlyOwn "a" (List.mem_singleton_self "a")
  have shown : Text.isAllBlank "a" = false := by
    cbv
  exact absurd blank (ne_true_of_eq_false shown)

/-- A report shows a line that an earlier execution printed and its own did not. -/
theorem report_shows_line_of_earlier_execution :
    ∃ failed execution,
      execute 9 "0" {} .linear interruptedSource (.seeded 0) = some failed ∧
      failed.report.hasError = true ∧
      execute 9 "0" {} .linear printingSource failed.memory = some execution ∧
      execution.report.hasError = false ∧
      printedBy 9 "0" {} .linear printingSource failed.memory = some ["b"] ∧
      execution.report.output = ["a", "b"] := by
  obtain ⟨failed, failedExecuted, hasError, memory⟩ := exists_execute_interruptedSource
  obtain ⟨execution, executed, succeeded, output⟩ := exists_execute_printingSource
  have printed := printedBy_printingSource
  rw [← memory] at executed printed
  exact ⟨failed, execution, failedExecuted, hasError, executed, succeeded, printed, output⟩

end PugScript
