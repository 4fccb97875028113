import PugScript.Host.Memory
import PugScript.Run
import PugScript.Value.Tagged

/-!
# Reports

A report tells a front end all about one run of a source in a host of its own. The report of a
failed run holds the error message in place of the output.
-/

namespace PugScript

/-- All about one run. -/
structure Report where
  tokens : List Token
  bindings : VariableTable
  values : List Value
  output : List String
  currentToken? : Option Token
  hasError : Bool

namespace Report

/-- The report of a run that succeeded; blank lines of output are dropped. -/
def ofResult (result : RunResult) (bindings : VariableTable) (output : List String) :
    Report where
  tokens := result.tokens
  bindings := bindings
  values := result.values
  output := output.filter fun line => !Text.isAllBlank line
  currentToken? := none
  hasError := false

def variablesOf : RunError → VariableTable
  | .evaluation error => error.bindings
  | _ => .empty

def valuesOf : RunError → List Value
  | .evaluation error => presentValues error.values
  | _ => []

/-- The report of a run that failed. -/
def ofError (error : RunError) : Report where
  tokens := error.tokens
  bindings := variablesOf error
  values := valuesOf error
  output := [error.message]
  currentToken? := error.currentToken?
  hasError := true

def toJson (report : Report) (executedAt : String) : Json :=
  .object
    [("tokens", .array (report.tokens.map Token.toJson)),
      ("variables", report.bindings.toJson),
      ("values", .array (report.values.map Value.toTagged)),
      ("output", .array (report.output.map Json.string)),
      ("current_token", (report.currentToken?.map Token.toJson).getD .null),
      ("has_error", .bool report.hasError),
      ("executed_at", .string executedAt)]

end Report

/-- A report with the host and the journal after the run. -/
structure Execution (γ : Type) where
  report : Report
  memory : MemoryHost γ
  events : List (Nat × Journal.Event)

/-- The execution that a run led to. The output of a run that succeeded is handed over to the
report; a failed run leaves it with the host. -/
def Execution.ofRun {γ : Type} (run : Run (MemoryHost γ)) : Execution γ :=
  match run.result with
  | .error error => { report := .ofError error, memory := run.world, events := run.events }
  | .ok result =>
    let (output, memory) := run.world.takeOutput
    { report := .ofResult result run.bindings output.toList, memory, events := run.events }

/-- Runs a source without any variables at its start, and reports on it. Gives nothing if the fuel
does not suffice. -/
def execute {γ : Type} (fuel : Nat) (elapsed : String) (settings : Settings)
    (generator : Generator γ) (source : String) (memory : MemoryHost γ) : Option (Execution γ) :=
  (runSource fuel elapsed settings (MemoryHost.host generator) source .empty memory).map
    Execution.ofRun

end PugScript
