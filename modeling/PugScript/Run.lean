import PugScript.Journal.FileContext
import PugScript.Run.Error
import PugScript.Run.Events

/-!
# Running sources and scripts

A source is split into tokens, and the tokens are evaluated. A script is a source from a file that
starts without variables. Both give their result together with the variables, the host and the
events for the journal; every event comes with what the host had written before it.
-/

namespace PugScript

open PugScript.Journal

/-- What a successful run gives. -/
structure RunResult where
  tokens : List Token
  /-- The values of the statements that have one. -/
  values : List Value
  /-- What is known of the script, if the source came from one. -/
  metadata? : Option ScriptMetadata := none

structure Run (σ : Type) where
  result : Except RunError RunResult
  bindings : VariableTable
  world : σ
  /-- Events with what the host had written before them, oldest first. -/
  events : List (Nat × Event)

/-- The values without those that are nothing. -/
def presentValues (values : List Value) : List Value :=
  values.filter fun value => !value.isNone

namespace Run

variable {σ : Type}

/-- The end of a run whose source cannot be split. -/
def ofLexicalError (error : LexicalError) (bindings : VariableTable) (world : σ)
    (events : List (Nat × Event)) : Run σ :=
  { result := .error (.lexical error), bindings, world, events }

def ofEvaluation (host : Host σ) (elapsed : String) (tokens : List Token)
    (evaluation : Evaluation σ) (events : List (Nat × Event)) : Run σ :=
  match evaluation.result with
  | .error error =>
    { result := .error (.evaluation error)
      bindings := evaluation.bindings
      world := evaluation.world
      events }
  | .ok values =>
    let summary :=
      (Event.debug "Source evaluated").withDetails
        [("tokens", toString tokens.length), ("lexing_ms", elapsed), ("evaluation_ms", elapsed)]
    { result := .ok { tokens, values := presentValues values }
      bindings := evaluation.bindings
      world := evaluation.world
      events := events ++ [(host.written evaluation.world, summary)] }

end Run

/-- Runs a source with the given variables and host. Gives nothing if the fuel does not suffice. -/
def runSource {σ : Type} (fuel : Nat) (elapsed : String) (settings : Settings) (host : Host σ)
    (source : String) (bindings : VariableTable) (world : σ) : Option (Run σ) :=
  let written := host.written world
  let lexing := tokenize settings.lexical.collectDetailedMetrics source
  let lexingEvents := (lexing.events settings.lexical source).map fun event => (written, event)
  match lexing.result with
  | .error error => some (Run.ofLexicalError error bindings world lexingEvents)
  | .ok tokens =>
    (evaluate fuel host settings.evaluation tokens bindings world).map fun evaluation =>
      Run.ofEvaluation host elapsed tokens evaluation
        (lexingEvents ++ evaluation.events host tokens bindings written)

/-- The end of a run of a script that was read. -/
def Run.withScript {σ : Type} (run : Run σ) (host : Host σ) (elapsed : String)
    (script : ScriptFile) (before : List (Nat × Event)) : Run σ :=
  match run.result with
  | .error error => { run with result := .error error, events := before ++ run.events }
  | .ok result =>
    let summary :=
      (Event.success .scriptCompleted "Pipeline completed").withDetails
        [("tokens", toString result.tokens.length), ("values", toString result.values.length),
          ("lexing_ms", elapsed), ("evaluation_ms", elapsed)]
    { run with
      result := .ok { result with metadata? := some script.metadata }
      events := before ++ run.events ++ [(host.written run.world, summary)] }

/-- The run with the script that it is about in every event. -/
def Run.inContext {σ : Type} (run : Run σ) (context : FileContext)
    (preferences : JournalPreferences) : Run σ :=
  { run with
    events := run.events.map fun (written, event) => (written, context.attach preferences event) }

/-- Runs the script at a path, without any variables at its start; its events are about that
script. Gives nothing if the fuel does not suffice. -/
def runFile {σ : Type} (fuel : Nat) (elapsed : String) (settings : Settings) (files : FileSystem)
    (host : Host σ) (path : String) (world : σ) : Option (Run σ) :=
  let written := host.written world
  let script := readScript settings.file files path
  let before : List (Nat × Event) :=
    ((Event.info "Running Pug script").withDetail "file" path ::
        readScriptEvents settings.file path elapsed script).map fun event => (written, event)
  let finished : Option (Run σ) :=
    match script with
    | .error error =>
      some { result := .error (.file error), bindings := .empty, world, events := before }
    | .ok script =>
      (runSource fuel elapsed settings host script.source .empty world).map fun run =>
        run.withScript host elapsed script before
  (FileContext.outside.within path fun context =>
    finished.map fun run => run.inContext context settings.journal).1

end PugScript
