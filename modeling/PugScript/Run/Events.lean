import PugScript.Evaluation
import PugScript.Lexing
import PugScript.Settings

/-!
# What the journal says of a run

A run tells the journal when splitting and evaluating start, how they end, and what happens in
between.
-/

namespace PugScript

open PugScript.Journal

def LexicalError.event (error : LexicalError) (preferences : LexicalPreferences)
    (source : String) : Event :=
  let event := Event.error error.fault.code error.fault.message
  let placed :=
    if preferences.includePositionInErrors then
      event.withSpan ((SourceMap.ofSource source).spanAt error.position 1)
    else event
  placed.withDetails
    [("character", (error.character.map String.singleton).getD "end of input"),
      ("tokens_processed", toString error.tokens.length)]

def Lexing.events (lexing : Lexing) (preferences : LexicalPreferences) (source : String) :
    List Event :=
  let characters := toString source.length
  let start := (Event.debug "Starting lexical analysis").withDetail "char_count" characters
  match lexing.result with
  | .error error => [start, error.event preferences source]
  | .ok _ =>
    [start,
      (Event.success .tokenizationCompleted "Tokenization completed").withDetails
        [("tokens", toString lexing.statistics.total), ("chars", characters),
          ("comments", toString lexing.statistics.comments),
          ("max_string_length", toString lexing.statistics.longestString)]]

def Note.event : Note → Event
  | loopFinished iterations offset =>
    (Event.debug "Loop finished").withDetails
      [("iterations", toString iterations), ("offset", toString offset)]
  | statementEvaluated value =>
    (Event.debug "Statement evaluated").withDetails
      [("data_type", value.dataType.title), ("value", value.text)]

def EvaluationError.event (error : EvaluationError) : Event :=
  (Event.error error.fault.code error.fault.message).withDetails
    [("token", error.token.describe), ("statements_completed", toString error.values.length)]

/-- The event before the first statement. -/
def evaluationStart (tokens : List Token) (bindings : VariableTable) : Event :=
  (Event.debug "Starting evaluation").withDetails
    [("tokens", toString tokens.length), ("variables", toString bindings.size)]

/-- The event after the last statement. -/
def evaluationEnd (result : Except EvaluationError (List Value)) (bindings : VariableTable) :
    Event :=
  match result with
  | .error error => error.event
  | .ok values =>
    (Event.success .evaluationCompleted "Evaluation completed").withDetails
      [("statements", toString values.length), ("variables", toString bindings.size)]

/-- The events of an evaluation that started with the given variables and had written so much
before. -/
def Evaluation.events {σ : Type} (evaluation : Evaluation σ) (host : Host σ)
    (tokens : List Token) (bindings : VariableTable) (written : Nat) : List (Nat × Event) :=
  (written, evaluationStart tokens bindings) ::
    evaluation.notes.map (fun (written, note) => (written, note.event)) ++
    [(host.written evaluation.world, evaluationEnd evaluation.result evaluation.bindings)]

end PugScript
