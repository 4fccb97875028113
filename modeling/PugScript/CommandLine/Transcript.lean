import PugScript.Journal.Event
import PugScript.Settings

/-!
# Transcripts

What a command writes, piece by piece, to its two streams. The journal writes errors to the error
stream and everything else to the output stream; its lines stand where they were written among the
pieces of a script.
-/

namespace PugScript.CommandLine

open PugScript.Journal

inductive Stream where
  | output
  | errors
  deriving DecidableEq, Repr

structure Piece where
  stream : Stream
  text : String
  deriving DecidableEq, Repr

namespace Piece

def outputLine (text : String) : Piece :=
  ⟨.output, text ++ "\n"⟩

def errorLine (text : String) : Piece :=
  ⟨.errors, text ++ "\n"⟩

/-- The text of an event as the journal writes it. -/
def textOfEvent (preferences : JournalPreferences) (timestamp : String) (event : Event) : String :=
  if preferences.useStructuredLogging then event.formatJson timestamp else event.format

/-- What an event writes: nothing, unless the journal goes to the console and wants it. -/
def ofEvent (preferences : JournalPreferences) (timestamp : String) (event : Event) :
    List Piece :=
  if preferences.enableConsoleLogging && event.level.isWantedAt preferences.minLogLevel then
    let text := textOfEvent preferences timestamp event
    [if event.isError then errorLine text else outputLine text]
  else []

/-- The output of a script with the events among it. Each event stands behind as many pieces of
output as it comes with; `written` pieces are behind already. -/
def weave (preferences : JournalPreferences) (timestamp : String) :
    Nat → List String → List (Nat × Event) → List Piece
  | _, output, [] => output.map (⟨.output, ·⟩)
  | written, output, (reached, event) :: events =>
    (output.take (reached - written)).map (⟨.output, ·⟩) ++
      ofEvent preferences timestamp event ++
      weave preferences timestamp reached (output.drop (reached - written)) events

end Piece

inductive Ending where
  | success
  | failure
  /-- The command waits for a line that has not been typed in yet. -/
  | waiting
  deriving DecidableEq, Repr

/-- What a command writes, oldest first, and how it ends. -/
structure Transcript where
  pieces : List Piece
  ending : Ending
  deriving DecidableEq, Repr

namespace Transcript

/-- The transcript with pieces in front. -/
def after (transcript : Transcript) (pieces : List Piece) : Transcript :=
  { transcript with pieces := pieces ++ transcript.pieces }

def textOn (transcript : Transcript) (stream : Stream) : String :=
  transcript.pieces.foldl
    (fun text piece => if piece.stream = stream then text ++ piece.text else text) ""

end Transcript

end PugScript.CommandLine
