import PugScript.CommandLine.Help
import PugScript.CommandLine.Options
import PugScript.CommandLine.Transcript
import PugScript.Host.Console
import PugScript.Run.Report
import PugScript.Session

/-!
# The command

The command runs a script, reports on one as JSON, or holds an interactive session. All it depends
on is in its invocation, so what it writes is a function of that.
-/

namespace PugScript.CommandLine

open PugScript.Journal

/-- The times that the command writes. -/
structure Clock where
  /-- The current time. -/
  timestamp : String
  /-- How long a stage takes, in milliseconds. -/
  elapsed : String

/-- All that a command depends on. -/
structure Invocation (γ : Type) where
  /-- The name by which the command was called. -/
  program : String
  arguments : List String
  environment : Environment
  files : FileSystem
  clock : Clock
  generator : Generator γ
  /-- The console that the command is attached to. -/
  console : Console γ

variable {γ : Type}

def journal (invocation : Invocation γ) (settings : Settings) (event : Event) : List Piece :=
  Piece.ofEvent settings.journal invocation.clock.timestamp event

/-- What a console and a journal have written during a step. A console that waits has broken the
step off, and the last event tells only of that. -/
def piecesOfStep (invocation : Invocation γ) (settings : Settings) (console : Console γ)
    (events : List (Nat × Event)) : List Piece :=
  Piece.weave settings.journal invocation.clock.timestamp 0 console.output.toList
    (if console.isWaiting then events.dropLast else events)

/-! ## Colours -/

/-- The control sequence that ends a colour. -/
def colorEnd : String := "\x1B[0m"

/-- A text in the colour that a control sequence starts, or plain. -/
def colored (color : Bool) (colorStart text : String) : String :=
  if color then colorStart ++ text ++ colorEnd else text

def green : String := "\x1B[32m"

def blue : String := "\x1B[34m"

def red : String := "\x1B[31m"

/-! ## Scripts -/

def piecesOfError (invocation : Invocation γ) (settings : Settings) (color : Bool)
    (error : RunError) : List Piece :=
  journal invocation settings (Event.error error.code error.message) ++
    [Piece.errorLine (colored color red ("Error [" ++ error.code ++ "]: " ++ error.message))] ++
    (error.currentToken?.map fun token => Piece.errorLine ("  at " ++ token.describe)).toList

/-- The lines of a text, each without its line end: a newline, with the carriage return before it if
there is one. What follows the last newline is a line as it stands, unless nothing follows. -/
def inputLines (text : List Char) : List String :=
  let parts := (String.ofList text).splitOn "\n"
  let ended := parts.dropLast.map fun line =>
    if line.endsWith "\r" then (line.dropEnd 1).toString else line
  ended ++ parts.getLast?.toList.filter (· ≠ "")

def giveUp (details : String) : Transcript :=
  { pieces := [Piece.errorLine ("Error: " ++ details)], ending := .failure }

def openScript (invocation : Invocation γ) (settings : Settings) (path : String) :
    Except FileError ScriptFile × List Piece :=
  let script := readScript settings.file invocation.files path
  let events := readScriptEvents settings.file path invocation.clock.elapsed script
  (script, events.flatMap (journal invocation settings))

def reportSource (fuel : Nat) (invocation : Invocation γ) (settings : Settings) (source : String) :
    Option Transcript :=
  if !invocation.console.isClosed then some { pieces := [], ending := .waiting }
  else
    let memory : MemoryHost γ :=
      { input := inputLines invocation.console.input
        generator := invocation.console.generator }
    (execute fuel invocation.clock.elapsed settings invocation.generator source memory).map
      fun execution =>
      { pieces :=
          execution.events.flatMap (fun (_, event) => journal invocation settings event) ++
            [Piece.outputLine (execution.report.toJson invocation.clock.timestamp).pretty]
        ending := if execution.report.hasError then .failure else .success }

def reportScript (fuel : Nat) (invocation : Invocation γ) (settings : Settings) (path : String) :
    Option Transcript :=
  let (script, pieces) := openScript invocation settings path
  match script with
  | .error error => some ((giveUp error.details).after pieces)
  | .ok script =>
    (reportSource fuel invocation settings script.source).map fun transcript =>
      transcript.after pieces

def showTokens (invocation : Invocation γ) (settings : Settings) (source : String) : List Piece :=
  let preferences := (Settings.ofEnvironment invocation.environment).lexical
  let lexing := tokenize preferences.collectDetailedMetrics source
  (lexing.events preferences source).flatMap (journal invocation settings) ++
    match lexing.result with
    | .error _ => []
    | .ok tokens => tokens.map fun token => Piece.outputLine token.describe

def runScript (fuel : Nat) (invocation : Invocation γ) (settings : Settings) (path : String) :
    Option Transcript :=
  (runFile fuel invocation.clock.elapsed settings invocation.files
      (Console.host invocation.generator) path invocation.console).map fun run =>
    let pieces := piecesOfStep invocation settings run.world run.events
    if run.world.isWaiting then { pieces, ending := .waiting }
    else
      match run.result with
      | .error error =>
        { pieces := pieces ++ piecesOfError invocation settings false error, ending := .failure }
      | .ok result =>
        { pieces := pieces ++ result.values.map fun value => Piece.outputLine value.text
          ending := .success }

def showAndRunScript (fuel : Nat) (invocation : Invocation γ) (settings : Settings)
    (path : String) : Option Transcript :=
  let (script, pieces) := openScript invocation settings path
  match script with
  | .error error => some ((giveUp error.details).after pieces)
  | .ok script =>
    (runScript fuel invocation settings path).map fun transcript =>
      transcript.after (pieces ++ showTokens invocation settings script.source)

/-! ## Sessions -/

def piecesOfReply (invocation : Invocation γ) (settings : Settings) : Session.Reply → List Piece
  | .quit => []
  | .cleared => []
  | .tokenPrinting enabled =>
    [Piece.outputLine ("Print tokens: " ++ if enabled then "true" else "false")]
  | .evaluated result printTokens =>
    (if printTokens then result.tokens.map fun token => Piece.outputLine token.describe else []) ++
      result.values.map fun value =>
        Piece.outputLine (colored settings.session.colorOutput blue value.text)
  | .failed error => piecesOfError invocation settings settings.session.colorOutput error

/-- Answers line after line until the input ends or a line quits; `written` holds the pieces so
far, last first. Every round takes at least one character of the input, so one round more than
there are characters suffices. -/
def converse (fuel : Nat) (invocation : Invocation γ) (settings : Settings) :
    Nat → List Piece → Session → Console γ → Option Transcript
  | 0, written, _, _ => some { pieces := written.reverse, ending := .success }
  | rounds + 1, written, session, console =>
    let prompt : Piece :=
      ⟨.output, colored settings.session.colorOutput green settings.session.prompt⟩
    match console.nextLine? with
    | (none, console) =>
      some
        { pieces := (prompt :: written).reverse
          ending := if console.isWaiting then .waiting else .success }
    | (some line, console) =>
      match
        session.handleLine fuel invocation.clock.elapsed (Console.host invocation.generator) line
          console with
      | none => none
      | some step =>
        let pieces := piecesOfStep invocation settings step.world step.events
        let shown := pieces.reverse ++ prompt :: written
        if step.world.isWaiting then some { pieces := shown.reverse, ending := .waiting }
        else
          match step.reply with
          | .quit => some { pieces := shown.reverse, ending := .success }
          | reply =>
            converse fuel invocation settings rounds
              ((piecesOfReply invocation settings reply).reverse ++ shown) step.session
              { step.world with output := #[] }

def holdSession (fuel : Nat) (invocation : Invocation γ) (settings : Settings) :
    Option Transcript :=
  let session := Session.ofSettings settings
  let started :=
    (Event.success .sessionStarted "Interactive session started").withDetail "print_tokens"
      (if session.printTokens then "true" else "false")
  (converse fuel invocation settings (invocation.console.input.length + 1) [] session
      invocation.console).map fun transcript =>
    transcript.after (journal invocation settings started)

/-! ## The whole command -/

def loadSettings (invocation : Invocation γ) (options : Options) : Except SettingsError Settings :=
  match options.settingsPath? with
  | none => .ok (Settings.ofEnvironment invocation.environment)
  | some path => Settings.load invocation.environment invocation.files path

/-- Does what the options ask for, with the preferences. -/
def perform (fuel : Nat) (invocation : Invocation γ) (options : Options) (settings : Settings) :
    Option Transcript :=
  let performed :=
    match options.script? with
    | none => holdSession fuel invocation settings
    | some path =>
      if options.json then reportScript fuel invocation settings path
      else if options.printTokens then showAndRunScript fuel invocation settings path
      else runScript fuel invocation settings path
  performed.map fun transcript =>
    transcript.after (journal invocation settings Service.openingEvent)

/-- Runs the command. Gives nothing if the fuel does not suffice. -/
def run (fuel : Nat) (invocation : Invocation γ) : Option Transcript :=
  let (options, warnings) := Options.ofArguments invocation.arguments
  let warningPieces := warnings.map fun warning => Piece.errorLine warning.message
  if options.help then
    let settings := Settings.ofEnvironment invocation.environment
    some
      { pieces :=
          warningPieces ++ (helpLines invocation.program settings).map Piece.outputLine
        ending := .success }
  else
    match loadSettings invocation options with
    | .error error => some ((giveUp error.details).after warningPieces)
    | .ok settings =>
      (perform fuel invocation options settings).map fun transcript =>
        transcript.after warningPieces

end PugScript.CommandLine
