import PugScript.Evaluation
import PugScript.FileTree
import PugScript.Journal.Event
import PugScript.Text.Quoted
import PugScript.Toml.Reader

/-!
# Preferences

What a user may decide: how scripts are read, split, evaluated and journalled, and how the
interactive session looks. Every preference has a default that an environment variable can change,
and a TOML document can set it outright. Sections and keys that are not known are passed over; a
known key with a value of the wrong type makes the document unusable.
-/

namespace PugScript

open PugScript.Journal

abbrev Environment := String → Option String

def Environment.empty : Environment := fun _ => none

structure FilePreferences where
  requirePugExtension : Bool := false
  enablePerformanceLogging : Bool := true
  deriving DecidableEq, Repr

structure LexicalPreferences where
  /-- Count tokens by class. -/
  collectDetailedMetrics : Bool := true
  /-- Give the place of an error in the journal. -/
  includePositionInErrors : Bool := true
  deriving DecidableEq, Repr

structure JournalPreferences where
  /-- Write events as JSON. -/
  useStructuredLogging : Bool := false
  /-- Write events to the console instead of keeping them in memory. -/
  enableConsoleLogging : Bool := false
  minLogLevel : Level := .info
  /-- Name the running script in every event. -/
  includeFileContext : Bool := true
  deriving DecidableEq, Repr

structure SessionPreferences where
  prompt : String := "> "
  printTokens : Bool := false
  colorOutput : Bool := true
  deriving DecidableEq, Repr

structure Settings where
  file : FilePreferences := {}
  lexical : LexicalPreferences := {}
  evaluation : EvaluationPreferences := {}
  journal : JournalPreferences := {}
  session : SessionPreferences := {}
  deriving DecidableEq, Repr

/-- Why preferences cannot be loaded. -/
inductive SettingsError where
  /-- The file cannot be read, with the system's message. -/
  | unreadable (path message : String)
  /-- The document is not well formed or a value has the wrong type. -/
  | invalid
  deriving DecidableEq, Repr

def SettingsError.code (_ : SettingsError) : Code :=
  .configurationError

def SettingsError.message : SettingsError → String
  | unreadable path message =>
    "Failed to read configuration file " ++ path ++ ": " ++ message
  | invalid => "Invalid configuration"

/-- The error with its parts by name, as the command line shows it when it gives up. -/
def SettingsError.details : SettingsError → String
  | unreadable path message =>
    "Io \x7b path: " ++ Text.quoted path ++ ", message: " ++ Text.quoted message ++ " \x7d"
  | invalid => "Parse"

namespace Settings

/-! ## Defaults from the environment -/

/-- A truth value as a variable holds it. -/
def boolOfText? : String → Option Bool
  | "true" => some true
  | "false" => some false
  | _ => none

/-- A count of up to 64 bits as a variable holds it: digits, possibly behind a plus. -/
def countOfText? (text : String) : Option UInt64 :=
  let digits :=
    match text.toList with
    | '+' :: rest => rest
    | rest => rest
  if digits.isEmpty || !digits.all Text.isDigit then none
  else
    let count := Decimal.digitsValue 0 digits
    if count < Decimal.twoTo 64 then some (.ofNat count) else none

def levelOfText? (text : String) : Option Level :=
  match Text.toLower text with
  | "error" | "0" => some .error
  | "warning" | "warn" | "1" => some .warning
  | "info" | "2" => some .info
  | "debug" | "3" => some .debug
  | _ => none

/-- The value of a variable if it can be used, else a default. -/
def fromVariable {α : Type} (environment : Environment) (read? : String → Option α)
    (name : String) (fallback : α) : α :=
  ((environment name).bind read?).getD fallback

def variableNames : List String :=
  ["PUG_REQUIRE_PUG_EXTENSION", "PUG_ENABLE_PERFORMANCE_LOGGING", "PUG_LEXICAL_DETAILED_METRICS",
    "PUG_LEXICAL_INCLUDE_POSITIONS", "PUG_EVALUATOR_MAX_LOOP_ITERATIONS",
    "PUG_EVALUATOR_TRACE_STATEMENTS", "PUG_LOGGING_USE_STRUCTURED", "PUG_LOGGING_ENABLE_CONSOLE",
    "PUG_LOGGING_MIN_LEVEL", "PUG_LOGGING_INCLUDE_FILE_CONTEXT", "PUG_REPL_PROMPT",
    "PUG_REPL_PRINT_TOKENS", "PUG_REPL_COLOR"]

def ofEnvironment (environment : Environment) : Settings where
  file :=
    { requirePugExtension :=
        fromVariable environment boolOfText? "PUG_REQUIRE_PUG_EXTENSION" false
      enablePerformanceLogging :=
        fromVariable environment boolOfText? "PUG_ENABLE_PERFORMANCE_LOGGING" true }
  lexical :=
    { collectDetailedMetrics :=
        fromVariable environment boolOfText? "PUG_LEXICAL_DETAILED_METRICS" true
      includePositionInErrors :=
        fromVariable environment boolOfText? "PUG_LEXICAL_INCLUDE_POSITIONS" true }
  evaluation :=
    { maxLoopIterations :=
        fromVariable environment countOfText? "PUG_EVALUATOR_MAX_LOOP_ITERATIONS" 0
      traceStatements :=
        fromVariable environment boolOfText? "PUG_EVALUATOR_TRACE_STATEMENTS" false }
  journal :=
    { useStructuredLogging :=
        fromVariable environment boolOfText? "PUG_LOGGING_USE_STRUCTURED" false
      enableConsoleLogging :=
        fromVariable environment boolOfText? "PUG_LOGGING_ENABLE_CONSOLE" false
      minLogLevel := fromVariable environment levelOfText? "PUG_LOGGING_MIN_LEVEL" .info
      includeFileContext :=
        fromVariable environment boolOfText? "PUG_LOGGING_INCLUDE_FILE_CONTEXT" true }
  session :=
    { prompt := fromVariable environment some "PUG_REPL_PROMPT" "> "
      printTokens := fromVariable environment boolOfText? "PUG_REPL_PRINT_TOKENS" false
      colorOutput := fromVariable environment boolOfText? "PUG_REPL_COLOR" true }

/-! ## Preferences from a document -/

def boolOfToml? : Toml → Option Bool
  | .boolean truth => some truth
  | _ => none

def countOfToml? : Toml → Option UInt64
  | .integer number => if 0 ≤ number then some (.ofNat number.toNat) else none
  | _ => none

def textOfToml? : Toml → Option String
  | .string content => some content
  | _ => none

/-- A level of a document: its name, or a table with the name as key of an empty table or array. -/
def levelOfToml? : Toml → Option Level
  | .string name => Level.ofName? name
  | .table [(name, .table [])] => Level.ofName? name
  | .table [(name, .array [])] => Level.ofName? name
  | _ => none

/-- The parts of a group: a table by its keys, or an array by the order of the keys. A date counts
as a table without any key that means something here. -/
def parts? (keys : List String) : Toml → Option (List (String × Toml))
  | .table entries => some entries
  | .array elements => some (keys.zip elements)
  | .datetime => some []
  | _ => none

/-- A key of a group, or the default if it is not there. -/
def key? {α : Type} (parts : List (String × Toml)) (name : String) (read? : Toml → Option α)
    (fallback : α) : Option α :=
  match parts.lookup name with
  | none => some fallback
  | some value => read? value

/-- A group of keys of the document, or its default if it is not there. -/
def group? {α : Type} (document : List (String × Toml)) (name : String) (keys : List String)
    (fallback : α) (read? : List (String × Toml) → Option α) : Option α :=
  match document.lookup name with
  | none => some fallback
  | some value => (parts? keys value).bind read?

def fileOfParts? (fallback : FilePreferences) (parts : List (String × Toml)) :
    Option FilePreferences := do
  let requirePugExtension ←
    key? parts "require_pug_extension" boolOfToml? fallback.requirePugExtension
  let enablePerformanceLogging ←
    key? parts "enable_performance_logging" boolOfToml? fallback.enablePerformanceLogging
  return { requirePugExtension, enablePerformanceLogging }

def lexicalOfParts? (fallback : LexicalPreferences) (parts : List (String × Toml)) :
    Option LexicalPreferences := do
  let collectDetailedMetrics ←
    key? parts "collect_detailed_metrics" boolOfToml? fallback.collectDetailedMetrics
  let includePositionInErrors ←
    key? parts "include_position_in_errors" boolOfToml? fallback.includePositionInErrors
  return { collectDetailedMetrics, includePositionInErrors }

def evaluationOfParts? (fallback : EvaluationPreferences) (parts : List (String × Toml)) :
    Option EvaluationPreferences := do
  let maxLoopIterations ←
    key? parts "max_loop_iterations" countOfToml? fallback.maxLoopIterations
  let traceStatements ← key? parts "trace_statements" boolOfToml? fallback.traceStatements
  return { maxLoopIterations, traceStatements }

def journalOfParts? (fallback : JournalPreferences) (parts : List (String × Toml)) :
    Option JournalPreferences := do
  let useStructuredLogging ←
    key? parts "use_structured_logging" boolOfToml? fallback.useStructuredLogging
  let enableConsoleLogging ←
    key? parts "enable_console_logging" boolOfToml? fallback.enableConsoleLogging
  let minLogLevel ← key? parts "min_log_level" levelOfToml? fallback.minLogLevel
  let includeFileContext ←
    key? parts "include_file_context" boolOfToml? fallback.includeFileContext
  return { useStructuredLogging, enableConsoleLogging, minLogLevel, includeFileContext }

def sessionOfParts? (fallback : SessionPreferences) (parts : List (String × Toml)) :
    Option SessionPreferences := do
  let prompt ← key? parts "prompt" textOfToml? fallback.prompt
  let printTokens ← key? parts "print_tokens" boolOfToml? fallback.printTokens
  let colorOutput ← key? parts "color_output" boolOfToml? fallback.colorOutput
  return { prompt, printTokens, colorOutput }

def ofDocument? (fallback : Settings) (document : List (String × Toml)) : Option Settings := do
  let file ←
    group? document "file_processor" ["require_pug_extension", "enable_performance_logging"]
      fallback.file (fileOfParts? fallback.file)
  let lexical ←
    group? document "lexical" ["collect_detailed_metrics", "include_position_in_errors"]
      fallback.lexical (lexicalOfParts? fallback.lexical)
  let evaluation ←
    group? document "evaluator" ["max_loop_iterations", "trace_statements"]
      fallback.evaluation (evaluationOfParts? fallback.evaluation)
  let journal ←
    group? document "logging"
      ["use_structured_logging", "enable_console_logging", "min_log_level",
        "include_file_context"]
      fallback.journal (journalOfParts? fallback.journal)
  let session ←
    group? document "repl" ["prompt", "print_tokens", "color_output"]
      fallback.session (sessionOfParts? fallback.session)
  return { file, lexical, evaluation, journal, session }

def ofToml (environment : Environment) (text : String) : Except SettingsError Settings :=
  match (Toml.read? text).bind (ofDocument? (ofEnvironment environment)) with
  | some settings => .ok settings
  | none => .error .invalid

def load (environment : Environment) (files : FileSystem) (path : String) :
    Except SettingsError Settings :=
  match files.readText path with
  | .error message => .error (.unreadable path message)
  | .ok text => ofToml environment text

end Settings

end PugScript
