import PugScript.Journal.Code
import PugScript.Json
import PugScript.Limits
import PugScript.Source

/-!
# Events of the journal

An event has a level, a code, a message, and possibly a span of the source and named details. It is
written as a line of text or as a line of JSON whose keys are in alphabetical order.
-/

namespace PugScript.Journal

inductive Level where
  | error
  | warning
  | info
  | debug
  deriving DecidableEq, Repr

namespace Level

/-- The rank of a level, zero for the most important one. -/
def rank : Level → Nat
  | error => 0
  | warning => 1
  | info => 2
  | debug => 3

def name : Level → String
  | error => "Error"
  | warning => "Warning"
  | info => "Info"
  | debug => "Debug"

def ofName? : String → Option Level
  | "Error" => some error
  | "Warning" => some warning
  | "Info" => some info
  | "Debug" => some debug
  | _ => none

/-- The name of a level in events. -/
def label : Level → String
  | error => "ERROR"
  | warning => "WARN"
  | info => "INFO"
  | debug => "DEBUG"

/-- An event of this level is wanted if levels up to the given one are. -/
def isWantedAt (level least : Level) : Bool :=
  level.rank ≤ least.rank

end Level

/-- Named details, in the order of their names, each name once. -/
abbrev Details := List (String × String)

/-- Sets a detail. -/
def Details.set (name value : String) : Details → Details
  | [] => [(name, value)]
  | (other, kept) :: rest =>
    if name = other then (name, value) :: rest
    else if name < other then (name, value) :: (other, kept) :: rest
    else (other, kept) :: Details.set name value rest

structure Event where
  level : Level
  code : Code
  message : String
  span : Option Span := none
  details : Details := []

namespace Event

/-- A message cut down to the length that the journal keeps. -/
def shorten (message : String) : String :=
  if Limits.maxLogMessageLength < message.length then
    String.ofList (message.toList.take Limits.maxLogMessageLength) ++ "..."
  else message

def error (code : Code) (message : String) : Event :=
  { level := .error, code, message := shorten message }

def warning (message : String) : Event :=
  { level := .warning, code := .uncodedWarning, message := shorten message }

def info (message : String) : Event :=
  { level := .info, code := .uncodedInformation, message := shorten message }

def success (code : Code) (message : String) : Event :=
  { level := .info, code, message := shorten message }

def debug (message : String) : Event :=
  { level := .debug, code := .uncodedDetail, message := shorten message }

def withSpan (event : Event) (span : Span) : Event :=
  { event with span := some span }

def withDetail (event : Event) (name value : String) : Event :=
  { event with details := event.details.set name value }

def withDetails (event : Event) (details : List (String × String)) : Event :=
  details.foldl (fun event (name, value) => event.withDetail name value) event

def isError (event : Event) : Bool :=
  event.level = .error

def isInfo (event : Event) : Bool :=
  event.level = .info

def format (event : Event) : String :=
  let place :=
    match event.span with
    | some span => " at " ++ span.start.describe
    | none => ""
  "[" ++ event.level.label ++ "] " ++ event.code ++ " - " ++ event.message ++ place

def registerJson (code : Code) : Json :=
  .object [("description", .string code.description),
    ("recommended_action", .string code.action),
    ("recoverable", .bool code.isRecoverable),
    ("requires_halt", .bool code.requiresHalt)]

def spanJson (span : Span) : Json :=
  .object [("end_offset", .integer span.stop.offset),
    ("start_column", .integer span.start.column.toNat),
    ("start_line", .integer span.start.line.toNat),
    ("start_offset", .integer span.start.offset)]

def toJson (event : Event) (timestamp : String) : Json :=
  let details : List (String × Json) :=
    if event.details.isEmpty then []
    else
      [("context", .object (event.details.map fun (name, value) => (name, .string value)))]
  let register : List (String × Json) :=
    if event.isError then [("error_metadata", registerJson event.code)] else []
  let span : List (String × Json) :=
    match event.span with
    | some span => [("span", spanJson span)]
    | none => []
  .object <|
    [("category", .string event.code.category), ("code", .string event.code)] ++ details ++
      register ++
      [("level", .string event.level.label), ("message", .string event.message),
        ("severity", .string event.code.severity.name)] ++
      span ++ [("timestamp", .string timestamp)]

def formatJson (event : Event) (timestamp : String) : String :=
  (event.toJson timestamp).compact

end Event

end PugScript.Journal
