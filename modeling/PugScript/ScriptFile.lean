import PugScript.FileTree
import PugScript.Journal.Event
import PugScript.Settings
import PugScript.Text.Quoted

/-!
# Script files

A script is read from a path after its size and name have been checked. The checks come in a fixed
order: the path, the size, the emptiness, the name, the encoding.
-/

namespace PugScript

open PugScript.Journal

/-- Why a script cannot be read. -/
inductive FileError where
  | notFound (path : String)
  | invalidExtension (extension? : Option String)
  | tooLarge (size : Nat)
  | empty
  | permissionDenied (path : String)
  | invalidEncoding (path : String)
  | inputOutput (message : String)
  | invalidPath (path : String)
  deriving DecidableEq, Repr

namespace FileError

def message : FileError → String
  | notFound path => "File not found: " ++ path
  | invalidExtension extension? =>
    "Invalid file extension: expected .pug, found " ++ Text.quotedOption extension?
  | tooLarge size => s!"File too large: {size} bytes (max: {Limits.maxFileSize})"
  | empty => "File is empty"
  | permissionDenied path => "Permission denied: " ++ path
  | invalidEncoding path => "Invalid UTF-8 encoding in file: " ++ path
  | inputOutput message => "I/O error reading file: " ++ message
  | invalidPath path => "Invalid file path: " ++ path

def code : FileError → Code
  | notFound _ => .fileNotFound
  | invalidExtension _ => .invalidExtension
  | tooLarge _ => .fileTooLarge
  | empty => .emptyFile
  | permissionDenied _ => .permissionDenied
  | invalidEncoding _ => .invalidEncoding
  | inputOutput _ => .fileInputOutput
  | invalidPath _ => .invalidPath

/-- The error with its parts by name, as the command line shows it when it gives up. -/
def details : FileError → String
  | notFound path => "FileNotFound \x7b path: " ++ Text.quoted path ++ " \x7d"
  | invalidExtension extension? =>
    "InvalidExtension \x7b extension: " ++ Text.quotedOption extension? ++ " \x7d"
  | tooLarge size =>
    "FileTooLarge \x7b size: " ++ toString size ++ ", max_size: " ++
      toString Limits.maxFileSize ++ " \x7d"
  | empty => "EmptyFile"
  | permissionDenied path => "PermissionDenied \x7b path: " ++ Text.quoted path ++ " \x7d"
  | invalidEncoding path => "InvalidEncoding \x7b path: " ++ Text.quoted path ++ " \x7d"
  | inputOutput message => "IoError \x7b message: " ++ Text.quoted message ++ " \x7d"
  | invalidPath path => "InvalidPath \x7b path: " ++ Text.quoted path ++ " \x7d"

def requiresHalt (error : FileError) : Bool :=
  error.code.requiresHalt

end FileError

def scaledSize (size : Float) : String → List String → String
  | unit, [] => Decimal.fixedPlaces 2 size ++ " " ++ unit
  | unit, next :: units =>
    if 1024.0 ≤ size then scaledSize (size / 1024.0) next units
    else Decimal.fixedPlaces 2 size ++ " " ++ unit

def humanSize (size : Nat) : String :=
  if size < 1024 then toString size ++ " B"
  else scaledSize (Decimal.nearestFloat false size 1 / 1024.0) "KB" ["MB", "GB"]

def isLargeSize (size : Nat) : Bool :=
  Limits.largeFileThreshold < size

/-- What is known of a script besides its text. -/
structure ScriptMetadata where
  /-- The absolute path without detours. -/
  path : String
  size : Nat
  /-- The extension in lower case. -/
  extension? : Option String
  lineCount : Nat
  deriving DecidableEq, Repr

def scriptExtension : String := "pug"

def ScriptMetadata.isPugFile (metadata : ScriptMetadata) : Bool :=
  metadata.extension? == some scriptExtension

/-- A script with what is known of it. -/
structure ScriptFile where
  source : String
  metadata : ScriptMetadata
  deriving DecidableEq, Repr

/-- The extension in a path: what follows the last dot of its last part, unless that dot starts the
part. -/
def extensionOf? (path : String) : Option String :=
  let name := ((path.splitOn "/").getLastD "").toList
  let afterDot := (name.reverse.takeWhile (· ≠ '.')).reverse
  let beforeDot := (name.reverse.dropWhile (· ≠ '.')).drop 1
  if beforeDot.isEmpty then none else some (Text.toLower (String.ofList afterDot))

def countLines (source : String) : Nat :=
  let ends := source.foldl (fun count c => if c = '\n' then count + 1 else count) 0
  if source.isEmpty ∨ source.endsWith "\n" then ends else ends + 1

def readScript (preferences : FilePreferences) (files : FileSystem) (path : String) :
    Except FileError ScriptFile :=
  if path = "" then .error (.invalidPath "")
  else
    match files path with
    | .absent _ => .error (.notFound path)
    | .directory => .error (.invalidPath path)
    | .file canonicalPath content =>
      let size := content.size
      let extension? := extensionOf? canonicalPath
      if Limits.maxFileSize < size then .error (.tooLarge size)
      else if size = 0 then .error .empty
      else if preferences.requirePugExtension && extension? != some scriptExtension then
        .error (.invalidExtension extension?)
      else
        match String.fromUTF8? content with
        | none => .error (.invalidEncoding canonicalPath)
        | some source =>
          .ok
            { source
              metadata :=
                { path := canonicalPath, size, extension?, lineCount := countLines source } }

/-- What the journal says about reading a script; `elapsed` is the time it took, in
milliseconds. -/
def readScriptEvents (preferences : FilePreferences) (path elapsed : String)
    (result : Except FileError ScriptFile) : List Event :=
  let start := (Event.debug "Starting file processing").withDetail "file" path
  match result with
  | .error error =>
    [start,
      (Event.error error.code "Failed to read script file").withDetails
        [("file", path), ("error", error.message)]]
  | .ok script =>
    let metadata := script.metadata
    let read :=
      if preferences.enablePerformanceLogging then
        (Event.success .scriptRead "Script read with performance metrics").withDetails
          [("file", path), ("size_human", humanSize metadata.size),
            ("lines", toString metadata.lineCount), ("chars", toString script.source.length),
            ("duration_ms", elapsed),
            ("is_large_file", if isLargeSize metadata.size then "true" else "false")]
      else
        (Event.success .scriptRead "Script read").withDetails
          [("file", path), ("size_bytes", toString metadata.size)]
    if metadata.isPugFile then [start, read]
    else
      [start, read,
        (Event.debug "Processing script without .pug extension").withDetails
          [("extension", metadata.extension?.getD "none"), ("file", path)]]

end PugScript
