import PugScript.CommandLine
import Std.Time.Format

/-!
# The program

The outer layer of the command: it gathers the invocation from the system, runs the command, and
writes the transcript. When the command waits for input, one more line is read and the command is
run again on all the input so far; what it writes starts with what it wrote before, so only the new
pieces are shown.
-/

namespace PugScript.CommandLine

def writePieces (pieces : List Piece) : IO Unit := do
  for piece in pieces do
    match piece.stream with
    | .output => IO.print piece.text
    | .errors => IO.eprint piece.text
  (← IO.getStdout).flush

def entryAt (path : String) : IO PathEntry := do
  try
    let canonicalPath ← IO.FS.realPath path
    if ← canonicalPath.isDir then return .directory
    return .file canonicalPath.toString (← IO.FS.readBinFile canonicalPath)
  catch
    | .noFileOrDirectory .. => return .absent FileSystem.noSuchFile
    | error => return .absent (toString error)

def filesNamed (options : Options) : IO FileSystem := do
  let paths := options.script?.toList ++ options.settingsPath?.toList
  let entries ← paths.mapM fun path => return (path, ← entryAt path)
  return fun path => (entries.lookup path).getD (.absent FileSystem.noSuchFile)

def currentEnvironment : IO Environment := do
  let values ← Settings.variableNames.mapM fun name => return (name, ← IO.getEnv name)
  return fun name => (values.lookup name).join

def currentClock : IO Clock := do
  let now := Std.Time.DateTime.ofTimestamp (← Std.Time.Timestamp.now) .UTC
  return { timestamp := now.toISO8601String, elapsed := "0" }

/-- Reads what is left of the input. -/
partial def readRest (input : IO.FS.Stream) (text : String) : IO String := do
  let line ← input.getLine
  if line.isEmpty then return text else readRest input (text ++ line)

/-- Runs the command on the input so far, and on more of it as long as the command waits. A
terminal is read line by line, anything else at once. -/
partial def attend {γ : Type} (invocation : Invocation γ) (input : IO.FS.Stream) (text : String)
    (isClosed : Bool) (shown : Nat) : IO UInt32 := do
  let console := { invocation.console with input := text.toList, isClosed }
  match run ampleFuel { invocation with console } with
  | none => return 1
  | some transcript =>
    writePieces (transcript.pieces.drop shown)
    let shown := transcript.pieces.length
    match transcript.ending with
    | .success => return 0
    | .failure => return 1
    | .waiting =>
      if ← input.isTty then
        let line ← input.getLine
        attend invocation input (text ++ line) line.isEmpty shown
      else
        attend invocation input (← readRest input text) true shown

end PugScript.CommandLine

open PugScript.CommandLine in
/-- The command `pug`. A report does not wait for a terminal. -/
def main (arguments : List String) : IO UInt32 := do
  let (options, _) := Options.ofArguments arguments
  let input ← IO.getStdin
  let seed := (← IO.getRandomBytes 3).foldl (fun seed byte => seed * 256 + byte.toNat) 0
  let invocation : Invocation Nat :=
    { program := "pug"
      arguments
      environment := ← currentEnvironment
      files := ← filesNamed options
      clock := ← currentClock
      generator := .linear
      console := { input := [], generator := seed } }
  attend invocation input "" (options.json && (← input.isTty)) 0
