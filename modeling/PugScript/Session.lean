import PugScript.Run

/-!
# Interactive sessions

A session keeps its variables from line to line. A line is a command or a source to run; commands
may be written in any case and with blanks around them. The empty line ends the session.
-/

namespace PugScript

structure Session where
  bindings : VariableTable := .empty
  /-- Show the tokens of every line. -/
  printTokens : Bool := false
  settings : Settings

namespace Session

/-- A session with default preferences; it starts without showing tokens. -/
def ofDefaults (settings : Settings) : Session where
  settings := settings

/-- A session with chosen preferences. -/
def ofSettings (settings : Settings) : Session where
  printTokens := settings.session.printTokens
  settings := settings

inductive Request where
  | quit
  | clear
  | toggleTokens
  | run (source : String)
  deriving DecidableEq, Repr

inductive Reply where
  | quit
  | cleared
  | tokenPrinting (enabled : Bool)
  | evaluated (result : RunResult) (printTokens : Bool)
  | failed (error : RunError)

def Request.ofLine (line : String) : Request :=
  let command := Text.trim line
  if line.isEmpty ∨ Text.sameIgnoringAsciiCase command "/quit" then .quit
  else if Text.sameIgnoringAsciiCase command "/cls" then .clear
  else if Text.sameIgnoringAsciiCase command ":t" then .toggleTokens
  else .run line

structure Step (σ : Type) where
  reply : Reply
  session : Session
  world : σ
  events : List (Nat × Journal.Event) := []

variable {σ : Type}

def clear (session : Session) (host : Host σ) (world : σ) : Step σ :=
  match host.clear world with
  | (.ok (), world) => { reply := .cleared, session, world }
  | (.error reason, world) => { reply := .failed (.other reason), session, world }

def stepOfRun (session : Session) (run : Run σ) : Step σ where
  reply :=
    match run.result with
    | .ok result => .evaluated result session.printTokens
    | .error error => .failed error
  session := { session with bindings := run.bindings }
  world := run.world
  events := run.events

/-- Answers a line. Gives nothing if the fuel does not suffice. -/
def handleLine (fuel : Nat) (elapsed : String) (host : Host σ) (session : Session)
    (line : String) (world : σ) : Option (Step σ) :=
  match Request.ofLine line with
  | .quit => some { reply := .quit, session, world }
  | .clear => some (session.clear host world)
  | .toggleTokens =>
    let printTokens := !session.printTokens
    some { reply := .tokenPrinting printTokens, session := { session with printTokens }, world }
  | .run source =>
    (runSource fuel elapsed session.settings host source session.bindings world).map
      session.stepOfRun

end Session

end PugScript
