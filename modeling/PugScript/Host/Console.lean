import PugScript.Host
import PugScript.Host.Generator

/-!
# The console as a host

What has been typed in so far is given as a text; what is written is collected piece by piece.
Reading beyond the text gives empty lines if no more input can come, and fails if it can: the run is
then repeated with more text. Clearing writes the control sequence that clears a terminal.
-/

namespace PugScript

/-- The state of a console, with that of its generator of random numbers. -/
structure Console (γ : Type) where
  /-- The characters that have not been read yet. -/
  input : List Char
  /-- No more input can come. -/
  isClosed : Bool := true
  /-- A line was asked for that has not been typed in yet. -/
  isWaiting : Bool := false
  /-- The pieces written, oldest first. -/
  output : Array String := #[]
  generator : γ

namespace Console

variable {γ : Type}

/-- The control sequence that clears the screen and moves to its first place. -/
def clearSequence : String := "\x1B[2J\x1B[1;1H"

def splitLine (characters : List Char) : List Char × List Char :=
  let line := characters.takeWhile (· ≠ '\n')
  match characters.dropWhile (· ≠ '\n') with
  | [] => (line, [])
  | newline :: rest => (line ++ [newline], rest)

def stripLineEnd (line : List Char) : String :=
  String.ofList (line.reverse.dropWhile fun c => c == '\r' || c == '\n').reverse

/-- The next line of the input; none at its end, where the console waits unless it is closed. -/
def nextLine? (console : Console γ) : Option String × Console γ :=
  if console.input.isEmpty then (none, { console with isWaiting := !console.isClosed })
  else
    let (line, rest) := splitLine console.input
    (some (stripLineEnd line), { console with input := rest })

/-- Reads a line for a script. -/
def readLine (console : Console γ) : Except String String × Console γ :=
  match console.nextLine? with
  | (some line, console) => (.ok line, console)
  | (none, console) => (if console.isWaiting then .error "waiting for input" else .ok "", console)

def write (console : Console γ) (piece : String) : Console γ :=
  { console with output := console.output.push piece }

def draw {α : Type} (drawn : γ → α × γ) (console : Console γ) : α × Console γ :=
  let (number, generator) := drawn console.generator
  (number, { console with generator })

def host (generator : Generator γ) : Host (Console γ) where
  print := fun line console => (.ok (), console.write (line ++ "\n"))
  readLine := readLine
  clear := fun console => (.ok (), console.write clearSequence)
  randomUnit := draw generator.unit
  randomRange := fun lower upper => draw (generator.rangeOrFirst lower upper)
  written := fun console => console.output.size

end Console

end PugScript
