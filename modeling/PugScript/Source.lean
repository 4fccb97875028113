import PugScript.Overflow
import PugScript.Source.Search

/-!
# Places in a source

Offsets count characters from zero; lines and columns count from one, in 32 bits. A source map
finds the line and column of an offset, gives back a line of the source, and underlines a span in
it.
-/

namespace PugScript

structure Position where
  /-- The number of characters before the place. -/
  offset : Nat
  line : UInt32
  column : UInt32
  deriving DecidableEq, Repr

namespace Position

def start : Position :=
  ⟨0, 1, 1⟩

/-- The place behind a character. -/
def advance? (overflow : Overflow) (position : Position) (character : Char) : Option Position :=
  if character = '\n' then do
    return ⟨position.offset + 1, ← overflow.successor? position.line, 1⟩
  else do
    return ⟨position.offset + 1, position.line, ← overflow.successor? position.column⟩

def describe (position : Position) : String :=
  toString position.line ++ ":" ++ toString position.column

end Position

structure Span where
  start : Position
  stop : Position
  deriving DecidableEq, Repr

namespace Span

def length (span : Span) : Nat :=
  span.stop.offset - span.start.offset

def isEmpty (span : Span) : Bool :=
  span.start.offset == span.stop.offset

/-- Where the span starts and ends; the line is said once if it is the same. -/
def describe (span : Span) : String :=
  if span.start.line = span.stop.line then
    span.start.describe ++ "-" ++ toString span.stop.column
  else
    span.start.describe ++ "-" ++ span.stop.describe

end Span

/-- A source with the offsets at which its lines start. -/
structure SourceMap where
  characters : List Char
  lineStarts : Array Nat

namespace SourceMap

/-- The offsets behind the line ends, in ascending order. -/
def startsAfter (offset : Nat) : List Char → List Nat
  | [] => []
  | c :: rest =>
    if c = '\n' then (offset + 1) :: startsAfter (offset + 1) rest
    else startsAfter (offset + 1) rest

def ofSource (source : String) : SourceMap :=
  ⟨source.toList, (0 :: startsAfter 0 source.toList).toArray⟩

def length (map : SourceMap) : Nat :=
  map.characters.length

def isEmpty (map : SourceMap) : Bool :=
  map.characters.isEmpty

/-- The index of the line that an offset is on; none in front of the first line start. -/
def lineIndex? (map : SourceMap) (offset : Nat) : Option Nat :=
  match TablePlace.find map.lineStarts offset with
  | .found index => some index
  | .missing 0 => none
  | .missing (index + 1) => some index

/-- The place of an offset; beyond the end it is the end. Line and column are reduced to the width
of their words. None if the lookup leaves the table of line starts or finds a start behind the
offset. -/
def positionAt? (map : SourceMap) (offset : Nat) : Option Position := do
  let reached := min offset map.length
  let index ← map.lineIndex? reached
  let start ← map.lineStarts[index]?
  let before ← difference? reached start
  return ⟨reached, .ofNat (index + 1), .ofNat (before + 1)⟩

/-- The place of an offset. The lookup does not fail on the map of a source. -/
def positionAt (map : SourceMap) (offset : Nat) : Position :=
  (map.positionAt? offset).getD Position.start

/-- The span of a number of characters from an offset on. -/
def spanAt (map : SourceMap) (offset count : Nat) : Span :=
  ⟨map.positionAt offset, map.positionAt (offset + count)⟩

def dropReturns (line : List Char) : List Char :=
  (line.reverse.dropWhile (· = '\r')).reverse

def getLine? (map : SourceMap) (line : UInt32) : Option String :=
  if line = 0 then none
  else
    match map.lineStarts[line.toNat - 1]? with
    | none => none
    | some start =>
      let stop :=
        match map.lineStarts[line.toNat]? with
        | some next => next - 1
        | none => map.length
      some (String.ofList (dropReturns ((map.characters.drop start).take (stop - start))))

/-- How many characters of its first line a span underlines. None if the program ends: in a
difference of columns, or because the span starts behind the carriage returns that were cut off the
line and goes on to another line. The latter is a number of the machine's width that wraps to one
that no text has as its length. -/
def underlineLength? (overflow : Overflow) (span : Span) (line : String) : Option Nat :=
  if span.start.line = span.stop.line then
    (overflow.difference? span.stop.column span.start.column).map UInt32.toNat
  else difference? (line.length + 1) span.start.column.toNat

def heading (span : Span) (message : String) : String :=
  "Error: " ++ message ++ "\n  --> " ++ span.start.describe ++ "\n"

/-- A message with the line it is about, the span underlined by at least one mark. Gives nothing
if the program ends in the length of the underline or of its indentation. -/
def formatError? (overflow : Overflow) (map : SourceMap) (span : Span) (message : String) :
    Option String :=
  match map.getLine? span.start.line with
  | none => some (heading span message)
  | some line => do
    let count ← underlineLength? overflow span line
    let indentation ← overflow.difference? span.start.column 1
    let number := toString span.start.line
    let margin := "".pushn ' ' number.length
    return heading span message ++ margin ++ " |\n" ++ number ++ " | " ++ line ++ "\n" ++
      margin ++ " | " ++ "".pushn ' ' indentation.toNat ++ "".pushn '^' (max count 1) ++ "\n"

end SourceMap

end PugScript
