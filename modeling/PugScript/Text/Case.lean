import PugScript.Text.CaseTable
import PugScript.Text.CodePoints
import PugScript.Text.Letter

/-!
# Upper and lower case of a text

Both are the full mappings, so one character may become several. A capital sigma at the end of a
word becomes a final sigma: some cased character stands before it and none after it, where
case-ignorable characters in between do not count.
-/

namespace PugScript.Text

/-- The image of a code point outside ASCII under the mapping that the two tables give. -/
def mapCodePoint (runs : List CaseRun) (sequences : List (Nat × List Nat)) (c : Char) :
    List Char :=
  let codePoint := c.toNat
  match runs.find? (CaseRun.holds · codePoint) with
  | some run => [Char.ofNat ((codePoint : Int) + run.distance).toNat]
  | none =>
    match sequences.find? (fun entry => entry.1 == codePoint) with
    | some entry => entry.2.map Char.ofNat
    | none => [c]

def upperChar (c : Char) : List Char :=
  if c.toNat < 0x80 then [c.toUpper] else mapCodePoint upperRuns upperSequences c

/-- The lower-case form of one character, wherever it stands. -/
def lowerChar (c : Char) : List Char :=
  if c.toNat < 0x80 then [c.toLower] else mapCodePoint lowerRuns lowerSequences c

/-- A character with the Cased property. -/
def isCased (c : Char) : Bool :=
  if c.toNat < 0x80 then isAsciiLetter c else insideBounds casedBounds c.toNat

/-- A character with the Case_Ignorable property. -/
def isCaseIgnorable (c : Char) : Bool :=
  if c.toNat < 0x80 then
    c == '\'' || c == '.' || c == ':' || c == '^' || c == Char.ofNat 0x60
  else
    insideBounds caseIgnorableBounds c.toNat

/-- The first character that is not case-ignorable is cased. -/
def meetsCased (cs : List Char) : Bool :=
  match cs.dropWhile isCaseIgnorable with
  | [] => false
  | c :: _ => isCased c

/-- The capital sigma, whose lower-case form depends on its place in the word. -/
def capitalSigma : Char := Char.ofNat 0x3A3

/-- The lower-case form of a sigma between the characters before it (nearest first) and after it. -/
def lowerSigma (before after : List Char) : Char :=
  if meetsCased before && !meetsCased after then Char.ofNat 0x3C2 else Char.ofNat 0x3C3

/-- Lower-cases the remaining characters; `before` holds those already passed, nearest first. -/
def lowerFrom (result : String) (before : List Char) : List Char → String
  | [] => result
  | c :: after =>
    if c == capitalSigma then
      lowerFrom (result.push (lowerSigma before after)) (c :: before) after
    else
      lowerFrom ((lowerChar c).foldl String.push result) (c :: before) after

def toUpper (text : String) : String :=
  text.toList.foldl (fun result c => (upperChar c).foldl String.push result) ""

def toLower (text : String) : String :=
  lowerFrom "" [] text.toList

/-- Two texts that differ at most in the case of ASCII letters. -/
def sameIgnoringAsciiCase (left right : String) : Bool :=
  left.toList.map Char.toLower == right.toList.map Char.toLower

end PugScript.Text
