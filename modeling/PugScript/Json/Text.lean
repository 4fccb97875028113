import PugScript.Json

/-!
# Blanks and texts in JSON

A text that is read must stand for characters; a text that is only passed over must be well formed
as far as its escapes go, whatever they stand for.
-/

namespace PugScript.Json

/-! ## Blanks and fixed words -/

def isSpace (c : Char) : Bool :=
  c == ' ' || c == '\n' || c == '\r' || c == '\t'

def skipSpace (characters : List Char) : List Char :=
  characters.dropWhile isSpace

def expectWord? : List Char → List Char → Option (List Char)
  | [], rest => some rest
  | c :: word, d :: rest => if c = d then expectWord? word rest else none
  | _ :: _, [] => none

/-! ## Texts -/

def hexValue? (c : Char) : Option Nat :=
  if '0' ≤ c ∧ c ≤ '9' then some (c.toNat - '0'.toNat)
  else if 'a' ≤ c ∧ c ≤ 'f' then some (c.toNat - 'a'.toNat + 10)
  else if 'A' ≤ c ∧ c ≤ 'F' then some (c.toNat - 'A'.toNat + 10)
  else none

/-- A unit of 16 bits, written with four hexadecimal digits. -/
def readUnit? : List Char → Option (Nat × List Char)
  | a :: b :: c :: d :: rest => do
    let a ← hexValue? a
    let b ← hexValue? b
    let c ← hexValue? c
    let d ← hexValue? d
    return (((a * 16 + b) * 16 + c) * 16 + d, rest)
  | _ => none

/-- The character of one unit, or of a pair of units that belong together. -/
def readCodePoint? (characters : List Char) : Option (Char × List Char) := do
  let (unit, rest) ← readUnit? characters
  if 0xD800 ≤ unit ∧ unit < 0xDC00 then
    match rest with
    | '\\' :: 'u' :: rest =>
      let (low, rest) ← readUnit? rest
      if 0xDC00 ≤ low ∧ low < 0xE000 then
        return (Char.ofNat (0x10000 + (unit - 0xD800) * 0x400 + (low - 0xDC00)), rest)
      else none
    | _ => none
  else if 0xDC00 ≤ unit ∧ unit < 0xE000 then none
  else return (Char.ofNat unit, rest)

/-- The character that an escape stands for, from behind its backslash. -/
def readEscape? : List Char → Option (Char × List Char)
  | '"' :: rest => some ('"', rest)
  | '\\' :: rest => some ('\\', rest)
  | '/' :: rest => some ('/', rest)
  | 'b' :: rest => some (Char.ofNat 8, rest)
  | 'f' :: rest => some (Char.ofNat 12, rest)
  | 'n' :: rest => some ('\n', rest)
  | 'r' :: rest => some ('\r', rest)
  | 't' :: rest => some ('\t', rest)
  | 'u' :: rest => readCodePoint? rest
  | _ => none

/-- The rest of a text in quotes, from behind its opening quote; each step of the fuel reads one
character. -/
def readQuoted? : Nat → String → List Char → Option (String × List Char)
  | 0, _, _ => none
  | _ + 1, _, [] => none
  | fuel + 1, result, c :: rest =>
    if c = '"' then some (result, rest)
    else if c = '\\' then
      match readEscape? rest with
      | some (escaped, rest) => readQuoted? fuel (result.push escaped) rest
      | none => none
    else if c.toNat < 0x20 then none
    else readQuoted? fuel (result.push c) rest

/-- What follows an escape that is only passed over, from behind its backslash. The units of 16 bits
need not belong together. -/
def skipEscape? : List Char → Option (List Char)
  | 'u' :: rest => (readUnit? rest).map Prod.snd
  | rest => (readEscape? rest).map Prod.snd

/-- What follows a text in quotes that is only passed over, from behind its opening quote; each step
of the fuel passes one character. -/
def skipQuoted? : Nat → List Char → Option (List Char)
  | 0, _ => none
  | _ + 1, [] => none
  | fuel + 1, c :: rest =>
    if c = '"' then some rest
    else if c = '\\' then
      match skipEscape? rest with
      | some rest => skipQuoted? fuel rest
      | none => none
    else if c.toNat < 0x20 then none
    else skipQuoted? fuel rest

/-! ## Names of fields -/

def readName? (fuel : Nat) (characters : List Char) : Option (String × List Char) :=
  match skipSpace characters with
  | '"' :: rest =>
    match readQuoted? fuel "" rest with
    | some (name, rest) =>
      match skipSpace rest with
      | ':' :: rest => some (name, rest)
      | _ => none
    | none => none
  | _ => none

/-- What follows the name of a field that is only passed over, and the colon behind it. -/
def skipName? (fuel : Nat) (characters : List Char) : Option (List Char) :=
  match skipSpace characters with
  | '"' :: rest =>
    match (skipQuoted? fuel rest).map skipSpace with
    | some (':' :: rest) => some rest
    | _ => none
  | _ => none

end PugScript.Json
