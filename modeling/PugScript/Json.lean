import PugScript.Decimal.Layout

/-!
# JSON documents

The documents that the interpreter writes: reports, events and tagged values. The fields of an
object keep the order in which they are given. A document is written on one line or over several
lines with two blanks per level.
-/

namespace PugScript

open PugScript.Decimal

inductive Json where
  | null
  | bool (truth : Bool)
  | integer (number : Int)
  | double (number : Float)
  | string (content : String)
  | array (elements : List Json)
  | object (fields : List (String × Json))

namespace Json

/-- A double always shows that it is one: with a point, or with a signed exponent if it is very
small or large. What is no number is written as null. -/
def numberLayout : Layout where
  positional := fun leading => -5 ≤ leading && leading ≤ 15
  wholeMark := ".0"
  tie := .toEven
  notANumber := "null"
  positiveInfinity := "null"
  negativeInfinity := "null"

def hexDigit (digit : Nat) : Char :=
  if digit < 10 then Char.ofNat ('0'.toNat + digit) else Char.ofNat ('a'.toNat + (digit - 10))

/-- A character inside quotes. -/
def escapeChar (c : Char) : List Char :=
  if c = '"' then ['\\', '"']
  else if c = '\\' then ['\\', '\\']
  else if c = '\n' then ['\\', 'n']
  else if c = '\r' then ['\\', 'r']
  else if c = '\t' then ['\\', 't']
  else if c = Char.ofNat 8 then ['\\', 'b']
  else if c = Char.ofNat 12 then ['\\', 'f']
  else if c.toNat < 0x20 then
    ['\\', 'u', '0', '0', hexDigit (c.toNat / 16), hexDigit (c.toNat % 16)]
  else [c]

def quote (text : String) : String :=
  (text.toList.foldl (fun result c => (escapeChar c).foldl String.push result) "\"").push '"'

/-- The text of a document without parts. -/
def scalarText : Json → String
  | null => "null"
  | bool truth => if truth then "true" else "false"
  | integer number => toString number
  | double number => numberLayout.render number
  | string content => quote content
  | array _ => "[]"
  | object _ => "\x7b\x7d"

mutual

def appendCompact (text : String) : Json → String
  | array [] => text ++ "[]"
  | array (first :: rest) => appendCompactElements (appendCompact (text ++ "[") first) rest ++ "]"
  | object [] => text ++ "\x7b\x7d"
  | object ((name, value) :: rest) =>
    appendCompactFields (appendCompact (text ++ "\x7b" ++ quote name ++ ":") value) rest ++ "\x7d"
  | scalar => text ++ scalarText scalar

def appendCompactElements (text : String) : List Json → String
  | [] => text
  | element :: rest => appendCompactElements (appendCompact (text ++ ",") element) rest

def appendCompactFields (text : String) : List (String × Json) → String
  | [] => text
  | (name, value) :: rest =>
    appendCompactFields (appendCompact (text ++ "," ++ quote name ++ ":") value) rest

end

def compact (document : Json) : String :=
  appendCompact "" document

def newLine (level : Nat) : String :=
  "\n".pushn ' ' (2 * level)

mutual

def appendPretty (level : Nat) (text : String) : Json → String
  | array [] => text ++ "[]"
  | array (first :: rest) =>
    let opened := appendPretty (level + 1) (text ++ "[" ++ newLine (level + 1)) first
    appendPrettyElements (level + 1) opened rest ++ newLine level ++ "]"
  | object [] => text ++ "\x7b\x7d"
  | object ((name, value) :: rest) =>
    let opened :=
      appendPretty (level + 1) (text ++ "\x7b" ++ newLine (level + 1) ++ quote name ++ ": ") value
    appendPrettyFields (level + 1) opened rest ++ newLine level ++ "\x7d"
  | scalar => text ++ scalarText scalar

def appendPrettyElements (level : Nat) (text : String) : List Json → String
  | [] => text
  | element :: rest =>
    appendPrettyElements level (appendPretty level (text ++ "," ++ newLine level) element) rest

def appendPrettyFields (level : Nat) (text : String) : List (String × Json) → String
  | [] => text
  | (name, value) :: rest =>
    appendPrettyFields level
      (appendPretty level (text ++ "," ++ newLine level ++ quote name ++ ": ") value) rest

end

def pretty (document : Json) : String :=
  appendPretty 0 "" document

end Json

end PugScript
