import PugScript.Json.Number
import PugScript.Json.Text

/-!
# Passing over JSON values

`Json.skipValue?` passes over a value that nobody asks for. The value must be well formed, but it
need not stand for anything: its numbers may be out of range, its texts may have units that belong
to no character, and it may be nested to any depth.
-/

namespace PugScript.Json

/-- What may enclose a value. -/
inductive Enclosure where
  | array
  | object
  deriving DecidableEq, Repr

def Enclosure.closing : Enclosure → Char
  | array => ']'
  | object => '\x7d'

/-- What follows a number, a text or a word at the front. -/
def skipScalar? (fuel : Nat) : List Char → Option (List Char)
  | '"' :: rest => skipQuoted? fuel rest
  | 'n' :: rest => expectWord? ['u', 'l', 'l'] rest
  | 't' :: rest => expectWord? ['r', 'u', 'e'] rest
  | 'f' :: rest => expectWord? ['a', 'l', 's', 'e'] rest
  | rest => (readNumeral? rest).map Prod.snd

/-- What follows the name of the next value, which it has in an object only. -/
def skipToValue? (fuel : Nat) : Enclosure → List Char → Option (List Char)
  | .array, characters => some characters
  | .object, characters => skipName? fuel characters

/-- What a pass over a value has in front of it. -/
inductive Ahead where
  /-- A value. -/
  | value
  /-- What follows a value: a comma with the next value, or the end of the enclosure. -/
  | separator
  deriving DecidableEq, Repr

/-- The enclosure that a value opens, and what follows its bracket. -/
def opening? : List Char → Option (Enclosure × List Char)
  | '[' :: rest => some (.array, rest)
  | '\x7b' :: rest => some (.object, rest)
  | _ => none

/-- Passes over a value inside of enclosures, and over the rest of each of these, the innermost
first. Each step passes at least one character or ends, so twice the number of characters is ample
fuel. -/
def skipFrom? : Nat → Ahead → List Enclosure → List Char → Option (List Char)
  | 0, _, _, _ => none
  | fuel + 1, .value, enclosing, characters =>
    let characters := skipSpace characters
    match opening? characters with
    | some (enclosure, rest) =>
      if (skipSpace rest).head? = some enclosure.closing then
        skipFrom? fuel .separator enclosing ((skipSpace rest).drop 1)
      else
        match skipToValue? fuel enclosure rest with
        | some rest => skipFrom? fuel .value (enclosure :: enclosing) rest
        | none => none
    | none =>
      match skipScalar? fuel characters with
      | some rest => skipFrom? fuel .separator enclosing rest
      | none => none
  | _ + 1, .separator, [], characters => some characters
  | fuel + 1, .separator, enclosure :: enclosing, characters =>
    match skipSpace characters with
    | [] => none
    | c :: rest =>
      if c = enclosure.closing then skipFrom? fuel .separator enclosing rest
      else if c = ',' then
        match skipToValue? fuel enclosure rest with
        | some rest => skipFrom? fuel .value (enclosure :: enclosing) rest
        | none => none
      else none

/-- What follows a value at the front. -/
def skipValue? (fuel : Nat) (characters : List Char) : Option (List Char) :=
  skipFrom? fuel .value [] characters

end PugScript.Json
