import PugScript.Json.Skip

/-!
# Reading JSON documents

`Json.read?` reads one document over a whole text. If the document is an object, only the fields
that are asked for are read, and the others are passed over. What is read may be nested up to a
fixed depth.
-/

namespace PugScript.Json

mutual

/-- One document. Of an object the fields with wanted names are read, with everything below them.
The depth bounds the nesting. No part takes more than two steps of the fuel, and every part has a
character, so twice the number of characters is ample fuel. -/
def readValue? : Nat → Nat → (String → Bool) → List Char → Option (Json × List Char)
  | 0, _, _, _ => none
  | fuel + 1, depth, isWanted, characters =>
    match skipSpace characters with
    | [] => none
    | '"' :: rest =>
      (readQuoted? fuel "" rest).map fun (text, rest) => (.string text, rest)
    | '[' :: rest =>
      match depth with
      | 0 => none
      | depth + 1 =>
        match skipSpace rest with
        | ']' :: rest => some (.array [], rest)
        | rest => readElements? fuel depth [] rest
    | '\x7b' :: rest =>
      match depth with
      | 0 => none
      | depth + 1 =>
        match skipSpace rest with
        | '\x7d' :: rest => some (.object [], rest)
        | rest => readFields? fuel depth isWanted [] rest
    | 'n' :: rest => (expectWord? ['u', 'l', 'l'] rest).map fun rest => (.null, rest)
    | 't' :: rest => (expectWord? ['r', 'u', 'e'] rest).map fun rest => (.bool true, rest)
    | 'f' :: rest => (expectWord? ['a', 'l', 's', 'e'] rest).map fun rest => (.bool false, rest)
    | rest => readNumber? rest

def readElements? : Nat → Nat → List Json → List Char → Option (Json × List Char)
  | 0, _, _, _ => none
  | fuel + 1, depth, elements, characters =>
    match readValue? fuel depth (fun _ => true) characters with
    | none => none
    | some (element, rest) =>
      match skipSpace rest with
      | ',' :: rest => readElements? fuel depth (element :: elements) rest
      | ']' :: rest => some (.array (element :: elements).reverse, rest)
      | _ => none

def readFields? :
    Nat → Nat → (String → Bool) → List (String × Json) → List Char → Option (Json × List Char)
  | 0, _, _, _, _ => none
  | fuel + 1, depth, isWanted, fields, characters =>
    match readName? fuel characters with
    | none => none
    | some (name, rest) =>
      let read? :=
        if isWanted name then
          (readValue? fuel depth (fun _ => true) rest).map fun (value, rest) =>
            ((name, value) :: fields, rest)
        else (skipValue? fuel rest).map fun rest => (fields, rest)
      match read? with
      | none => none
      | some (fields, rest) =>
        match skipSpace rest with
        | ',' :: rest => readFields? fuel depth isWanted fields rest
        | '\x7d' :: rest => some (.object fields.reverse, rest)
        | _ => none

end

def maxDepth : Nat := 127

def read? (isWanted : String → Bool) (text : String) : Option Json :=
  let characters := text.toList
  match readValue? (2 * characters.length + 2) maxDepth isWanted characters with
  | some (document, rest) => if (skipSpace rest).isEmpty then some document else none
  | none => none

end PugScript.Json
