import PugScript.Toml.Text

/-!
# Reading TOML documents

`Toml.read?` reads a whole document into a table. It gives nothing if the text is not well formed,
or if a key or a table is defined twice.
-/

namespace PugScript.Toml

mutual

/-- One value and what follows it. No part takes more than two steps of the fuel, and every part has
a character, so twice the number of characters is ample fuel. -/
def value? : Nat → Nat → List Char → Option (Toml × List Char)
  | 0, _, _ => none
  | fuel + 1, depth, characters =>
    match characters with
    | '"' :: _ => (text? fuel characters).map fun (content, rest) => (.string content, rest)
    | '\'' :: _ => (text? fuel characters).map fun (content, rest) => (.string content, rest)
    | '[' :: rest =>
      match depth with
      | 0 => none
      | depth + 1 => elements? fuel depth [] rest
    | '\x7b' :: rest =>
      match depth with
      | 0 => none
      | depth + 1 =>
        match skipBlanks rest with
        | '\x7d' :: rest => some (.table [], rest)
        | rest => pairs? fuel depth [] rest
    | characters =>
      let (run, rest) := takeScalar characters
      (scalar? run).map fun value => (value, rest)

/-- The elements of an array, over any number of lines, with or without a comma at the end;
`elements` holds those already read, last first. -/
def elements? : Nat → Nat → List Toml → List Char → Option (Toml × List Char)
  | 0, _, _, _ => none
  | fuel + 1, depth, elements, characters =>
    match skipLines fuel characters with
    | ']' :: rest => some (.array elements.reverse, rest)
    | characters =>
      match value? fuel depth characters with
      | none => none
      | some (element, rest) =>
        match skipLines fuel rest with
        | ',' :: rest => elements? fuel depth (element :: elements) rest
        | ']' :: rest => some (.array (element :: elements).reverse, rest)
        | _ => none

/-- The pairs of a table on one line, at least one; `entries` holds those already read. -/
def pairs? : Nat → Nat → Entries → List Char → Option (Toml × List Char)
  | 0, _, _, _ => none
  | fuel + 1, depth, entries, characters =>
    match dottedKey? fuel characters with
    | some (keys, '=' :: rest) =>
      match value? fuel depth (skipBlanks rest) with
      | none => none
      | some (content, rest) =>
        match addValue? true entries keys content with
        | none => none
        | some entries =>
          match skipBlanks rest with
          | ',' :: rest => pairs? fuel depth entries rest
          | '\x7d' :: rest => some (.table (entriesToToml entries), rest)
          | _ => none
    | _ => none

end

/-- Adds a value to the table at the end of a path. -/
def addTo? (path keys : List String) (content : Toml) (document : Entries) : Option Entries :=
  alongPath? (fun entries => addValue? true entries keys content) path document

/-- The header of a table or of one more table of an array: its keys, whether it is of an array,
and what follows its line. -/
def header? (fuel : Nat) (characters : List Char) : Option (List String × Bool × List Char) :=
  match characters with
  | '[' :: rest =>
    match dottedKey? fuel rest with
    | some (keys, ']' :: ']' :: rest) => (afterStatement? rest).map fun rest => (keys, true, rest)
    | _ => none
  | rest =>
    match dottedKey? fuel rest with
    | some (keys, ']' :: rest) => (afterStatement? rest).map fun rest => (keys, false, rest)
    | _ => none

def statements? : Nat → List String → Entries → List Char → Option Entries
  | 0, _, _, _ => none
  | fuel + 1, path, document, characters =>
    match skipLines fuel characters with
    | [] => some document
    | '[' :: rest =>
      match header? fuel rest with
      | none => none
      | some (keys, isElement, rest) =>
        let last := keys.getLastD ""
        let change := if isElement then openElement? last else openTable? last
        match alongPath? change keys.dropLast document with
        | none => none
        | some document => statements? fuel keys document rest
    | characters =>
      match dottedKey? fuel characters with
      | some (keys, '=' :: rest) =>
        match value? fuel maxDepth (skipBlanks rest) with
        | none => none
        | some (content, rest) =>
          match afterStatement? rest, addTo? path keys content document with
          | some rest, some document => statements? fuel path document rest
          | _, _ => none
      | _ => none

def read? (text : String) : Option (List (String × Toml)) :=
  let characters :=
    match text.toList with
    | c :: rest => if c.toNat = 0xFEFF then rest else c :: rest
    | [] => []
  (statements? (2 * characters.length + 2) [] [] characters).map entriesToToml

end PugScript.Toml
