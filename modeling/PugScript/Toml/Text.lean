import PugScript.Toml.Scalar

/-!
# Texts, keys and blank space in TOML
-/

namespace PugScript.Toml

open PugScript.Text

/-! ## Blank space, comments and line ends -/

def isLineBlank (c : Char) : Bool :=
  c == ' ' || c == '\t'

def skipBlanks (characters : List Char) : List Char :=
  characters.dropWhile isLineBlank

/-- A character that may stand in a comment or in a text on one line. -/
def isPrintable (c : Char) : Bool :=
  c == '\t' || (0x20 ≤ c.toNat && c.toNat ≠ 0x7F)

def afterLineEnd? : List Char → Option (List Char)
  | '\n' :: rest => some rest
  | '\r' :: '\n' :: rest => some rest
  | _ => none

def skipComment : List Char → List Char
  | '#' :: rest => rest.dropWhile isPrintable
  | rest => rest

/-- What follows the end of a statement: blanks, a comment, and the line end or the end of the
document. -/
def afterStatement? (characters : List Char) : Option (List Char) :=
  match skipComment (skipBlanks characters) with
  | [] => some []
  | rest => afterLineEnd? rest

/-- What follows blanks, comments and line ends; each step of the fuel passes one line. -/
def skipLines : Nat → List Char → List Char
  | 0, characters => characters
  | fuel + 1, characters =>
    let rest := skipComment (skipBlanks characters)
    match afterLineEnd? rest with
    | some next => skipLines fuel next
    | none => rest

/-! ## Texts -/

def takeHex? (count : Nat) (characters : List Char) : Option (Char × List Char) :=
  let digits := characters.take count
  let isHex (c : Char) : Bool := isDigit c || ('a' ≤ c.toLower && c.toLower ≤ 'f')
  if digits.length = count ∧ digits.all isHex then
    let code := digits.foldl (fun value c => 16 * value + digitValue c) 0
    if code < 0xD800 ∨ (0xDFFF < code ∧ code < 0x110000) then
      some (Char.ofNat code, characters.drop count)
    else none
  else none

/-- The character that an escape stands for, from behind its backslash. -/
def takeEscape? : List Char → Option (Char × List Char)
  | 'b' :: rest => some (Char.ofNat 8, rest)
  | 't' :: rest => some ('\t', rest)
  | 'n' :: rest => some ('\n', rest)
  | 'f' :: rest => some (Char.ofNat 12, rest)
  | 'r' :: rest => some ('\r', rest)
  | '"' :: rest => some ('"', rest)
  | '\\' :: rest => some ('\\', rest)
  | 'u' :: rest => takeHex? 4 rest
  | 'U' :: rest => takeHex? 8 rest
  | _ => none

/-- The rest of a text with escapes on one line; each step of the fuel reads one character. -/
def basicText? : Nat → String → List Char → Option (String × List Char)
  | 0, _, _ => none
  | _ + 1, _, [] => none
  | fuel + 1, result, c :: rest =>
    if c = '"' then some (result, rest)
    else if c = '\\' then
      match takeEscape? rest with
      | some (escaped, rest) => basicText? fuel (result.push escaped) rest
      | none => none
    else if isPrintable c then basicText? fuel (result.push c) rest
    else none

def literalText? (characters : List Char) : Option (String × List Char) :=
  let content := characters.takeWhile fun c => c ≠ '\'' && isPrintable c
  match characters.dropWhile fun c => c ≠ '\'' && isPrintable c with
  | '\'' :: rest => some (String.ofList content, rest)
  | _ => none

/-- Up to two quotes may stand right before the closing quotes of a text over several lines. -/
def closingQuotes (quote : Char) (result : String) : List Char → Option (String × List Char)
  | a :: b :: c :: d :: e :: rest =>
    if [a, b, c, d, e].all (· == quote) then some ((result.push quote).push quote, rest)
    else if [a, b, c, d].all (· == quote) then some (result.push quote, e :: rest)
    else if [a, b, c].all (· == quote) then some (result, d :: e :: rest)
    else none
  | [a, b, c, d] =>
    if [a, b, c, d].all (· == quote) then some (result.push quote, [])
    else if [a, b, c].all (· == quote) then some (result, [d])
    else none
  | [a, b, c] => if [a, b, c].all (· == quote) then some (result, []) else none
  | _ => none

/-- What follows blanks and line ends; each step of the fuel passes one line. -/
def skipEmptyLines : Nat → List Char → List Char
  | 0, characters => characters
  | fuel + 1, characters =>
    let rest := skipBlanks characters
    match afterLineEnd? rest with
    | some next => skipEmptyLines fuel next
    | none => rest

/-- What follows a backslash at a line end: the next character that is no blank or line end. -/
def skipFoldedLine? (fuel : Nat) (characters : List Char) : Option (List Char) :=
  (afterLineEnd? (skipBlanks characters)).map (skipEmptyLines fuel)

/-- The rest of a text over several lines; `escapes` says whether backslashes have a meaning. -/
def longText? (quote : Char) (escapes : Bool) :
    Nat → String → List Char → Option (String × List Char)
  | 0, _, _ => none
  | _ + 1, _, [] => none
  | fuel + 1, result, c :: rest =>
    match closingQuotes quote result (c :: rest) with
    | some found => some found
    | none =>
      if escapes ∧ c = '\\' then
        match skipFoldedLine? fuel rest with
        | some rest => longText? quote escapes fuel result rest
        | none =>
          match takeEscape? rest with
          | some (escaped, rest) => longText? quote escapes fuel (result.push escaped) rest
          | none => none
      else
        match afterLineEnd? (c :: rest) with
        | some next => longText? quote escapes fuel (result.push '\n') next
        | none =>
          if isPrintable c then longText? quote escapes fuel (result.push c) rest else none

/-- The text without a line end right behind its opening quotes. -/
def dropFirstLineEnd (characters : List Char) : List Char :=
  (afterLineEnd? characters).getD characters

def text? (fuel : Nat) (characters : List Char) : Option (String × List Char) :=
  match characters with
  | '"' :: '"' :: '"' :: rest => longText? '"' true fuel "" (dropFirstLineEnd rest)
  | '\'' :: '\'' :: '\'' :: rest => longText? '\'' false fuel "" (dropFirstLineEnd rest)
  | '"' :: rest => basicText? fuel "" rest
  | '\'' :: rest => literalText? rest
  | _ => none

/-! ## Keys -/

def isKeyChar (c : Char) : Bool :=
  isAsciiLetter c || isDigit c || c == '_' || c == '-'

def simpleKey? (fuel : Nat) (characters : List Char) : Option (String × List Char) :=
  match characters with
  | '"' :: rest => basicText? fuel "" rest
  | '\'' :: rest => literalText? rest
  | characters =>
    let key := characters.takeWhile isKeyChar
    if key.isEmpty then none else some (String.ofList key, characters.dropWhile isKeyChar)

def keysUpTo? (fuel : Nat) : Nat → List Char → Option (List String × List Char)
  | 0, _ => none
  | count + 1, characters =>
    match simpleKey? fuel (skipBlanks characters) with
    | none => none
    | some (key, rest) =>
      match skipBlanks rest with
      | '.' :: rest => (keysUpTo? fuel count rest).map fun (keys, rest) => (key :: keys, rest)
      | rest => some ([key], rest)

def dottedKey? (fuel : Nat) (characters : List Char) : Option (List String × List Char) :=
  keysUpTo? fuel maxDepth characters

end PugScript.Toml
