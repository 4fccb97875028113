import PugScript.Builtin
import PugScript.DataType
import PugScript.Decimal.Numeral
import PugScript.Lexing.Error
import PugScript.Text.Blank

/-!
# The lexeme at the front of a text

`Lexeme.next` looks at the characters that are left and says what comes first: a blank character,
a comment, a token, or something that is none of these. What remains after it is never longer than
what followed the first character.
-/

namespace PugScript

open PugScript.Decimal
open PugScript.Text

inductive Lexeme where
  /-- One blank character. -/
  | blank (rest : List Char)
  /-- A comment of the given number of characters, its line end included. -/
  | comment (length : Nat) (rest : List Char)
  | token (kind : TokenKind) (text : String) (rest : List Char)
  /-- No lexeme; the fault lies a distance after the first character. -/
  | fault (fault : LexicalFault) (distance : Nat)
  deriving DecidableEq, Repr

namespace Lexeme

/-- The characters after the lexeme; none after a fault. -/
def remaining : Lexeme → List Char
  | blank rest => rest
  | comment _ rest => rest
  | token _ _ rest => rest
  | fault _ _ => []

/-- The kind of a word: a type, a built-in function, a truth value, a keyword, or else a name. -/
def wordKind (word : String) : TokenKind :=
  if (DataType.ofName? word).isSome then .dataType
  else if Builtin.isName word then .function
  else if word = "true" ∨ word = "false" then .bool
  else (TokenKind.ofKeyword? word).getD .identifier

def ofWord (first : Char) (rest : List Char) : Lexeme :=
  let word := first :: rest.takeWhile isWordPart
  if Limits.maxIdentifierLength < word.length then fault (.identifierTooLong word.length) 0
  else
    let text := String.ofList word
    token (wordKind text) text (rest.dropWhile isWordPart)

/-- A string literal, from behind its opening quote. -/
def ofString (rest : List Char) : Lexeme :=
  let content := rest.takeWhile (· ≠ '"')
  if Limits.maxStringSize < content.length then
    fault (.stringTooLarge (Limits.maxStringSize + 1)) 0
  else
    match rest.dropWhile (· ≠ '"') with
    | [] => fault .unterminatedString (content.length + 1)
    | _ :: afterQuote => token .string (String.ofList content) afterQuote

/-- A number with a point: `whole` holds the characters before the point. -/
def ofFraction (whole afterPoint : List Char) : Lexeme :=
  let fraction := afterPoint.takeWhile isDigit
  let text := whole ++ '.' :: fraction
  match afterPoint.dropWhile isDigit with
  | '.' :: _ => fault .multipleDots text.length
  | rest =>
    if (readNumeral? text).isNone then fault (.invalidNumber (String.ofList text)) 0
    else token .number (String.ofList text) rest

/-- A number, from its first digit or the minus in front of it. -/
def ofNumber (first : Char) (rest : List Char) : Lexeme :=
  let whole := first :: rest.takeWhile isDigit
  match rest.dropWhile isDigit with
  | '.' :: afterPoint => ofFraction whole afterPoint
  | afterWhole => token .number (String.ofList whole) afterWhole

/-- An operator or punctuation mark of one character. -/
def ofMark (mark : Char) (rest : List Char) : Lexeme :=
  match TokenKind.ofChar? mark with
  | some kind => token kind (String.singleton mark) rest
  | none => fault (.unexpectedCharacter mark) 0

/-- An operator or punctuation mark; two characters go before one. -/
def ofSymbol (first : Char) (rest : List Char) : Lexeme :=
  match rest with
  | [] => ofMark first []
  | second :: afterSecond =>
    match TokenKind.ofTwoChars? first second with
    | some kind => token kind (String.ofList [first, second]) afterSecond
    | none => ofMark first rest

/-- A comment, from behind its first slash through the end of its line. -/
def ofComment (rest : List Char) : Lexeme :=
  let line := rest.takeWhile (· ≠ '\n')
  match rest.dropWhile (· ≠ '\n') with
  | [] => comment (line.length + 1) []
  | _ :: nextLine => comment (line.length + 2) nextLine

/-- The lexeme that starts with the given character. -/
def next (first : Char) (rest : List Char) : Lexeme :=
  if isBlank first then blank rest
  else if first = '/' ∧ rest.head? = some '/' then ofComment rest
  else if isLetter first then ofWord first rest
  else if first = '"' then ofString rest
  else if first = '=' ∧ rest.head? ≠ some '=' then token .assign "=" rest
  else if isDigit first || (first == '-' && rest.head?.any isDigit) then ofNumber first rest
  else ofSymbol first rest

/-! ## A lexeme leaves fewer characters -/

theorem length_dropWhile_le (test : Char → Bool) (characters : List Char) :
    (characters.dropWhile test).length ≤ characters.length :=
  (List.dropWhile_sublist test).length_le

theorem length_remaining_ofWord (first : Char) (rest : List Char) :
    (ofWord first rest).remaining.length ≤ rest.length := by
  simp only [ofWord]
  split
  · simp [remaining]
  · exact length_dropWhile_le _ _

theorem length_remaining_ofString (rest : List Char) :
    (ofString rest).remaining.length ≤ rest.length := by
  simp only [ofString]
  split
  · simp [remaining]
  · have shorter := length_dropWhile_le (fun c => decide (c ≠ '"')) rest
    split
    · simp [remaining]
    · next equation =>
      rw [equation] at shorter
      simp only [remaining, List.length_cons] at shorter ⊢
      omega

theorem length_remaining_ofFraction (whole afterPoint : List Char) :
    (ofFraction whole afterPoint).remaining.length ≤ afterPoint.length := by
  simp only [ofFraction]
  split
  · simp [remaining]
  · split
    · simp [remaining]
    · exact length_dropWhile_le _ _

theorem length_remaining_ofNumber (first : Char) (rest : List Char) :
    (ofNumber first rest).remaining.length ≤ rest.length := by
  have shorter := length_dropWhile_le isDigit rest
  simp only [ofNumber]
  split
  · next afterPoint equation =>
    rw [equation, List.length_cons] at shorter
    have := length_remaining_ofFraction (first :: rest.takeWhile isDigit) afterPoint
    omega
  · exact shorter

theorem length_remaining_ofMark (mark : Char) (rest : List Char) :
    (ofMark mark rest).remaining.length ≤ rest.length := by
  simp only [ofMark]
  split <;> simp [remaining]

theorem length_remaining_ofSymbol (first : Char) (rest : List Char) :
    (ofSymbol first rest).remaining.length ≤ rest.length := by
  simp only [ofSymbol]
  split
  · exact length_remaining_ofMark first []
  · split
    · simp [remaining]
    · exact length_remaining_ofMark first _

theorem length_remaining_ofComment (rest : List Char) :
    (ofComment rest).remaining.length ≤ rest.length := by
  have shorter := length_dropWhile_le (fun c => decide (c ≠ '\n')) rest
  simp only [ofComment]
  split
  · simp [remaining]
  · next equation =>
    rw [equation] at shorter
    simp only [remaining, List.length_cons] at shorter ⊢
    omega

/-- What remains after a lexeme is no longer than what followed its first character. -/
theorem length_remaining_next (first : Char) (rest : List Char) :
    (next first rest).remaining.length ≤ rest.length := by
  simp only [next]
  split
  · exact Nat.le_refl _
  · split
    · exact length_remaining_ofComment rest
    · split
      · exact length_remaining_ofWord first rest
      · split
        · exact length_remaining_ofString rest
        · split
          · exact Nat.le_refl _
          · split
            · exact length_remaining_ofNumber first rest
            · exact length_remaining_ofSymbol first rest

end Lexeme

end PugScript
