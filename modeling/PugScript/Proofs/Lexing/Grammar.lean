import PugScript.Proofs.Lexing.Joining

/-!
# The grammar of lexemes

What a token can look like is said here without scanning: a kind with a text is well spelled if the
text is a word that the vocabulary gives this kind, a decimal, the content of a string literal, or
the fixed spelling of a mark. Each kind also has its own characters that would lengthen a token,
and a token ends where none of them follows. Comments and faults are described in the same way, by
the characters they stand in front of.
-/

namespace PugScript

open PugScript.Decimal
open PugScript.Text

/-! ## Characters -/

/-- The code points of the blank characters. -/
def blankCodePoints : List Nat :=
  [0x09, 0x0A, 0x0B, 0x0C, 0x0D, 0x20, 0x85, 0xA0, 0x1680, 0x2000, 0x2001, 0x2002, 0x2003,
    0x2004, 0x2005, 0x2006, 0x2007, 0x2008, 0x2009, 0x200A, 0x2028, 0x2029, 0x202F, 0x205F,
    0x3000]

theorem toNat_mem_of_isBlank {c : Char} (blank : isBlank c = true) :
    c.toNat ∈ blankCodePoints := by
  simp only [isBlank] at blank
  simp only [blankCodePoints, List.mem_cons, List.not_mem_nil, or_false]
  split at blank
  · simp only [Bool.or_eq_true, beq_iff_eq, Bool.and_eq_true, decide_eq_true_eq] at blank
    omega
  · simp only [Bool.or_eq_true, beq_iff_eq, Bool.and_eq_true, decide_eq_true_eq] at blank
    omega

/-- What holds of no blank code point holds of no blank character. -/
theorem eq_false_of_isBlank
    (test : Char → Bool)
    (tested : ∀ codePoint ∈ blankCodePoints, test (Char.ofNat codePoint) = false)
    {c : Char} (blank : isBlank c = true) : test c = false := by
  have atCodePoint := tested c.toNat (toNat_mem_of_isBlank blank)
  rwa [Char.ofNat_toNat] at atCodePoint

theorem isWordPart_of_isBlank {c : Char} (blank : isBlank c = true) : isWordPart c = false :=
  eq_false_of_isBlank isWordPart (by decide +kernel) blank

theorem isLetter_of_isBlank {c : Char} (blank : isBlank c = true) : isLetter c = false :=
  eq_false_of_isBlank isLetter (by decide +kernel) blank

def digitCharacters : List Char :=
  ['0', '1', '2', '3', '4', '5', '6', '7', '8', '9']

theorem mem_digitCharacters {c : Char} (digit : isDigit c = true) : c ∈ digitCharacters := by
  simp only [isDigit, Bool.and_eq_true, decide_eq_true_eq, Char.le_def] at digit
  have codePoint : 48 ≤ c.toNat ∧ c.toNat ≤ 57 := by
    simpa [UInt32.le_iff_toNat_le] using digit
  rw [← Char.ofNat_toNat c]
  obtain ⟨least, most⟩ := codePoint
  interval_cases c.toNat <;> decide

/-! ## Words, decimals and marks -/

/-- The words with a kind of their own. A word in two lines has the kind of the first of them. -/
def vocabulary : List (TokenKind × List String) :=
  [(.dataType, DataType.declarable.map DataType.name),
    (.function, Builtin.all.map Builtin.name),
    (.bool, ["true", "false"]),
    (.ifWord, ["if"]),
    (.elseWord, ["else"]),
    (.endWord, ["end"]),
    (.whileWord, ["while"])]

/-- The kind that the vocabulary gives a word; any other word is an identifier. -/
def vocabularyKind (word : String) : TokenKind :=
  ((vocabulary.find? fun line => decide (word ∈ line.2)).map Prod.fst).getD .identifier

/-- The fixed spelling of an operator or punctuation mark. -/
def TokenKind.mark? : TokenKind → Option String
  | assign => some "="
  | plus => some "+"
  | minus => some "-"
  | multiply => some "*"
  | divide => some "/"
  | remainder => some "%"
  | equal => some "=="
  | notEqual => some "!="
  | greater => some ">"
  | greaterOrEqual => some ">="
  | less => some "<"
  | lessOrEqual => some "<="
  | and => some "&&"
  | or => some "||"
  | openParenthesis => some "("
  | closeParenthesis => some ")"
  | comma => some ","
  | _ => none

/-- A letter followed by letters, numerals and underscores. -/
def IsWord (characters : List Char) : Prop :=
  ∃ first rest,
    characters = first :: rest ∧ isLetter first = true ∧ ∀ c ∈ rest, isWordPart c = true

/-- At least one digit, perhaps behind a minus. -/
def IsWhole (characters : List Char) : Prop :=
  ∃ digits,
    digits ≠ [] ∧ (∀ c ∈ digits, isDigit c = true) ∧
      (characters = digits ∨ characters = '-' :: digits)

/-- A whole number, perhaps followed by a point and any number of digits. -/
inductive IsDecimal : List Char → Prop
  | whole {characters : List Char} :
      IsWhole characters →
      IsDecimal characters
  | fraction {whole places : List Char} :
      IsWhole whole →
      (∀ c ∈ places, isDigit c = true) →
      IsDecimal (whole ++ '.' :: places)

/-- The kinds and texts that the tokens of a source can have. -/
inductive WellSpelled : TokenKind → String → Prop
  | word {text : String} :
      IsWord text.toList →
      text.length ≤ Limits.maxIdentifierLength →
      WellSpelled (vocabularyKind text) text
  | string {text : String} :
      '"' ∉ text.toList →
      text.length ≤ Limits.maxStringSize →
      WellSpelled .string text
  | number {text : String} :
      IsDecimal text.toList →
      WellSpelled .number text
  | mark {kind : TokenKind} {text : String} :
      kind.mark? = some text →
      WellSpelled kind text

/-- The kinds of tokens that are words. -/
def TokenKind.isWord : TokenKind → Bool
  | identifier | dataType | function | bool | ifWord | elseWord | endWord | whileWord => true
  | _ => false

/-- The characters that lengthen a token of a kind, or make it another one, if they follow it. -/
def TokenKind.goesOnWith (kind : TokenKind) (next : Char) : Bool :=
  match kind with
  | number => isDigit next || next == '.'
  | minus => isDigit next
  | divide => next == '/'
  | assign | greater | less => next == '='
  | kind => kind.isWord && isWordPart next

/-- A token of the kind ends in front of the characters. -/
def TokenKind.EndsBefore (kind : TokenKind) (after : List Char) : Prop :=
  ∀ next ∈ after.head?, kind.goesOnWith next = false

/-- How a token with the given kind and text is written. -/
def spelling (kind : TokenKind) (text : String) : List Char :=
  if kind = .string then '"' :: text.toList ++ ['"'] else text.toList

/-- A token covers as many characters of the source as it is written with. -/
theorem length_spelling (kind : TokenKind) (text : String) (offset : Nat) :
    (spelling kind text).length = Token.sourceLength ⟨kind, text, offset⟩ := by
  unfold spelling Token.sourceLength
  split <;> simp [String.length_toList]

theorem TokenKind.endsBefore_nil (kind : TokenKind) : kind.EndsBefore [] := by
  simp [EndsBefore]

@[simp]
theorem TokenKind.endsBefore_cons (kind : TokenKind) (next : Char) (rest : List Char) :
    kind.EndsBefore (next :: rest) ↔ kind.goesOnWith next = false := by
  simp [EndsBefore]

theorem isWord_vocabularyKind (word : String) : (vocabularyKind word).isWord = true := by
  unfold vocabularyKind
  cases found : vocabulary.find? fun line => decide (word ∈ line.2) with
  | none => rfl
  | some line =>
      have member := List.mem_of_find?_eq_some found
      have allWords : ∀ line ∈ vocabulary, line.1.isWord = true := by decide
      exact allWords line member

/-- A word goes on with any character that a word may contain. -/
theorem goesOnWith_of_isWord {kind : TokenKind} (isWord : kind.isWord = true) (next : Char) :
    kind.goesOnWith next = isWordPart next := by
  cases kind <;> first | rfl | cases isWord

theorem mem_map_iff_of_find? {α : Type} (items : List α) (name : α → String) (text : String) :
    (items.find? fun item => name item == text).isSome = decide (text ∈ items.map name) := by
  rw [Bool.eq_iff_iff, List.find?_isSome, decide_eq_true_eq, List.mem_map]
  simp only [beq_iff_eq]

/-- The scanner gives a word the kind that the vocabulary gives it. -/
theorem wordKind_eq_vocabularyKind (word : String) :
    Lexeme.wordKind word = vocabularyKind word := by
  have types : (DataType.ofName? word).isSome =
      decide (word ∈ DataType.declarable.map DataType.name) :=
    mem_map_iff_of_find? _ _ word
  have builtins : Builtin.isName word = decide (word ∈ Builtin.all.map Builtin.name) :=
    mem_map_iff_of_find? _ _ word
  unfold Lexeme.wordKind vocabularyKind vocabulary
  rw [types, builtins]
  by_cases isType : word ∈ DataType.declarable.map DataType.name
  · simp only [isType, decide_true, if_true, List.find?_cons_of_pos, Option.map_some,
      Option.getD_some]
  by_cases isBuiltin : word ∈ Builtin.all.map Builtin.name
  · simp [isType, isBuiltin]
  by_cases isTruth : word = "true" ∨ word = "false"
  · simp [isType, isBuiltin, isTruth]
  rw [if_neg (by simpa using isType), if_neg (by simpa using isBuiltin), if_neg isTruth]
  unfold TokenKind.ofKeyword?
  split
  · decide
  · decide
  · decide
  · decide
  · next notIf notElse notEnd notWhile =>
    have notKeyword : word ≠ "if" ∧ word ≠ "else" ∧ word ≠ "end" ∧ word ≠ "while" :=
      ⟨notIf, notElse, notEnd, notWhile⟩
    simp [isType, isBuiltin, isTruth, notKeyword]

theorem spelling_of_ne_string {kind : TokenKind} (notString : kind ≠ .string) (text : String) :
    spelling kind text = text.toList :=
  if_neg notString

theorem ne_string_of_isWord {kind : TokenKind} (isWord : kind.isWord = true) :
    kind ≠ .string := by
  rintro rfl
  cases isWord

theorem ne_string_of_mark?
    {kind : TokenKind} {text : String} (isMark : kind.mark? = some text) : kind ≠ .string := by
  rintro rfl
  cases isMark

/-! ## What a lexeme says about the characters -/

/-- At the front of the characters stands a token, and it ends in front of the characters
`after`. -/
structure TokenAt (characters : List Char) (kind : TokenKind) (text : String)
    (after : List Char) : Prop where
  wellSpelled : WellSpelled kind text
  split : characters = spelling kind text ++ after
  ends : kind.EndsBefore after

/-- At the front of the characters stands a comment of the given length, in front of the characters
`after`. -/
inductive CommentAt : List Char → Nat → List Char → Prop
  | line {line after : List Char} :
      '\n' ∉ line →
      CommentAt ('/' :: '/' :: line ++ '\n' :: after) (line.length + 3) after
  | last {line : List Char} :
      '\n' ∉ line →
      CommentAt ('/' :: '/' :: line) (line.length + 2) []

/-- Why no token can be read at the front of the characters, and how far behind their front the
fault lies. -/
inductive LexicalFault.Explains : LexicalFault → List Char → Nat → Prop
  | unterminatedString {content : List Char} :
      '"' ∉ content →
      Explains .unterminatedString ('"' :: content) (content.length + 1)
  | multipleDots {whole places after : List Char} :
      IsWhole whole →
      (∀ c ∈ places, isDigit c = true) →
      Explains .multipleDots (whole ++ '.' :: places ++ '.' :: after)
        (whole ++ '.' :: places).length
  | unexpectedCharacter {character : Char} {after : List Char} :
      Explains (.unexpectedCharacter character) (character :: after) 0
  | identifierTooLong {word after : List Char} :
      IsWord word →
      TokenKind.identifier.EndsBefore after →
      Limits.maxIdentifierLength < word.length →
      Explains (.identifierTooLong word.length) (word ++ after) 0
  | stringTooLarge {content after : List Char} :
      '"' ∉ content →
      content.length = Limits.maxStringSize + 1 →
      Explains (.stringTooLarge (Limits.maxStringSize + 1)) ('"' :: content ++ after) 0

end PugScript
