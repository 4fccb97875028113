/-!
# Tokens, the words of the Pug language

A token has a kind, the text it was read from and the offset of its first character in the source.
Besides the kinds, this module holds the fixed vocabulary: the keywords and the spellings of
operators and punctuation marks.
-/

namespace PugScript

/-- What a token is. -/
inductive TokenKind where
  | endOfInput
  | number
  | bool
  | string
  | identifier
  | dataType
  | function
  | assign
  | plus
  | minus
  | multiply
  | divide
  | remainder
  | equal
  | notEqual
  | greater
  | greaterOrEqual
  | less
  | lessOrEqual
  | and
  | or
  | openParenthesis
  | closeParenthesis
  | comma
  | ifWord
  | elseWord
  | endWord
  | whileWord
  deriving DecidableEq, Repr

/-- The coarse grouping of token kinds that statistics use. -/
inductive TokenClass where
  | literal
  | name
  | operator
  | punctuation
  | keyword
  | special
  deriving DecidableEq, Repr

namespace TokenKind

def name : TokenKind → String
  | endOfInput => "EndOfInput"
  | number => "Number"
  | bool => "Bool"
  | string => "String"
  | identifier => "Identifier"
  | dataType => "DataType"
  | function => "Function"
  | assign => "Assign"
  | plus => "Plus"
  | minus => "Minus"
  | multiply => "Multiply"
  | divide => "Divide"
  | remainder => "Remainder"
  | equal => "Equal"
  | notEqual => "NotEqual"
  | greater => "Greater"
  | greaterOrEqual => "GreaterOrEqual"
  | less => "Less"
  | lessOrEqual => "LessOrEqual"
  | and => "And"
  | or => "Or"
  | openParenthesis => "OpenParenthesis"
  | closeParenthesis => "CloseParenthesis"
  | comma => "Comma"
  | ifWord => "If"
  | elseWord => "Else"
  | endWord => "End"
  | whileWord => "While"

def all : List TokenKind :=
  [endOfInput, number, bool, string, identifier, dataType, function, assign, plus, minus,
    multiply, divide, remainder, equal, notEqual, greater, greaterOrEqual, less, lessOrEqual,
    and, or, openParenthesis, closeParenthesis, comma, ifWord, elseWord, endWord, whileWord]

def ofName? (text : String) : Option TokenKind :=
  all.find? fun kind => kind.name == text

def tokenClass : TokenKind → TokenClass
  | number | bool | string => .literal
  | identifier | dataType | function => .name
  | openParenthesis | closeParenthesis | comma => .punctuation
  | ifWord | elseWord | endWord | whileWord => .keyword
  | endOfInput => .special
  | _ => .operator

/-- The kinds of the comparison operators. -/
def isComparison : TokenKind → Bool
  | equal | notEqual | greater | greaterOrEqual | less | lessOrEqual => true
  | _ => false

/-- The keywords that open a block which `end` closes. -/
def opensBlock : TokenKind → Bool
  | ifWord | whileWord => true
  | _ => false

def ofKeyword? : String → Option TokenKind
  | "if" => some ifWord
  | "else" => some elseWord
  | "end" => some endWord
  | "while" => some whileWord
  | _ => none

/-- The operators that are written with two characters. -/
def ofTwoChars? : Char → Char → Option TokenKind
  | '&', '&' => some and
  | '|', '|' => some or
  | '=', '=' => some equal
  | '!', '=' => some notEqual
  | '>', '=' => some greaterOrEqual
  | '<', '=' => some lessOrEqual
  | _, _ => none

/-- The operators and punctuation marks that are written with one character; `=` is not among them
because it depends on what follows. -/
def ofChar? : Char → Option TokenKind
  | '+' => some plus
  | '-' => some minus
  | '*' => some multiply
  | '/' => some divide
  | '%' => some remainder
  | '(' => some openParenthesis
  | ')' => some closeParenthesis
  | ',' => some comma
  | '>' => some greater
  | '<' => some less
  | _ => none

end TokenKind

def TokenClass.label : TokenClass → String
  | literal => "Literal"
  | name => "Name"
  | operator => "Operator"
  | punctuation => "Punctuation"
  | keyword => "Keyword"
  | special => "Special"

/-- One lexical unit. A string token holds its content without the quotes. -/
structure Token where
  kind : TokenKind
  text : String
  /-- The number of characters before the token. -/
  offset : Nat
  deriving DecidableEq, Repr

namespace Token

/-- The mark for the end of the source. -/
def endOfInput (offset : Nat) : Token :=
  ⟨.endOfInput, "", offset⟩

/-- How many characters of the source the token covers; a string token covers its quotes too. -/
def sourceLength (token : Token) : Nat :=
  if token.kind = .string then token.text.length + 2 else token.text.length

def describe (token : Token) : String :=
  match token.kind with
  | .endOfInput => token.kind.name ++ " @" ++ toString token.offset
  | .string => token.kind.name ++ " \"" ++ token.text ++ "\" @" ++ toString token.offset
  | _ => token.kind.name ++ " '" ++ token.text ++ "' @" ++ toString token.offset

end Token

end PugScript
