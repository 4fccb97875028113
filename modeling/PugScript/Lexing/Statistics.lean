import PugScript.Token

/-!
# Statistics of one tokenization
-/

namespace PugScript

/-- Counts over the tokens of one source. -/
structure LexicalStatistics where
  total : Nat := 0
  literals : Nat := 0
  names : Nat := 0
  operators : Nat := 0
  punctuation : Nat := 0
  keywords : Nat := 0
  comments : Nat := 0
  /-- The number of characters of the longest string literal. -/
  longestString : Nat := 0
  /-- The number of characters of the longest word. -/
  longestWord : Nat := 0
  deriving DecidableEq, Repr

namespace LexicalStatistics

def countClass (statistics : LexicalStatistics) : TokenClass → LexicalStatistics
  | .literal => { statistics with literals := statistics.literals + 1 }
  | .name => { statistics with names := statistics.names + 1 }
  | .operator => { statistics with operators := statistics.operators + 1 }
  | .punctuation => { statistics with punctuation := statistics.punctuation + 1 }
  | .keyword => { statistics with keywords := statistics.keywords + 1 }
  | .special => statistics

def count (detailed : Bool) (kind : TokenKind) (statistics : LexicalStatistics) :
    LexicalStatistics :=
  let counted := { statistics with total := statistics.total + 1 }
  if detailed then counted.countClass kind.tokenClass else counted

def measure (kind : TokenKind) (length : Nat) (statistics : LexicalStatistics) :
    LexicalStatistics :=
  match kind with
  | .string => { statistics with longestString := max statistics.longestString length }
  | .identifier | .dataType | .function | .bool | .ifWord | .elseWord | .endWord | .whileWord =>
    { statistics with longestWord := max statistics.longestWord length }
  | _ => statistics

def countComment (statistics : LexicalStatistics) : LexicalStatistics :=
  { statistics with comments := statistics.comments + 1 }

end LexicalStatistics

end PugScript
