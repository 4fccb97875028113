import PugScript.Lexing

/-!
# One scanner for many sources

A lexer splits one source after another. It keeps what the last of them left behind: its
statistics, and, if it could not be split, the tokens in front of the fault.
-/

namespace PugScript

structure Lexer where
  detailed : Bool
  left : Scan := {}

namespace Lexer

def statistics (lexer : Lexer) : LexicalStatistics :=
  lexer.left.statistics

def restart (lexer : Lexer) : Lexer :=
  { lexer with left := {} }

/-- Splits a source into tokens. Tokens that are handed out are not kept. -/
def split (lexer : Lexer) (source : String) : Except LexicalError (List Token) × Lexer :=
  let fresh := lexer.restart
  let ⟨scan, fault?⟩ := scanFrom fresh.detailed 0 source.toList fresh.left
  match fault? with
  | none =>
    (.ok (scan.tokens.push (Token.endOfInput source.length)).toList,
      { fresh with left := { scan with tokens := #[] } })
  | some (fault, position) =>
    (.error
        { fault
          tokens := scan.tokens.toList
          position
          character := source.toList[position]? },
      { fresh with left := scan })

def after (lexer : Lexer) (sources : List String) : Lexer :=
  sources.foldl (fun lexer source => (lexer.split source).2) lexer

end Lexer

end PugScript
