import PugScript.Lexing.Lexeme
import PugScript.Lexing.Statistics

/-!
# Splitting a source into tokens

`tokenize` reads a source from left to right, lexeme by lexeme. It gives the tokens, closed by an
end-of-input mark at the length of the source, or the first error; and in both cases the
statistics of what was read.
-/

namespace PugScript

structure Scan where
  tokens : Array Token := #[]
  statistics : LexicalStatistics := {}

/-- What has been read when the characters end or a fault is met, and the fault with its place. -/
structure ScanResult where
  scan : Scan
  fault? : Option (LexicalFault × Nat)

/-- Reads lexeme after lexeme; `offset` is the number of characters already behind. -/
def scanFrom (detailed : Bool) (offset : Nat) (characters : List Char) (scan : Scan) :
    ScanResult :=
  match characters with
  | [] => ⟨scan, none⟩
  | first :: rest =>
    match found : Lexeme.next first rest with
    | .blank after => scanFrom detailed (offset + 1) after scan
    | .comment length after =>
      scanFrom detailed (offset + length) after
        { scan with statistics := scan.statistics.countComment }
    | .fault fault distance => ⟨scan, some (fault, offset + distance)⟩
    | .token kind text after =>
      let token : Token := ⟨kind, text, offset⟩
      let measured := scan.statistics.measure kind text.length
      if Limits.maxTokenCount ≤ scan.tokens.size then
        ⟨{ scan with statistics := measured },
          some (.tooManyTokens (scan.tokens.size + 1), offset)⟩
      else
        scanFrom detailed (offset + token.sourceLength) after
          { tokens := scan.tokens.push token, statistics := measured.count detailed kind }
termination_by characters.length
decreasing_by
  all_goals
    have shorter := Lexeme.length_remaining_next first rest
    rw [found] at shorter
    simp only [Lexeme.remaining, List.length_cons] at shorter ⊢
    omega

structure Lexing where
  result : Except LexicalError (List Token)
  statistics : LexicalStatistics

/-- Splits a source into tokens; `detailed` asks for counts by token class. -/
def tokenize (detailed : Bool) (source : String) : Lexing :=
  let ⟨scan, fault?⟩ := scanFrom detailed 0 source.toList {}
  match fault? with
  | none =>
    { result := .ok (scan.tokens.push (Token.endOfInput source.length)).toList
      statistics := scan.statistics }
  | some (fault, position) =>
    { result :=
        .error
          { fault
            tokens := scan.tokens.toList
            position
            character := source.toList[position]? }
      statistics := scan.statistics }

end PugScript
