import PugScript.Proofs.Evaluation.Causes
import PugScript.Proofs.Lexing.Coverage
import PugScript.Proofs.Lexing.Faults
import PugScript.Proofs.Run.Stages

/-!
# Where errors are located

A failed run points at a place of its source. If the source does not split, this is the place of
the fault with the character there; if the evaluation fails, it is a token of the source, which
stands there as it is spelled. The mark behind the last token of a source is its own last token, so
that nothing points behind the source.
-/

namespace PugScript

open Evaluation

/-- What the token shows that stands for the place of an error in a source. -/
inductive Locates (detailed : Bool) (source : String) : RunError → Token → Prop
  /-- The character at its offset, or nothing at the end of the source. -/
  | character {error : LexicalError} {token : Token} :
      (tokenize detailed source).result = .error error →
      (∀ character, source.toList[token.offset]? = some character →
        token.text = String.singleton character) →
      (token.text = "" ↔ token.offset = source.length) →
      Locates detailed source (.lexical error) token
  /-- One of the tokens of the source, which stands there as it is spelled. -/
  | token {error : EvaluationError} {token : Token} :
      (tokenize detailed source).result = .ok error.tokens →
      token ∈ error.tokens →
      source.toList.extract token.offset (token.offset + token.sourceLength) = token.spelling →
      Locates detailed source (.evaluation error) token

/-! ## Sources that do not split -/

/-- An error of the splitting lies in the source or at its end, and shows the character there. -/
theorem position_of_lexicalError
    {detailed : Bool} {source : String} {error : LexicalError}
    (fails : (tokenize detailed source).result = .error error) :
    error.position ≤ source.length ∧ error.character = source.toList[error.position]? := by
  obtain ⟨begun, rest, distance, split, _, _, isFault, position, character⟩ :=
    exists_reads_of_error fails
  have size : source.length = begun.length + rest.length := by
    rw [← String.length_toList, split, List.length_append]
  have reach := isFault.distance_le
  exact ⟨by omega, character⟩

/-- The character at a position as a text, which is empty only at the end. -/
theorem singleton_getD_eq_empty_iff {source : String} {position : Nat}
    (inside : position ≤ source.length) :
    (source.toList[position]?.map String.singleton).getD "" = "" ↔ position = source.length := by
  by_cases atEnd : position = source.length
  · simp [atEnd, ← String.length_toList]
  · have isCharacter : position < source.toList.length := by
      rw [String.length_toList]
      omega
    rw [List.getElem?_eq_getElem isCharacter]
    simp [atEnd]

theorem locates_of_lexicalError
    {detailed : Bool} {source : String} {error : LexicalError}
    (fails : (tokenize detailed source).result = .error error) :
    ∃ token,
      (RunError.lexical error).currentToken? = some token ∧
      token.offset ≤ source.length ∧
      Locates detailed source (.lexical error) token := by
  obtain ⟨inside, character⟩ := position_of_lexicalError fails
  refine ⟨_, rfl, inside, .character fails ?_ ?_⟩
  · intro found isFound
    simp [character, isFound]
  · rw [character]
    exact singleton_getD_eq_empty_iff inside

/-! ## Tokens of a source -/

/-- A token of a source is spelled there at its offset. -/
theorem place_of_token
    {detailed : Bool} {source : String} {tokens : List Token}
    (splits : (tokenize detailed source).result = .ok tokens)
    {token : Token} (member : token ∈ tokens) :
    token.offset ≤ source.length ∧
    source.toList.extract token.offset (token.offset + token.sourceLength) = token.spelling := by
  obtain ⟨words, rfl, reads, _⟩ := tokenize_eq_ok_iff.mp splits
  rcases List.mem_append.mp member with isWord | isMark
  · obtain ⟨_, nonempty, inside⟩ := reads.laid.bounds token isWord
    rw [Nat.zero_add, String.length_toList] at inside
    exact ⟨by omega, (reads.laid.exists_at isWord).1⟩
  · obtain rfl := List.mem_singleton.mp isMark
    exact ⟨Nat.le_refl _, by simp [Token.endOfInput, Token.sourceLength, Token.spelling, spelling]⟩

theorem endMark_mem_of_tokenize
    {detailed : Bool} {source : String} {tokens : List Token}
    (splits : (tokenize detailed source).result = .ok tokens) :
    endMark tokens ∈ tokens := by
  obtain ⟨words, rfl, _, _⟩ := tokenize_eq_ok_iff.mp splits
  rw [endMark_concat_endOfInput]
  exact List.mem_append_right words List.mem_cons_self

/-! ## Runs -/

/-- A source whose string runs to its end. -/
def openStringSource : String :=
  "x \"é"

/-- A source whose block runs to its end. -/
def openBlockSource : String :=
  "if true \"é\""

def openBlockTokens : List Token :=
  [⟨.ifWord, "if", 0⟩, ⟨.bool, "true", 3⟩, ⟨.string, "é", 8⟩]

end PugScript
