import PugScript.Proofs.Lexing.Reading

/-!
# Where a source fails to split

A source that does not split has a place where the offending lexeme begins. What stands in front of
that place splits on its own, into the tokens that the error keeps; and the position of the error
is that place, the end of the source or the second point of a number, by the kind of the fault.
-/

namespace PugScript

open PugScript.Text

/-- How the position of an error is found from the place where the offending lexeme begins. -/
def LexicalFault.PlacedAt (source : List Char) (start position : Nat) : LexicalFault → Prop
  | unterminatedString => position = source.length
  | multipleDots =>
    source[position]? = some '.' ∧
    ∃ whole places,
      source.extract start position = whole ++ '.' :: places ∧
      IsWhole whole ∧
      ∀ c ∈ places, isDigit c = true
  | invalidNumber _ => False
  | unexpectedCharacter character => position = start ∧ source[position]? = some character
  | identifierTooLong _ => position = start
  | stringTooLarge _ => position = start
  | tooManyTokens _ => position = start

theorem FaultAt.distance_le
    {count distance : Nat} {characters : List Char} {fault : LexicalFault}
    (isFault : FaultAt count characters fault distance) : distance ≤ characters.length := by
  cases isFault with
  | full _ _ => exact Nat.zero_le _
  | unreadable _ explains =>
      cases explains with
      | unterminatedString _ => exact Nat.le_refl _
      | @multipleDots whole places after _ _ =>
          exact (List.prefix_append (whole ++ '.' :: places) ('.' :: after)).length_le
      | _ => exact Nat.zero_le _

/-- The place of a fault follows from the place where the offending lexeme begins. -/
theorem FaultAt.placedAt
    {count distance : Nat} {front characters : List Char} {fault : LexicalFault}
    (isFault : FaultAt count characters fault distance) :
    fault.PlacedAt (front ++ characters) front.length (front.length + distance) := by
  cases isFault with
  | full _ _ => rfl
  | unreadable _ explains =>
      cases explains with
      | @unterminatedString content _ => simp [LexicalFault.PlacedAt]
      | @multipleDots whole places after isWhole arePlaces =>
          refine ⟨?_, whole, places, ?_, isWhole, arePlaces⟩
          · exact getElem?_append_length front (whole ++ '.' :: places) ('.' :: after)
          · exact extract_append front (whole ++ '.' :: places) ('.' :: after)
      | @unexpectedCharacter character after => simp [LexicalFault.PlacedAt]
      | identifierTooLong _ _ _ => rfl
      | stringTooLarge _ _ => rfl

/-- The context that a lexical error reports is exact. -/
theorem lexical_error_context
    (detailed : Bool) (source : String) {error : LexicalError}
    (fails : (tokenize detailed source).result = .error error) :
    error.position ≤ source.length ∧
    error.character = source.toList[error.position]? ∧
    (error.character = none ↔ error.position = source.length) ∧
    ∃ start,
      start ≤ error.position ∧
      (tokenize detailed (String.ofList (source.toList.take start))).result =
        .ok (error.tokens ++ [Token.endOfInput start]) ∧
      FaultAt error.tokens.length (source.toList.drop start) error.fault
        (error.position - start) ∧
      error.fault.PlacedAt source.toList start error.position := by
  obtain ⟨begun, rest, distance, split, reads, count, isFault, position, character⟩ :=
    exists_reads_of_error fails
  have size : source.length = begun.length + rest.length := by
    rw [← String.length_toList, split, List.length_append]
  have inside : error.position ≤ source.length := by
    have reach := isFault.distance_le
    omega
  have atEnd : error.character = none ↔ error.position = source.length := by
    rw [character, List.getElem?_eq_none_iff, String.length_toList]
    omega
  have splitsBefore : (tokenize detailed (String.ofList begun)).result =
      .ok (error.tokens ++ [Token.endOfInput begun.length]) := by
    apply tokenize_eq_ok_iff.mpr
    refine ⟨error.tokens, ?_, ?_, count⟩
    · rw [String.length_ofList]
    · rwa [String.toList_ofList]
  refine ⟨inside, character, atEnd, begun.length, ?_, ?_, ?_, ?_⟩
  · rw [position]
    exact Nat.le_add_right _ _
  · rw [split, List.take_left]
    exact splitsBefore
  · rw [split, List.drop_left, position, Nat.add_sub_cancel_left]
    exact isFault
  · rw [split, position]
    exact isFault.placedAt

/-- A source that fails at the second point of its number, behind characters that are not ASCII. -/
def dottedSource : String :=
  "é \"ß\" -1.5.2"

def dottedError : LexicalError :=
  ⟨.multipleDots, [⟨.identifier, "é", 0⟩, ⟨.string, "ß", 2⟩], 10, some '.'⟩

theorem lexical_error_context_of_dottedSource :
    (tokenize false dottedSource).result = .error dottedError ∧
    ∃ start,
      start ≤ dottedError.position ∧
      (tokenize false (String.ofList (dottedSource.toList.take start))).result =
        .ok (dottedError.tokens ++ [Token.endOfInput start]) ∧
      FaultAt dottedError.tokens.length (dottedSource.toList.drop start) .multipleDots
        (dottedError.position - start) ∧
      LexicalFault.multipleDots.PlacedAt dottedSource.toList start dottedError.position := by
  have fails : (tokenize false dottedSource).result = .error dottedError := by
    cbv
  obtain ⟨_, _, _, context⟩ := lexical_error_context false dottedSource fails
  exact ⟨fails, context⟩

end PugScript
