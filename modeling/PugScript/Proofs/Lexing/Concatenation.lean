import PugScript.Proofs.Lexing.Reading

/-!
# Tokens of joined sources

Joining two sources at a line end joins their tokens. Whatever stands last in the first source, a
word, a number, a lone sign or a comment, the scan arrives behind the line end as at the start of
a source; so the second source splits there as it does alone, or fails there as it does alone, and
all its places are moved by the characters in front of it.
-/

namespace PugScript

variable {detailed : Bool}

/-! ## Sources that do not split -/

theorem tokenize_of_fault
    {source : String} {final : Scan} {fault : LexicalFault} {position : Nat}
    (scanned : scanFrom detailed 0 source.toList {} = ⟨final, some (fault, position)⟩) :
    (tokenize detailed source).result =
      .error ⟨fault, final.tokens.toList, position, source.toList[position]?⟩ := by
  unfold tokenize
  rw [scanned]

/-- The error of a source shows where its scan has come and what it has met there. -/
theorem exists_scan_of_error
    {source : String} {error : LexicalError}
    (fails : (tokenize detailed source).result = .error error) :
    ∃ final : Scan,
      scanFrom detailed 0 source.toList {} = ⟨final, some (error.fault, error.position)⟩ ∧
      final.tokens.toList = error.tokens ∧
      error.character = source.toList[error.position]? := by
  rcases scanned : scanFrom detailed 0 source.toList {} with ⟨final, _ | ⟨fault, position⟩⟩
  · rw [tokenize_of_scan scanned] at fails
    cases fails
  · rw [tokenize_of_fault scanned] at fails
    cases fails
    exact ⟨final, rfl, rfl, rfl⟩

/-! ## Joining at a line end -/

/-- The error in a source that stands behind other tokens and a distance further on. -/
def LexicalError.behind (tokens : List Token) (distance : Nat) (error : LexicalError) :
    LexicalError :=
  { error with
    tokens := tokens ++ error.tokens.map (Token.shift distance)
    position := error.position + distance }

theorem toList_joined (first second : String) :
    (first ++ "\n" ++ second).toList = first.toList ++ '\n' :: second.toList := by
  rw [String.toList_append, String.toList_append, List.append_assoc]
  rfl

theorem length_joined (first second : String) :
    (first ++ "\n" ++ second).length = second.length + (first.length + 1) := by
  rw [← String.length_toList, toList_joined, List.length_append, List.length_cons,
    String.length_toList, String.length_toList]
  omega

theorem getElem?_joined (first second : String) (position : Nat) :
    (first ++ "\n" ++ second).toList[position + (first.length + 1)]? =
      second.toList[position]? := by
  have front : (first.toList ++ ['\n']).length = first.length + 1 := by
    rw [List.length_append, String.length_toList]
    rfl
  rw [toList_joined, ← List.singleton_append, ← List.append_assoc, ← front,
    List.getElem?_append_right (Nat.le_add_left _ _), Nat.add_sub_cancel]

/-- Behind a source that splits and a line end, the scan goes on as at the start of a source. -/
theorem exists_scan_of_joined
    {first : String} {tokens : List Token} {mark : Token}
    (splits : (tokenize detailed first).result = .ok (tokens ++ [mark])) (second : String) :
    ∃ reached : Scan,
      reached.tokens.toList = tokens ∧
      scanFrom detailed 0 (first ++ "\n" ++ second).toList {} =
        scanFrom detailed (0 + (first.length + 1)) second.toList reached := by
  rcases scanned : scanFrom detailed 0 first.toList {} with ⟨reached, _ | ⟨fault, position⟩⟩
  · rw [tokenize_of_scan scanned] at splits
    obtain ⟨sameTokens, _⟩ := List.append_inj' (Except.ok.inj splits) rfl
    refine ⟨reached, sameTokens, ?_⟩
    rw [toList_joined, scanFrom_append_newline scanned, String.length_toList, Nat.add_assoc]
  · rw [tokenize_of_fault scanned] at splits
    cases splits

/-- Joining two sources at a line end joins their tokens: those of the second are moved by the
characters in front of it, and so is its error if it does not split. -/
theorem joining_sources_joins_tokens
    (detailed : Bool) (first second : String) (tokens : List Token) (mark : Token)
    (splits : (tokenize detailed first).result = .ok (tokens ++ [mark])) :
    (∀ others lastMark,
      (tokenize detailed second).result = .ok (others ++ [lastMark]) →
      tokens.length + others.length ≤ Limits.maxTokenCount →
      (tokenize detailed (first ++ "\n" ++ second)).result =
        .ok (tokens ++ (others ++ [lastMark]).map (Token.shift (first.length + 1)))) ∧
    ∀ error,
      (tokenize detailed second).result = .error error →
      tokens.length + error.tokens.length ≤ Limits.maxTokenCount →
      (tokenize detailed (first ++ "\n" ++ second)).result =
        .error (error.behind tokens (first.length + 1)) := by
  obtain ⟨reached, rfl, goesOn⟩ := exists_scan_of_joined splits second
  rw [Array.length_toList]
  constructor
  · intro others lastMark splitsSecond room
    have second_splits : Splits detailed second := ⟨_, splitsSecond⟩
    rw [second_splits.tokenize_eq] at splitsSecond
    obtain ⟨rfl, rfl⟩ : sourceTokens detailed second = others ∧
        Token.endOfInput second.length = lastMark := by
      simpa using Except.ok.inj splitsSecond
    obtain ⟨final, scanned, appended⟩ := second_splits.scanFrom_eq (first.length + 1) reached room
    rw [Nat.zero_add, scanned] at goesOn
    rw [tokenize_of_scan goesOn, appended, length_joined, List.map_append, List.append_assoc]
    rfl
  · intro error failsSecond room
    obtain ⟨final, scanned, sameTokens, character⟩ := exists_scan_of_error failsSecond
    obtain ⟨found, appended, _, elsewhere⟩ := scanFrom_shift scanned
    have errorTokens : error.tokens = found := sameTokens.symm.trans appended
    rw [errorTokens] at room
    obtain ⟨final', scanned', appended'⟩ :=
      elsewhere (first.length + 1) reached (.inr (Nat.zero_le _)) room
    rw [scanned'] at goesOn
    rw [tokenize_of_fault goesOn, appended', getElem?_joined, ← character, ← errorTokens]
    rfl

/-- The first source ends in a comment; the second one splits or, with a second point, fails. -/
theorem joining_commentedSource_joins_tokens :
    (tokenize true "é = -1 // \"").result =
      .ok ([⟨.identifier, "é", 0⟩, ⟨.assign, "=", 2⟩, ⟨.number, "-1", 4⟩] ++
        [Token.endOfInput 11]) ∧
    (tokenize true ("é = -1 // \"" ++ "\n" ++ "x >= \"ß\"")).result =
      .ok ([⟨.identifier, "é", 0⟩, ⟨.assign, "=", 2⟩, ⟨.number, "-1", 4⟩] ++
        [⟨.identifier, "x", 12⟩, ⟨.greaterOrEqual, ">=", 14⟩, ⟨.string, "ß", 17⟩,
          Token.endOfInput 20]) ∧
    (tokenize true ("é = -1 // \"" ++ "\n" ++ "x 1.5.2")).result =
      .error ⟨.multipleDots,
        [⟨.identifier, "é", 0⟩, ⟨.assign, "=", 2⟩, ⟨.number, "-1", 4⟩, ⟨.identifier, "x", 12⟩],
        17, some '.'⟩ := by
  have splits : (tokenize true "é = -1 // \"").result =
      .ok ([⟨.identifier, "é", 0⟩, ⟨.assign, "=", 2⟩, ⟨.number, "-1", 4⟩] ++
        [Token.endOfInput 11]) := by
    cbv
  have splitsSecond : (tokenize true "x >= \"ß\"").result =
      .ok ([⟨.identifier, "x", 0⟩, ⟨.greaterOrEqual, ">=", 2⟩, ⟨.string, "ß", 5⟩] ++
        [Token.endOfInput 8]) := by
    cbv
  have failsSecond : (tokenize true "x 1.5.2").result =
      .error ⟨.multipleDots, [⟨.identifier, "x", 0⟩], 5, some '.'⟩ := by
    cbv
  obtain ⟨joins, _⟩ := joining_sources_joins_tokens true _ "x >= \"ß\"" _ _ splits
  obtain ⟨_, fails⟩ := joining_sources_joins_tokens true _ "x 1.5.2" _ _ splits
  exact ⟨splits, joins _ _ splitsSecond (by decide), fails _ failsSecond (by decide)⟩

end PugScript
