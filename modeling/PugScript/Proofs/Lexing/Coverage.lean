import PugScript.Proofs.Lexing.Reading

/-!
# Tokens cover their source

The tokens of a source stand in it one after another, each as it is spelled and at its offset, and
what is left between them is layout: blank characters and comments. A token is as long as it can
be.
-/

namespace PugScript

open PugScript.Text

/-- Blank characters and comments, each comment through the end of its line. -/
inductive IsLayout : List Char → Prop
  | nil :
      IsLayout []
  | blank {first : Char} {rest : List Char} :
      isBlank first = true →
      IsLayout rest →
      IsLayout (first :: rest)
  | comment {line rest : List Char} :
      '\n' ∉ line →
      IsLayout rest →
      IsLayout ('/' :: '/' :: line ++ '\n' :: rest)

/-- Layout at the end of a source, where the last comment need not end its line. -/
inductive IsLayoutToEnd : List Char → Prop
  | layout {gap : List Char} :
      IsLayout gap →
      IsLayoutToEnd gap
  | comment {gap line : List Char} :
      IsLayout gap →
      '\n' ∉ line →
      IsLayoutToEnd (gap ++ '/' :: '/' :: line)

def Token.spelling (token : Token) : List Char :=
  PugScript.spelling token.kind token.text

/-- The offset behind the token. -/
def Token.finish (token : Token) : Nat :=
  token.offset + token.sourceLength

/-- The offset behind the last of the tokens; without tokens it is the given one. -/
def lastFinish (offset : Nat) (tokens : List Token) : Nat :=
  (tokens.getLast?.map Token.finish).getD offset

theorem Token.length_spelling (token : Token) : token.spelling.length = token.sourceLength :=
  PugScript.length_spelling token.kind token.text token.offset

/-- How far it is from the gap in front of a token to a place behind the token. -/
theorem Token.add_length_through
    {token : Token} {offset : Nat} {gap : List Char}
    (offsetEq : token.offset = offset + gap.length) (behind : List Char) :
    offset + (gap ++ (token.spelling ++ behind)).length = token.finish + behind.length := by
  rw [List.length_append, List.length_append, Token.length_spelling, Token.finish, offsetEq]
  omega

theorem lastFinish_cons (offset : Nat) (token : Token) (tokens : List Token) :
    lastFinish offset (token :: tokens) = lastFinish token.finish tokens := by
  simp only [lastFinish, List.getLast?_cons]
  cases tokens.getLast? <;> rfl

theorem IsLayout.append {front gap : List Char} (first : IsLayout front) (second : IsLayout gap) :
    IsLayout (front ++ gap) := by
  induction first with
  | nil => exact second
  | blank isBlank _ inductionHypothesis => exact .blank isBlank inductionHypothesis
  | comment noLineEnd _ inductionHypothesis =>
      have comment := IsLayout.comment noLineEnd inductionHypothesis
      simpa using comment

theorem IsLayout.append_toEnd
    {front gap : List Char} (first : IsLayout front) (second : IsLayoutToEnd gap) :
    IsLayoutToEnd (front ++ gap) := by
  cases second with
  | layout isLayout => exact .layout (first.append isLayout)
  | comment isLayout noLineEnd =>
      have comment := IsLayoutToEnd.comment (first.append isLayout) noLineEnd
      rwa [List.append_assoc] at comment

/-! ## Tokens with layout between them -/

/-- The characters, from an offset on, are the given tokens with layout before, between and behind
them. -/
inductive Laid : Nat → List Char → List Token → Prop
  | last {offset : Nat} {gap : List Char} :
      IsLayoutToEnd gap →
      Laid offset gap []
  | token {offset : Nat} {gap after : List Char} {token : Token} {tokens : List Token} :
      IsLayout gap →
      token.offset = offset + gap.length →
      WellSpelled token.kind token.text →
      token.kind.EndsBefore after →
      Laid token.finish after tokens →
      Laid offset (gap ++ (token.spelling ++ after)) (token :: tokens)

theorem Laid.behind_layout
    {front characters : List Char} (isLayout : IsLayout front) {offset : Nat}
    {tokens : List Token} (laid : Laid (offset + front.length) characters tokens) :
    Laid offset (front ++ characters) tokens := by
  cases laid with
  | last toEnd => exact .last (isLayout.append_toEnd toEnd)
  | @token _ gap after token tokens isGap offsetEq wellSpelled ends laid =>
      rw [← List.append_assoc]
      refine .token (isLayout.append isGap) ?_ wellSpelled ends laid
      rw [offsetEq, List.length_append, Nat.add_assoc]

/-- Tokens that are read from characters lie in them one behind another, with nothing but layout
between. -/
theorem Reads.laid
    {offset : Nat} {characters : List Char} {tokens : List Token}
    (reads : Reads offset characters tokens) :
    Laid offset characters tokens := by
  induction reads with
  | finish => exact .last (.layout .nil)
  | @blank offset first rest tokens isBlank _ inductionHypothesis =>
      have isLayout : IsLayout [first] := .blank isBlank .nil
      exact Laid.behind_layout isLayout inductionHypothesis
  | @comment offset length characters after tokens found reads inductionHypothesis =>
      cases found with
      | @line line _ noLineEnd =>
          have isLayout := IsLayout.comment noLineEnd .nil
          have laid : Laid offset (('/' :: '/' :: line ++ ['\n']) ++ after) tokens := by
            apply Laid.behind_layout isLayout
            simpa [Nat.add_assoc] using inductionHypothesis
          simpa using laid
      | @last line noLineEnd =>
          cases reads with
          | finish => exact .last (.comment .nil noLineEnd)
          | comment found _ => cases found
          | token found _ =>
              have empty := found.split
              simp [spelling_ne_nil found.wellSpelled] at empty
  | @token offset characters after kind text tokens found _ inductionHypothesis =>
      rw [found.split]
      have laid : Laid (Token.finish ⟨kind, text, offset⟩) after tokens := by
        rw [Token.finish, ← length_spelling kind text offset]
        exact inductionHypothesis
      exact Laid.token .nil rfl found.wellSpelled found.ends laid

/-- Where a token stands, and the gap in front of it. -/
theorem Laid.exists_place
    {offset : Nat} {characters : List Char} {before after : List Token} {token : Token}
    (laid : Laid offset characters (before ++ token :: after)) :
    ∃ front gap rest,
      characters = front ++ (gap ++ (token.spelling ++ rest)) ∧
      offset + front.length = lastFinish offset before ∧
      token.offset = lastFinish offset before + gap.length ∧
      IsLayout gap ∧
      WellSpelled token.kind token.text ∧
      token.kind.EndsBefore rest := by
  induction before generalizing offset characters with
  | nil =>
      cases laid with
      | @token _ gap rest _ _ isLayout offsetEq wellSpelled ends laid =>
          exact ⟨[], gap, rest, rfl, rfl, offsetEq, isLayout, wellSpelled, ends⟩
  | cons first others inductionHypothesis =>
      cases laid with
      | @token _ gap rest _ _ isLayout offsetEq wellSpelled ends laid =>
          obtain ⟨front, nextGap, following, split, length, place, described⟩ :=
            inductionHypothesis laid
          rw [lastFinish_cons]
          refine ⟨gap ++ (first.spelling ++ front), nextGap, following, ?_, ?_, place,
            described⟩
          · simp only [split, List.append_assoc]
          · rw [← length, Token.add_length_through offsetEq]

theorem Laid.exists_end
    {offset : Nat} {characters : List Char} {tokens : List Token}
    (laid : Laid offset characters tokens) :
    ∃ front gap,
      characters = front ++ gap ∧
      offset + front.length = lastFinish offset tokens ∧
      IsLayoutToEnd gap := by
  induction laid with
  | @last offset gap isLayout => exact ⟨[], gap, rfl, rfl, isLayout⟩
  | @token offset gap after token tokens isLayout offsetEq wellSpelled ends _
      inductionHypothesis =>
      obtain ⟨front, lastGap, split, length, isLastLayout⟩ := inductionHypothesis
      rw [lastFinish_cons]
      refine ⟨gap ++ (token.spelling ++ front), lastGap, ?_, ?_, isLastLayout⟩
      · simp only [split, List.append_assoc]
      · rw [← length, Token.add_length_through offsetEq]

/-- Each token lies within the characters and covers at least one of them. -/
theorem Laid.bounds
    {offset : Nat} {characters : List Char} {tokens : List Token}
    (laid : Laid offset characters tokens) :
    ∀ token ∈ tokens,
      offset ≤ token.offset ∧
      token.offset < token.finish ∧
      token.finish ≤ offset + characters.length := by
  induction laid with
  | last _ => exact List.forall_mem_nil _
  | @token offset gap after first tokens _ offsetEq wellSpelled _ _ inductionHypothesis =>
      have long : 0 < first.sourceLength := by
        rw [← Token.length_spelling]
        exact List.length_pos_of_ne_nil (spelling_ne_nil wellSpelled)
      have total := Token.add_length_through offsetEq after
      have finishEq : first.finish = first.offset + first.sourceLength := rfl
      intro token member
      rcases List.mem_cons.mp member with rfl | member
      · omega
      · have later := inductionHypothesis token member
        omega

/-- Each token ends before the later ones begin. -/
theorem Laid.pairwise
    {offset : Nat} {characters : List Char} {tokens : List Token}
    (laid : Laid offset characters tokens) :
    tokens.Pairwise fun token later => token.finish ≤ later.offset := by
  induction laid with
  | last _ => exact .nil
  | token _ _ _ _ laid inductionHypothesis =>
      refine .cons ?_ inductionHypothesis
      intro later member
      exact (laid.bounds later member).1

/-! ## What the tokens of a source cover -/

theorem WellSpelled.ne_endOfInput
    {kind : TokenKind} {text : String} (wellSpelled : WellSpelled kind text) :
    kind ≠ .endOfInput := by
  intro isEnd
  cases wellSpelled with
  | word _ _ =>
      have isWord := isWord_vocabularyKind text
      rw [isEnd] at isWord
      cases isWord
  | string _ _ => cases isEnd
  | number _ => cases isEnd
  | mark isMark =>
      rw [isEnd] at isMark
      cases isMark

/-- How the source looks around one of its tokens. -/
theorem Laid.exists_at
    {characters : List Char} {tokens : List Token} (laid : Laid 0 characters tokens)
    {token : Token} (member : token ∈ tokens) :
    characters.extract token.offset token.finish = token.spelling ∧
    WellSpelled token.kind token.text ∧
    ∀ next ∈ characters[token.finish]?, token.kind.goesOnWith next = false := by
  obtain ⟨before, after, rfl⟩ := List.append_of_mem member
  obtain ⟨front, gap, rest, split, length, place, _, wellSpelled, ends⟩ := laid.exists_place
  rw [Nat.zero_add] at length
  rw [← List.append_assoc] at split
  have start : token.offset = (front ++ gap).length := by
    rw [place, ← length, List.length_append]
  have finish : token.finish = (front ++ gap).length + token.spelling.length := by
    rw [Token.finish, start, Token.length_spelling]
  have following : characters[token.finish]? = rest.head? := by
    rw [finish, split, getElem?_append_length]
  refine ⟨?_, wellSpelled, ?_⟩
  · rw [finish, start, split, extract_append]
  · rw [following]
    exact ends

/-- The tokens, without the mark at the end, are those that cover the source. -/
structure CoveredBy (source : String) (tokens : List Token) : Prop where
  /-- The tokens stand in the source as they are spelled. -/
  spelled : ∀ token ∈ tokens,
    token.kind ≠ .endOfInput ∧
    source.toList.extract token.offset token.finish = token.spelling
  /-- They stand one after another, in front of the mark at the end. -/
  ordered : (tokens ++ [Token.endOfInput source.length]).Pairwise fun token later =>
    token.offset < later.offset ∧ token.finish ≤ later.offset
  /-- Before and between them there is nothing but layout. -/
  gaps : ∀ before token after, tokens = before ++ token :: after →
    IsLayout (source.toList.extract (lastFinish 0 before) token.offset)
  /-- Behind the last of them there is nothing but layout. -/
  lastGap : IsLayoutToEnd (source.toList.extract (lastFinish 0 tokens) source.length)
  /-- A word does not go on behind its token. -/
  wordsEnd : ∀ token ∈ tokens, token.kind.isWord = true →
    ∀ next ∈ source.toList[token.finish]?, isWordPart next = false
  /-- A number does not go on behind its token. -/
  numbersEnd : ∀ token ∈ tokens, token.kind = .number →
    ∀ next ∈ source.toList[token.finish]?, isDigit next = false ∧ next ≠ '.'

/-- The tokens of a source cover it, and one mark at its end follows them. -/
theorem tokens_cover_source
    (detailed : Bool) (source : String) {tokens : List Token}
    (splits : (tokenize detailed source).result = .ok tokens) :
    ∃ words,
      tokens = words ++ [Token.endOfInput source.length] ∧
      CoveredBy source words := by
  obtain ⟨words, rfl, reads, _⟩ := tokenize_eq_ok_iff.mp splits
  have laid := reads.laid
  refine ⟨words, rfl, ?_, ?_, ?_, ?_, ?_, ?_⟩
  · intro token member
    obtain ⟨spelled, wellSpelled, _⟩ := laid.exists_at member
    exact ⟨wellSpelled.ne_endOfInput, spelled⟩
  · have ordered : words.Pairwise fun token later =>
        token.offset < later.offset ∧ token.finish ≤ later.offset := by
      refine laid.pairwise.imp_of_mem ?_
      intro token later member _ apart
      have nonempty := (laid.bounds token member).2.1
      exact ⟨Nat.lt_of_lt_of_le nonempty apart, apart⟩
    refine List.pairwise_append.mpr ⟨ordered, List.pairwise_singleton _ _, ?_⟩
    intro token member mark isMark
    obtain rfl := List.mem_singleton.mp isMark
    obtain ⟨_, nonempty, inside⟩ := laid.bounds token member
    rw [Nat.zero_add, String.length_toList] at inside
    exact ⟨Nat.lt_of_lt_of_le nonempty inside, inside⟩
  · rintro before token after rfl
    obtain ⟨front, gap, rest, split, length, place, isLayout, _, _⟩ := laid.exists_place
    rw [Nat.zero_add] at length
    rw [place, ← length, split, extract_append]
    exact isLayout
  · obtain ⟨front, gap, split, length, isLayout⟩ := laid.exists_end
    rw [Nat.zero_add] at length
    have whole := extract_append front gap []
    rw [List.append_nil] at whole
    have size : source.length = front.length + gap.length := by
      rw [← String.length_toList, split, List.length_append]
    rw [← length, size, split, whole]
    exact isLayout
  · intro token member isWord next isNext
    rw [← goesOnWith_of_isWord isWord]
    exact (laid.exists_at member).2.2 next isNext
  · intro token member isNumber next isNext
    have refused := (laid.exists_at member).2.2 next isNext
    rw [isNumber] at refused
    simpa [TokenKind.goesOnWith] using refused

/-- A source with a word that is not ASCII, slashes in a string, a comment inside a line and one
that runs to the end. -/
def mixedSource : String :=
  "né==\"a//b\"-1.5//x\n<=y //z"

def mixedTokens : List Token :=
  [⟨.identifier, "né", 0⟩, ⟨.equal, "==", 2⟩, ⟨.string, "a//b", 4⟩, ⟨.number, "-1.5", 10⟩,
    ⟨.lessOrEqual, "<=", 18⟩, ⟨.identifier, "y", 20⟩]

theorem tokens_cover_mixedSource :
    (tokenize false mixedSource).result = .ok (mixedTokens ++ [Token.endOfInput 25]) ∧
    ∃ words,
      mixedTokens ++ [Token.endOfInput 25] = words ++ [Token.endOfInput mixedSource.length] ∧
      CoveredBy mixedSource words := by
  have splits : (tokenize false mixedSource).result =
      .ok (mixedTokens ++ [Token.endOfInput 25]) := by
    cbv
  exact ⟨splits, tokens_cover_source false mixedSource splits⟩

end PugScript
