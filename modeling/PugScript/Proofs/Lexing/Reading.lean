import PugScript.Proofs.Lexing.Recognition

/-!
# Reading a source by the grammar

`Reads` says that characters are tokens of the grammar with blank characters and comments between
them. A source splits exactly if it can be read in this way and has not too many tokens; and where
it does not split, everything in front of the fault can be read, and the fault is what the grammar
has instead of a token.
-/

namespace PugScript

open PugScript.Text

/-- The characters, from an offset on, are the given tokens with blank characters and comments
around them. -/
inductive Reads : Nat → List Char → List Token → Prop
  | finish {offset : Nat} :
      Reads offset [] []
  | blank {offset : Nat} {first : Char} {rest : List Char} {tokens : List Token} :
      isBlank first = true →
      Reads (offset + 1) rest tokens →
      Reads offset (first :: rest) tokens
  | comment {offset length : Nat} {characters after : List Char} {tokens : List Token} :
      CommentAt characters length after →
      Reads (offset + length) after tokens →
      Reads offset characters tokens
  | token {offset : Nat} {characters after : List Char} {kind : TokenKind} {text : String}
      {tokens : List Token} :
      TokenAt characters kind text after →
      Reads (offset + (spelling kind text).length) after tokens →
      Reads offset characters (⟨kind, text, offset⟩ :: tokens)

/-- No token can be added at the front of the characters when there are `count` tokens: the
grammar has none there, or the tokens are already as many as allowed. -/
inductive FaultAt (count : Nat) (characters : List Char) : LexicalFault → Nat → Prop
  | unreadable {fault : LexicalFault} {distance : Nat} :
      (∀ kind text after, ¬ TokenAt characters kind text after) →
      fault.Explains characters distance →
      FaultAt count characters fault distance
  | full {kind : TokenKind} {text : String} {after : List Char} :
      TokenAt characters kind text after →
      count = Limits.maxTokenCount →
      FaultAt count characters (.tooManyTokens (count + 1)) 0

/-! ## Cutting characters off between lexemes -/

theorem extract_append (front middle rest : List Char) :
    (front ++ (middle ++ rest)).extract front.length (front.length + middle.length) = middle := by
  simp

theorem getElem?_append_length (front middle rest : List Char) :
    (front ++ (middle ++ rest))[front.length + middle.length]? = rest.head? := by
  rw [← List.append_assoc, ← List.length_append, List.getElem?_append_right (Nat.le_refl _),
    Nat.sub_self, List.head?_eq_getElem?]

/-- A token stays one when characters behind its end are cut off. -/
theorem TokenAt.cut
    {characters kept beyond : List Char} {kind : TokenKind} {text : String}
    (found : TokenAt characters kind text (kept ++ beyond)) :
    TokenAt (spelling kind text ++ kept) kind text kept := by
  have ends : kind.EndsBefore kept := by
    cases kept with
    | nil => exact kind.endsBefore_nil
    | cons next rest => exact found.ends
  exact ⟨found.wellSpelled, rfl, ends⟩

/-- A comment is its own characters and those behind it, some of which may be cut off. -/
theorem CommentAt.exists_front
    {characters after : List Char} {length : Nat} (found : CommentAt characters length after) :
    ∃ front,
      front.length = length ∧
      characters = front ++ after ∧
      ∀ kept beyond, after = kept ++ beyond → CommentAt (front ++ kept) length kept := by
  cases found with
  | @line line _ noLineEnd =>
      refine ⟨'/' :: '/' :: line ++ ['\n'], by simp, by simp, ?_⟩
      intro kept beyond _
      have comment : CommentAt _ _ kept := .line noLineEnd
      simpa using comment
  | @last line noLineEnd =>
      refine ⟨'/' :: '/' :: line, rfl, (List.append_nil _).symm, ?_⟩
      intro kept beyond split
      obtain ⟨rfl, rfl⟩ := List.append_eq_nil_iff.mp split.symm
      rw [List.append_nil]
      exact .last noLineEnd

/-! ## Scanning finds what can be read -/

/-- How far a scan comes: it reads characters into tokens, up to the end or to a fault. -/
structure ScanReads (offset : Nat) (characters : List Char) (scan : Scan) (result : ScanResult)
    (begun rest : List Char) (tokens : List Token) : Prop where
  split : characters = begun ++ rest
  reads : Reads offset begun tokens
  tokens_eq : result.scan.tokens.toList = scan.tokens.toList ++ tokens
  size_le : result.scan.tokens.size ≤ Limits.maxTokenCount
  stops :
    (rest = [] ∧ result.fault? = none) ∨
    ∃ fault distance,
      FaultAt result.scan.tokens.size rest fault distance ∧
      result.fault? = some (fault, offset + begun.length + distance)

/-- What a scan reads behind a lexeme, together with the lexeme. -/
theorem ScanReads.behind
    {offset : Nat} {front after begun rest : List Char} {scan scan' : Scan} {result : ScanResult}
    {tokens tokens' : List Token}
    (scanned : ScanReads (offset + front.length) after scan' result begun rest tokens')
    (reads : Reads offset (front ++ begun) tokens)
    (counted : scan'.tokens.toList ++ tokens' = scan.tokens.toList ++ tokens) :
    ScanReads offset (front ++ after) scan result (front ++ begun) rest tokens := by
  obtain ⟨split, _, tokensEq, size, stops⟩ := scanned
  refine ⟨?_, reads, tokensEq.trans counted, size, ?_⟩
  · rw [split, List.append_assoc]
  · rw [List.length_append, ← Nat.add_assoc]
    exact stops

/-- Every scan reads characters into tokens by the grammar, up to the end of the characters or to a
place where the grammar allows no further token. -/
theorem exists_scanReads
    (detailed : Bool) (offset : Nat) (characters : List Char) (scan : Scan)
    (room : scan.tokens.size ≤ Limits.maxTokenCount) :
    ∃ begun rest tokens,
      ScanReads offset characters scan (scanFrom detailed offset characters scan)
        begun rest tokens := by
  fun_induction scanFrom detailed offset characters scan with
  | case1 offset scan =>
      exact ⟨[], [], [], rfl, .finish, (List.append_nil _).symm, room, .inl ⟨rfl, rfl⟩⟩
  | case2 offset scan first following after found inductionHypothesis =>
      have describes := Lexeme.next_describes first following
      rw [found] at describes
      obtain ⟨_, isBlank, same⟩ := describes
      cases same
      obtain ⟨begun, rest, tokens, scanned⟩ := inductionHypothesis room
      have reads : Reads offset ([first] ++ begun) tokens := .blank isBlank scanned.reads
      exact ⟨[first] ++ begun, rest, tokens, scanned.behind reads rfl⟩
  | case3 offset scan first following length after found inductionHypothesis =>
      have describes := Lexeme.next_describes first following
      rw [found] at describes
      obtain ⟨front, rfl, split, cut⟩ := CommentAt.exists_front describes
      obtain ⟨begun, rest, tokens, scanned⟩ := inductionHypothesis room
      have reads : Reads offset (front ++ begun) tokens :=
        .comment (cut begun rest scanned.split) scanned.reads
      rw [split]
      exact ⟨front ++ begun, rest, tokens, scanned.behind reads rfl⟩
  | case4 offset scan first following fault distance found =>
      have describes := Lexeme.next_describes first following
      rw [found] at describes
      have noToken : ∀ kind text after, ¬ TokenAt (first :: following) kind text after := by
        intro kind text after isToken
        have read := Lexeme.next_eq_token isToken
        rw [found] at read
        cases read
      exact ⟨[], first :: following, [], rfl, .finish, (List.append_nil _).symm, room,
        .inr ⟨fault, distance, .unreadable noToken describes, rfl⟩⟩
  | case5 offset scan first following kind text after found measured full =>
      have describes := Lexeme.next_describes first following
      rw [found] at describes
      have count : scan.tokens.size = Limits.maxTokenCount := Nat.le_antisymm room full
      exact ⟨[], first :: following, [], rfl, .finish, (List.append_nil _).symm, room,
        .inr ⟨_, 0, .full describes count, rfl⟩⟩
  | case6 offset scan first following kind text after found token measured free
      inductionHypothesis =>
      have describes := Lexeme.next_describes first following
      rw [found] at describes
      have split := describes.split
      obtain ⟨begun, rest, tokens, scanned⟩ := inductionHypothesis (by
        rw [Array.size_push]
        omega)
      have length : token.sourceLength = (spelling kind text).length :=
        (length_spelling kind text offset).symm
      rw [length] at scanned ⊢
      rw [scanned.split] at describes
      have reads : Reads offset (spelling kind text ++ begun) (token :: tokens) :=
        .token describes.cut scanned.reads
      rw [split]
      refine ⟨spelling kind text ++ begun, rest, token :: tokens, scanned.behind reads ?_⟩
      rw [Array.toList_push, List.append_assoc]
      rfl

/-! ## What can be read is scanned -/

theorem IsDecimal.ne_nil {characters : List Char} (decimal : IsDecimal characters) :
    characters ≠ [] := by
  cases decimal with
  | whole isWhole =>
      obtain ⟨first, digits, rfl, _⟩ := Lexeme.exists_cons_of_isWhole isWhole
      exact List.cons_ne_nil _ _
  | fraction _ _ => simp

theorem spelling_ne_nil {kind : TokenKind} {text : String} (wellSpelled : WellSpelled kind text) :
    spelling kind text ≠ [] := by
  cases wellSpelled with
  | word isWord _ =>
      obtain ⟨first, rest, characters, _⟩ := isWord
      rw [spelling_of_ne_string (ne_string_of_isWord (isWord_vocabularyKind text)), characters]
      exact List.cons_ne_nil _ _
  | string _ _ =>
      rw [spelling, if_pos rfl]
      exact List.cons_ne_nil _ _
  | number decimal =>
      rw [spelling_of_ne_string (by decide)]
      exact decimal.ne_nil
  | mark isMark =>
      rw [spelling_of_ne_string (ne_string_of_mark? isMark)]
      rcases Lexeme.mark?_cases isMark with ⟨_, rfl⟩ | ⟨_, _, rfl⟩ | ⟨_, _, _, rfl⟩ <;> simp

/-- What the grammar reads is scanned to the end, as long as there is room for the tokens. -/
theorem Reads.exists_scan
    {offset : Nat} {characters : List Char} {tokens : List Token}
    (reads : Reads offset characters tokens) (detailed : Bool) (scan : Scan)
    (room : scan.tokens.size + tokens.length ≤ Limits.maxTokenCount) :
    ∃ final : Scan,
      scanFrom detailed offset characters scan = ⟨final, none⟩ ∧
      final.tokens.toList = scan.tokens.toList ++ tokens := by
  induction reads generalizing scan with
  | finish => exact ⟨scan, scanFrom_nil _ scan, (List.append_nil _).symm⟩
  | blank isBlank _ inductionHypothesis =>
      rw [scanFrom_of_blank (Lexeme.next_eq_blank isBlank _)]
      exact inductionHypothesis scan room
  | @comment offset length characters after tokens found _ inductionHypothesis =>
      have nonempty : characters ≠ [] := by
        cases found <;> simp
      obtain ⟨first, rest, rfl⟩ := List.exists_cons_of_ne_nil nonempty
      rw [scanFrom_of_comment (Lexeme.next_eq_comment found)]
      exact inductionHypothesis _ room
  | @token offset characters after kind text tokens found _ inductionHypothesis =>
      have nonempty : characters ≠ [] := by
        rw [found.split]
        simp [spelling_ne_nil found.wellSpelled]
      obtain ⟨first, rest, rfl⟩ := List.exists_cons_of_ne_nil nonempty
      rw [List.length_cons] at room
      rw [scanFrom_of_token (Lexeme.next_eq_token found) offset (by omega),
        ← length_spelling kind text offset]
      obtain ⟨final, scanned, tokensEq⟩ :=
        inductionHypothesis (scan.withToken detailed ⟨kind, text, offset⟩)
          (by rw [Scan.withToken, Array.size_push]; omega)
      refine ⟨final, scanned, ?_⟩
      rw [tokensEq, Scan.withToken, Array.toList_push, List.append_assoc]
      rfl

/-! ## Splitting a source -/

/-- A source splits into the tokens that the grammar reads in it, if they are not too many. -/
theorem tokenize_eq_ok_iff {detailed : Bool} {source : String} {tokens : List Token} :
    (tokenize detailed source).result = .ok tokens ↔
      ∃ words,
        tokens = words ++ [Token.endOfInput source.length] ∧
        Reads 0 source.toList words ∧
        words.length ≤ Limits.maxTokenCount := by
  constructor
  · intro split
    obtain ⟨begun, rest, words, scanned⟩ :=
      exists_scanReads detailed 0 source.toList {} (Nat.zero_le _)
    rcases result : scanFrom detailed 0 source.toList {} with ⟨final, _ | ⟨fault, position⟩⟩
    · rw [result] at scanned
      obtain ⟨whole, reads, tokensEq, size, ⟨rfl, _⟩ | ⟨_, _, _, impossible⟩⟩ := scanned
      · rw [List.append_nil] at whole
        have words_eq : final.tokens.toList = words := tokensEq
        rw [tokenize_of_scan result, words_eq] at split
        refine ⟨words, (Except.ok.inj split).symm, whole ▸ reads, ?_⟩
        rw [← words_eq, Array.length_toList]
        exact size
      · cases impossible
    · rw [tokenize, result] at split
      cases split
  · rintro ⟨words, rfl, reads, count⟩
    obtain ⟨final, scanned, tokensEq⟩ :=
      reads.exists_scan detailed {} (Nat.le_trans (Nat.le_of_eq (Nat.zero_add _)) count)
    rw [tokenize_of_scan scanned, tokensEq]
    rfl

/-- Where a source does not split, what stands in front of the fault is read to the tokens that the
error keeps. -/
theorem exists_reads_of_error
    {detailed : Bool} {source : String} {error : LexicalError}
    (fails : (tokenize detailed source).result = .error error) :
    ∃ begun rest distance,
      source.toList = begun ++ rest ∧
      Reads 0 begun error.tokens ∧
      error.tokens.length ≤ Limits.maxTokenCount ∧
      FaultAt error.tokens.length rest error.fault distance ∧
      error.position = begun.length + distance ∧
      error.character = source.toList[error.position]? := by
  obtain ⟨begun, rest, words, scanned⟩ :=
    exists_scanReads detailed 0 source.toList {} (Nat.zero_le _)
  rcases result : scanFrom detailed 0 source.toList {} with ⟨final, _ | ⟨cause, position⟩⟩
  · rw [tokenize, result] at fails
    cases fails
  · rw [result] at scanned
    rw [tokenize, result] at fails
    cases fails
    obtain ⟨whole, reads, tokensEq, size, ⟨_, impossible⟩ | ⟨fault, distance, isFault, same⟩⟩ :=
      scanned
    · cases impossible
    · cases same
      have words_eq : final.tokens.toList = words := tokensEq
      rw [← words_eq] at reads
      refine ⟨begun, rest, distance, whole, reads, ?_, ?_, ?_, rfl⟩
      · rw [Array.length_toList]
        exact size
      · rw [Array.length_toList]
        exact isFault
      · rw [Nat.zero_add]

end PugScript
