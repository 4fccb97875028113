import PugScript.Proofs.Lexing.Grammar

/-!
# Lexemes are recognised as the grammar says

`Lexeme.next` finds a token exactly where the grammar has one, and comments likewise. Where it finds
a fault the grammar explains it.
-/

namespace PugScript

open PugScript.Decimal
open PugScript.Text

namespace Lexeme

/-- What a lexeme says about the characters it was found in front of. -/
def Describes (characters : List Char) : Lexeme → Prop
  | blank after => ∃ first, isBlank first = true ∧ characters = first :: after
  | comment length after => CommentAt characters length after
  | token kind text after => TokenAt characters kind text after
  | fault cause distance => cause.Explains characters distance

theorem eq_false_of_dropWhile
    {test : Char → Bool} {characters after : List Char} {next : Char}
    (dropped : characters.dropWhile test = next :: after) : test next = false := by
  have stopped := List.head?_dropWhile_not test characters
  rwa [dropped] at stopped

theorem not_mem_takeWhile_ne (mark : Char) (characters : List Char) :
    mark ∉ characters.takeWhile (· ≠ mark) := by
  intro member
  simpa using List.mem_takeWhile_imp member

theorem forall_ne_of_not_mem
    {mark : Char} {characters : List Char} (absent : mark ∉ characters) :
    ∀ c ∈ characters, decide (c ≠ mark) = true := by
  intro c member
  simpa using ne_of_mem_of_not_mem member absent

theorem ofWord_describes {first : Char} (letter : isLetter first = true) (rest : List Char) :
    (ofWord first rest).Describes (first :: rest) := by
  have split : first :: rest =
      first :: rest.takeWhile isWordPart ++ rest.dropWhile isWordPart := by
    rw [List.cons_append, List.takeWhile_append_dropWhile]
  have isWord : IsWord (first :: rest.takeWhile isWordPart) :=
    ⟨first, _, rfl, letter, fun _ => List.mem_takeWhile_imp⟩
  have ends : ∀ {kind : TokenKind}, kind.isWord = true →
      kind.EndsBefore (rest.dropWhile isWordPart) := by
    intro kind kindIsWord
    cases dropped : rest.dropWhile isWordPart with
    | nil => exact kind.endsBefore_nil
    | cons next after =>
        rw [TokenKind.endsBefore_cons, goesOnWith_of_isWord kindIsWord]
        exact eq_false_of_dropWhile dropped
  unfold ofWord
  simp only
  split
  · next tooLong =>
    rw [split]
    exact LexicalFault.Explains.identifierTooLong isWord (ends rfl) tooLong
  · next fits =>
    rw [wordKind_eq_vocabularyKind]
    have kindIsWord := isWord_vocabularyKind (String.ofList (first :: rest.takeWhile isWordPart))
    refine ⟨.word ?_ ?_, ?_, ends kindIsWord⟩
    · rwa [String.toList_ofList]
    · rw [String.length_ofList]
      exact Nat.not_lt.mp fits
    · rw [spelling_of_ne_string (ne_string_of_isWord kindIsWord), String.toList_ofList]
      exact split

theorem ofString_describes (rest : List Char) : (ofString rest).Describes ('"' :: rest) := by
  have noQuote := not_mem_takeWhile_ne '"' rest
  have split : rest.takeWhile (· ≠ '"') ++ rest.dropWhile (· ≠ '"') = rest :=
    List.takeWhile_append_dropWhile
  unfold ofString
  simp only
  split
  · next tooLarge =>
    have size : ((rest.takeWhile (· ≠ '"')).take (Limits.maxStringSize + 1)).length =
        Limits.maxStringSize + 1 :=
      List.length_take_of_le tooLarge
    have splitLonger : rest = (rest.takeWhile (· ≠ '"')).take (Limits.maxStringSize + 1) ++
        ((rest.takeWhile (· ≠ '"')).drop (Limits.maxStringSize + 1) ++
          rest.dropWhile (· ≠ '"')) := by
      rw [← List.append_assoc, List.take_append_drop, split]
    rw [splitLonger, ← List.cons_append]
    exact LexicalFault.Explains.stringTooLarge
      (fun member => noQuote (List.mem_of_mem_take member)) size
  · next fits =>
    split
    · next closing =>
      rw [closing, List.append_nil] at split
      have unclosed := LexicalFault.Explains.unterminatedString noQuote
      rw [split] at unclosed ⊢
      exact unclosed
    · next quote after closing =>
      have isQuote : quote = '"' := by
        simpa using eq_false_of_dropWhile closing
      subst isQuote
      rw [closing] at split
      refine ⟨.string ?_ ?_, ?_, ?_⟩
      · rwa [String.toList_ofList]
      · rw [String.length_ofList]
        exact Nat.not_lt.mp fits
      · rw [spelling, if_pos rfl, String.toList_ofList]
        simpa using split.symm
      · simp [TokenKind.EndsBefore, TokenKind.goesOnWith, TokenKind.isWord]

/-- A run of accepted characters in front of one that is not accepted. -/
theorem takeWhile_append_of_boundary
    {test : Char → Bool} {body : List Char} (inside : ∀ c ∈ body, test c = true)
    (after : List Char) (boundary : ∀ next ∈ after.head?, test next = false) :
    (body ++ after).takeWhile test = body ∧ (body ++ after).dropWhile test = after := by
  rw [List.takeWhile_append_of_pos inside, List.dropWhile_append_of_pos inside]
  cases after with
  | nil => simp
  | cons next rest =>
      have stops := boundary next rfl
      simp [stops]

/-- The digits of a whole number are what is left without its sign. -/
theorem exists_digits_of_isWhole
    {whole : List Char} (isWhole : IsWhole whole) (after : List Char) :
    ∃ digits, digits ≠ [] ∧ (∀ c ∈ digits, isDigit c = true) ∧
      (takeSign (whole ++ after)).2 = digits ++ after := by
  obtain ⟨digits, nonempty, areDigits, form⟩ := isWhole
  refine ⟨digits, nonempty, areDigits, ?_⟩
  rcases form with rfl | rfl
  · obtain ⟨first, rest, rfl⟩ := List.exists_cons_of_ne_nil nonempty
    have digit := areDigits first List.mem_cons_self
    rw [List.cons_append, takeSign]
    · rintro _ isMinus
      cases isMinus
      cases digit
    · rintro _ isPlus
      cases isPlus
      cases digit
  · rfl

/-- A decimal with a point can be read as a number. -/
theorem isSome_readNumeral?
    {whole places : List Char} (isWhole : IsWhole whole)
    (arePlaces : ∀ c ∈ places, isDigit c = true) :
    (readNumeral? (whole ++ '.' :: places)).isSome = true := by
  obtain ⟨digits, nonempty, areDigits, unsigned⟩ :=
    exists_digits_of_isWhole isWhole ('.' :: places)
  obtain ⟨taken, dropped⟩ :=
    takeWhile_append_of_boundary areDigits ('.' :: places) (by simp [isDigit])
  obtain ⟨takenPlaces, droppedPlaces⟩ :=
    takeWhile_append_of_boundary arePlaces [] (by simp)
  rw [List.append_nil] at takenPlaces droppedPlaces
  unfold readNumeral?
  simp only [unsigned, taken, dropped, takenPlaces, droppedPlaces]
  simp [nonempty, readExponent?]

/-- So can a whole number. -/
theorem isSome_readNumeral?_of_isWhole {whole : List Char} (isWhole : IsWhole whole) :
    (readNumeral? whole).isSome = true := by
  obtain ⟨digits, nonempty, areDigits, unsigned⟩ := exists_digits_of_isWhole isWhole []
  obtain ⟨taken, dropped⟩ := takeWhile_append_of_boundary areDigits [] (by simp)
  rw [List.append_nil, List.append_nil] at unsigned
  rw [List.append_nil] at taken dropped
  unfold readNumeral?
  simp only [unsigned, taken, dropped]
  simp [nonempty, readExponent?]

/-- A number ends behind its last digit, unless a point follows. -/
theorem number_endsBefore_dropWhile
    {characters : List Char}
    (noPoint : ∀ after, characters.dropWhile isDigit = '.' :: after → False) :
    TokenKind.number.EndsBefore (characters.dropWhile isDigit) := by
  cases dropped : characters.dropWhile isDigit with
  | nil => exact TokenKind.endsBefore_nil _
  | cons next after =>
      have notPoint : next ≠ '.' := by
        rintro rfl
        exact noPoint after dropped
      simp [TokenKind.goesOnWith, eq_false_of_dropWhile dropped, notPoint]

theorem ofFraction_describes
    {whole : List Char} (isWhole : IsWhole whole) (afterPoint : List Char) :
    (ofFraction whole afterPoint).Describes (whole ++ '.' :: afterPoint) := by
  have arePlaces : ∀ c ∈ afterPoint.takeWhile isDigit, isDigit c = true :=
    fun _ => List.mem_takeWhile_imp
  have split : whole ++ '.' :: afterPoint =
      whole ++ '.' :: afterPoint.takeWhile isDigit ++ afterPoint.dropWhile isDigit := by
    rw [List.append_assoc, List.cons_append, List.takeWhile_append_dropWhile]
  unfold ofFraction
  simp only
  split
  · next after secondPoint =>
    rw [split, secondPoint]
    exact LexicalFault.Explains.multipleDots isWhole arePlaces
  · next noPoint =>
    have isNumeral := isSome_readNumeral? isWhole arePlaces
    rw [if_neg (by simpa [Option.isSome_iff_ne_none] using isNumeral)]
    refine ⟨.number ?_, ?_, ?_⟩
    · rw [String.toList_ofList]
      exact .fraction isWhole arePlaces
    · rw [spelling_of_ne_string (by decide), String.toList_ofList]
      exact split
    · exact number_endsBefore_dropWhile noPoint

theorem ofNumber_describes
    {first : Char} {rest : List Char}
    (starts : (isDigit first || (first == '-' && rest.head?.any isDigit)) = true) :
    (ofNumber first rest).Describes (first :: rest) := by
  have isWhole : IsWhole (first :: rest.takeWhile isDigit) := by
    simp only [Bool.or_eq_true, Bool.and_eq_true, beq_iff_eq] at starts
    rcases starts with digit | ⟨rfl, digitFollows⟩
    · refine ⟨first :: rest.takeWhile isDigit, List.cons_ne_nil _ _, ?_, .inl rfl⟩
      rintro c (_ | ⟨_, member⟩)
      · exact digit
      · exact List.mem_takeWhile_imp member
    · refine ⟨rest.takeWhile isDigit, ?_, fun _ => List.mem_takeWhile_imp, .inr rfl⟩
      cases rest with
      | nil => cases digitFollows
      | cons next rest =>
          have digit : isDigit next = true := digitFollows
          simp [digit]
  have split : first :: rest = first :: rest.takeWhile isDigit ++ rest.dropWhile isDigit := by
    rw [List.cons_append, List.takeWhile_append_dropWhile]
  unfold ofNumber
  simp only
  split
  · next afterPoint dropped =>
    rw [split, dropped]
    exact ofFraction_describes isWhole afterPoint
  · next noPoint =>
    refine ⟨.number ?_, ?_, ?_⟩
    · rw [String.toList_ofList]
      exact .whole isWhole
    · rw [spelling_of_ne_string (by decide), String.toList_ofList]
      exact split
    · exact number_endsBefore_dropWhile noPoint

/-- A mark of one character ends in front of what could not follow it in a longer lexeme. -/
theorem endsBefore_of_ofChar?
    {first : Char} {kind : TokenKind} (found : TokenKind.ofChar? first = some kind)
    {rest : List Char} (notComment : ¬ (first = '/' ∧ rest.head? = some '/'))
    (notNumber : ¬ (first = '-' ∧ rest.head?.any isDigit = true))
    (notTwo : ∀ next ∈ rest.head?, TokenKind.ofTwoChars? first next = none) :
    kind.EndsBefore rest := by
  cases rest with
  | nil => exact kind.endsBefore_nil
  | cons next after =>
      have single := notTwo next rfl
      rw [TokenKind.endsBefore_cons]
      unfold TokenKind.ofChar? at found
      split at found <;> cases found
      case h_2 => simpa [TokenKind.goesOnWith] using notNumber
      case h_4 => simpa [TokenKind.goesOnWith] using notComment
      case h_9 | h_10 =>
        refine beq_eq_false_iff_ne.mpr ?_
        rintro rfl
        cases single
      all_goals rfl

theorem mark?_of_ofChar?
    {first : Char} {kind : TokenKind} (found : TokenKind.ofChar? first = some kind) :
    kind.mark? = some (String.singleton first) := by
  unfold TokenKind.ofChar? at found
  split at found <;> cases found <;> rfl

theorem mark?_of_ofTwoChars?
    {first second : Char} {kind : TokenKind}
    (found : TokenKind.ofTwoChars? first second = some kind) :
    kind.mark? = some (String.ofList [first, second]) := by
  unfold TokenKind.ofTwoChars? at found
  split at found <;> cases found <;> rfl

theorem endsBefore_of_ofTwoChars?
    {first second : Char} {kind : TokenKind}
    (found : TokenKind.ofTwoChars? first second = some kind) (after : List Char) :
    kind.EndsBefore after := by
  intro next _
  unfold TokenKind.ofTwoChars? at found
  split at found <;> cases found <;> rfl

theorem ofMark_describes
    {first : Char} {rest : List Char} (notComment : ¬ (first = '/' ∧ rest.head? = some '/'))
    (notNumber : ¬ (first = '-' ∧ rest.head?.any isDigit = true))
    (notTwo : ∀ next ∈ rest.head?, TokenKind.ofTwoChars? first next = none) :
    (ofMark first rest).Describes (first :: rest) := by
  unfold ofMark
  split
  · next kind found =>
    have isMark := mark?_of_ofChar? found
    refine ⟨.mark isMark, ?_, endsBefore_of_ofChar? found notComment notNumber notTwo⟩
    rw [spelling_of_ne_string (ne_string_of_mark? isMark), String.toList_singleton]
    rfl
  · exact LexicalFault.Explains.unexpectedCharacter

theorem ofSymbol_describes
    {first : Char} {rest : List Char} (notComment : ¬ (first = '/' ∧ rest.head? = some '/'))
    (notNumber : ¬ (first = '-' ∧ rest.head?.any isDigit = true)) :
    (ofSymbol first rest).Describes (first :: rest) := by
  cases rest with
  | nil => exact ofMark_describes notComment notNumber (by simp)
  | cons second after =>
      unfold ofSymbol
      simp only
      cases found : TokenKind.ofTwoChars? first second with
      | some kind =>
          have isMark := mark?_of_ofTwoChars? found
          refine ⟨.mark isMark, ?_, endsBefore_of_ofTwoChars? found after⟩
          rw [spelling_of_ne_string (ne_string_of_mark? isMark), String.toList_ofList]
          rfl
      | none =>
          refine ofMark_describes notComment notNumber ?_
          rintro _ ⟨⟩
          exact found

theorem ofComment_describes (rest : List Char) :
    (ofComment ('/' :: rest)).Describes ('/' :: '/' :: rest) := by
  have noLineEnd := not_mem_takeWhile_ne '\n' rest
  have split : rest.takeWhile (· ≠ '\n') ++ rest.dropWhile (· ≠ '\n') = rest :=
    List.takeWhile_append_dropWhile
  have taken : ('/' :: rest).takeWhile (· ≠ '\n') = '/' :: rest.takeWhile (· ≠ '\n') :=
    List.takeWhile_cons_of_pos (by decide)
  have dropped : ('/' :: rest).dropWhile (· ≠ '\n') = rest.dropWhile (· ≠ '\n') :=
    List.dropWhile_cons_of_pos (by decide)
  unfold ofComment
  rw [taken, dropped]
  cases closing : rest.dropWhile (· ≠ '\n') with
  | nil =>
      rw [closing, List.append_nil] at split
      have comment := CommentAt.last noLineEnd
      rw [split] at comment ⊢
      exact comment
  | cons lineEnd after =>
      have isLineEnd : lineEnd = '\n' := by
        simpa using eq_false_of_dropWhile closing
      subst isLineEnd
      rw [closing] at split
      have comment : CommentAt _ _ after := .line noLineEnd
      rw [List.cons_append, List.cons_append, split] at comment
      exact comment

/-- Every lexeme says how the characters look at whose front it was found. -/
theorem next_describes (first : Char) (rest : List Char) :
    (next first rest).Describes (first :: rest) := by
  unfold next
  split
  · next blank => exact ⟨first, blank, rfl⟩
  split
  · next comments =>
    obtain ⟨rfl, slash⟩ := comments
    obtain ⟨after, rfl⟩ := List.head?_eq_some_iff.mp slash
    exact ofComment_describes after
  next notComment =>
  split
  · next letter => exact ofWord_describes letter rest
  split
  · next isQuote =>
    subst isQuote
    exact ofString_describes rest
  split
  · next assigns =>
    obtain ⟨rfl, single⟩ := assigns
    refine ⟨.mark rfl, rfl, ?_⟩
    intro following member
    refine beq_eq_false_iff_ne.mpr ?_
    rintro rfl
    exact single member
  split
  · next starts => exact ofNumber_describes starts
  · next notNumber =>
    refine ofSymbol_describes notComment ?_
    rintro ⟨rfl, digit⟩
    simp [digit] at notNumber

/-! ## Where the grammar has a lexeme, it is found -/

theorem next_eq_blank {first : Char} (blank : isBlank first = true) (rest : List Char) :
    next first rest = .blank rest :=
  if_pos blank

theorem next_eq_comment
    {first : Char} {rest after : List Char} {length : Nat}
    (found : CommentAt (first :: rest) length after) :
    next first rest = .comment length after := by
  have slash : ∀ {line : List Char}, '\n' ∉ line → '\n' ∉ '/' :: line := by
    intro line noLineEnd
    simpa using noLineEnd
  generalize whole : first :: rest = characters at found
  cases found with
  | @line line after noLineEnd =>
      obtain ⟨taken, dropped⟩ :=
        takeWhile_append_of_boundary (forall_ne_of_not_mem (slash noLineEnd)) ('\n' :: after)
          (by simp)
      rw [List.cons_append] at whole
      obtain ⟨rfl, rfl⟩ := List.cons.inj whole
      rw [next, if_neg (by decide), if_pos ⟨rfl, rfl⟩, ofComment, taken, dropped]
      rfl
  | @last line noLineEnd =>
      obtain ⟨rfl, rfl⟩ := List.cons.inj whole
      obtain ⟨taken, dropped⟩ :=
        takeWhile_append_of_boundary (forall_ne_of_not_mem (slash noLineEnd)) [] (by simp)
      rw [List.append_nil] at taken dropped
      rw [next, if_neg (by decide), if_pos ⟨rfl, rfl⟩, ofComment, taken, dropped]
      rfl

/-- A word in front of anything that cannot go on a word is the next lexeme. -/
theorem next_eq_word
    {first : Char} {parts after : List Char} (letter : isLetter first = true)
    (areParts : ∀ c ∈ parts, isWordPart c = true)
    (fits : (first :: parts).length ≤ Limits.maxIdentifierLength)
    (ends : ∀ next ∈ after.head?, isWordPart next = false) :
    next first (parts ++ after) =
      .token (vocabularyKind (String.ofList (first :: parts))) (String.ofList (first :: parts))
        after := by
  have notBlank : ¬ isBlank first = true := by
    intro blank
    rw [isLetter_of_isBlank blank] at letter
    cases letter
  have notSlash : first ≠ '/' := by
    rintro rfl
    cases letter
  obtain ⟨taken, dropped⟩ := takeWhile_append_of_boundary areParts after ends
  rw [next, if_neg notBlank, if_neg (fun slashes => notSlash slashes.1), if_pos letter, ofWord]
  simp only [taken, dropped, if_neg (Nat.not_lt.mpr fits), wordKind_eq_vocabularyKind]

theorem next_eq_string
    {content : List Char} (noQuote : '"' ∉ content) (fits : content.length ≤ Limits.maxStringSize)
    (after : List Char) :
    next '"' (content ++ '"' :: after) = .token .string (String.ofList content) after := by
  obtain ⟨taken, dropped⟩ :=
    takeWhile_append_of_boundary (forall_ne_of_not_mem noQuote) ('"' :: after) (by simp)
  rw [next, if_neg (by decide), if_neg (by simp), if_neg (by decide), if_pos rfl, ofString]
  simp only [taken, dropped, if_neg (Nat.not_lt.mpr fits)]

theorem next_eq_ofNumber
    {first : Char} {rest : List Char}
    (starts : isDigit first = true ∨ (first = '-' ∧ rest.head?.any isDigit = true)) :
    next first rest = ofNumber first rest := by
  have isNumber : (isDigit first || (first == '-' && rest.head?.any isDigit)) = true := by
    rcases starts with digit | ⟨rfl, digit⟩
    · rw [digit, Bool.true_or]
    · simp [digit]
  have firsts : first ∈ '-' :: digitCharacters := by
    rcases starts with digit | ⟨rfl, _⟩
    · exact List.mem_cons_of_mem _ (mem_digitCharacters digit)
    · exact List.mem_cons_self
  have others : ∀ c ∈ '-' :: digitCharacters,
      isBlank c = false ∧ c ≠ '/' ∧ isLetter c = false ∧ c ≠ '"' ∧ c ≠ '=' := by
    intro c member
    fin_cases member <;> decide
  obtain ⟨notBlank, notSlash, notLetter, notQuote, notEquals⟩ := others first firsts
  rw [next, if_neg (by simp [notBlank]), if_neg (by simp [notSlash]), if_neg (by simp [notLetter]),
    if_neg notQuote, if_neg (by simp [notEquals]), if_pos isNumber]

/-- The first character of a whole number and what follows it. -/
theorem exists_cons_of_isWhole
    {whole : List Char} (isWhole : IsWhole whole) :
    ∃ first digits,
      whole = first :: digits ∧
      (∀ c ∈ digits, isDigit c = true) ∧
      ∀ after, isDigit first = true ∨
        (first = '-' ∧ (digits ++ after).head?.any isDigit = true) := by
  obtain ⟨digits, nonempty, areDigits, form⟩ := isWhole
  obtain ⟨leading, others, rfl⟩ := List.exists_cons_of_ne_nil nonempty
  have digit := areDigits leading List.mem_cons_self
  rcases form with rfl | rfl
  · exact ⟨leading, others, rfl, fun c member => areDigits c (List.mem_cons_of_mem _ member),
      fun _ => .inl digit⟩
  · exact ⟨'-', leading :: others, rfl, areDigits, fun _ => .inr ⟨rfl, digit⟩⟩

/-- A decimal in front of anything that cannot go on a number is the next lexeme. -/
theorem next_eq_number
    {text : String} (decimal : IsDecimal text.toList) {after : List Char}
    (ends : TokenKind.number.EndsBefore after) {first : Char} {rest : List Char}
    (split : first :: rest = text.toList ++ after) :
    next first rest = .token .number text after := by
  have notDigit : ∀ next ∈ after.head?, isDigit next = false := by
    intro next member
    have refused := ends next member
    simp only [TokenKind.goesOnWith, Bool.or_eq_false_iff] at refused
    exact refused.1
  have notPoint : ∀ rest, after = '.' :: rest → False := by
    rintro rest rfl
    have refused := ends '.' rfl
    cases refused
  have textOf := String.ofList_toList (s := text)
  generalize text.toList = characters at decimal split textOf
  subst textOf
  cases decimal with
  | whole isWhole =>
      obtain ⟨leading, digits, rfl, areDigits, starts⟩ := exists_cons_of_isWhole isWhole
      obtain ⟨taken, dropped⟩ := takeWhile_append_of_boundary areDigits after notDigit
      rw [List.cons_append] at split
      obtain ⟨rfl, rfl⟩ := List.cons.inj split
      rw [next_eq_ofNumber (starts after), ofNumber, taken, dropped]
      split
      · exact (notPoint _ rfl).elim
      · rfl
  | @fraction whole places isWhole arePlaces =>
      obtain ⟨leading, digits, rfl, areDigits, starts⟩ := exists_cons_of_isWhole isWhole
      have isNumeral := isSome_readNumeral? isWhole arePlaces
      obtain ⟨taken, dropped⟩ :=
        takeWhile_append_of_boundary areDigits ('.' :: (places ++ after)) (by simp [isDigit])
      obtain ⟨takenPlaces, droppedPlaces⟩ :=
        takeWhile_append_of_boundary arePlaces after notDigit
      rw [List.append_assoc, List.cons_append, List.cons_append] at split
      obtain ⟨rfl, rfl⟩ := List.cons.inj split
      rw [next_eq_ofNumber (starts _), ofNumber, taken, dropped]
      simp only [ofFraction, takenPlaces, droppedPlaces]
      rw [if_neg (by simpa [Option.isSome_iff_ne_none] using isNumeral)]

theorem ofSymbol_eq_ofMark
    {first : Char} {rest : List Char}
    (notTwo : ∀ next ∈ rest.head?, TokenKind.ofTwoChars? first next = none) :
    ofSymbol first rest = ofMark first rest := by
  cases rest with
  | nil => rfl
  | cons second after =>
      have single := notTwo second rfl
      simp only [ofSymbol, single]

/-- The characters with which marks begin, apart from the equals sign. -/
def markCharacters : List Char :=
  ['+', '-', '*', '/', '%', '(', ')', ',', '>', '<', '!', '&', '|']

theorem next_eq_ofSymbol
    {first : Char} (begins : first ∈ markCharacters) {rest : List Char}
    (notComment : ¬ (first = '/' ∧ rest.head? = some '/'))
    (notNumber : ¬ (first = '-' ∧ rest.head?.any isDigit = true)) :
    next first rest = ofSymbol first rest := by
  have others : ∀ c ∈ markCharacters,
      isBlank c = false ∧ isLetter c = false ∧ c ≠ '"' ∧ c ≠ '=' ∧ isDigit c = false := by
    intro c member
    fin_cases member <;> decide
  obtain ⟨notBlank, notLetter, notQuote, notEquals, notDigit⟩ := others first begins
  rw [next, if_neg (by simp [notBlank]), if_neg notComment, if_neg (by simp [notLetter]),
    if_neg notQuote, if_neg (by simp [notEquals]), if_neg (by simpa [notDigit] using notNumber)]

/-- A mark of one character, where no longer lexeme begins with it. -/
theorem next_eq_ofChar?
    {first : Char} {kind : TokenKind} (found : TokenKind.ofChar? first = some kind)
    {rest : List Char} (notComment : ¬ (first = '/' ∧ rest.head? = some '/'))
    (notNumber : ¬ (first = '-' ∧ rest.head?.any isDigit = true))
    (notTwo : ∀ next ∈ rest.head?, TokenKind.ofTwoChars? first next = none) :
    next first rest = .token kind (String.singleton first) rest := by
  have begins : first ∈ markCharacters := by
    unfold TokenKind.ofChar? at found
    split at found <;> first | decide | cases found
  rw [next_eq_ofSymbol begins notComment notNumber, ofSymbol_eq_ofMark notTwo, ofMark, found]

/-- A mark of two characters. -/
theorem next_eq_ofTwoChars?
    {first second : Char} {kind : TokenKind}
    (found : TokenKind.ofTwoChars? first second = some kind) (after : List Char) :
    next first (second :: after) = .token kind (String.ofList [first, second]) after := by
  have symbol : ofSymbol first (second :: after) =
      .token kind (String.ofList [first, second]) after := by
    simp only [ofSymbol, found]
  rw [← symbol]
  unfold TokenKind.ofTwoChars? at found
  split at found
  case h_3 => rfl
  case h_7 => cases found
  all_goals exact next_eq_ofSymbol (by decide) (by simp) (by simp)

/-- A mark of one character that ends where the kind says. -/
theorem next_eq_single
    {first : Char} {kind : TokenKind} (found : TokenKind.ofChar? first = some kind)
    {after : List Char} (ends : kind.EndsBefore after) :
    next first after = .token kind (String.singleton first) after := by
  cases after with
  | nil => exact next_eq_ofChar? found (by simp) (by simp) (by simp)
  | cons next rest =>
      rw [TokenKind.endsBefore_cons] at ends
      apply next_eq_ofChar? found
      all_goals
        unfold TokenKind.ofChar? at found
        split at found <;> cases found <;>
          simp_all [TokenKind.goesOnWith, TokenKind.isWord, TokenKind.ofTwoChars?]

/-- A mark is an equals sign, another mark of one character, or one of two characters. -/
theorem mark?_cases {kind : TokenKind} {text : String} (isMark : kind.mark? = some text) :
    (kind = .assign ∧ text = String.singleton '=') ∨
    (∃ first, TokenKind.ofChar? first = some kind ∧ text = String.singleton first) ∨
    ∃ first second,
      TokenKind.ofTwoChars? first second = some kind ∧ text = String.ofList [first, second] := by
  cases kind with
  | assign => exact .inl ⟨rfl, (Option.some.inj isMark).symm⟩
  | plus => exact .inr (.inl ⟨'+', rfl, (Option.some.inj isMark).symm⟩)
  | minus => exact .inr (.inl ⟨'-', rfl, (Option.some.inj isMark).symm⟩)
  | multiply => exact .inr (.inl ⟨'*', rfl, (Option.some.inj isMark).symm⟩)
  | divide => exact .inr (.inl ⟨'/', rfl, (Option.some.inj isMark).symm⟩)
  | remainder => exact .inr (.inl ⟨'%', rfl, (Option.some.inj isMark).symm⟩)
  | greater => exact .inr (.inl ⟨'>', rfl, (Option.some.inj isMark).symm⟩)
  | less => exact .inr (.inl ⟨'<', rfl, (Option.some.inj isMark).symm⟩)
  | openParenthesis => exact .inr (.inl ⟨'(', rfl, (Option.some.inj isMark).symm⟩)
  | closeParenthesis => exact .inr (.inl ⟨')', rfl, (Option.some.inj isMark).symm⟩)
  | comma => exact .inr (.inl ⟨',', rfl, (Option.some.inj isMark).symm⟩)
  | equal => exact .inr (.inr ⟨'=', '=', rfl, (Option.some.inj isMark).symm⟩)
  | notEqual => exact .inr (.inr ⟨'!', '=', rfl, (Option.some.inj isMark).symm⟩)
  | greaterOrEqual => exact .inr (.inr ⟨'>', '=', rfl, (Option.some.inj isMark).symm⟩)
  | lessOrEqual => exact .inr (.inr ⟨'<', '=', rfl, (Option.some.inj isMark).symm⟩)
  | and => exact .inr (.inr ⟨'&', '&', rfl, (Option.some.inj isMark).symm⟩)
  | or => exact .inr (.inr ⟨'|', '|', rfl, (Option.some.inj isMark).symm⟩)
  | _ => cases isMark

/-- A mark in front of anything that cannot go on it is the next lexeme. -/
theorem next_eq_mark
    {kind : TokenKind} {text : String} (isMark : kind.mark? = some text) {after : List Char}
    (ends : kind.EndsBefore after) {first : Char} {rest : List Char}
    (split : first :: rest = text.toList ++ after) :
    next first rest = .token kind text after := by
  rcases mark?_cases isMark with
    ⟨rfl, rfl⟩ | ⟨mark, found, rfl⟩ | ⟨leading, second, found, rfl⟩
  · rw [String.toList_singleton] at split
    obtain ⟨rfl, rfl⟩ := List.cons.inj split
    have single : rest.head? ≠ some '=' := by
      intro doubled
      cases ends '=' doubled
    rw [next, if_neg (by decide), if_neg (by simp), if_neg (by decide), if_neg (by decide),
      if_pos ⟨rfl, single⟩]
    rfl
  · rw [String.toList_singleton] at split
    obtain ⟨rfl, rfl⟩ := List.cons.inj split
    exact next_eq_single found ends
  · rw [String.toList_ofList] at split
    obtain ⟨rfl, rfl⟩ := List.cons.inj split
    exact next_eq_ofTwoChars? found after

/-- Where the grammar has a token, it is found. -/
theorem next_eq_token
    {first : Char} {rest after : List Char} {kind : TokenKind} {text : String}
    (found : TokenAt (first :: rest) kind text after) :
    next first rest = .token kind text after := by
  obtain ⟨wellSpelled, split, ends⟩ := found
  cases wellSpelled with
  | word isWord fits =>
      have kindIsWord := isWord_vocabularyKind text
      rw [spelling_of_ne_string (ne_string_of_isWord kindIsWord)] at split
      have partEnds : ∀ next ∈ after.head?, isWordPart next = false := by
        intro next member
        rw [← goesOnWith_of_isWord kindIsWord]
        exact ends next member
      obtain ⟨leading, parts, characters, letter, areParts⟩ := isWord
      have textOf : text = String.ofList (leading :: parts) := by
        rw [← characters, String.ofList_toList]
      rw [characters] at split
      obtain ⟨rfl, rfl⟩ := List.cons.inj split
      rw [textOf, String.length_ofList] at fits
      rw [textOf]
      exact next_eq_word letter areParts fits partEnds
  | string noQuote fits =>
      rw [spelling, if_pos rfl, List.append_assoc] at split
      obtain ⟨rfl, rfl⟩ := List.cons.inj split
      rw [← String.length_toList] at fits
      have read := next_eq_string noQuote fits after
      rw [String.ofList_toList] at read
      exact read
  | number decimal =>
      rw [spelling_of_ne_string (by decide)] at split
      exact next_eq_number decimal ends split
  | mark isMark =>
      rw [spelling_of_ne_string (ne_string_of_mark? isMark)] at split
      exact next_eq_mark isMark ends split

end Lexeme

end PugScript
