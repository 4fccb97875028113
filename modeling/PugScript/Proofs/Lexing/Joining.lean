import Mathlib
import PugScript.Lexing

/-!
# Sources joined at line ends

A line end separates lexemes: a text that can be split is split in the same way when a line end
and more text follow, and what follows is split as if it stood alone. The tokens of lines that are
joined are the tokens of the lines one after another, with their offsets moved.
-/

namespace PugScript

open PugScript.Text

namespace Lexeme

/-! ## A lexeme in front of a line end -/

/-- What becomes of a lexeme when a line end and more text follow the characters it was found in.
A comment that ran to the end of the characters takes in the line end. -/
def ReadsOn (more : List Char) : Lexeme → Lexeme → Prop
  | blank rest, lexeme => lexeme = blank (rest ++ '\n' :: more)
  | comment length rest, lexeme =>
      lexeme = comment length (rest ++ '\n' :: more) ∨
        (rest = [] ∧ lexeme = comment (length + 1) more)
  | token kind text rest, lexeme => lexeme = token kind text (rest ++ '\n' :: more)
  | fault _ _, _ => True

theorem takeWhile_append_newline
    {test : Char → Bool} (stops : test '\n' = false) (characters more : List Char) :
    (characters ++ '\n' :: more).takeWhile test = characters.takeWhile test := by
  induction characters with
  | nil => simp [stops]
  | cons first rest inductionHypothesis =>
      rw [List.cons_append, List.takeWhile_cons, List.takeWhile_cons, inductionHypothesis]

theorem dropWhile_append_newline
    {test : Char → Bool} (stops : test '\n' = false) (characters more : List Char) :
    (characters ++ '\n' :: more).dropWhile test = characters.dropWhile test ++ '\n' :: more := by
  induction characters with
  | nil => simp [stops]
  | cons first rest inductionHypothesis =>
      rw [List.cons_append, List.dropWhile_cons, List.dropWhile_cons, inductionHypothesis]
      split <;> rfl

/-- Where a search ends inside the characters, it does not look at what follows them. -/
theorem takeWhile_append_of_dropWhile_eq_cons
    {test : Char → Bool} {characters : List Char} {stop : Char} {after : List Char}
    (found : characters.dropWhile test = stop :: after) (more : List Char) :
    (characters ++ more).takeWhile test = characters.takeWhile test ∧
      (characters ++ more).dropWhile test = stop :: (after ++ more) := by
  induction characters with
  | nil => cases found
  | cons first rest inductionHypothesis =>
      rw [List.dropWhile_cons] at found
      rw [List.cons_append, List.takeWhile_cons, List.takeWhile_cons, List.dropWhile_cons]
      split at found
      · next holds =>
        obtain ⟨taken, dropped⟩ := inductionHypothesis found
        rw [if_pos holds, if_pos holds, if_pos holds, taken]
        exact ⟨rfl, dropped⟩
      · next fails =>
        rw [if_neg fails, if_neg fails, if_neg fails]
        cases found
        exact ⟨rfl, rfl⟩

variable (first : Char) (rest more : List Char)

theorem ofWord_readsOn :
    ReadsOn more (ofWord first rest) (ofWord first (rest ++ '\n' :: more)) := by
  have stops : isWordPart '\n' = false := by decide
  unfold ofWord
  rw [takeWhile_append_newline stops, dropWhile_append_newline stops]
  by_cases tooLong :
      Limits.maxIdentifierLength < (first :: rest.takeWhile isWordPart).length
  · simp only [if_pos tooLong]
    trivial
  · simp only [if_neg tooLong]
    rfl

theorem ofString_readsOn :
    ReadsOn more (ofString rest) (ofString (rest ++ '\n' :: more)) := by
  unfold ofString
  cases closing : rest.dropWhile (· ≠ '"') with
  | nil =>
      by_cases tooLarge : Limits.maxStringSize < (rest.takeWhile (· ≠ '"')).length
      · simp only [if_pos tooLarge]
        trivial
      · simp only [if_neg tooLarge]
        trivial
  | cons quote after =>
      obtain ⟨taken, dropped⟩ :=
        takeWhile_append_of_dropWhile_eq_cons closing ('\n' :: more)
      rw [taken, dropped]
      by_cases tooLarge : Limits.maxStringSize < (rest.takeWhile (· ≠ '"')).length
      · simp only [if_pos tooLarge]
        trivial
      · simp only [if_neg tooLarge]
        rfl

theorem ofFraction_readsOn (whole afterPoint : List Char) :
    ReadsOn more (ofFraction whole afterPoint)
      (ofFraction whole (afterPoint ++ '\n' :: more)) := by
  have stops : isDigit '\n' = false := by decide
  unfold ofFraction
  rw [takeWhile_append_newline stops, dropWhile_append_newline stops]
  simp only
  split
  · trivial
  · next notPoint =>
    have notPoint' : ∀ tail,
        afterPoint.dropWhile isDigit ++ '\n' :: more = '.' :: tail → False := by
      intro tail equality
      cases remainder : afterPoint.dropWhile isDigit with
      | nil =>
          rw [remainder] at equality
          cases equality
      | cons head others =>
          rw [remainder] at equality
          cases equality
          exact notPoint _ remainder
    split
    · trivial
    · split
      · next tail equality => exact (notPoint' tail equality).elim
      · rfl

theorem ofNumber_readsOn :
    ReadsOn more (ofNumber first rest) (ofNumber first (rest ++ '\n' :: more)) := by
  have stops : isDigit '\n' = false := by decide
  unfold ofNumber
  rw [takeWhile_append_newline stops, dropWhile_append_newline stops]
  simp only
  cases afterWhole : rest.dropWhile isDigit with
  | nil => rfl
  | cons head others =>
      by_cases isPoint : head = '.'
      · subst isPoint
        exact ofFraction_readsOn more _ others
      · rw [List.cons_append]
        split
        · next tail equality =>
          cases equality
          exact absurd rfl isPoint
        · split
          · next tail equality =>
            cases equality
            exact absurd rfl isPoint
          · rfl

theorem ofMark_readsOn :
    ReadsOn more (ofMark first rest) (ofMark first (rest ++ '\n' :: more)) := by
  unfold ofMark
  cases TokenKind.ofChar? first with
  | none => trivial
  | some kind => rfl

theorem ofTwoChars?_newline : TokenKind.ofTwoChars? first '\n' = none := by
  unfold TokenKind.ofTwoChars?
  split <;> first | rfl | contradiction

theorem ofSymbol_readsOn :
    ReadsOn more (ofSymbol first rest) (ofSymbol first (rest ++ '\n' :: more)) := by
  cases rest with
  | nil =>
      change ReadsOn more (ofMark first []) (ofSymbol first ('\n' :: more))
      unfold ofSymbol
      simp only [ofTwoChars?_newline]
      exact ofMark_readsOn first [] more
  | cons second others =>
      rw [List.cons_append]
      unfold ofSymbol
      simp only
      cases TokenKind.ofTwoChars? first second with
      | some kind => rfl
      | none => exact ofMark_readsOn first (second :: others) more

/-- Only a comment that runs to the end of the text takes in the line end behind it. -/
theorem ofComment_readsOn :
    ReadsOn more (ofComment rest) (ofComment (rest ++ '\n' :: more)) := by
  unfold ofComment
  cases closing : rest.dropWhile (· ≠ '\n') with
  | nil =>
      have stops : (fun c : Char => decide (c ≠ '\n')) '\n' = false := by decide
      rw [takeWhile_append_newline stops, dropWhile_append_newline stops, closing]
      exact .inr ⟨rfl, rfl⟩
  | cons lineEnd nextLine =>
      obtain ⟨taken, dropped⟩ :=
        takeWhile_append_of_dropWhile_eq_cons closing ('\n' :: more)
      rw [taken, dropped]
      exact .inl rfl

theorem head?_append_newline_eq_some_iff {other : Char} (different : other ≠ '\n') :
    (rest ++ '\n' :: more).head? = some other ↔ rest.head? = some other := by
  cases rest with
  | nil => simpa using different.symm
  | cons second others => rfl

theorem readsOn_ite
    {condition condition' : Prop} [Decidable condition] [Decidable condition']
    (conditions : condition' ↔ condition) {lexeme other lexeme' other' : Lexeme}
    (holds : ReadsOn more lexeme lexeme') (fails : ReadsOn more other other') :
    ReadsOn more (if condition then lexeme else other)
      (if condition' then lexeme' else other') := by
  by_cases decided : condition
  · rw [if_pos decided, if_pos (conditions.mpr decided)]
    exact holds
  · rw [if_neg decided, if_neg (mt conditions.mp decided)]
    exact fails

/-- Every lexeme reads on over a line end. -/
theorem next_readsOn :
    ReadsOn more (next first rest) (next first (rest ++ '\n' :: more)) := by
  have slash := head?_append_newline_eq_some_iff rest more (show '/' ≠ '\n' by decide)
  have equals := head?_append_newline_eq_some_iff rest more (show '=' ≠ '\n' by decide)
  have digits : (rest ++ '\n' :: more).head?.any isDigit = rest.head?.any isDigit := by
    cases rest with
    | nil => rfl
    | cons second others => rfl
  unfold next
  refine readsOn_ite more Iff.rfl rfl ?_
  refine readsOn_ite more (and_congr_right' slash) (ofComment_readsOn rest more) ?_
  refine readsOn_ite more Iff.rfl (ofWord_readsOn first rest more) ?_
  refine readsOn_ite more Iff.rfl (ofString_readsOn rest more) ?_
  refine readsOn_ite more (and_congr_right' (not_congr equals)) rfl ?_
  rw [digits]
  exact readsOn_ite more Iff.rfl (ofNumber_readsOn first rest more)
    (ofSymbol_readsOn first rest more)

/-! ## The width of a lexeme -/

/-- The lexeme covers all characters but those that remain, and is not the end of the input. Nothing
is said of a fault. -/
def Covers (characters : Nat) : Lexeme → Prop
  | blank rest => 1 + rest.length = characters
  | comment length rest => length + rest.length = characters
  | token kind text rest =>
      kind ≠ .endOfInput ∧ Token.sourceLength ⟨kind, text, 0⟩ + rest.length = characters
  | fault _ _ => True

/-- Kinds of tokens that stand in the source as their text says. -/
def IsSpelled (kind : TokenKind) : Prop :=
  kind ≠ .string ∧ kind ≠ .endOfInput

instance (kind : TokenKind) : Decidable (IsSpelled kind) :=
  inferInstanceAs (Decidable (_ ∧ _))

theorem length_takeWhile_add_length_dropWhile (test : Char → Bool) (characters : List Char) :
    (characters.takeWhile test).length + (characters.dropWhile test).length =
      characters.length := by
  rw [← List.length_append, List.takeWhile_append_dropWhile]

theorem covers_token
    {kind : TokenKind} (spelled : IsSpelled kind) {text rest : List Char} {characters : Nat}
    (lengths : text.length + rest.length = characters) :
    Covers characters (token kind (String.ofList text) rest) := by
  refine ⟨spelled.2, ?_⟩
  rw [Token.sourceLength, if_neg spelled.1, String.length_ofList]
  exact lengths

theorem isSpelled_wordKind (word : String) : IsSpelled (wordKind word) := by
  unfold wordKind
  split
  · decide
  split
  · decide
  split
  · decide
  unfold TokenKind.ofKeyword?
  split <;> decide

theorem isSpelled_of_ofChar?
    {mark : Char} {kind : TokenKind} (found : TokenKind.ofChar? mark = some kind) :
    IsSpelled kind := by
  unfold TokenKind.ofChar? at found
  split at found <;> cases found <;> decide

theorem isSpelled_of_ofTwoChars?
    {first second : Char} {kind : TokenKind}
    (found : TokenKind.ofTwoChars? first second = some kind) :
    IsSpelled kind := by
  unfold TokenKind.ofTwoChars? at found
  split at found <;> cases found <;> decide

theorem ofWord_covers : Covers (rest.length + 1) (ofWord first rest) := by
  have lengths := length_takeWhile_add_length_dropWhile isWordPart rest
  unfold ofWord
  simp only
  split
  · trivial
  · refine covers_token (isSpelled_wordKind _) ?_
    rw [List.length_cons]
    omega

theorem ofString_covers : Covers (rest.length + 1) (ofString rest) := by
  have lengths := length_takeWhile_add_length_dropWhile (fun c => decide (c ≠ '"')) rest
  unfold ofString
  simp only
  split
  · trivial
  · split
    · trivial
    · next equality =>
      rw [equality, List.length_cons] at lengths
      refine ⟨by decide, ?_⟩
      rw [Token.sourceLength, if_pos rfl, String.length_ofList]
      omega

theorem ofFraction_covers (whole afterPoint : List Char) :
    Covers (whole.length + 1 + afterPoint.length) (ofFraction whole afterPoint) := by
  have lengths := length_takeWhile_add_length_dropWhile isDigit afterPoint
  unfold ofFraction
  simp only
  split
  · trivial
  · split
    · trivial
    · refine covers_token (by decide) ?_
      rw [List.length_append, List.length_cons]
      omega

theorem ofNumber_covers : Covers (rest.length + 1) (ofNumber first rest) := by
  have lengths := length_takeWhile_add_length_dropWhile isDigit rest
  unfold ofNumber
  simp only
  split
  · next afterPoint equality =>
    rw [equality, List.length_cons] at lengths
    have covers := ofFraction_covers (first :: rest.takeWhile isDigit) afterPoint
    have total : (first :: rest.takeWhile isDigit).length + 1 + afterPoint.length =
        rest.length + 1 := by
      rw [List.length_cons]
      omega
    rw [total] at covers
    exact covers
  · refine covers_token (by decide) ?_
    rw [List.length_cons]
    omega

theorem ofMark_covers : Covers (rest.length + 1) (ofMark first rest) := by
  unfold ofMark
  split
  · next kind equality =>
    rw [String.singleton_eq_ofList]
    refine covers_token (isSpelled_of_ofChar? equality) ?_
    rw [List.length_singleton, Nat.add_comm]
  · trivial

theorem ofSymbol_covers : Covers (rest.length + 1) (ofSymbol first rest) := by
  unfold ofSymbol
  split
  · exact ofMark_covers first []
  · next second others =>
    split
    · next kind equality =>
      refine covers_token (isSpelled_of_ofTwoChars? equality) ?_
      simp only [List.length_cons, List.length_nil]
      omega
    · exact ofMark_covers first (second :: others)

theorem ofComment_covers : Covers (rest.length + 1) (ofComment rest) := by
  have lengths := length_takeWhile_add_length_dropWhile (fun c => decide (c ≠ '\n')) rest
  unfold ofComment
  simp only
  split
  · next equality =>
    rw [equality] at lengths
    simp only [Covers, List.length_nil] at lengths ⊢
    omega
  · next equality =>
    rw [equality, List.length_cons] at lengths
    simp only [Covers]
    omega

/-- A lexeme covers its first character and what followed, up to what remains. -/
theorem next_covers : Covers (rest.length + 1) (next first rest) := by
  unfold next
  split
  · exact Nat.add_comm 1 rest.length
  split
  · exact ofComment_covers rest
  split
  · exact ofWord_covers first rest
  split
  · exact ofString_covers rest
  split
  · exact covers_token (by decide) (Nat.add_comm ['='].length rest.length)
  split
  · exact ofNumber_covers first rest
  · exact ofSymbol_covers first rest

end Lexeme

/-! ## Steps of a scan -/

variable {detailed : Bool}

theorem scanFrom_nil (offset : Nat) (scan : Scan) :
    scanFrom detailed offset [] scan = ⟨scan, none⟩ := by
  rw [scanFrom]

theorem scanFrom_of_blank
    {first : Char} {rest after : List Char} (found : Lexeme.next first rest = .blank after)
    (offset : Nat) (scan : Scan) :
    scanFrom detailed offset (first :: rest) scan =
      scanFrom detailed (offset + 1) after scan := by
  rw [scanFrom]
  split <;> rename_i equality <;> rw [found] at equality <;> cases equality
  rfl

theorem scanFrom_of_comment
    {first : Char} {rest after : List Char} {length : Nat}
    (found : Lexeme.next first rest = .comment length after)
    (offset : Nat) (scan : Scan) :
    scanFrom detailed offset (first :: rest) scan =
      scanFrom detailed (offset + length) after
        { scan with statistics := scan.statistics.countComment } := by
  rw [scanFrom]
  split <;> rename_i equality <;> rw [found] at equality <;> cases equality
  rfl

/-- What has been read after one more token. -/
def Scan.withToken (scan : Scan) (detailed : Bool) (token : Token) : Scan where
  tokens := scan.tokens.push token
  statistics := (scan.statistics.measure token.kind token.text.length).count detailed token.kind

/-- A token is kept as long as there is room. -/
theorem scanFrom_of_token
    {first : Char} {rest after : List Char} {kind : TokenKind} {text : String}
    (found : Lexeme.next first rest = .token kind text after)
    (offset : Nat) {scan : Scan} (room : scan.tokens.size < Limits.maxTokenCount) :
    scanFrom detailed offset (first :: rest) scan =
      scanFrom detailed (offset + Token.sourceLength ⟨kind, text, offset⟩) after
        (scan.withToken detailed ⟨kind, text, offset⟩) := by
  rw [scanFrom]
  split <;> rename_i equality <;> rw [found] at equality <;> cases equality
  exact if_neg (Nat.not_le.mpr room)

theorem scanFrom_of_fault
    {first : Char} {rest : List Char} {fault : LexicalFault} {distance : Nat}
    (found : Lexeme.next first rest = .fault fault distance) (offset : Nat) (scan : Scan) :
    scanFrom detailed offset (first :: rest) scan = ⟨scan, some (fault, offset + distance)⟩ := by
  rw [scanFrom]
  split <;> rename_i equality <;> rw [found] at equality <;> cases equality
  rfl

theorem scanFrom_of_full
    {first : Char} {rest after : List Char} {kind : TokenKind} {text : String}
    (found : Lexeme.next first rest = .token kind text after)
    (offset : Nat) {scan : Scan} (full : Limits.maxTokenCount ≤ scan.tokens.size) :
    scanFrom detailed offset (first :: rest) scan =
      ⟨{ scan with statistics := scan.statistics.measure kind text.length },
        some (.tooManyTokens (scan.tokens.size + 1), offset)⟩ := by
  rw [scanFrom]
  split <;> rename_i equality <;> rw [found] at equality <;> cases equality
  exact if_pos full

/-! ## Scanning over a line end -/

/-- A text that can be split is split in the same way when a line end and more text follow. -/
theorem scanFrom_append_newline
    {characters : List Char} {offset : Nat} {scan final : Scan}
    (scanned : scanFrom detailed offset characters scan = ⟨final, none⟩) (more : List Char) :
    scanFrom detailed offset (characters ++ '\n' :: more) scan =
      scanFrom detailed (offset + characters.length + 1) more final := by
  fun_induction scanFrom detailed offset characters scan with
  | case1 offset scan =>
      cases scanned
      have isBlank : Lexeme.next '\n' more = .blank more := by
        rw [Lexeme.next, if_pos (by decide)]
      rw [List.nil_append, scanFrom_of_blank isBlank]
      rfl
  | case2 offset scan first rest after found inductionHypothesis =>
      have readsOn := Lexeme.next_readsOn first rest more
      have covers := Lexeme.next_covers first rest
      rw [found] at readsOn covers
      rw [List.cons_append, scanFrom_of_blank readsOn, inductionHypothesis scanned,
        List.length_cons, ← covers, Nat.add_assoc offset 1 after.length]
  | case3 offset scan first rest length after found inductionHypothesis =>
      have readsOn := Lexeme.next_readsOn first rest more
      have covers := Lexeme.next_covers first rest
      rw [found] at readsOn covers
      rw [List.cons_append, List.length_cons, ← covers]
      rcases readsOn with readsOn | ⟨rfl, readsOn⟩
      · rw [scanFrom_of_comment readsOn, inductionHypothesis scanned,
          Nat.add_assoc offset length after.length]
      · -- The comment ran to the end of the text, so it takes in the line end.
        rw [scanFrom_nil] at scanned
        cases scanned
        rw [scanFrom_of_comment readsOn]
        rfl
  | case4 offset scan first rest fault distance found => cases scanned
  | case5 offset scan first rest kind text after found measured full => cases scanned
  | case6 offset scan first rest kind text after found token measured room inductionHypothesis =>
      have readsOn := Lexeme.next_readsOn first rest more
      have covers := Lexeme.next_covers first rest
      rw [found] at readsOn covers
      rw [List.cons_append, scanFrom_of_token readsOn offset (Nat.not_le.mp room),
        List.length_cons, ← covers.2, ← Nat.add_assoc]
      exact inductionHypothesis scanned

/-! ## Scanning at another place -/

def Token.shift (distance : Nat) (token : Token) : Token :=
  { token with offset := token.offset + distance }

/-- A scan reads the same tokens at any place and after any other tokens, as long as there is room
for them, and it ends in the same way, at the end of the characters or with the same fault. Only the
fault for want of room tells how many tokens were there before; it is the same if there were not
fewer of them. -/
theorem scanFrom_shift
    {characters : List Char} {offset : Nat} {scan final : Scan}
    {fault? : Option (LexicalFault × Nat)}
    (scanned : scanFrom detailed offset characters scan = ⟨final, fault?⟩) :
    ∃ tokens : List Token,
      final.tokens.toList = scan.tokens.toList ++ tokens ∧
      (∀ token ∈ tokens, token.kind ≠ .endOfInput) ∧
      ∀ (distance : Nat) (other : Scan),
        (fault? = none ∨ scan.tokens.size ≤ other.tokens.size) →
        other.tokens.size + tokens.length ≤ Limits.maxTokenCount →
        ∃ final' : Scan,
          scanFrom detailed (offset + distance) characters other =
            ⟨final', fault?.map (Prod.map id (· + distance))⟩ ∧
          final'.tokens.toList = other.tokens.toList ++ tokens.map (Token.shift distance) := by
  fun_induction scanFrom detailed offset characters scan with
  | case1 offset scan =>
      cases scanned
      refine ⟨[], (List.append_nil _).symm, List.forall_mem_nil _, ?_⟩
      intro distance other _ _
      exact ⟨other, scanFrom_nil _ other, (List.append_nil _).symm⟩
  | case2 offset scan first rest after found inductionHypothesis =>
      obtain ⟨tokens, appended, notEnd, elsewhere⟩ := inductionHypothesis scanned
      refine ⟨tokens, appended, notEnd, ?_⟩
      intro distance other notFewer room
      rw [scanFrom_of_blank found, Nat.add_right_comm]
      exact elsewhere distance other notFewer room
  | case3 offset scan first rest length after found inductionHypothesis =>
      obtain ⟨tokens, appended, notEnd, elsewhere⟩ := inductionHypothesis scanned
      refine ⟨tokens, appended, notEnd, ?_⟩
      intro distance other notFewer room
      rw [scanFrom_of_comment found, Nat.add_right_comm]
      exact elsewhere distance _ notFewer room
  | case4 offset scan first rest fault behind found =>
      cases scanned
      refine ⟨[], (List.append_nil _).symm, List.forall_mem_nil _, ?_⟩
      intro distance other _ _
      refine ⟨other, ?_, (List.append_nil _).symm⟩
      rw [scanFrom_of_fault found, Nat.add_right_comm]
      rfl
  | case5 offset scan first rest kind text after found measured full =>
      cases scanned
      refine ⟨[], (List.append_nil _).symm, List.forall_mem_nil _, ?_⟩
      intro distance other notFewer room
      have notFewer := notFewer.resolve_left nofun
      -- The other scan is full as well, and with the same number of tokens.
      have otherFull : Limits.maxTokenCount ≤ other.tokens.size := Nat.le_trans full notFewer
      have sameSize : other.tokens.size = scan.tokens.size :=
        Nat.le_antisymm (Nat.le_trans room full) notFewer
      refine ⟨{ other with statistics := other.statistics.measure kind text.length }, ?_,
        (List.append_nil _).symm⟩
      rw [scanFrom_of_full found _ otherFull, sameSize]
      rfl
  | case6 offset scan first rest kind text after found token measured room inductionHypothesis =>
      have covers := Lexeme.next_covers first rest
      rw [found] at covers
      obtain ⟨tokens, appended, notEnd, elsewhere⟩ := inductionHypothesis scanned
      refine ⟨token :: tokens, ?_, List.forall_mem_cons.mpr ⟨covers.1, notEnd⟩, ?_⟩
      · rw [appended, Array.toList_push, List.append_assoc]
        rfl
      · intro distance other notFewer otherRoom
        rw [List.length_cons] at otherRoom
        rw [scanFrom_of_token found _ (by omega), Nat.add_right_comm]
        obtain ⟨final', scanned', appended'⟩ :=
          elsewhere distance (other.withToken detailed ⟨kind, text, offset + distance⟩)
            (notFewer.imp_right fun notFewer => by
              rw [Scan.withToken, Array.size_push, Array.size_push]
              exact Nat.succ_le_succ notFewer)
            (by
              rw [Scan.withToken, Array.size_push]
              omega)
        refine ⟨final', scanned', ?_⟩
        rw [appended', Scan.withToken, Array.toList_push, List.append_assoc]
        rfl

/-! ## Joined lines -/

/-- The tokens of a source without the mark at its end; none if it cannot be split. -/
def sourceTokens (detailed : Bool) (source : String) : List Token :=
  ((tokenize detailed source).result.toOption.getD []).dropLast

/-- The source can be split into tokens. -/
def Splits (detailed : Bool) (source : String) : Prop :=
  ∃ tokens, (tokenize detailed source).result = .ok tokens

theorem tokenize_of_scan
    {source : String} {final : Scan}
    (scanned : scanFrom detailed 0 source.toList {} = ⟨final, none⟩) :
    (tokenize detailed source).result =
      .ok (final.tokens.toList ++ [Token.endOfInput source.length]) := by
  unfold tokenize
  rw [scanned]
  simp only [Array.toList_push]

theorem exists_scan_of_splits {source : String} (splits : Splits detailed source) :
    ∃ final : Scan,
      scanFrom detailed 0 source.toList {} = ⟨final, none⟩ ∧
      final.tokens.toList = sourceTokens detailed source := by
  obtain ⟨tokens, result⟩ := splits
  rcases scanned : scanFrom detailed 0 source.toList {} with ⟨final, _ | ⟨fault, position⟩⟩
  · refine ⟨final, rfl, ?_⟩
    rw [sourceTokens, tokenize_of_scan scanned, Except.toOption, Option.getD_some,
      List.dropLast_concat]
  · rw [tokenize, scanned] at result
    cases result

/-- The tokens of a source that can be split, with the mark at its end. -/
theorem Splits.tokenize_eq {source : String} (splits : Splits detailed source) :
    (tokenize detailed source).result =
      .ok (sourceTokens detailed source ++ [Token.endOfInput source.length]) := by
  obtain ⟨final, scanned, tokens⟩ := exists_scan_of_splits splits
  rw [tokenize_of_scan scanned, tokens]

theorem Splits.kind_ne_endOfInput
    {source : String} (splits : Splits detailed source)
    {token : Token} (member : token ∈ sourceTokens detailed source) :
    token.kind ≠ .endOfInput := by
  obtain ⟨final, scanned, tokens⟩ := exists_scan_of_splits splits
  obtain ⟨found, appended, notEnd, _⟩ := scanFrom_shift scanned
  rw [← tokens, appended] at member
  exact notEnd token member

/-- A source that splits does so at any place and behind any tokens, as long as there is room. -/
theorem Splits.scanFrom_eq
    {source : String} (splits : Splits detailed source) (offset : Nat) (scan : Scan)
    (room : scan.tokens.size + (sourceTokens detailed source).length ≤ Limits.maxTokenCount) :
    ∃ final : Scan,
      scanFrom detailed offset source.toList scan = ⟨final, none⟩ ∧
      final.tokens.toList =
        scan.tokens.toList ++ (sourceTokens detailed source).map (Token.shift offset) := by
  obtain ⟨final, scanned, tokens⟩ := exists_scan_of_splits splits
  obtain ⟨found, appended, _, elsewhere⟩ := scanFrom_shift scanned
  have sameTokens : sourceTokens detailed source = found := tokens.symm.trans appended
  rw [sameTokens] at room ⊢
  have moved := elsewhere offset scan (.inl rfl) room
  rw [Nat.zero_add] at moved
  exact moved

/-- The tokens of lines that are joined, the first of them at an offset. -/
def joinedTokens (detailed : Bool) : Nat → List String → List Token
  | _, [] => []
  | offset, line :: lines =>
    (sourceTokens detailed line).map (Token.shift offset) ++
      joinedTokens detailed (offset + line.length + 1) lines

/-- How many tokens the lines have together. -/
def tokenCount (detailed : Bool) (lines : List String) : Nat :=
  (lines.map fun line => (sourceTokens detailed line).length).sum

/-- Lines that split are read one after another when they are joined. -/
theorem scanFrom_intercalate
    {lines : List String} (splits : ∀ line ∈ lines, Splits detailed line)
    (offset : Nat) (scan : Scan)
    (room : scan.tokens.size + tokenCount detailed lines ≤ Limits.maxTokenCount) :
    ∃ final : Scan,
      scanFrom detailed offset ("\n".intercalate lines).toList scan = ⟨final, none⟩ ∧
      final.tokens.toList = scan.tokens.toList ++ joinedTokens detailed offset lines := by
  induction lines generalizing offset scan with
  | nil => exact ⟨scan, scanFrom_nil offset scan, (List.append_nil _).symm⟩
  | cons line lines inductionHypothesis =>
      rw [tokenCount, List.map_cons, List.sum_cons] at room
      obtain ⟨middle, scanned, tokens⟩ :=
        (splits line List.mem_cons_self).scanFrom_eq offset scan (by omega)
      cases lines with
      | nil =>
          refine ⟨middle, scanned, ?_⟩
          rw [tokens, joinedTokens, joinedTokens, List.append_nil]
      | cons next lines =>
          have size : middle.tokens.size =
              scan.tokens.size + (sourceTokens detailed line).length := by
            rw [← Array.length_toList, tokens, List.length_append, List.length_map,
              Array.length_toList]
          obtain ⟨final, scannedRest, tokensRest⟩ :=
            inductionHypothesis (fun other member => splits other (List.mem_cons_of_mem _ member))
              (offset + line.length + 1) middle (by
                rw [tokenCount]
                omega)
          refine ⟨final, ?_, ?_⟩
          · rw [String.intercalate_cons_cons, String.toList_append, String.toList_append,
              List.append_assoc]
            exact (scanFrom_append_newline scanned _).trans scannedRest
          · rw [tokensRest, tokens, List.append_assoc]
            rfl

/-- Joined lines have the tokens of the lines, one after another. -/
theorem tokenize_intercalate
    {lines : List String} (splits : ∀ line ∈ lines, Splits detailed line)
    (room : tokenCount detailed lines ≤ Limits.maxTokenCount) :
    (tokenize detailed ("\n".intercalate lines)).result =
      .ok (joinedTokens detailed 0 lines ++
        [Token.endOfInput ("\n".intercalate lines).length]) := by
  obtain ⟨final, scanned, tokens⟩ :=
    scanFrom_intercalate splits 0 {} (Nat.le_trans (Nat.le_of_eq (Nat.zero_add _)) room)
  rw [tokenize_of_scan scanned, tokens]
  rfl

/-- How many characters stand before what is joined to the lines, line ends included. -/
def charactersOf (lines : List String) : Nat :=
  (lines.map fun line => line.length + 1).sum

theorem joinedTokens_concat (offset : Nat) (lines : List String) (last : String) :
    joinedTokens detailed offset (lines ++ [last]) =
      joinedTokens detailed offset lines ++
        (sourceTokens detailed last).map (Token.shift (offset + charactersOf lines)) := by
  induction lines generalizing offset with
  | nil => exact List.append_nil _
  | cons line lines inductionHypothesis =>
      have moved : offset + line.length + 1 + charactersOf lines =
          offset + charactersOf (line :: lines) := by
        rw [charactersOf, charactersOf, List.map_cons, List.sum_cons]
        omega
      rw [List.cons_append, joinedTokens, inductionHypothesis, moved, joinedTokens,
        List.append_assoc]

theorem length_intercalate_concat (lines : List String) (last : String) :
    ("\n".intercalate (lines ++ [last])).length = charactersOf lines + last.length := by
  induction lines with
  | nil => simp [charactersOf]
  | cons line lines inductionHypothesis =>
      rw [List.cons_append, String.intercalate_cons_of_ne_nil (by simp), String.length_append,
        String.length_append, inductionHypothesis, charactersOf, charactersOf, List.map_cons,
        List.sum_cons]
      change line.length + 1 + _ = _
      omega

end PugScript
