import PugScript.Proofs.Lexing.Coverage

/-!
# Splitting undoes printing

Well spelled kinds and texts can be printed with any separating layout between them: the source
then splits into these kinds and texts again, each at the offset where it was printed. All tokens
that come out of a source are well spelled, so nothing else can be printed and read back.
-/

namespace PugScript

open PugScript.Text

/-- A kind and a text, printed behind a gap. -/
structure Printed where
  gap : List Char
  kind : TokenKind
  text : String

/-- Layout that begins with a blank character, so that no token goes on in it. -/
def Separates (gap : List Char) : Prop :=
  ∃ first rest, gap = first :: rest ∧ isBlank first = true ∧ IsLayout rest

def printed : List Printed → List Char
  | [] => []
  | item :: items => item.gap ++ (spelling item.kind item.text ++ printed items)

/-- The tokens that were printed, the first gap at the given offset. -/
def printedTokens : Nat → List Printed → List Token
  | _, [] => []
  | offset, item :: items =>
    ⟨item.kind, item.text, offset + item.gap.length⟩ ::
      printedTokens (offset + item.gap.length + (spelling item.kind item.text).length) items

/-- What is printed is well spelled, and every gap but the first separates what stands around
it. -/
structure IsPrintable (items : List Printed) : Prop where
  wellSpelled : ∀ item ∈ items, WellSpelled item.kind item.text
  firstGap : ∀ item ∈ items.head?, IsLayout item.gap
  separated : ∀ item ∈ items.tail, Separates item.gap

theorem Separates.isLayout {gap : List Char} (separates : Separates gap) : IsLayout gap := by
  obtain ⟨first, rest, rfl, blank, isLayout⟩ := separates
  exact .blank blank isLayout

theorem length_printedTokens (offset : Nat) (items : List Printed) :
    (printedTokens offset items).length = items.length := by
  induction items generalizing offset with
  | nil => rfl
  | cons item items inductionHypothesis =>
      rw [printedTokens, List.length_cons, List.length_cons, inductionHypothesis]

theorem goesOnWith_of_isBlank (kind : TokenKind) {next : Char} (blank : isBlank next = true) :
    kind.goesOnWith next = false := by
  cases isWord : kind.isWord with
  | true =>
      rw [goesOnWith_of_isWord isWord]
      exact isWordPart_of_isBlank blank
  | false =>
      have notDigit : isDigit next = false := eq_false_of_isBlank isDigit (by decide) blank
      have notPoint : (next == '.') = false :=
        eq_false_of_isBlank (· == '.') (by decide) blank
      have notSlash : (next == '/') = false :=
        eq_false_of_isBlank (· == '/') (by decide) blank
      have notEquals : (next == '=') = false :=
        eq_false_of_isBlank (· == '=') (by decide) blank
      cases kind <;>
        simp_all [TokenKind.goesOnWith, TokenKind.isWord]

theorem Reads.behind_layout
    {gap : List Char} (isLayout : IsLayout gap) {offset : Nat} {characters : List Char}
    {tokens : List Token} (reads : Reads (offset + gap.length) characters tokens) :
    Reads offset (gap ++ characters) tokens := by
  induction isLayout generalizing offset with
  | nil => exact reads
  | @blank first rest isBlank _ inductionHypothesis =>
      have readsRest : Reads (offset + 1) (rest ++ characters) tokens := by
        apply inductionHypothesis
        rwa [List.length_cons, Nat.add_comm rest.length, ← Nat.add_assoc] at reads
      exact .blank isBlank readsRest
  | @comment line rest noLineEnd _ inductionHypothesis =>
      have readsRest : Reads (offset + (line.length + 3)) (rest ++ characters) tokens := by
        apply inductionHypothesis
        have width : offset + (line.length + 3) + rest.length =
            offset + ('/' :: '/' :: line ++ '\n' :: rest).length := by
          simp only [List.length_append, List.length_cons]
          omega
        rwa [width]
      have comment : CommentAt _ _ (rest ++ characters) := .line noLineEnd
      have whole := Reads.comment comment readsRest
      simpa using whole

/-- In what is printed, no token goes on into what stands behind it. -/
theorem IsPrintable.endsBefore
    {item : Printed} {items : List Printed} (printable : IsPrintable (item :: items))
    (kind : TokenKind) : kind.EndsBefore (printed items) := by
  cases items with
  | nil => exact kind.endsBefore_nil
  | cons next items =>
      obtain ⟨first, rest, gap, blank, _⟩ := printable.separated next List.mem_cons_self
      rw [printed, gap, List.cons_append, TokenKind.endsBefore_cons]
      exact goesOnWith_of_isBlank kind blank

theorem IsPrintable.tail
    {item : Printed} {items : List Printed} (printable : IsPrintable (item :: items)) :
    IsPrintable items where
  wellSpelled other member := printable.wellSpelled other (List.mem_cons_of_mem _ member)
  firstGap other isFirst := (printable.separated other (List.mem_of_mem_head? isFirst)).isLayout
  separated other member := printable.separated other (List.mem_of_mem_tail member)

/-- The grammar reads what was printed. -/
theorem IsPrintable.reads
    {items : List Printed} (printable : IsPrintable items) (offset : Nat) :
    Reads offset (printed items) (printedTokens offset items) := by
  induction items generalizing offset with
  | nil => exact .finish
  | cons item items inductionHypothesis =>
      have isToken : TokenAt (spelling item.kind item.text ++ printed items) item.kind item.text
          (printed items) :=
        ⟨printable.wellSpelled item List.mem_cons_self, rfl, printable.endsBefore item.kind⟩
      have readsItems := inductionHypothesis printable.tail
        (offset + item.gap.length + (spelling item.kind item.text).length)
      have isLayout := printable.firstGap item rfl
      exact Reads.behind_layout isLayout (.token isToken readsItems)

/-- The tokens of a source are well spelled, and well spelled tokens that are printed with layout
between them are the tokens of the printed source, where they were printed. -/
theorem tokenize_undoes_printing (detailed : Bool) :
    (∀ source tokens, (tokenize detailed source).result = .ok tokens →
      ∀ token ∈ tokens, token.kind ≠ .endOfInput → WellSpelled token.kind token.text) ∧
    (∀ items, IsPrintable items → items.length ≤ Limits.maxTokenCount →
      (tokenize detailed (String.ofList (printed items))).result =
        .ok (printedTokens 0 items ++ [Token.endOfInput (printed items).length])) := by
  constructor
  · intro source tokens splits token member notEnd
    obtain ⟨words, rfl, reads, _⟩ := tokenize_eq_ok_iff.mp splits
    rcases List.mem_append.mp member with isWord | isMark
    · exact (reads.laid.exists_at isWord).2.1
    · obtain rfl := List.mem_singleton.mp isMark
      exact absurd rfl notEnd
  · intro items printable count
    have reads := printable.reads 0
    apply tokenize_eq_ok_iff.mpr
    refine ⟨printedTokens 0 items, ?_, ?_, ?_⟩
    · rw [String.length_ofList]
    · rwa [String.toList_ofList]
    · rwa [length_printedTokens]

/-- What `if né_1`, a comment, `< -5.` and a string on a line of its own are printed from. -/
def spacedItems : List Printed :=
  [⟨[], .ifWord, "if"⟩, ⟨[' '], .identifier, "né_1"⟩, ⟨['\t', '/', '/', 'c', '\n'], .less, "<"⟩,
    ⟨[' '], .number, "-5."⟩, ⟨['\n'], .string, "a//"⟩]

theorem spacedItems_isPrintable : IsPrintable spacedItems := by
  have keyword : WellSpelled .ifWord "if" := by
    have parts : ∀ c ∈ ['f'], isWordPart c = true :=
      List.all_eq_true.mp (by decide)
    have word : IsWord "if".toList := ⟨'i', ['f'], rfl, by decide, parts⟩
    have kind : vocabularyKind "if" = .ifWord := by decide
    rw [← kind]
    exact .word word (by decide)
  have name : WellSpelled .identifier "né_1" := by
    have parts : ∀ c ∈ ['é', '_', '1'], isWordPart c = true :=
      List.all_eq_true.mp (by decide)
    have word : IsWord "né_1".toList := ⟨'n', ['é', '_', '1'], rfl, by decide, parts⟩
    have kind : vocabularyKind "né_1" = .identifier := by decide
    rw [← kind]
    exact .word word (by decide)
  have decimal : WellSpelled .number "-5." := by
    have digits : ∀ c ∈ ['5'], isDigit c = true :=
      List.all_eq_true.mp (by decide)
    have whole : IsWhole ['-', '5'] := ⟨['5'], by decide, digits, .inr rfl⟩
    exact .number (.fraction whole (List.forall_mem_nil _))
  have quoted : WellSpelled .string "a//" := .string (by decide) (by decide)
  have blank : ∀ {first : Char}, isBlank first = true → Separates [first] :=
    fun isBlank => ⟨_, [], rfl, isBlank, .nil⟩
  have comment : Separates ['\t', '/', '/', 'c', '\n'] := by
    have isLayout : IsLayout ('/' :: '/' :: ['c'] ++ ['\n']) := .comment (by decide) .nil
    exact ⟨'\t', _, rfl, rfl, isLayout⟩
  refine ⟨?_, ?_, ?_⟩
  · simp only [spacedItems, List.forall_mem_cons]
    exact ⟨keyword, name, .mark rfl, decimal, quoted, List.forall_mem_nil _⟩
  · intro item isFirst
    cases isFirst
    exact .nil
  · simp only [spacedItems, List.tail_cons, List.forall_mem_cons]
    exact ⟨blank rfl, comment, blank rfl, blank rfl, List.forall_mem_nil _⟩

theorem tokenize_spacedItems :
    IsPrintable spacedItems ∧ spacedItems.length ≤ Limits.maxTokenCount ∧
    (tokenize false (String.ofList (printed spacedItems))).result =
      .ok
        [⟨.ifWord, "if", 0⟩, ⟨.identifier, "né_1", 3⟩, ⟨.less, "<", 12⟩, ⟨.number, "-5.", 14⟩,
          ⟨.string, "a//", 18⟩, Token.endOfInput 23] := by
  have count : spacedItems.length ≤ Limits.maxTokenCount := by decide
  exact ⟨spacedItems_isPrintable, count,
    (tokenize_undoes_printing false).2 spacedItems spacedItems_isPrintable count⟩

end PugScript
