import PugScript.Lexing.Lexer
import PugScript.Proofs.Lexing.Grammar

/-!
# Statistics describe the tokens of a source

Whatever a lexer has split before, its statistics after a source are about the tokens of that
source alone: how many there are, how many of each class, and how long the longest string and the
longest word are. Only a token for which there was no room is measured and not counted.
-/

namespace PugScript

/-- The tokens that statistics are about: without the mark at the end of the source, and only those
in front of a fault. -/
def countedTokens : Except LexicalError (List Token) → List Token
  | .ok tokens => tokens.filter fun token => token.kind ≠ .endOfInput
  | .error error => error.tokens

/-- The number of characters of the longest token of some kinds; zero if there is none. -/
def longestOf (kinds : TokenKind → Bool) (tokens : List Token) : Nat :=
  ((tokens.filter fun token => kinds token.kind).map fun token => token.text.length).foldl max 0

/-- How many of the tokens belong to a class. -/
def classSize (tokenClass : TokenClass) (tokens : List Token) : Nat :=
  tokens.countP fun token => token.kind.tokenClass = tokenClass

theorem longestOf_concat (kinds : TokenKind → Bool) (tokens : List Token) (token : Token) :
    longestOf kinds (tokens ++ [token]) =
      if kinds token.kind then max (longestOf kinds tokens) token.text.length
      else longestOf kinds tokens := by
  by_cases isOne : kinds token.kind = true
  · simp [longestOf, isOne]
  · simp [longestOf, isOne]

theorem classSize_concat (tokenClass : TokenClass) (tokens : List Token) (token : Token) :
    classSize tokenClass (tokens ++ [token]) =
      classSize tokenClass tokens + if token.kind.tokenClass = tokenClass then 1 else 0 := by
  simp [classSize, List.countP_append, List.countP_singleton]

theorem tokenClass_ne_special {kind : TokenKind} (notMark : kind ≠ .endOfInput) :
    kind.tokenClass ≠ .special := by
  cases kind <;> simp_all [TokenKind.tokenClass]

/-- Every token but the mark at the end belongs to one of the five classes. -/
theorem sum_classSize {tokens : List Token} (notMark : ∀ token ∈ tokens, token.kind ≠ .endOfInput) :
    classSize .literal tokens + classSize .name tokens + classSize .operator tokens +
      classSize .punctuation tokens + classSize .keyword tokens = tokens.length := by
  induction tokens using List.reverseRecOn with
  | nil => rfl
  | append_singleton tokens token inductionHypothesis =>
      have sum := inductionHypothesis fun other member => notMark other (by simp [member])
      have special := tokenClass_ne_special (notMark token (by simp))
      simp only [classSize_concat, List.length_append, List.length_singleton]
      cases tokenClass : token.kind.tokenClass <;> simp_all <;> omega

namespace LexicalStatistics

def classCount (statistics : LexicalStatistics) : TokenClass → Nat
  | .literal => statistics.literals
  | .name => statistics.names
  | .operator => statistics.operators
  | .punctuation => statistics.punctuation
  | .keyword => statistics.keywords
  | .special => 0

/-- The statistics count the tokens, and by class if that is asked for. -/
structure Counts (detailed : Bool) (tokens : List Token) (statistics : LexicalStatistics) :
    Prop where
  total : statistics.total = tokens.length
  classes : ∀ tokenClass, tokenClass ≠ .special →
    statistics.classCount tokenClass = if detailed then classSize tokenClass tokens else 0

/-- The statistics have the lengths of the longest string and of the longest word. -/
structure Measures (tokens : List Token) (statistics : LexicalStatistics) : Prop where
  string : statistics.longestString = longestOf (· = .string) tokens
  word : statistics.longestWord = longestOf TokenKind.isWord tokens

variable {statistics : LexicalStatistics} {detailed : Bool} {tokens : List Token}

@[simp]
theorem total_countClass (counted : TokenClass) :
    (statistics.countClass counted).total = statistics.total := by
  cases counted <;> rfl

theorem classCount_countClass {tokenClass : TokenClass} (notSpecial : tokenClass ≠ .special)
    (counted : TokenClass) :
    (statistics.countClass counted).classCount tokenClass =
      statistics.classCount tokenClass + if counted = tokenClass then 1 else 0 := by
  cases tokenClass <;> cases counted <;> simp_all [countClass, classCount]

@[simp]
theorem longestString_countClass (counted : TokenClass) :
    (statistics.countClass counted).longestString = statistics.longestString := by
  cases counted <;> rfl

@[simp]
theorem longestWord_countClass (counted : TokenClass) :
    (statistics.countClass counted).longestWord = statistics.longestWord := by
  cases counted <;> rfl

@[simp]
theorem total_measure (kind : TokenKind) (length : Nat) :
    (statistics.measure kind length).total = statistics.total := by
  cases kind <;> rfl

@[simp]
theorem classCount_measure (kind : TokenKind) (length : Nat) (tokenClass : TokenClass) :
    (statistics.measure kind length).classCount tokenClass =
      statistics.classCount tokenClass := by
  cases kind <;> cases tokenClass <;> rfl

theorem longestString_measure (kind : TokenKind) (length : Nat) :
    (statistics.measure kind length).longestString =
      if kind = .string then max statistics.longestString length
      else statistics.longestString := by
  cases kind <;> rfl

theorem longestWord_measure (kind : TokenKind) (length : Nat) :
    (statistics.measure kind length).longestWord =
      if kind.isWord then max statistics.longestWord length else statistics.longestWord := by
  cases kind <;> rfl

theorem Counts.measure (counts : statistics.Counts detailed tokens) (kind : TokenKind)
    (length : Nat) : (statistics.measure kind length).Counts detailed tokens := by
  obtain ⟨total, classes⟩ := counts
  constructor
  · simpa using total
  · simpa using classes

theorem Counts.count (counts : statistics.Counts detailed tokens) (token : Token) :
    (statistics.count detailed token.kind).Counts detailed (tokens ++ [token]) := by
  obtain ⟨total, classes⟩ := counts
  cases detailed with
  | false =>
      constructor
      · simp [LexicalStatistics.count, total]
      · intro tokenClass notSpecial
        have uncounted := classes tokenClass notSpecial
        rw [if_neg Bool.false_ne_true] at uncounted ⊢
        rw [← uncounted]
        cases tokenClass <;> rfl
  | true =>
      constructor
      · simp [LexicalStatistics.count, total]
      · intro tokenClass notSpecial
        have counted := classes tokenClass notSpecial
        rw [if_pos rfl] at counted ⊢
        rw [classSize_concat, ← counted, LexicalStatistics.count, if_pos rfl,
          classCount_countClass notSpecial]
        cases tokenClass <;> rfl

theorem Measures.count (measures : statistics.Measures tokens) (kind : TokenKind) :
    (statistics.count detailed kind).Measures tokens := by
  obtain ⟨string, word⟩ := measures
  cases detailed with
  | false => exact ⟨string, word⟩
  | true =>
      constructor
      · simpa [LexicalStatistics.count] using string
      · simpa [LexicalStatistics.count] using word

theorem Measures.measure (measures : statistics.Measures tokens) (token : Token) :
    (statistics.measure token.kind token.text.length).Measures (tokens ++ [token]) := by
  obtain ⟨string, word⟩ := measures
  constructor
  · rw [longestString_measure, longestOf_concat, string]
    simp only [decide_eq_true_eq]
  · rw [longestWord_measure, longestOf_concat, word]

end LexicalStatistics

/-! ## Scanning -/

/-- What has been read so far, with statistics that describe it. -/
structure Scan.IsDescribed (detailed : Bool) (scan : Scan) : Prop where
  counts : scan.statistics.Counts detailed scan.tokens.toList
  measures : scan.statistics.Measures scan.tokens.toList
  notMark : ∀ token ∈ scan.tokens.toList, token.kind ≠ .endOfInput

/-- What is left when the scanning ends: the counts are right at every end, the lengths at every end
but that for want of room. -/
structure ScanResult.IsDescribed (detailed : Bool) (result : ScanResult) : Prop where
  counts : result.scan.statistics.Counts detailed result.scan.tokens.toList
  notMark : ∀ token ∈ result.scan.tokens.toList, token.kind ≠ .endOfInput
  measures : (∀ count position, result.fault? ≠ some (.tooManyTokens count, position)) →
    result.scan.statistics.Measures result.scan.tokens.toList

variable {detailed : Bool} {scan : Scan}

theorem Scan.isDescribed_empty (detailed : Bool) : Scan.IsDescribed detailed {} := by
  constructor
  · constructor
    · rfl
    · intro tokenClass _
      cases detailed <;> cases tokenClass <;> rfl
  · constructor <;> rfl
  · simp

theorem Scan.IsDescribed.withComment (described : scan.IsDescribed detailed) :
    Scan.IsDescribed detailed { scan with statistics := scan.statistics.countComment } := by
  obtain ⟨counts, measures, notMark⟩ := described
  refine ⟨⟨counts.total, ?_⟩, ⟨measures.string, measures.word⟩, notMark⟩
  intro tokenClass notSpecial
  rw [← counts.classes tokenClass notSpecial]
  cases tokenClass <;> rfl

/-- One more token is counted, in its class too, and measured. -/
theorem Scan.IsDescribed.withToken (described : scan.IsDescribed detailed) {token : Token}
    (notMark : token.kind ≠ .endOfInput) :
    (scan.withToken detailed token).IsDescribed detailed := by
  obtain ⟨counts, measures, earlier⟩ := described
  have appended : (scan.withToken detailed token).tokens.toList =
      scan.tokens.toList ++ [token] := Array.toList_push
  constructor
  · rw [appended]
    exact (counts.measure token.kind token.text.length).count token
  · rw [appended]
    exact (measures.measure token).count token.kind
  · intro other member
    rw [appended, List.mem_append, List.mem_singleton] at member
    rcases member with member | rfl
    · exact earlier other member
    · exact notMark

theorem Scan.IsDescribed.result (described : scan.IsDescribed detailed)
    (fault? : Option (LexicalFault × Nat)) : ScanResult.IsDescribed detailed ⟨scan, fault?⟩ :=
  ⟨described.counts, described.notMark, fun _ => described.measures⟩

/-- Statistics that describe what has been read do so at the end of the scan. -/
theorem scanFrom_isDescribed (described : scan.IsDescribed detailed) (offset : Nat)
    (characters : List Char) : (scanFrom detailed offset characters scan).IsDescribed detailed := by
  fun_induction scanFrom detailed offset characters scan with
  | case1 offset scan => exact described.result none
  | case2 offset scan first rest after found inductionHypothesis =>
      exact inductionHypothesis described
  | case3 offset scan first rest length after found inductionHypothesis =>
      exact inductionHypothesis described.withComment
  | case4 offset scan first rest fault distance found => exact described.result _
  | case5 offset scan first rest kind text after found measured full =>
      -- The token without room is measured, so that only the counts are kept.
      refine ⟨described.counts.measure kind text.length, described.notMark, ?_⟩
      intro otherFault
      exact absurd rfl (otherFault _ _)
  | case6 offset scan first rest kind text after found token measured room inductionHypothesis =>
      have covers := Lexeme.next_covers first rest
      rw [found] at covers
      exact inductionHypothesis (described.withToken covers.1)

/-! ## Lexers -/

/-- The result is a failure for want of room for one more token. -/
def IsOverfull (result : Except LexicalError (List Token)) : Prop :=
  ∃ error count, result = .error error ∧ error.fault = .tooManyTokens count

/-- The statistics after a source describe what the source was split into. -/
structure LexicalStatistics.Describes (detailed : Bool)
    (result : Except LexicalError (List Token)) (statistics : LexicalStatistics) : Prop where
  counts : statistics.Counts detailed (countedTokens result)
  sum : detailed = true →
    statistics.literals + statistics.names + statistics.operators + statistics.punctuation +
      statistics.keywords = statistics.total
  measures : ¬ IsOverfull result → statistics.Measures (countedTokens result)

/-- The counts by class add up to the total. -/
theorem LexicalStatistics.Counts.sum
    {tokens : List Token} {statistics : LexicalStatistics}
    (counts : statistics.Counts true tokens)
    (notMark : ∀ token ∈ tokens, token.kind ≠ .endOfInput) :
    statistics.literals + statistics.names + statistics.operators + statistics.punctuation +
      statistics.keywords = statistics.total := by
  have literals : statistics.literals = _ := counts.classes .literal (by decide)
  have names : statistics.names = _ := counts.classes .name (by decide)
  have operators : statistics.operators = _ := counts.classes .operator (by decide)
  have punctuation : statistics.punctuation = _ := counts.classes .punctuation (by decide)
  have keywords : statistics.keywords = _ := counts.classes .keyword (by decide)
  rw [literals, names, operators, punctuation, keywords, counts.total]
  exact sum_classSize notMark

theorem describes_of_counts
    {result : Except LexicalError (List Token)} {statistics : LexicalStatistics}
    (counts : statistics.Counts detailed (countedTokens result))
    (notMark : ∀ token ∈ countedTokens result, token.kind ≠ .endOfInput)
    (measures : ¬ IsOverfull result → statistics.Measures (countedTokens result)) :
    statistics.Describes detailed result := by
  refine ⟨counts, ?_, measures⟩
  rintro rfl
  exact counts.sum notMark

theorem tokenize_describes (detailed : Bool) (source : String) :
    (tokenize detailed source).statistics.Describes detailed (tokenize detailed source).result := by
  have described := scanFrom_isDescribed (Scan.isDescribed_empty detailed) 0 source.toList
  unfold tokenize
  generalize scanFrom detailed 0 source.toList {} = scanned at described
  obtain ⟨scan, fault?⟩ := scanned
  obtain ⟨counts, notMark, measures⟩ := described
  cases fault? with
  | none =>
      have handedOut : countedTokens
          (.ok (scan.tokens.push (Token.endOfInput source.length)).toList) =
            scan.tokens.toList := by
        simpa [countedTokens, Token.endOfInput] using notMark
      apply describes_of_counts
      · rwa [handedOut]
      · rwa [handedOut]
      · rw [handedOut]
        exact fun _ => measures (by simp)
  | some found =>
      obtain ⟨fault, position⟩ := found
      apply describes_of_counts
      · exact counts
      · exact notMark
      · intro room
        apply measures
        rintro count _ ⟨⟩
        exact room ⟨_, count, rfl, rfl⟩

namespace Lexer

theorem detailed_split (lexer : Lexer) (source : String) :
    (lexer.split source).2.detailed = lexer.detailed := by
  unfold split
  simp only
  split <;> rfl

theorem detailed_after (lexer : Lexer) (sources : List String) :
    (lexer.after sources).detailed = lexer.detailed := by
  induction sources generalizing lexer with
  | nil => rfl
  | cons source sources inductionHypothesis =>
      have later := inductionHypothesis (lexer.split source).2
      rw [detailed_split] at later
      exact later

/-- A lexer gives what splitting the source on its own gives, whatever is left behind in it. -/
theorem split_eq_tokenize (lexer : Lexer) (source : String) :
    (lexer.split source).1 = (tokenize lexer.detailed source).result ∧
    (lexer.split source).2.statistics = (tokenize lexer.detailed source).statistics := by
  unfold split tokenize statistics
  simp only [restart]
  cases (scanFrom lexer.detailed 0 source.toList {}).fault? with
  | none => exact ⟨rfl, rfl⟩
  | some _ => exact ⟨rfl, rfl⟩

/-- After any sources, split or not, the statistics of a lexer describe the tokens of the last one;
they are those of splitting that source on its own. -/
theorem statistics_describe_last_source (lexer : Lexer) (earlier : List String)
    (source : String) :
    ((lexer.after earlier).split source).2.statistics.Describes lexer.detailed
      ((lexer.after earlier).split source).1 ∧
    ((lexer.after earlier).split source).1 = (tokenize lexer.detailed source).result ∧
    ((lexer.after earlier).split source).2.statistics =
      (tokenize lexer.detailed source).statistics := by
  have alike := split_eq_tokenize (lexer.after earlier) source
  rw [detailed_after] at alike
  refine ⟨?_, alike⟩
  rw [alike.1, alike.2]
  exact tokenize_describes lexer.detailed source

example :
    (((Lexer.mk true {}).after ["a b \"", "+"]).split "x = \"né\"").2.statistics =
      { total := 3, literals := 1, names := 1, operators := 1, longestString := 2,
        longestWord := 1 } := by
  cbv

end Lexer

end PugScript
