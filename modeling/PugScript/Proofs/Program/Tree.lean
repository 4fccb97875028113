import PugScript.Proofs.Evaluation.Success

/-!
# Programs as trees

A program is a list of statements, and a statement is a tree. Trees are printed to tokens with
parentheses only where an operand binds more loosely than its place allows: `||` is the loosest
operator, then `&&`, the comparisons, `+ - %`, and `* /`; a sign binds tighter, and assignments and
declarations bind more loosely than any operator. Operators of one tier group to the left.
-/

namespace PugScript

/-! ## Trees -/

inductive Sign where
  | plus
  | minus
  deriving DecidableEq, Repr

inductive Operator where
  | or
  | and
  | equal
  | notEqual
  | greater
  | greaterOrEqual
  | less
  | lessOrEqual
  | plus
  | minus
  | remainder
  | multiply
  | divide
  deriving DecidableEq, Repr

/-- An expression or a statement. -/
inductive Tree where
  | number (text : String)
  | truth (value : Bool)
  | quote (content : String)
  | read (name : String)
  | assign (name : String) (value : Tree)
  /-- A declaration without an initial value. -/
  | declare (typeName name : String)
  /-- A declaration with an initial value. -/
  | define (typeName name : String) (value : Tree)
  | signed (sign : Sign) (operand : Tree)
  | binary (operator : Operator) (left right : Tree)
  /-- Parentheses that are written without need. -/
  | group (inner : Tree)
  | call (function : String) (arguments : List Tree)
  | ifThen (condition : Tree) (body : List Tree)
  | ifElse (condition : Tree) (body otherwise : List Tree)
  | whileLoop (condition : Tree) (body : List Tree)

/-! ## Operators -/

namespace Sign

def kind : Sign → TokenKind
  | plus => .plus
  | minus => .minus

def spelling : Sign → String
  | plus => "+"
  | minus => "-"

theorem isSign_kind (sign : Sign) : Evaluation.IsSign sign.kind := by
  cases sign <;> decide

end Sign

/-- How loosely the operators of a tier bind. -/
def Tier.looseness : Tier → Nat
  | multiplicative => 1
  | additive => 2
  | comparison => 3
  | conjunction => 4
  | disjunction => 5

namespace Operator

def kind : Operator → TokenKind
  | or => .or
  | and => .and
  | equal => .equal
  | notEqual => .notEqual
  | greater => .greater
  | greaterOrEqual => .greaterOrEqual
  | less => .less
  | lessOrEqual => .lessOrEqual
  | plus => .plus
  | minus => .minus
  | remainder => .remainder
  | multiply => .multiply
  | divide => .divide

def spelling : Operator → String
  | or => "||"
  | and => "&&"
  | equal => "=="
  | notEqual => "!="
  | greater => ">"
  | greaterOrEqual => ">="
  | less => "<"
  | lessOrEqual => "<="
  | plus => "+"
  | minus => "-"
  | remainder => "%"
  | multiply => "*"
  | divide => "/"

def tier : Operator → Tier
  | or => .disjunction
  | and => .conjunction
  | equal | notEqual | greater | greaterOrEqual | less | lessOrEqual => .comparison
  | plus | minus | remainder => .additive
  | multiply | divide => .multiplicative

/-- An operator is accepted by its own tier and by no other. -/
theorem accepts_kind_iff (operator : Operator) (tier : Tier) :
    tier.accepts operator.kind = true ↔ tier = operator.tier := by
  cases operator <;> cases tier <;> decide

theorem isPlain_kind (operator : Operator) : operator.kind.IsPlain := by
  cases operator <;> decide

end Operator

/-! ## Printing -/

/-- A token without a place. -/
def word (kind : TokenKind) (text : String) : Token :=
  ⟨kind, text, 0⟩

namespace Tree

/-- How loosely the parts of a tree hold together; zero for what no operator can pull apart. -/
def looseness : Tree → Nat
  | binary operator _ _ => operator.tier.looseness
  | assign _ _ | declare _ _ | define _ _ _ => 6
  | _ => 0

def enclose (tokens : List Token) : List Token :=
  word .openParenthesis "(" :: (tokens ++ [word .closeParenthesis ")"])

/-- The tokens of an operand at a place that allows the given looseness. -/
def guarded (allowed : Nat) (tree : Tree) (tokens : List Token) : List Token :=
  if tree.looseness ≤ allowed then tokens else enclose tokens

mutual

@[simp]
def tokens : Tree → List Token
  | number text => [word .number text]
  | truth value => [word .bool (if value then "true" else "false")]
  | quote content => [word .string content]
  | read name => [word .identifier name]
  | assign name value => word .identifier name :: word .assign "=" :: value.tokens
  | declare typeName name => [word .dataType typeName, word .identifier name]
  | define typeName name value =>
    word .dataType typeName :: word .identifier name :: word .assign "=" :: value.tokens
  | signed sign operand => word sign.kind sign.spelling :: guarded 0 operand operand.tokens
  | binary operator left right =>
    guarded operator.tier.looseness left left.tokens ++
      word operator.kind operator.spelling ::
        guarded (operator.tier.looseness - 1) right right.tokens
  | group inner => enclose inner.tokens
  | call function arguments =>
    word .function function :: enclose (argumentTokens arguments)
  | ifThen condition body =>
    word .ifWord "if" :: (condition.tokens ++ (blockTokens body ++ [word .endWord "end"]))
  | ifElse condition body otherwise =>
    word .ifWord "if" :: (condition.tokens ++ (blockTokens body ++
      word .elseWord "else" :: (blockTokens otherwise ++ [word .endWord "end"])))
  | whileLoop condition body =>
    word .whileWord "while" :: (condition.tokens ++ (blockTokens body ++ [word .endWord "end"]))

/-- The tokens of arguments, with commas between them. -/
@[simp]
def argumentTokens : List Tree → List Token
  | [] => []
  | first :: others => first.tokens ++ moreArgumentTokens others

/-- The tokens of further arguments, each behind a comma. -/
@[simp]
def moreArgumentTokens : List Tree → List Token
  | [] => []
  | next :: others => word .comma "," :: (next.tokens ++ moreArgumentTokens others)

@[simp]
def blockTokens : List Tree → List Token
  | [] => []
  | statement :: others => statement.tokens ++ blockTokens others

end

def operandTokens (allowed : Nat) (tree : Tree) : List Token :=
  guarded allowed tree tree.tokens

/-- Parentheses around an operand count as a level. -/
def guardedNesting (allowed : Nat) (tree : Tree) (levels : Nat) : Nat :=
  if tree.looseness ≤ allowed then levels else levels + 1

mutual

@[simp]
def nesting : Tree → Nat
  | number _ | truth _ | quote _ | read _ | declare _ _ => 1
  | assign _ value | define _ _ value => value.nesting + 1
  | signed _ operand => guardedNesting 0 operand operand.nesting + 1
  | binary operator left right =>
    max (guardedNesting operator.tier.looseness left left.nesting)
      (guardedNesting (operator.tier.looseness - 1) right right.nesting)
  | group inner => inner.nesting + 1
  | call _ arguments => blockNesting arguments + 1
  | ifThen condition body | whileLoop condition body =>
    max condition.nesting (blockNesting body) + 1
  | ifElse condition body otherwise =>
    max condition.nesting (max (blockNesting body) (blockNesting otherwise)) + 1

@[simp]
def blockNesting : List Tree → Nat
  | [] => 0
  | first :: others => max first.nesting (blockNesting others)

end

/-- The printed tree begins with a sign. -/
def BeginsWithSign (tree : Tree) : Prop :=
  ∃ token, tree.tokens.head? = some token ∧ Evaluation.IsSign token.kind

/-- The trees whose tokens can be told apart: no call has too many arguments, and no statement that
follows another one or a condition begins with a sign. -/
inductive WellFormed : Tree → Prop
  | number (text : String) : WellFormed (number text)
  | truth (value : Bool) : WellFormed (truth value)
  | quote (content : String) : WellFormed (quote content)
  | read (name : String) : WellFormed (read name)
  | assign (name : String) {value : Tree} : WellFormed value → WellFormed (assign name value)
  | declare (typeName name : String) : WellFormed (declare typeName name)
  | define (typeName name : String) {value : Tree} :
      WellFormed value → WellFormed (define typeName name value)
  | signed (sign : Sign) {operand : Tree} : WellFormed operand → WellFormed (signed sign operand)
  | binary (operator : Operator) {left right : Tree} :
      WellFormed left → WellFormed right → WellFormed (binary operator left right)
  | group {inner : Tree} : WellFormed inner → WellFormed (group inner)
  | call (function : String) {arguments : List Tree} :
      arguments.length ≤ Limits.maxCallArguments →
      (∀ argument ∈ arguments, WellFormed argument) →
      WellFormed (call function arguments)
  | ifThen {condition : Tree} {body : List Tree} :
      WellFormed condition →
      (∀ statement ∈ body, WellFormed statement) →
      (∀ statement ∈ body, ¬ statement.BeginsWithSign) →
      WellFormed (ifThen condition body)
  | ifElse {condition : Tree} {body otherwise : List Tree} :
      WellFormed condition →
      (∀ statement ∈ body, WellFormed statement) →
      (∀ statement ∈ body, ¬ statement.BeginsWithSign) →
      (∀ statement ∈ otherwise, WellFormed statement) →
      (∀ statement ∈ otherwise.tail, ¬ statement.BeginsWithSign) →
      WellFormed (ifElse condition body otherwise)
  | whileLoop {condition : Tree} {body : List Tree} :
      WellFormed condition →
      (∀ statement ∈ body, WellFormed statement) →
      (∀ statement ∈ body, ¬ statement.BeginsWithSign) →
      WellFormed (whileLoop condition body)

/-! ## The first token -/

/-- The kinds with which a printed tree can begin. -/
def Begins (kind : TokenKind) : Prop :=
  kind ∈ [.number, .bool, .string, .identifier, .dataType, .function, .openParenthesis, .ifWord,
    .whileWord, .plus, .minus]

instance (kind : TokenKind) : Decidable (Begins kind) :=
  inferInstanceAs (Decidable (_ ∈ _))

theorem exists_first_guarded
    {tree : Tree} (begins : ∃ token rest, tree.tokens = token :: rest ∧ Begins token.kind)
    (allowed : Nat) :
    ∃ token rest, guarded allowed tree tree.tokens = token :: rest ∧ Begins token.kind := by
  unfold guarded
  split
  · exact begins
  · exact ⟨_, _, rfl, by decide⟩

/-- A printed tree has a first token, and that can begin a statement. -/
theorem WellFormed.exists_first {tree : Tree} (wellFormed : WellFormed tree) :
    ∃ token rest, tree.tokens = token :: rest ∧ Begins token.kind := by
  induction wellFormed with
  | signed sign _ _ =>
      rw [tokens]
      cases sign <;> exact ⟨_, _, rfl, by decide⟩
  | binary operator _ _ leftBegins _ =>
      obtain ⟨token, rest, first, begins⟩ :=
        exists_first_guarded leftBegins operator.tier.looseness
      rw [tokens, first]
      exact ⟨token, _, rfl, begins⟩
  | _ =>
      rw [tokens]
      exact ⟨_, _, rfl, by simp [Begins, word]⟩

/-! ## Printed trees are inert -/

theorem inert_word
    {kind : TokenKind} (plain : kind.IsPlain) (text : String) {rest : List Token}
    (inert : Inert rest) :
    Inert (word kind text :: rest) :=
  Inert.cons_plain plain inert

theorem inert_enclose {tokens : List Token} (inert : Inert tokens) : Inert (enclose tokens) := by
  have closing : Inert [word .closeParenthesis ")"] := by decide
  exact inert_word (by decide) "(" (inert.append closing)

theorem inert_guarded
    {tree : Tree} (inert : Inert tree.tokens) (allowed : Nat) :
    Inert (guarded allowed tree tree.tokens) := by
  unfold guarded
  split
  · exact inert
  · exact inert_enclose inert

theorem inert_blockTokens
    {body : List Tree} (inert : ∀ statement ∈ body, Inert statement.tokens) :
    Inert (blockTokens body) := by
  induction body with
  | nil => exact Inert.nil
  | cons statement others inductionHypothesis =>
      have first := inert statement List.mem_cons_self
      have rest := inductionHypothesis fun other member =>
        inert other (List.mem_cons_of_mem _ member)
      exact first.append rest

theorem inert_moreArgumentTokens
    {arguments : List Tree} (inert : ∀ argument ∈ arguments, Inert argument.tokens) :
    Inert (moreArgumentTokens arguments) := by
  induction arguments with
  | nil => exact Inert.nil
  | cons argument others inductionHypothesis =>
      have first := inert argument List.mem_cons_self
      have rest := inductionHypothesis fun other member =>
        inert other (List.mem_cons_of_mem _ member)
      exact inert_word (by decide) "," (first.append rest)

theorem inert_argumentTokens
    {arguments : List Tree} (inert : ∀ argument ∈ arguments, Inert argument.tokens) :
    Inert (argumentTokens arguments) := by
  cases arguments with
  | nil => exact Inert.nil
  | cons argument others =>
      have first := inert argument List.mem_cons_self
      have rest := inert_moreArgumentTokens fun other member =>
        inert other (List.mem_cons_of_mem argument member)
      exact first.append rest

/-- An inert list leads from one level inside a block back to it. -/
theorem nestingAfter_one_of_inert {tokens : List Token} (inert : Inert tokens) :
    nestingAfter 1 tokens = some 1 :=
  nestingAfter_succ inert

theorem inert_blockOf
    {kind : TokenKind} (opens : kind.opensBlock = true) (text : String)
    {condition body : List Token} (conditionInert : Inert condition)
    (passes : nestingAfter 1 body = some 1) :
    Inert (word kind text :: (condition ++ (body ++ [word .endWord "end"]))) := by
  have inside : nestingAfter 1 (condition ++ body) = some 1 := by
    rw [conditionInert.nestingAfter_one_append]
    exact passes
  have whole : Inert (word kind text :: (condition ++ body) ++ [word .endWord "end"]) :=
    Inert.block opens rfl inside
  rw [List.cons_append, List.append_assoc] at whole
  exact whole

/-- The blocks in a printed tree are closed there. -/
theorem WellFormed.inert_tokens {tree : Tree} (wellFormed : WellFormed tree) :
    Inert tree.tokens := by
  induction wellFormed with
  | number text | quote text | read text => exact inert_word (by decide) text Inert.nil
  | truth value => exact inert_word (by decide) _ Inert.nil
  | assign name _ valueInert =>
      exact inert_word (by decide) name (inert_word (by decide) "=" valueInert)
  | declare typeName name =>
      exact inert_word (by decide) typeName (inert_word (by decide) name Inert.nil)
  | define typeName name _ valueInert =>
      exact inert_word (by decide) typeName
        (inert_word (by decide) name (inert_word (by decide) "=" valueInert))
  | signed sign _ operandInert =>
      have plain : sign.kind.IsPlain := by cases sign <;> decide
      exact inert_word plain sign.spelling (inert_guarded operandInert 0)
  | binary operator _ _ leftInert rightInert =>
      have left := inert_guarded leftInert operator.tier.looseness
      have right := inert_guarded rightInert (operator.tier.looseness - 1)
      exact left.append (inert_word operator.isPlain_kind operator.spelling right)
  | group _ innerInert => exact inert_enclose innerInert
  | call function _ _ argumentsInert =>
      exact inert_word (by decide) function (inert_enclose (inert_argumentTokens argumentsInert))
  | ifThen _ _ _ conditionInert bodyInert =>
      have body := inert_blockTokens bodyInert
      exact inert_blockOf rfl "if" conditionInert (nestingAfter_one_of_inert body)
  | @ifElse condition body otherwise _ _ _ _ _ conditionInert bodyInert otherwiseInert =>
      have first := inert_blockTokens bodyInert
      have second := inert_blockTokens otherwiseInert
      have passes : nestingAfter 1
          (blockTokens body ++ word .elseWord "else" :: blockTokens otherwise) = some 1 := by
        rw [first.nestingAfter_one_append, nestingAfter_cons_of_elseWord rfl]
        exact nestingAfter_one_of_inert second
      have whole : Inert (word .ifWord "if" :: (condition.tokens ++
          ((blockTokens body ++ word .elseWord "else" :: blockTokens otherwise) ++
            [word .endWord "end"]))) :=
        inert_blockOf rfl "if" conditionInert passes
      rw [List.append_assoc] at whole
      exact whole
  | whileLoop _ _ _ conditionInert bodyInert =>
      have body := inert_blockTokens bodyInert
      exact inert_blockOf rfl "while" conditionInert (nestingAfter_one_of_inert body)

theorem inert_of_wellFormed
    {body : List Tree} (wellFormed : ∀ statement ∈ body, WellFormed statement) :
    Inert (blockTokens body) :=
  inert_blockTokens fun statement member => (wellFormed statement member).inert_tokens

end Tree

end PugScript
