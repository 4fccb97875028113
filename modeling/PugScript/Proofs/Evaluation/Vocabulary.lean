import PugScript.Host.Memory
import PugScript.Proofs.Evaluation.Invariant
import PugScript.Proofs.Lexing.Coverage

/-!
# The scanner and the evaluation agree on the vocabulary

The scanner gives a token its kind, and the evaluation looks its text up again: as a type, as a
function, as a number. In the tokens of a source these look-ups always succeed. Nor is there a
string among them that is too long, so that what operators and functions give stays within the
length limit as well; both go into one invariant.
-/

namespace PugScript

open PugScript.Decimal

/-! ## Looking words up -/

/-- A word with a kind of its own stands in the line of the vocabulary for this kind. -/
theorem exists_line_of_vocabularyKind
    {word : String} (notName : vocabularyKind word ≠ .identifier) :
    ∃ words, (vocabularyKind word, words) ∈ vocabulary ∧ word ∈ words := by
  unfold vocabularyKind at notName ⊢
  cases found : vocabulary.find? fun line => decide (word ∈ line.2) with
  | none =>
      rw [found] at notName
      exact absurd rfl notName
  | some line =>
      have listed := List.find?_some found
      exact ⟨line.2, List.mem_of_find?_eq_some found, of_decide_eq_true listed⟩

theorem isSome_ofName?_of_dataType {word : String} (isType : vocabularyKind word = .dataType) :
    (DataType.ofName? word).isSome = true := by
  obtain ⟨words, line, listed⟩ := exists_line_of_vocabularyKind (by rw [isType]; decide)
  rw [isType] at line
  have types : words = DataType.declarable.map DataType.name := by
    simpa [vocabulary] using line
  have found := mem_map_iff_of_find? DataType.declarable DataType.name word
  rw [← types, decide_eq_true listed] at found
  exact found

theorem isName_of_function {word : String} (isFunction : vocabularyKind word = .function) :
    Builtin.isName word = true := by
  obtain ⟨words, line, listed⟩ := exists_line_of_vocabularyKind (by rw [isFunction]; decide)
  rw [isFunction] at line
  have functions : words = Builtin.all.map Builtin.name := by
    simpa [vocabulary] using line
  have found := mem_map_iff_of_find? Builtin.all Builtin.name word
  rw [← functions, decide_eq_true listed] at found
  exact found

theorem IsDecimal.isSome_readFloat? {text : String} (isDecimal : IsDecimal text.toList) :
    (readFloat? text).isSome = true := by
  have numeral : (readNumeral? text.toList).isSome = true := by
    generalize text.toList = characters at isDecimal
    cases isDecimal with
    | whole isWhole => exact Lexeme.isSome_readNumeral?_of_isWhole isWhole
    | fraction isWhole arePlaces => exact Lexeme.isSome_readNumeral? isWhole arePlaces
  obtain ⟨number, read⟩ := Option.isSome_iff_exists.mp numeral
  unfold readFloat?
  rw [read]
  rfl

/-! ## Well spelled tokens -/

namespace WellSpelled

variable {kind : TokenKind} {text : String} (wellSpelled : WellSpelled kind text)

include wellSpelled

theorem isSome_ofName? (isType : kind = .dataType) : (DataType.ofName? text).isSome = true := by
  cases wellSpelled with
  | word _ _ => exact isSome_ofName?_of_dataType isType
  | string _ _ => cases isType
  | number _ => cases isType
  | mark isMark =>
      cases isType
      cases isMark

theorem isName (isFunction : kind = .function) : Builtin.isName text = true := by
  cases wellSpelled with
  | word _ _ => exact isName_of_function isFunction
  | string _ _ => cases isFunction
  | number _ => cases isFunction
  | mark isMark =>
      cases isFunction
      cases isMark

theorem isSome_readFloat? (isNumber : kind = .number) : (readFloat? text).isSome = true := by
  cases wellSpelled with
  | word _ _ =>
      have isWord := isWord_vocabularyKind text
      rw [isNumber] at isWord
      cases isWord
  | string _ _ => cases isNumber
  | number isDecimal => exact isDecimal.isSome_readFloat?
  | mark isMark =>
      cases isNumber
      cases isMark

theorem length_le (isString : kind = .string) : text.length ≤ Limits.maxStringLength := by
  cases wellSpelled with
  | word _ _ =>
      have isWord := isWord_vocabularyKind text
      rw [isString] at isWord
      cases isWord
  | string _ short => exact short.trans (by decide)
  | number _ => cases isString
  | mark isMark =>
      cases isString
      cases isMark

end WellSpelled

theorem ne_endOfInput_of_isLiteral
    {kind : TokenKind} (isLiteral : kind = .number ∨ kind = .string ∨ kind = .bool) :
    kind ≠ .endOfInput := by
  rcases isLiteral with rfl | rfl | rfl <;> decide

/-- The literals of a source have values. -/
theorem WellSpelled.exists_ofLiteral
    {token : Token} (wellSpelled : WellSpelled token.kind token.text)
    (isLiteral : token.kind = .number ∨ token.kind = .string ∨ token.kind = .bool) :
    ∃ value, Value.ofLiteral token = .ok value ∧ value.IsWithin Limits.maxStringLength := by
  unfold Value.ofLiteral
  rcases isLiteral with isNumber | isString | isBool
  · obtain ⟨number, read⟩ :=
      Option.isSome_iff_exists.mp (wellSpelled.isSome_readFloat? isNumber)
    rw [isNumber, read]
    exact ⟨_, rfl, trivial⟩
  · rw [isString]
    exact ⟨_, rfl, wellSpelled.length_le isString⟩
  · rw [isBool]
    exact ⟨_, rfl, trivial⟩

/-- A token of the grammar, or the end of the input. -/
def Token.IsSpelled (token : Token) : Prop :=
  token.kind = .endOfInput ∨ WellSpelled token.kind token.text

theorem Token.IsSpelled.wellSpelled
    {token : Token} (isSpelled : token.IsSpelled) (notEnd : token.kind ≠ .endOfInput) :
    WellSpelled token.kind token.text :=
  isSpelled.resolve_left notEnd

/-- Every token of a source is well spelled. -/
theorem isSpelled_of_tokenize
    {detailed : Bool} {source : String} {tokens : List Token}
    (splits : (tokenize detailed source).result = .ok tokens) :
    ∀ token ∈ tokens, token.IsSpelled := by
  intro token member
  obtain ⟨words, rfl, reads, _⟩ := tokenize_eq_ok_iff.mp splits
  rcases List.mem_append.mp member with isWord | isMark
  · exact .inr (reads.laid.exists_at isWord).2.1
  · obtain rfl := List.mem_singleton.mp isMark
    exact .inl rfl

namespace Evaluation

open Eval

variable {σ : Type}

/-! ## The invariant -/

/-- Over tokens that are well spelled, no value is too long, no line that is printed is, and nothing
fails for an unknown word. -/
def spellingInvariant
    (context : Context σ) {bound : Nat} (allows : Limits.maxStringLength ≤ bound)
    {world : σ → Prop} (maintains : context.host.Maintains bound world) : Invariant context where
  place := fun tokens => ∀ token ∈ tokens, token.IsSpelled
  value := fun value => value.IsWithin bound
  table := fun bindings => bindings.Holds (·.IsWithin bound)
  world := world
  failure := fun failure => ¬ failure.fault.IsUnknownWord
  place_tail := fun _ areSpelled token member => areSpelled token (List.mem_of_mem_tail member)
  value_none := trivial
  value_truth := fun _ => trivial
  value_initial := Value.isWithin_initial bound
  value_stored := fun _ _ _ holds stored => holds.get? stored
  failure_formal := fun _ fault _ isFormal isUnknown => by
    cases fault with
    | value error => exact isFormal
    | _ => exact isUnknown
  failure_type := fun token rest areSpelled isType unknown => by
    have wellSpelled :=
      (areSpelled token List.mem_cons_self).wellSpelled (isType ▸ TokenKind.noConfusion)
    have known := wellSpelled.isSome_ofName? isType
    rw [unknown] at known
    cases known
  failure_truth := fun _ operand error _ _ failed => by
    have settles := toBool_settles operand
    rw [failed] at settles
    exact settles
  literal := fun token rest areSpelled isLiteral => by
    have wellSpelled :=
      (areSpelled token List.mem_cons_self).wellSpelled (ne_endOfInput_of_isLiteral isLiteral)
    obtain ⟨value, read, within⟩ := wellSpelled.exists_ofLiteral isLiteral
    rw [read]
    exact within.mono allows
  sign := fun _ _ _ _ _ => applySign_operates allows _ _
  combine := fun _ _ _ _ _ _ _ _ => combine_operates allows _ _ _ _
  cast := fun _ _ _ _ within declarable => cast_settles allows within declarable
  declare := fun _ _ _ _ _ _ _ _ holds within => holds.declare within
  assign := fun _ _ _ _ _ _ _ _ _ holds within assigned => holds.assign? within assigned
  invoke := fun token rest arguments state areSpelled isFunction within holds => by
    have wellSpelled :=
      (areSpelled token List.mem_cons_self).wellSpelled (isFunction ▸ TokenKind.noConfusion)
    exact invoke_settles allows maintains holds (wellSpelled.isName isFunction) within

/-- A host that may do anything keeps no more than a trivial condition. -/
theorem maintains_trivially (host : Host σ) (bound : Nat) :
    host.Maintains bound fun _ => True :=
  ⟨fun _ _ _ _ => trivial, fun _ _ => trivial, fun _ _ => trivial, fun _ _ => trivial,
    fun _ _ _ _ => trivial⟩

/-- A literal is evaluated by reading its text. -/
theorem primary_of_literal
    {context : Context σ} {expression : Eval σ Value} {fuel : Nat}
    {token : Token} (isLiteral : token.kind = .number ∨ token.kind = .string ∨ token.kind = .bool)
    {machine : Machine σ} {rest : List Token} (cursor : machine.remaining = token :: rest)
    {value : Value} (read : Value.ofLiteral token = .ok value) :
    primary context expression fuel machine = .done value (machine.facing rest) := by
  have done : literal token machine = .done value (machine.facing rest) :=
    literal_eq_done_iff.mpr ⟨read, by rw [cursor, List.tail_cons]⟩
  rw [primary, bind_current, cursor, Context.front_cons]
  rcases isLiteral with isNumber | isString | isBool
  · rw [isNumber]
    exact done
  · rw [isString]
    exact done
  · rw [isBool]
    exact done

/-- An evaluation of the tokens of a source does not fail for a word or a literal that cannot be
looked up, and every literal of the source has a value wherever an operand is evaluated. -/
theorem tokens_of_source_are_known
    {detailed : Bool} {source : String} {tokens : List Token}
    (splits : (tokenize detailed source).result = .ok tokens)
    (host : Host σ) (preferences : EvaluationPreferences) (bindings : VariableTable) (world : σ) :
    let context := contextOf host preferences tokens
    (∀ fuel evaluation, evaluate fuel host preferences tokens bindings world = some evaluation →
      ∀ error, evaluation.result = .error error →
        (∀ name, error.fault ≠ .value (.functionNotFound name)) ∧
        (∀ name, error.fault ≠ .value (.unknownType name)) ∧
        ∀ kind, error.fault ≠ .value (.invalidLiteral kind)) ∧
    ∀ token ∈ tokens, token.kind = .number ∨ token.kind = .string ∨ token.kind = .bool →
      ∀ fuel rest (machine : Machine σ), machine.remaining = token :: rest →
        ∃ value, Value.ofLiteral token = .ok value ∧
          primary context (expression context fuel) fuel machine =
            .done value (machine.facing rest) := by
  intro context
  have areSpelled := isSpelled_of_tokenize splits
  refine ⟨?_, ?_⟩
  · intro fuel evaluation evaluated error failed
    obtain ⟨bound, allows, holds⟩ := bindings.exists_bound
    let invariant := spellingInvariant context allows (maintains_trivially host bound)
    obtain ⟨outcome, _⟩ := evaluate_keeps invariant areSpelled holds trivial evaluated
    rw [failed] at outcome
    have known : ¬ error.fault.IsUnknownWord := outcome.1
    refine ⟨?_, ?_, ?_⟩
    · rintro name isFault
      exact known (isFault ▸ trivial)
    · rintro name isFault
      exact known (isFault ▸ trivial)
    · rintro kind isFault
      exact known (isFault ▸ trivial)
  · intro token member isLiteral fuel rest machine cursor
    have notEnd := ne_endOfInput_of_isLiteral isLiteral
    obtain ⟨value, read, _⟩ :=
      ((areSpelled token member).wellSpelled notEnd).exists_ofLiteral isLiteral
    exact ⟨value, read, primary_of_literal isLiteral cursor read⟩

/-- A source with a call that is not accepted. -/
def refusedSource : String :=
  "string s = trim(\" a \") print(s, s) -1.5"

def refusedTokens : List Token :=
  [⟨.dataType, "string", 0⟩, ⟨.identifier, "s", 7⟩, ⟨.assign, "=", 9⟩, ⟨.function, "trim", 11⟩,
    ⟨.openParenthesis, "(", 15⟩, ⟨.string, " a ", 16⟩, ⟨.closeParenthesis, ")", 21⟩,
    ⟨.function, "print", 23⟩, ⟨.openParenthesis, "(", 28⟩, ⟨.identifier, "s", 29⟩,
    ⟨.comma, ",", 30⟩, ⟨.identifier, "s", 32⟩, ⟨.closeParenthesis, ")", 33⟩,
    ⟨.number, "-1.5", 35⟩, ⟨.endOfInput, "", 39⟩]

theorem tokens_of_refusedSource_are_known :
    let context := contextOf seededHost {} refusedTokens
    let machine := initialMachine refusedTokens .empty (MemoryHost.seeded 0)
    (tokenize false refusedSource).result = .ok refusedTokens ∧
    (∃ evaluation error,
      evaluate 9 seededHost {} refusedTokens .empty (.seeded 0) = some evaluation ∧
      evaluation.result = .error error ∧
      error.fault = .value (.invalidArgumentCount "print") ∧
      ∀ name, error.fault ≠ .value (.functionNotFound name)) ∧
    ∃ value,
      Value.ofLiteral ⟨.number, "-1.5", 35⟩ = .ok value ∧
      primary context (expression context 2) 2 (machine.facing (refusedTokens.drop 13)) =
        .done value (machine.facing (refusedTokens.drop 14)) := by
  intro context machine
  have splits : (tokenize false refusedSource).result = .ok refusedTokens := by
    cbv
  obtain ⟨known, literals⟩ :=
    tokens_of_source_are_known splits seededHost {} .empty (MemoryHost.seeded 0)
  have fails : evaluate 9 seededHost {} refusedTokens .empty (.seeded 0) =
      some
        { result := .error
            { fault := .value (.invalidArgumentCount "print")
              token := ⟨.function, "print", 23⟩
              tokens := refusedTokens
              bindings := ⟨[("s", .string "a")]⟩
              values := [.string "a"] }
          bindings := ⟨[("s", .string "a")]⟩
          world := .seeded 0
          notes := [] } := by
    cbv
  exact ⟨splits, ⟨_, _, fails, rfl, rfl, (known 9 _ fails _ rfl).1⟩,
    literals _ (by decide) (.inl rfl) 2 _ (machine.facing (refusedTokens.drop 13)) rfl⟩

end Evaluation

end PugScript
