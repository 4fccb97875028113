import PugScript.Proofs.Token.Skipping

/-!
# Nesting of blocks in a list of tokens

Passing over tokens, an opening keyword leads one level down and `end` one level up. A list is
inert when it comes back to the level where it started, never leaves that level upwards, has no
`else` on it and does not contain the end of the input. `skipBlock` passes over every inert list,
and what it passes over before its stop is inert as seen from inside an enclosing block.
-/

namespace PugScript

/-- The nesting depth behind the given tokens. There is none if an `end` or `else` stands at depth
zero, or if the input ends among them. -/
def nestingAfter : Nat → List Token → Option Nat
  | depth, [] => some depth
  | depth, token :: rest =>
    if token.kind = .endOfInput then none
    else if token.kind.opensBlock then nestingAfter (depth + 1) rest
    else if token.kind = .endWord then
      if 0 < depth then nestingAfter (depth - 1) rest else none
    else if token.kind = .elseWord ∧ depth = 0 then none
    else nestingAfter depth rest

/-- The blocks that open among the tokens also close there, and nothing else closes or divides a
block. -/
def Inert (tokens : List Token) : Prop :=
  nestingAfter 0 tokens = some 0

instance (tokens : List Token) : Decidable (Inert tokens) :=
  inferInstanceAs (Decidable (nestingAfter 0 tokens = some 0))

/-- Kinds that neither open, divide nor close a block, nor end the input. -/
def TokenKind.IsPlain (kind : TokenKind) : Prop :=
  kind ≠ .endOfInput ∧ kind.opensBlock = false ∧ kind ≠ .elseWord ∧ kind ≠ .endWord

instance (kind : TokenKind) : Decidable kind.IsPlain :=
  inferInstanceAs (Decidable (_ ∧ _ ∧ _ ∧ _))

/-! ## Passing over tokens -/

@[simp]
theorem nestingAfter_nil (depth : Nat) : nestingAfter depth [] = some depth :=
  rfl

theorem nestingAfter_cons_of_isPlain
    {token : Token} (plain : token.kind.IsPlain)
    (depth : Nat) (rest : List Token) :
    nestingAfter depth (token :: rest) = nestingAfter depth rest := by
  obtain ⟨notEnd, notOpening, notElse, notClosing⟩ := plain
  simp [nestingAfter, notEnd, notOpening, notElse, notClosing]

theorem nestingAfter_cons_of_opensBlock
    {token : Token} (opens : token.kind.opensBlock = true)
    (depth : Nat) (rest : List Token) :
    nestingAfter depth (token :: rest) = nestingAfter (depth + 1) rest := by
  have notEnd : token.kind ≠ .endOfInput := by
    intro isEnd
    rw [isEnd] at opens
    cases opens
  simp [nestingAfter, notEnd, opens]

theorem nestingAfter_cons_of_endWord
    {token : Token} (closes : token.kind = .endWord)
    (depth : Nat) (rest : List Token) :
    nestingAfter (depth + 1) (token :: rest) = nestingAfter depth rest := by
  simp [nestingAfter, closes, TokenKind.opensBlock]

theorem nestingAfter_cons_of_elseWord
    {token : Token} (divides : token.kind = .elseWord)
    (depth : Nat) (rest : List Token) :
    nestingAfter (depth + 1) (token :: rest) = nestingAfter (depth + 1) rest := by
  simp [nestingAfter, divides, TokenKind.opensBlock]

/-- The nesting behind some tokens is that in front of the tokens that follow. -/
theorem nestingAfter_append
    (depth : Nat) (first second : List Token) :
    nestingAfter depth (first ++ second) =
      (nestingAfter depth first).bind fun reached =>
        nestingAfter reached second := by
  induction first generalizing depth with
  | nil => rfl
  | cons token rest inductionHypothesis =>
      simp only [List.cons_append, nestingAfter]
      split
      · rfl
      · split
        · exact inductionHypothesis _
        · split
          · split
            · exact inductionHypothesis _
            · rfl
          · split
            · rfl
            · exact inductionHypothesis _

/-- What is met at each step without leaving the level upwards. -/
theorem nestingAfter_cons_eq_some_iff
    {depth reached : Nat} {token : Token} {rest : List Token} :
    nestingAfter depth (token :: rest) = some reached ↔
      (token.kind ≠ .endOfInput ∧ ¬ (token.kind ∈ [.elseWord, .endWord] ∧ depth = 0)) ∧
        nestingAfter (depthBehind depth token) rest = some reached := by
  have mem_iff : token.kind ∈ [.elseWord, .endWord] ↔
      token.kind = .elseWord ∨ token.kind = .endWord := by
    simp
  rw [nestingAfter, depthBehind, mem_iff]
  by_cases isEnd : token.kind = .endOfInput
  · simp [isEnd]
  · by_cases opens : token.kind.opensBlock = true
    · have notElse : token.kind ≠ .elseWord := by
        intro divides
        rw [divides] at opens
        cases opens
      have notClosing : token.kind ≠ .endWord := by
        intro closes
        rw [closes] at opens
        cases opens
      simp [isEnd, opens, notElse, notClosing]
    · by_cases closes : token.kind = .endWord
      · obtain rfl | inside := Nat.eq_zero_or_pos depth
        · simp [closes, TokenKind.opensBlock]
        · simp [closes, TokenKind.opensBlock, inside, inside.ne']
      · by_cases divides : token.kind = .elseWord ∧ depth = 0
        · simp [divides, TokenKind.opensBlock]
        · simp [isEnd, opens, closes, divides]

/-- Depths are counted as by skipping that stops at `else` and `end`. -/
theorem nestingAfter_eq_some_iff {depth reached : Nat} {tokens : List Token} :
    nestingAfter depth tokens = some reached ↔
      PassedOver [.elseWord, .endWord] depth tokens ∧ depthAfter depth tokens = reached := by
  induction tokens generalizing depth with
  | nil =>
      rw [nestingAfter_nil, Option.some_inj]
      exact ⟨fun same => ⟨.nil, same⟩, fun both => both.2⟩
  | cons token rest inductionHypothesis =>
      rw [nestingAfter_cons_eq_some_iff, inductionHypothesis, passedOver_cons_iff, depthAfter_cons]
      exact and_assoc.symm

theorem ne_endOfInput_of_nestingAfter
    {depth reached : Nat} {tokens : List Token}
    (passes : nestingAfter depth tokens = some reached) :
    ∀ token ∈ tokens, token.kind ≠ .endOfInput := by
  intro token member
  obtain ⟨index, found⟩ := List.mem_iff_getElem?.mp member
  exact ((nestingAfter_eq_some_iff.mp passes).1 index token found).1

/-- What skipping up to an `end` passes over can be passed over inside another block. -/
theorem PassedOver.nestingAfter_succ
    {stops : List TokenKind} (endWord_mem : .endWord ∈ stops)
    {depth : Nat} {tokens : List Token} (passedOver : PassedOver stops depth tokens) :
    nestingAfter (depth + 1) tokens = some (depthAfter depth tokens + 1) := by
  induction tokens generalizing depth with
  | nil => rfl
  | cons token rest inductionHypothesis =>
      obtain ⟨⟨notEnd, noStop⟩, passedRest⟩ := passedOver_cons_iff.mp passedOver
      have deeper : depthBehind (depth + 1) token = depthBehind depth token + 1 := by
        rw [depthBehind, depthBehind]
        split
        · rfl
        · split
          · next closes =>
            have inside : depth ≠ 0 := fun atZero => noStop ⟨closes ▸ endWord_mem, atZero⟩
            omega
          · rfl
      rw [nestingAfter_cons_eq_some_iff, deeper]
      exact ⟨⟨notEnd, fun both => Nat.succ_ne_zero depth both.2⟩, inductionHypothesis passedRest⟩

/-- What can be passed over can be passed over inside another block. -/
theorem nestingAfter_succ
    {depth reached : Nat} {tokens : List Token}
    (passes : nestingAfter depth tokens = some reached) :
    nestingAfter (depth + 1) tokens = some (reached + 1) := by
  obtain ⟨passedOver, rfl⟩ := nestingAfter_eq_some_iff.mp passes
  exact passedOver.nestingAfter_succ (by decide)

namespace Inert

theorem nil : Inert [] :=
  rfl

theorem cons_plain
    {token : Token} {rest : List Token}
    (plain : token.kind.IsPlain) (inert : Inert rest) :
    Inert (token :: rest) := by
  rw [Inert, nestingAfter_cons_of_isPlain plain]
  exact inert

/-- Inert stretches make up an inert stretch. -/
theorem append
    {first second : List Token}
    (firstInert : Inert first) (secondInert : Inert second) :
    Inert (first ++ second) := by
  rw [Inert, nestingAfter_append, firstInert]
  exact secondInert

/-- Inside a block an inert list may be followed by anything. -/
theorem nestingAfter_one_append
    {first : List Token} (inert : Inert first) (second : List Token) :
    nestingAfter 1 (first ++ second) = nestingAfter 1 second := by
  rw [nestingAfter_append, nestingAfter_succ inert]
  rfl

/-- A whole block is inert if its inside leads back to its own level. -/
theorem block
    {opening closing : Token} {inside : List Token}
    (opens : opening.kind.opensBlock = true) (closes : closing.kind = .endWord)
    (passes : nestingAfter 1 inside = some 1) :
    Inert (opening :: inside ++ [closing]) := by
  rw [Inert, List.cons_append, nestingAfter_cons_of_opensBlock opens,
    nestingAfter_append, passes]
  exact nestingAfter_cons_of_endWord closes 0 []

end Inert

/-! ## Skipping -/

/-- The kinds at which the body of a block can end: always `end`, and perhaps `else`. -/
structure IsBlockEnd (stops : List TokenKind) : Prop where
  endWord_mem : .endWord ∈ stops
  eq_of_mem : ∀ kind ∈ stops, kind = .elseWord ∨ kind = .endWord

theorem isBlockEnd_elseWord_endWord : IsBlockEnd [.elseWord, .endWord] :=
  ⟨by decide, by decide⟩

theorem isBlockEnd_endWord : IsBlockEnd [.endWord] :=
  ⟨by decide, by decide⟩

theorem IsBlockEnd.areStops
    {stops : List TokenKind} (blockEnd : IsBlockEnd stops) : AreStops stops := by
  have notMem (kind : TokenKind) (other : kind ≠ .elseWord ∧ kind ≠ .endWord) : kind ∉ stops :=
    fun member => not_or.mpr other (blockEnd.eq_of_mem kind member)
  exact ⟨notMem _ (by decide), notMem _ (by decide), notMem _ (by decide)⟩

theorem IsBlockEnd.ne_endOfInput
    {stops : List TokenKind} (blockEnd : IsBlockEnd stops)
    {kind : TokenKind} (member : kind ∈ stops) :
    kind ≠ .endOfInput :=
  ne_of_mem_of_not_mem member blockEnd.areStops.endOfInput_notMem

/-- Skipping passes over everything that leads to another depth without meeting a stop. -/
theorem skipBlock_append
    {stops : List TokenKind} (blockEnd : IsBlockEnd stops)
    {depth reached : Nat} {passed : List Token}
    (passes : nestingAfter depth passed = some reached) (rest : List Token) :
    skipBlock stops depth (passed ++ rest) = skipBlock stops reached rest := by
  obtain ⟨passedOver, rfl⟩ := nestingAfter_eq_some_iff.mp passes
  refine PassedOver.skipBlock_append (fun index token found => ?_) rest
  obtain ⟨notEnd, noStop⟩ := passedOver index token found
  refine ⟨notEnd, fun both => noStop ⟨?_, both.2⟩⟩
  simpa using blockEnd.eq_of_mem _ both.1

theorem skipBlock_stop
    {stops : List TokenKind} (blockEnd : IsBlockEnd stops)
    {stop : Token} (member : stop.kind ∈ stops) (rest : List Token) :
    skipBlock stops 0 (stop :: rest) = (some stop.kind, stop :: rest) :=
  skipBlock_of_stop blockEnd.areStops member rest

/-- Skipping goes from an inert list in front of a stop right to that stop. -/
theorem Inert.skipBlock_append_stop
    {passed : List Token} (inert : Inert passed)
    {stops : List TokenKind} (blockEnd : IsBlockEnd stops)
    {stop : Token} (member : stop.kind ∈ stops) (rest : List Token) :
    skipBlock stops 0 (passed ++ stop :: rest) = (some stop.kind, stop :: rest) := by
  rw [skipBlock_append blockEnd inert]
  exact skipBlock_stop blockEnd member rest

/-- What skipping has passed over before its stop, as seen from inside a block. -/
theorem exists_passed_of_skipBlock
    {stops : List TokenKind} (blockEnd : IsBlockEnd stops)
    {depth : Nat} {tokens rest : List Token} {kind : TokenKind}
    (found : skipBlock stops depth tokens = (some kind, rest)) :
    ∃ passed stop following,
      tokens = passed ++ rest ∧
      rest = stop :: following ∧
      stop.kind = kind ∧
      kind ∈ stops ∧
      nestingAfter (depth + 1) passed = some 1 := by
  obtain ⟨passed, remaining, rfl, passedOver, halts⟩ := exists_passedOver stops depth tokens
  rw [passedOver.skipBlock_append] at found
  cases remaining with
  | nil => cases found
  | cons stop following =>
      obtain isEnd | ⟨member, atZero⟩ := halts
      · rw [skipBlock_of_end isEnd] at found
        cases found
      · rw [atZero, skipBlock_stop blockEnd member] at found
        cases found
        have passes := passedOver.nestingAfter_succ blockEnd.endWord_mem
        rw [atZero] at passes
        exact ⟨passed, stop, following, rfl, rfl, rfl, member, passes⟩

end PugScript
