import Mathlib.Order.Bounds.Basic
import PugScript.Token.Stream

/-!
# Where skipping stops

Skipping over tokens keeps count of a depth: an opening keyword leads one level down, and an `end`
one level up, but never above the level of the start. It stops at the first token of one of the
given kinds that stands on the level of the start, unless the input ends before. What is inside a
closed block cannot stop it.
-/

namespace PugScript

/-! ## The running depth -/

def depthBehind (depth : Nat) (token : Token) : Nat :=
  if token.kind.opensBlock then depth + 1
  else if token.kind = .endWord then depth - 1
  else depth

def depthAfter (depth : Nat) (tokens : List Token) : Nat :=
  tokens.foldl depthBehind depth

/-- The depth in front of the token at an index, counted over the tokens from a start on. -/
def runningDepth (tokens : List Token) (start index : Nat) : Nat :=
  depthAfter 0 ((tokens.take index).drop start)

theorem depthBehind_of_opensBlock {token : Token} (opens : token.kind.opensBlock = true)
    (depth : Nat) : depthBehind depth token = depth + 1 :=
  if_pos opens

theorem depthBehind_of_endWord {token : Token} (closes : token.kind = .endWord) (depth : Nat) :
    depthBehind (depth + 1) token = depth := by
  simp [depthBehind, closes, TokenKind.opensBlock]

theorem depthBehind_of_other {token : Token} (notOpening : token.kind.opensBlock = false)
    (notClosing : token.kind ≠ .endWord) (depth : Nat) : depthBehind depth token = depth := by
  simp [depthBehind, notOpening, notClosing]

theorem depthAfter_cons (depth : Nat) (token : Token) (rest : List Token) :
    depthAfter depth (token :: rest) = depthAfter (depthBehind depth token) rest :=
  rfl

theorem depthAfter_append (depth : Nat) (first second : List Token) :
    depthAfter depth (first ++ second) = depthAfter (depthAfter depth first) second :=
  List.foldl_append

theorem runningDepth_append (before tokens : List Token) (places : Nat) :
    runningDepth (before ++ tokens) before.length (before.length + places) =
      depthAfter 0 (tokens.take places) := by
  rw [runningDepth, List.take_length_add_append, List.drop_left]

/-! ## Stops and ends -/

/-- At the index stands a token of one of the kinds `stops`, on the level of the start. -/
def IsStopAt (stops : List TokenKind) (tokens : List Token) (start index : Nat)
    (kind : TokenKind) : Prop :=
  tokens[index]?.map Token.kind = some kind ∧ kind ∈ stops ∧ runningDepth tokens start index = 0

/-- At the index stands a mark for the end of the input. -/
def IsEndAt (tokens : List Token) (index : Nat) : Prop :=
  tokens[index]?.map Token.kind = some .endOfInput

/-- At the index stands the first stop from the start on, and the input does not end before. -/
structure IsFirstStop (stops : List TokenKind) (tokens : List Token) (start index : Nat)
    (kind : TokenKind) : Prop where
  isStopAt : IsStopAt stops tokens start index kind
  isLeast : IsLeast {place | start ≤ place ∧ ∃ other, IsStopAt stops tokens start place other} index
  goesOn : ∀ place, start ≤ place → place < index → ¬ IsEndAt tokens place

/-- From the start on, the input ends at the index: at the first mark for its end, or behind the
last token. -/
def IsFirstEnd (tokens : List Token) (start index : Nat) : Prop :=
  IsLeast {place | start ≤ place ∧ (IsEndAt tokens place ∨ place = tokens.length)} index

/-! ## Passing over tokens -/

/-- Kinds at which skipping can stop. -/
structure AreStops (stops : List TokenKind) : Prop where
  ifWord_notMem : .ifWord ∉ stops
  whileWord_notMem : .whileWord ∉ stops
  endOfInput_notMem : .endOfInput ∉ stops

theorem AreStops.opensBlock_eq_false
    {stops : List TokenKind} (areStops : AreStops stops) {kind : TokenKind}
    (member : kind ∈ stops) : kind.opensBlock = false := by
  cases kind with
  | ifWord => exact absurd member areStops.ifWord_notMem
  | whileWord => exact absurd member areStops.whileWord_notMem
  | _ => rfl

/-- None of the tokens stops the skipping that reaches them at the depth. -/
def PassedOver (stops : List TokenKind) (depth : Nat) (tokens : List Token) : Prop :=
  ∀ index token, tokens[index]? = some token →
    token.kind ≠ .endOfInput ∧
      ¬ (token.kind ∈ stops ∧ depthAfter depth (tokens.take index) = 0)

/-- Skipping that reaches the tokens at the depth does not go on. -/
def Halts (stops : List TokenKind) (depth : Nat) : List Token → Prop
  | [] => True
  | token :: _ => token.kind = .endOfInput ∨ token.kind ∈ stops ∧ depth = 0

section

variable {stops : List TokenKind} {depth : Nat} {token : Token} {tokens rest : List Token}

theorem PassedOver.nil : PassedOver stops depth [] :=
  nofun

/-- A token is passed over unless it is a mark for the end or a stop on the level of the start. -/
theorem passedOver_cons_iff :
    PassedOver stops depth (token :: rest) ↔
      (token.kind ≠ .endOfInput ∧ ¬ (token.kind ∈ stops ∧ depth = 0)) ∧
        PassedOver stops (depthBehind depth token) rest := by
  constructor
  · intro passed
    exact ⟨passed 0 token rfl, fun index other found => passed (index + 1) other found⟩
  · rintro ⟨first, others⟩ index other found
    cases index with
    | zero =>
      cases found
      exact first
    | succ index => exact others index other found

theorem PassedOver.append {first second : List Token} (passedFirst : PassedOver stops depth first)
    (passedSecond : PassedOver stops (depthAfter depth first) second) :
    PassedOver stops depth (first ++ second) := by
  induction first generalizing depth with
  | nil => exact passedSecond
  | cons token rest inductionHypothesis =>
    obtain ⟨passedToken, passedRest⟩ := passedOver_cons_iff.mp passedFirst
    exact passedOver_cons_iff.mpr ⟨passedToken, inductionHypothesis passedRest passedSecond⟩

/-- One step of skipping. -/
theorem skipBlock_cons (notEnd : token.kind ≠ .endOfInput)
    (noStop : ¬ (token.kind ∈ stops ∧ depth = 0)) (rest : List Token) :
    skipBlock stops depth (token :: rest) = skipBlock stops (depthBehind depth token) rest := by
  rw [skipBlock, if_neg notEnd, depthBehind]
  by_cases opens : token.kind.opensBlock = true
  · rw [if_pos opens, if_pos opens]
  · rw [if_neg opens, if_neg opens]
    by_cases closes : token.kind = .endWord
    · rw [if_pos closes]
      by_cases inside : 0 < depth
      · rw [if_pos ⟨closes, inside⟩]
      · have atZero : depth = 0 := by omega
        rw [if_neg (fun both => inside both.2), if_neg (fun both => noStop both.symm), atZero]
    · rw [if_neg (fun both => closes both.1), if_neg (fun both => noStop both.symm),
        if_neg closes]

/-- A run of skipping. -/
theorem PassedOver.skipBlock_append {passed : List Token}
    (passedOver : PassedOver stops depth passed) (rest : List Token) :
    skipBlock stops depth (passed ++ rest) = skipBlock stops (depthAfter depth passed) rest := by
  induction passed generalizing depth with
  | nil => rfl
  | cons token tail inductionHypothesis =>
    obtain ⟨⟨notEnd, noStop⟩, passedTail⟩ := passedOver_cons_iff.mp passedOver
    rw [List.cons_append, skipBlock_cons notEnd noStop]
    exact inductionHypothesis passedTail

/-- Skipping halts in front of a stop. -/
theorem skipBlock_of_stop (areStops : AreStops stops) (member : token.kind ∈ stops)
    (rest : List Token) : skipBlock stops 0 (token :: rest) = (some token.kind, token :: rest) := by
  have notEnd : token.kind ≠ .endOfInput :=
    ne_of_mem_of_not_mem member areStops.endOfInput_notMem
  simp [skipBlock, notEnd, areStops.opensBlock_eq_false member, member]

/-- Skipping halts in front of a mark for the end, at any depth. -/
theorem skipBlock_of_end (isEnd : token.kind = .endOfInput) (rest : List Token) :
    skipBlock stops depth (token :: rest) = (none, token :: rest) :=
  if_pos isEnd

/-- Skipping leads to tokens further on. -/
theorem skipBlock_isSuffix (stops : List TokenKind) (depth : Nat) (tokens : List Token) :
    (skipBlock stops depth tokens).2 <:+ tokens := by
  induction tokens generalizing depth with
  | nil => exact List.suffix_rfl
  | cons token rest inductionHypothesis =>
    have further (depth : Nat) : (skipBlock stops depth rest).2 <:+ token :: rest :=
      (inductionHypothesis depth).trans (List.suffix_cons ..)
    rw [skipBlock]
    split
    · exact List.suffix_rfl
    split
    · exact further _
    split
    · exact further _
    split
    · exact List.suffix_rfl
    · exact further _

/-- Skipping passes over some tokens and halts in front of the others. -/
theorem exists_passedOver (stops : List TokenKind) (depth : Nat) (tokens : List Token) :
    ∃ passed rest, tokens = passed ++ rest ∧ PassedOver stops depth passed ∧
      Halts stops (depthAfter depth passed) rest := by
  induction tokens generalizing depth with
  | nil => exact ⟨[], [], rfl, .nil, trivial⟩
  | cons token tail inductionHypothesis =>
    by_cases halts : Halts stops depth (token :: tail)
    · exact ⟨[], token :: tail, rfl, .nil, halts⟩
    · obtain ⟨passed, rest, split, passedOver, halted⟩ :=
        inductionHypothesis (depthBehind depth token)
      obtain ⟨notEnd, noStop⟩ := not_or.mp halts
      exact ⟨token :: passed, rest, congrArg (token :: ·) split,
        passedOver_cons_iff.mpr ⟨⟨notEnd, noStop⟩, passedOver⟩, halted⟩

/-! ## Indices -/

variable {passed : List Token} (passedOver : PassedOver stops 0 passed) (before : List Token)

include passedOver

theorem PassedOver.not_isStopAt_and_not_isEndAt {place : Nat} (start_le : before.length ≤ place)
    (lt : place < before.length + passed.length) :
    (∀ kind, ¬ IsStopAt stops (before ++ (passed ++ rest)) before.length place kind) ∧
      ¬ IsEndAt (before ++ (passed ++ rest)) place := by
  obtain ⟨offset, rfl⟩ := Nat.exists_eq_add_of_le start_le
  have within : offset < passed.length := by omega
  have found : (before ++ (passed ++ rest))[before.length + offset]? = some passed[offset] := by
    rw [List.getElem?_append_right start_le, Nat.add_sub_cancel_left,
      List.getElem?_append_left within, List.getElem?_eq_getElem within]
  have depth : runningDepth (before ++ (passed ++ rest)) before.length (before.length + offset) =
      depthAfter 0 (passed.take offset) := by
    rw [runningDepth_append, List.take_append_of_le_length within.le]
  obtain ⟨notEnd, noStop⟩ := passedOver offset _ (List.getElem?_eq_getElem within)
  constructor
  · rintro kind ⟨hasKind, member, atZero⟩
    rw [found, Option.map_some, Option.some_inj] at hasKind
    rw [depth] at atZero
    exact noStop ⟨hasKind ▸ member, atZero⟩
  · intro isEnd
    rw [IsEndAt, found, Option.map_some, Option.some_inj] at isEnd
    exact notEnd isEnd

/-- A stop behind tokens that are passed over is the first one. -/
theorem PassedOver.isFirstStop (member : token.kind ∈ stops) (atZero : depthAfter 0 passed = 0)
    (rest : List Token) :
    IsFirstStop stops (before ++ (passed ++ token :: rest)) before.length
      (before.length + passed.length) token.kind := by
  have isStopAt : IsStopAt stops (before ++ (passed ++ token :: rest)) before.length
      (before.length + passed.length) token.kind := by
    refine ⟨by simp, member, ?_⟩
    rw [runningDepth_append, List.take_left, atZero]
  refine ⟨isStopAt, ⟨⟨Nat.le_add_right _ _, _, isStopAt⟩, ?_⟩, ?_⟩
  · rintro place ⟨start_le, kind, earlier⟩
    by_contra lt
    obtain ⟨noStop, -⟩ :=
      passedOver.not_isStopAt_and_not_isEndAt before start_le (Nat.lt_of_not_le lt)
    exact noStop kind earlier
  · intro place start_le lt
    exact (passedOver.not_isStopAt_and_not_isEndAt before start_le lt).2

theorem PassedOver.isFirstEnd (ends : ∀ token ∈ rest.head?, token.kind = .endOfInput) :
    IsFirstEnd (before ++ (passed ++ rest)) before.length (before.length + passed.length) := by
  refine ⟨⟨Nat.le_add_right _ _, ?_⟩, ?_⟩
  · cases rest with
    | nil => exact .inr (by simp)
    | cons token following => exact .inl (by simpa [IsEndAt] using ends token rfl)
  · rintro place ⟨start_le, isEnd | atLength⟩
    · by_contra lt
      exact (passedOver.not_isStopAt_and_not_isEndAt before start_le (Nat.lt_of_not_le lt)).2 isEnd
    · rw [atLength, List.length_append, List.length_append]
      omega

theorem PassedOver.not_isFirstStop (areStops : AreStops stops)
    (ends : ∀ token ∈ rest.head?, token.kind = .endOfInput) (index : Nat) (kind : TokenKind) :
    ¬ IsFirstStop stops (before ++ (passed ++ rest)) before.length index kind := by
  rintro ⟨isStopAt, ⟨⟨start_le, -⟩, -⟩, goesOn⟩
  have ⟨hasKind, member, _⟩ := isStopAt
  obtain ⟨⟨start_le_end, atEnd⟩, -⟩ := passedOver.isFirstEnd before ends
  by_cases lt : index < before.length + passed.length
  · exact (passedOver.not_isStopAt_and_not_isEndAt before start_le lt).1 kind isStopAt
  · obtain isEnd | atLength := atEnd
    · obtain same | gt := Nat.eq_or_lt_of_le (Nat.le_of_not_lt lt)
      · -- The stop would be the mark for the end of the input.
        rw [← same, isEnd, Option.some_inj] at hasKind
        rw [← hasKind] at member
        exact areStops.endOfInput_notMem member
      · exact goesOn _ start_le_end gt isEnd
    · rw [List.getElem?_eq_none (by omega)] at hasKind
      cases hasKind

end

/-! ## Streams -/

/-- Skipping moves the cursor of a stream to the first stop, or else to the end of the input. -/
structure FindsFirstStop (stops : List TokenKind) (stream : TokenStream)
    (result : Option TokenKind × TokenStream) : Prop where
  moved : result.2 = stream.setPosition result.2.position
  found_iff : ∀ kind index, result.1 = some kind ∧ result.2.position = index ↔
    IsFirstStop stops stream.tokens stream.position index kind
  otherwise : (∀ kind index, ¬ IsFirstStop stops stream.tokens stream.position index kind) →
    result.1 = none ∧ IsFirstEnd stream.tokens stream.position result.2.position

/-- The blocks that open among the tokens are closed there, and outside of them stands no `end` and
no token of one of the kinds `barred`. -/
inductive Balanced : List TokenKind → List Token → Prop
  | nil (barred : List TokenKind) : Balanced barred []
  | token {barred : List TokenKind} {token : Token} {rest : List Token} :
      token.kind.opensBlock = false → token.kind ≠ .endWord → token.kind ≠ .endOfInput →
      token.kind ∉ barred → Balanced barred rest → Balanced barred (token :: rest)
  | block {barred : List TokenKind} {opening closing : Token} {inside rest : List Token} :
      opening.kind.opensBlock = true → Balanced [] inside → closing.kind = .endWord →
      Balanced barred rest → Balanced barred (opening :: inside ++ closing :: rest)

namespace Balanced

variable {barred stops : List TokenKind} {tokens : List Token}

/-- Balanced tokens leave the depth as it is. -/
theorem depthAfter_eq (balanced : Balanced barred tokens) (depth : Nat) :
    depthAfter depth tokens = depth := by
  induction balanced generalizing depth with
  | nil => rfl
  | token notOpening notClosing _ _ _ inductionHypothesis =>
    rw [depthAfter_cons, depthBehind_of_other notOpening notClosing]
    exact inductionHypothesis depth
  | block opens _ closes _ insideHypothesis restHypothesis =>
    rw [List.cons_append, depthAfter_cons, depthBehind_of_opensBlock opens, depthAfter_append,
      insideHypothesis, depthAfter_cons, depthBehind_of_endWord closes]
    exact restHypothesis depth

/-- Below the level of the start nothing stops, and on it only what is barred. -/
theorem passedOver (balanced : Balanced barred tokens) (areStops : AreStops stops)
    (depth : Nat) (hidden : depth = 0 → barred = stops) : PassedOver stops depth tokens := by
  induction balanced generalizing depth with
  | nil => exact .nil
  | token notOpening notClosing notEnd notBarred _ inductionHypothesis =>
    refine passedOver_cons_iff.mpr ⟨⟨notEnd, ?_⟩, ?_⟩
    · rintro ⟨member, atZero⟩
      exact notBarred (hidden atZero ▸ member)
    · rw [depthBehind_of_other notOpening notClosing]
      exact inductionHypothesis depth hidden
  | @block _ opening closing _ _ opens inside closes _ insideHypothesis restHypothesis =>
    have openingPassed : opening.kind ≠ .endOfInput ∧ ¬ (opening.kind ∈ stops ∧ depth = 0) := by
      refine ⟨fun isEnd => ?_, fun both => ?_⟩
      · rw [isEnd] at opens
        cases opens
      · rw [areStops.opensBlock_eq_false both.1] at opens
        cases opens
    have closingPassed : closing.kind ≠ .endOfInput ∧
        ¬ (closing.kind ∈ stops ∧ depth + 1 = 0) := by
      refine ⟨fun isEnd => ?_, fun both => Nat.succ_ne_zero depth both.2⟩
      rw [isEnd] at closes
      cases closes
    refine passedOver_cons_iff.mpr ⟨openingPassed, ?_⟩
    rw [depthBehind_of_opensBlock opens]
    refine (insideHypothesis (depth + 1) nofun).append ?_
    rw [inside.depthAfter_eq]
    refine passedOver_cons_iff.mpr ⟨closingPassed, ?_⟩
    rw [depthBehind_of_endWord closes]
    exact restHypothesis depth hidden

end Balanced

namespace TokenStream

variable {stops : List TokenKind}

/-- The stream whose cursor is between two parts of its tokens. -/
def between (before remaining : List Token) : TokenStream :=
  ⟨before ++ remaining, remaining⟩

theorem position_between (before remaining : List Token) :
    (between before remaining).position = before.length := by
  rw [between, position, List.length_append, Nat.add_sub_cancel_right]

theorem setPosition_start (tokens : List Token) (start : Nat) :
    (TokenStream.start tokens).setPosition start =
      between (tokens.take start) (tokens.drop start) := by
  rw [between, List.take_append_drop]
  rfl

theorem setPosition_between (before passed rest : List Token) :
    (between before (passed ++ rest)).setPosition (before ++ passed).length =
      between (before ++ passed) rest := by
  rw [between, between, setPosition, ← List.append_assoc, List.drop_left]

section

variable {before passed rest : List Token} {token : Token}
  (passedOver : PassedOver stops 0 passed)

include passedOver

theorem skip_of_stop (areStops : AreStops stops) (member : token.kind ∈ stops)
    (atZero : depthAfter 0 passed = 0) :
    (between before (passed ++ token :: rest)).skip stops =
      (some token.kind, between (before ++ passed) (token :: rest)) := by
  rw [skip, between, between, passedOver.skipBlock_append, atZero,
    skipBlock_of_stop areStops member, List.append_assoc]

theorem skip_of_end (ends : ∀ token ∈ rest.head?, token.kind = .endOfInput) :
    (between before (passed ++ rest)).skip stops = (none, between (before ++ passed) rest) := by
  rw [skip, between, between, passedOver.skipBlock_append, List.append_assoc]
  cases rest with
  | nil => rfl
  | cons token following => rw [skipBlock_of_end (ends token rfl)]

end

/-- From any place in a stream, skipping moves the cursor to the first stop or to the end. -/
theorem findsFirstStop_between (areStops : AreStops stops) (before remaining : List Token) :
    FindsFirstStop stops (between before remaining) ((between before remaining).skip stops) := by
  obtain ⟨passed, rest, rfl, passedOver, halts⟩ := exists_passedOver stops 0 remaining
  by_cases ends : ∀ token ∈ rest.head?, token.kind = .endOfInput
  · have noStop := passedOver.not_isFirstStop before areStops ends
    rw [skip_of_end passedOver ends]
    refine ⟨?_, ?_, ?_⟩
    · rw [position_between, setPosition_between]
    · intro kind index
      rw [position_between, position_between]
      exact ⟨fun found => (nomatch found.1), fun found => absurd found (noStop index kind)⟩
    · intro _
      rw [position_between, position_between, List.length_append]
      exact ⟨rfl, passedOver.isFirstEnd before ends⟩
  · cases rest with
    | nil => simp at ends
    | cons token following =>
      obtain isEnd | ⟨member, atZero⟩ := halts
      · simp [isEnd] at ends
      · have firstStop := passedOver.isFirstStop before member atZero following
        rw [skip_of_stop passedOver areStops member atZero]
        refine ⟨?_, ?_, ?_⟩
        · rw [position_between, setPosition_between]
        · intro kind index
          rw [position_between, position_between, List.length_append]
          constructor
          · rintro ⟨same, rfl⟩
            cases same
            exact firstStop
          · intro found
            have same := firstStop.isLeast.unique found.isLeast
            subst same
            exact ⟨firstStop.isStopAt.1.symm.trans found.isStopAt.1, rfl⟩
        · intro none
          rw [position_between] at none
          exact absurd firstStop (none _ _)

end TokenStream

/-- Skipping finds exactly the first stop at its own depth; without one it goes to the end of the
input. A body whose blocks are closed, with no stop outside of them, is passed over as a whole. -/
theorem skipping_finds_first_stop {stops : List TokenKind} (areStops : AreStops stops) :
    (∀ (tokens : List Token) (start : Nat),
      let stream := (TokenStream.start tokens).setPosition start
      FindsFirstStop stops stream (stream.skip stops)) ∧
    ∀ (before body : List Token) (stop : Token) (rest : List Token),
      Balanced stops body → stop.kind ∈ stops →
      let stream := (TokenStream.start (before ++ body ++ stop :: rest)).setPosition before.length
      stream.skip stops =
        (some stop.kind, stream.setPosition (before.length + body.length)) := by
  constructor
  · intro tokens start
    dsimp only
    rw [TokenStream.setPosition_start]
    exact TokenStream.findsFirstStop_between areStops _ _
  · intro before body stop rest balanced member
    have passedOver := balanced.passedOver areStops 0 fun _ => rfl
    dsimp only
    rw [TokenStream.setPosition_start, List.append_assoc, List.take_left, List.drop_left,
      TokenStream.skip_of_stop passedOver areStops member (balanced.depthAfter_eq 0),
      ← List.length_append, TokenStream.setPosition_between]

/-- The tokens `x if true else z end`, a body with a divided block in it. -/
def dividedBody : List Token :=
  [⟨.identifier, "x", 4⟩, ⟨.ifWord, "if", 6⟩, ⟨.bool, "true", 9⟩, ⟨.elseWord, "else", 14⟩,
    ⟨.identifier, "z", 19⟩, ⟨.endWord, "end", 21⟩]

theorem balanced_dividedBody : Balanced [.elseWord, .endWord] dividedBody := by
  let opening : Token := ⟨.ifWord, "if", 6⟩
  let closing : Token := ⟨.endWord, "end", 21⟩
  have inside : Balanced []
      [⟨.bool, "true", 9⟩, ⟨.elseWord, "else", 14⟩, ⟨.identifier, "z", 19⟩] :=
    .token rfl nofun nofun nofun (.token rfl nofun nofun nofun (.token rfl nofun nofun nofun
      (.nil [])))
  have opens : opening.kind.opensBlock = true := rfl
  have closes : closing.kind = .endWord := rfl
  exact .token rfl nofun nofun (by decide) (.block opens inside closes (.nil _))

theorem skipping_finds_first_stop_of_dividedBody :
    let before : List Token := [⟨.endWord, "end", 0⟩]
    let stop : Token := ⟨.elseWord, "else", 25⟩
    let rest : List Token := [⟨.identifier, "w", 30⟩, ⟨.endWord, "end", 32⟩, ⟨.endOfInput, "", 35⟩]
    let stream := (TokenStream.start (before ++ dividedBody ++ stop :: rest)).setPosition 1
    AreStops [.elseWord, .endWord] ∧ Balanced [.elseWord, .endWord] dividedBody ∧
      FindsFirstStop [.elseWord, .endWord] stream (stream.skip [.elseWord, .endWord]) ∧
      stream.skip [.elseWord, .endWord] = (some .elseWord, stream.setPosition 7) := by
  intro before stop rest stream
  have areStops : AreStops [.elseWord, .endWord] := ⟨by decide, by decide, by decide⟩
  obtain ⟨finds, passes⟩ := skipping_finds_first_stop areStops
  exact ⟨areStops, balanced_dividedBody, finds _ 1,
    passes before dividedBody stop rest balanced_dividedBody (by decide)⟩

end PugScript
