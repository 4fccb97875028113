import PugScript.Host.Memory
import PugScript.Proofs.Evaluation.Coupling
import PugScript.Proofs.Evaluation.Pairing
import PugScript.Proofs.Evaluation.Shortening

/-!
# Untaken code has no influence

Tokens that are passed over are only counted. So an untaken branch, or the body of a loop that is
not entered, may be exchanged for any other inert tokens, sensible or not, without a difference to
the value or failure of its block, to the variables, to the host, or to where the block ends.
-/

namespace PugScript

variable {σ α : Type}

/-- The same result in the same state and in front of the same tokens, the same failure in the same
state, or no end within the fuel. -/
inductive Outcome.Same : Outcome σ α → Outcome σ α → Prop
  | done {result : α} {machine machine' : Machine σ}
      (state : Pairing.SameState machine machine')
      (cursor : machine.remaining = machine'.remaining) :
      Same (.done result machine) (.done result machine')
  | failed {failure : Failure} {machine machine' : Machine σ}
      (state : Pairing.SameState machine machine') :
      Same (.failed failure machine) (.failed failure machine')
  | outOfFuel : Same .outOfFuel .outOfFuel

/-- Two runs in one context over tokens with the given lists behind their walls. -/
def selfCoupling
    {context : Context σ} (closed : context.IsClosed) (behind : List Token → List Token → Prop) :
    Coupling σ σ where
  left := context
  right := context
  worlds := Eq
  callable := fun _ => True
  behind := behind
  leftClosed := closed
  endMark_eq := rfl
  loopLimit := .inl rfl
  invoke := fun _ _ _ _ _ _ worlds => by
    rw [worlds]
    exact ⟨rfl, rfl⟩

theorem selfCoupling_same
    {context : Context σ} (closed : context.IsClosed) (behind : List Token → List Token → Prop)
    {start : σ} {outcome outcome' : Outcome σ α}
    (agree : (selfCoupling closed behind).simulation.Agree start
      (fun result machine other machine' =>
        result = other ∧ Pairing.SameState machine machine' ∧
        machine.remaining = machine'.remaining)
      outcome outcome') :
    outcome.Same outcome' := by
  cases agree with
  | done _ related =>
      obtain ⟨rfl, state, cursor⟩ := related
      exact .done state cursor
  | failed _ failures alike =>
      obtain rfl := failures.eq fun _ _ => And.left
      exact .failed ⟨alike.bindings, alike.world, alike.depth⟩
  | outOfFuel => exact .outOfFuel
  | cutDone isCut _ => exact isCut.cuts.elim
  | cutFailed isCut => exact isCut.cuts.elim
  | overhanging overhangs =>
      obtain ⟨_, _, overhangs⟩ := overhangs
      exact overhangs.elim
  | starved starves => exact starves.elim

theorem Eval.bind_congr_first
    {α β : Type} {first : Eval σ α} {next : α → Eval σ β} {machine machine' : Machine σ}
    (same : first machine = first machine') :
    (first >>= next) machine = (first >>= next) machine' := by
  change Eval.bind first next machine = Eval.bind first next machine'
  unfold Eval.bind
  rw [same]

namespace Evaluation

open Eval Coupling Simulation

/-! ## The condition in front of other tokens -/

/-- Some tokens alone on the left, and with more tokens behind on the right. -/
def lengthening
    {context shortened : Context σ} (cut : context.Shortens shortened) {following : List Token}
    (fresh : ¬ (context.front following).kind.ContinuesExpression) :
    Pairing σ where
  left := shortened
  right := context
  same := fun token other => token.kind ≠ .endOfInput ∧ token = other
  overhang := fun tokens others => tokens = [] ∧ others = following
  leftClosed := cut.shortClosed
  host_eq := cut.host_eq
  loopLimit_eq := cut.loopLimit_eq
  kind_eq := fun _ _ same => congrArg Token.kind same.2
  text_eq := fun _ _ same => congrArg Token.text same.2
  overhang_left := fun _ _ overhangs => overhangs.1 ▸ cut.shortClosed
  overhang_right := fun _ _ overhangs => overhangs.2 ▸ fresh

section Lengthening

variable {context shortened : Context σ} {cut : context.Shortens shortened}
  {following : List Token} {fresh : ¬ (context.front following).kind.ContinuesExpression}

theorem lengthening_facing
    {tokens : List Token} (noEnd : ∀ token ∈ tokens, token.kind ≠ .endOfInput) :
    (lengthening cut fresh).Facing tokens (tokens ++ following) := by
  induction tokens with
  | nil => exact .edge ⟨rfl, rfl⟩
  | cons token rest inductionHypothesis =>
      obtain ⟨notEnd, noEndRest⟩ := List.forall_mem_cons.mp noEnd
      exact .token ⟨notEnd, rfl⟩ (inductionHypothesis noEndRest)

/-- Where the left run is at its end, the right one is in front of what was added. -/
theorem eq_of_lengthening_facing
    {others : List Token} (facing : (lengthening cut fresh).Facing [] others) :
    others = following := by
  cases facing with
  | finish marks => exact absurd cut.shortClosed marks.1
  | edge overhangs => exact overhangs.2

end Lengthening

/-- A condition means the same in front of other tokens that do not continue it. -/
theorem condition_in_front_of
    {context : Context σ} (closed : context.IsClosed) {fuel : Nat} {machine reached : Machine σ}
    {conditionTokens following following' : List Token} {truth : Bool}
    (done : condition context (expression context fuel)
      (machine.facing (conditionTokens ++ following)) = .done truth reached)
    (cursor : reached.remaining = following)
    (fresh : ¬ (context.front following').kind.ContinuesExpression) :
    ∃ reached',
      condition context (expression context fuel)
        (machine.facing (conditionTokens ++ following')) = .done truth reached' ∧
      reached'.remaining = following' ∧
      Pairing.SameState reached reached' := by
  -- What follows the condition is cut off first, and then the other tokens are put in its place.
  have cut : context.Shortens context := ⟨closed, closed, rfl, rfl⟩
  have shortens : (condition context (expression context fuel)).Shortens following
      (condition context (expression context fuel)) :=
    condition_shortens (expression_shortens cut following fuel)
  have passes : (condition context (expression context fuel)).PassesInert :=
    condition_passesInert (expression_passesInert closed fuel)
  obtain ⟨begun, split, shortDone⟩ := shortens _ _ _ [] done cursor
  obtain rfl : conditionTokens = begun := List.append_cancel_right split
  obtain ⟨_, passed, whole, inert⟩ := passes _ _ _ shortDone
  obtain rfl : conditionTokens = passed := whole.trans (List.append_nil passed)
  have alike : (lengthening cut fresh).Alike (machine.facing conditionTokens)
      (machine.facing (conditionTokens ++ following')) :=
    ⟨⟨rfl, rfl, rfl⟩, lengthening_facing (ne_endOfInput_of_nestingAfter inert)⟩
  let simulation := (lengthening cut fresh).simulation True fun _ => trivial
  have agree := condition_simulates
    (expression_simulates (Enough.same fuel)) _ _ _
    (alike.simulated True fun _ => trivial)
  have shortAgain : condition simulation.left (expression simulation.left fuel)
      (machine.facing conditionTokens) = .done truth (reached.facing []) := shortDone
  rw [shortAgain] at agree
  generalize done' : condition simulation.right (expression simulation.right fuel)
      (machine.facing (conditionTokens ++ following')) = outcome' at agree
  cases agree with
  | @done _ _ _ reached' _ related =>
      obtain ⟨rfl, alikeReached⟩ := related
      exact ⟨reached', done', eq_of_lengthening_facing alikeReached.facing,
        ⟨alikeReached.bindings, alikeReached.world, alikeReached.depth⟩⟩
  | cutDone isCut _ => exact isCut.cuts.elim

/-! ## Passing over inert tokens -/

/-- Skipping passes over inert tokens as a whole, whatever they are. -/
theorem skipTo_of_inert
    (context : Context σ) (opener : TokenKind) {stops : List TokenKind}
    (blockEnd : IsBlockEnd stops) {skipped : List Token} (inert : Inert skipped)
    {stop : Token} (member : stop.kind ∈ stops) {rest : List Token}
    {machine : Machine σ} (cursor : machine.remaining = skipped ++ stop :: rest) :
    skipTo context opener stops machine = .done stop.kind (machine.facing (stop :: rest)) := by
  refine skipTo_eq_done_iff.mpr ⟨stop :: rest, ?_, rfl⟩
  rw [cursor]
  exact inert.skipBlock_append_stop blockEnd member rest

/-- A block that is evaluated ends at the stop behind the inert tokens in front of it. -/
theorem block_stops_at
    {context : Context σ} (closed : context.IsClosed) {opener : TokenKind}
    {stops : List TokenKind} (blockEnd : IsBlockEnd stops) {nested fuel : Nat}
    {start machine finish : Machine σ} (passed : Passed start machine) {kind : TokenKind}
    (done : block context opener stops (expression context nested) fuel machine =
      .done kind finish)
    {inside : List Token} (inert : Inert inside) {stop : Token} (member : stop.kind ∈ stops)
    {rest : List Token} (cursor : start.remaining = inside ++ stop :: rest) :
    kind = stop.kind ∧ finish.remaining = stop :: rest := by
  obtain ⟨overBlock, found, following, front, rfl, isStop⟩ :=
    passed_of_block (expression_passesInert closed nested) closed blockEnd done
  obtain ⟨_, before, split, beforeInert⟩ := passed.trans overBlock
  have expected := inert.skipBlock_append_stop blockEnd member rest
  have actual := beforeInert.skipBlock_append_stop blockEnd isStop following
  rw [← front, ← split, cursor, expected] at actual
  obtain ⟨kinds, tokens⟩ := Prod.mk.inj actual
  exact ⟨(Option.some.inj kinds).symm, tokens.symm⟩

/-- The tokens of a condition that was evaluated are inert. -/
theorem inert_of_condition
    {context : Context σ} (closed : context.IsClosed) {fuel : Nat} {machine reached : Machine σ}
    {conditionTokens following : List Token} {truth : Bool}
    (done : condition context (expression context fuel)
      (machine.facing (conditionTokens ++ following)) = .done truth reached)
    (cursor : reached.remaining = following) :
    Inert conditionTokens := by
  have passes : (condition context (expression context fuel)).PassesInert :=
    condition_passesInert (expression_passesInert closed fuel)
  obtain ⟨_, passed, split, inert⟩ := passes _ _ _ done
  rw [Machine.facing_remaining, cursor] at split
  rw [List.append_cancel_right split]
  exact inert

theorem expect_endWord_of_cons
    {context : Context σ} (closed : context.IsClosed) {closing : Token}
    (closes : closing.kind = .endWord) {rest : List Token} {machine : Machine σ}
    (cursor : machine.remaining = closing :: rest) :
    expect context .endWord machine = .done closing (machine.facing rest) :=
  (expect_eq_done_iff closed (by decide)).mpr ⟨rest, cursor, closes, rfl⟩

/-- Inert tokens that do not start with an operator do not continue an expression. -/
theorem not_continuesExpression_front
    (context : Context σ) {skipped : List Token}
    (fresh : ∀ token ∈ skipped.head?, ¬ token.kind.ContinuesExpression)
    {stop : Token} (stops : stop.kind ∈ [TokenKind.elseWord, .endWord]) (rest : List Token) :
    ¬ (context.front (skipped ++ stop :: rest)).kind.ContinuesExpression := by
  cases skipped with
  | nil =>
      have refused : ∀ kind ∈ [TokenKind.elseWord, .endWord], ¬ kind.ContinuesExpression := by
        decide
      exact refused stop.kind stops
  | cons token skipped => exact fresh token rfl

/-! ## Branches that are not taken -/

section Taken

variable {context : Context σ} (closed : context.IsClosed)
  {divider closing : Token} (divides : divider.kind = .elseWord)
  (closes : closing.kind = .endWord)
  {inside elsePart replacement rest : List Token} (inert : Inert inside)
  (elseInert : Inert elsePart) (replacementInert : Inert replacement)

include divides closes inert elseInert replacementInert

/-- The branch that is taken ends at the same `else` in both runs, and behind it both skip to the
same `end`. -/
theorem branches_meet
    (fuel : Nat) {start start' reached reached' : Machine σ}
    (passed : Passed start reached) (passed' : Passed start' reached')
    (cursor : start.remaining = inside ++ divider :: (elsePart ++ closing :: rest))
    (cursor' : start'.remaining = inside ++ divider :: (replacement ++ closing :: rest))
    (alike : (selfCoupling closed fun _ _ => True).simulation.Alike 0 reached reached') :
    (selfCoupling closed fun _ _ => True).simulation.Agree reached.world
      (fun _ finish _ finish' =>
        Pairing.SameState finish finish' ∧
        finish.remaining = closing :: rest ∧ finish'.remaining = closing :: rest)
      (branches context true (expression context fuel) fuel reached)
      (branches context true (expression context fuel) fuel reached') := by
  have stops : divider.kind ∈ [TokenKind.elseWord, .endWord] := by simp [divides]
  have ends : closing.kind ∈ [TokenKind.endWord] := by simp [closes]
  have stopsAt {nested fuel : Nat} {start machine finish : Machine σ} {kind : TokenKind}
      {part : List Token} (passed : Passed start machine)
      (done : block context .ifWord [.elseWord, .endWord] (expression context nested) fuel
        machine = .done kind finish)
      (cursor : start.remaining = inside ++ divider :: part) :
      kind = .elseWord ∧ finish.remaining = divider :: part :=
    divides ▸ block_stops_at closed isBlockEnd_elseWord_endWord passed done inert stops cursor
  have skips {machine : Machine σ} {part : List Token} (inertPart : Inert part)
      (cursor : machine.remaining = part ++ closing :: rest) :
      skipTo context .ifWord [.endWord] machine =
        .done .endWord (machine.facing (closing :: rest)) :=
    closes ▸ skipTo_of_inert context .ifWord isBlockEnd_endWord inertPart ends cursor
  let simulation := (selfCoupling closed fun _ _ => True).simulation
  have blocks := block_agree (expression_simulates (Enough.same fuel)) alike
    .ifWord isBlockEnd_elseWord_endWord (Enough.same fuel)
  unfold branches
  refine Agree.ite Iff.rfl (fun _ => ?_) (fun untrue => absurd rfl untrue)
  refine Agree.bind (blocks.and_done fun _ => id) ?_
  rintro stop finish _ finish' ⟨⟨rfl, alikeFinish, _⟩, done, done'⟩
  obtain ⟨rfl, front⟩ := stopsAt passed done cursor
  obtain ⟨_, front'⟩ := stopsAt passed' done' cursor'
  refine Agree.ite Iff.rfl (fun _ => ?_) (fun untrue => absurd rfl untrue)
  rw [bind_advance, bind_advance, front, front', List.tail_cons, List.tail_cons]
  have skipped : simulation.Agree finish.world
      (fun _ last _ last' => last = finish.facing (closing :: rest) ∧
        last' = finish'.facing (closing :: rest))
      (skipTo context .ifWord [.endWord] (finish.facing (elsePart ++ closing :: rest)))
      (skipTo context .ifWord [.endWord] (finish'.facing (replacement ++ closing :: rest))) := by
    rw [skips elseInert rfl, skips replacementInert rfl]
    exact .done trivial ⟨rfl, rfl⟩
  refine Agree.bind skipped ?_
  rintro _ _ _ _ ⟨rfl, rfl⟩
  exact .done trivial ⟨⟨alikeFinish.bindings, alikeFinish.world, alikeFinish.depth⟩, rfl, rfl⟩

end Taken

/-- The branch behind `else` does not matter if the condition holds. -/
theorem ifBlock_same_of_true
    {context : Context σ} (closed : context.IsClosed) {fuel : Nat} {machine decided : Machine σ}
    (opening : Token) {divider closing : Token} (divides : divider.kind = .elseWord)
    (closes : closing.kind = .endWord)
    {conditionTokens thenPart elsePart replacement rest : List Token}
    (thenInert : Inert thenPart) (elseInert : Inert elsePart)
    (replacementInert : Inert replacement)
    (holds : condition context (expression context fuel)
      (machine.facing (conditionTokens ++
        (thenPart ++ divider :: (elsePart ++ closing :: rest)))) = .done true decided)
    (cursor : decided.remaining = thenPart ++ divider :: (elsePart ++ closing :: rest)) :
    (ifBlock context (expression context fuel) fuel
      (machine.facing (opening :: (conditionTokens ++
        (thenPart ++ divider :: (elsePart ++ closing :: rest)))))).Same
    (ifBlock context (expression context fuel) fuel
      (machine.facing (opening :: (conditionTokens ++
        (thenPart ++ divider :: (replacement ++ closing :: rest)))))) := by
  -- The `else` is the wall. It stands behind the condition and the branch that is taken, so both
  -- runs are in step up to it.
  have inert : Inert (conditionTokens ++ thenPart) :=
    (inert_of_condition closed holds cursor).append thenInert
  rw [← List.append_assoc] at holds ⊢
  rw [← List.append_assoc conditionTokens]
  have alike : (selfCoupling closed fun _ _ => True).simulation.Alike 0
      (machine.facing (conditionTokens ++ thenPart ++ divider :: (elsePart ++ closing :: rest)))
      (machine.facing
        (conditionTokens ++ thenPart ++ divider :: (replacement ++ closing :: rest))) :=
    ⟨⟨rfl, rfl, rfl, nofun⟩,
      Facing.of_nestingAfter inert (fun _ _ => trivial) (.inl divides) trivial⟩
  have passes : (condition context (expression context fuel)).PassesInert :=
    condition_passesInert (expression_passesInert closed fuel)
  let simulation := (selfCoupling closed fun _ _ => True).simulation
  have conditions := condition_simulates
    (expression_simulates (Enough.same fuel)) _ _ _ alike
  apply selfCoupling_same closed fun _ _ => True
  rw [ifBlock, bind_advance, bind_advance]
  refine Agree.bind (conditions.and_done fun _ => id) ?_
  rintro truth reached _ reached' ⟨⟨rfl, alikeReached⟩, done, done'⟩
  obtain rfl : truth = true := by
    cases done.symm.trans holds
    rfl
  have meet := branches_meet closed divides closes inert elseInert replacementInert fuel
    (passes _ _ _ done) (passes _ _ _ done') rfl rfl alikeReached
  refine Agree.bind meet ?_
  rintro _ finish _ finish' ⟨state, cursor, cursor'⟩
  rw [bind_of_done (expect_endWord_of_cons closed closes cursor),
    bind_of_done (expect_endWord_of_cons closed closes cursor')]
  exact .done trivial ⟨rfl, ⟨state.bindings, state.world, state.depth⟩, rfl⟩

/-- The rest of an `if` whose condition does not hold does not depend on what was skipped. -/
theorem branches_of_inert
    (context : Context σ) (expression : Eval σ Value) (fuel : Nat)
    {skipped : List Token} (inert : Inert skipped)
    {stop : Token} (stops : stop.kind ∈ [TokenKind.elseWord, .endWord]) {rest : List Token}
    {machine : Machine σ} (cursor : machine.remaining = skipped ++ stop :: rest) :
    branches context false expression fuel machine =
      branches context false expression fuel (machine.facing (stop :: rest)) := by
  have skips := skipTo_of_inert context .ifWord isBlockEnd_elseWord_endWord inert stops cursor
  have stays : skipTo context .ifWord [.elseWord, .endWord] (machine.facing (stop :: rest)) =
      .done stop.kind (machine.facing (stop :: rest)) :=
    skipTo_of_inert context .ifWord isBlockEnd_elseWord_endWord Inert.nil stops rfl
  unfold branches
  rw [ite_step, ite_step, if_neg Bool.false_ne_true, if_neg Bool.false_ne_true,
    bind_of_done skips, bind_of_done stays]

/-- Behind its condition an `if` block is its branches, and then its `end`. -/
theorem ifBlock_of_condition
    {context : Context σ} {expression : Eval σ Value} {fuel : Nat} {machine reached : Machine σ}
    (opening : Token) {tokens : List Token} {truth : Bool}
    (done : condition context expression (machine.facing tokens) = .done truth reached) :
    ifBlock context expression fuel (machine.facing (opening :: tokens)) =
      (branches context truth expression fuel >>= fun _ =>
        expect context .endWord >>= fun _ => pure (.bool truth)) reached := by
  rw [ifBlock, bind_advance]
  exact bind_of_done done

/-- The branch behind a condition that does not hold does not matter. -/
theorem ifBlock_same_of_false
    {context : Context σ} (closed : context.IsClosed) {fuel : Nat} {machine reached : Machine σ}
    (opening : Token) {stop : Token} (stops : stop.kind ∈ [TokenKind.elseWord, .endWord])
    {conditionTokens thenPart replacement rest : List Token}
    (thenInert : Inert thenPart) (replacementInert : Inert replacement)
    (fresh : ∀ token ∈ replacement.head?, ¬ token.kind.ContinuesExpression)
    (done : condition context (expression context fuel)
      (machine.facing (conditionTokens ++ (thenPart ++ stop :: rest))) = .done false reached)
    (cursor : reached.remaining = thenPart ++ stop :: rest) :
    (ifBlock context (expression context fuel) fuel
      (machine.facing (opening :: (conditionTokens ++ (thenPart ++ stop :: rest))))).Same
    (ifBlock context (expression context fuel) fuel
      (machine.facing (opening :: (conditionTokens ++ (replacement ++ stop :: rest))))) := by
  obtain ⟨reached', done', cursor', state⟩ :=
    condition_in_front_of closed done cursor
      (not_continuesExpression_front context fresh stops rest)
  let simulation := (selfCoupling closed fun _ _ => False).simulation
  have alike : simulation.Alike 1 (reached.facing (stop :: rest))
      (reached'.facing (stop :: rest)) :=
    ⟨⟨state.bindings, state.world, state.depth, nofun⟩, .same fun _ _ => trivial⟩
  rw [ifBlock_of_condition opening done, ifBlock_of_condition opening done',
    bind_congr_first (branches_of_inert context _ fuel thenInert stops cursor),
    bind_congr_first (branches_of_inert context _ fuel replacementInert stops cursor')]
  apply selfCoupling_same closed fun _ _ => False
  refine Agree.bind (branches_agree
    (expression_simulates (Enough.same fuel)) alike false
    (Enough.same fuel)) ?_
  rintro _ last _ last' ⟨_, alikeLast⟩
  refine Agree.bind (Agree.expect_endWord alikeLast) ?_
  rintro _ finish _ finish' ⟨_, alikeFinish, _, _⟩
  exact .done trivial ⟨rfl, ⟨alikeFinish.bindings, alikeFinish.world, alikeFinish.depth⟩,
    Facing.tokens_eq alikeFinish.facing fun _ _ => id⟩

/-! ## Loops that are not entered -/

/-- A loop whose condition does not hold passes over its body. -/
theorem whileBlock_of_false
    {context : Context σ} (closed : context.IsClosed) {nested fuel : Nat}
    {machine reached : Machine σ} (opening : Token) {closing : Token}
    (closes : closing.kind = .endWord) {tokens body rest : List Token} (inert : Inert body)
    (done : condition context (expression context nested) (machine.facing tokens) =
      .done false reached)
    (cursor : reached.remaining = body ++ closing :: rest) :
    whileBlock context (expression context nested) (fuel + 1)
        (machine.facing (opening :: tokens)) =
      .done .none (noteLoop context 0 opening (reached.facing rest)) := by
  have stops : closing.kind ∈ [TokenKind.elseWord, .endWord] := by simp [closes]
  have skips := inert.skipBlock_append_stop isBlockEnd_elseWord_endWord stops rest
  rw [← cursor, closes] at skips
  exact (whileBlock_eq_done_iff closed rfl).mpr
    ⟨0, reached, closing, rest, iterate_succ_eq_done_iff.mpr (.inl ⟨done, rfl⟩), skips, closes,
      rfl, rfl⟩

/-- The body of a loop that is not entered does not matter. -/
theorem whileBlock_same_of_false
    {context : Context σ} (closed : context.IsClosed) {fuel : Nat} {machine reached : Machine σ}
    (opening : Token) {closing : Token} (closes : closing.kind = .endWord)
    {conditionTokens body replacement rest : List Token}
    (bodyInert : Inert body) (replacementInert : Inert replacement)
    (fresh : ∀ token ∈ replacement.head?, ¬ token.kind.ContinuesExpression)
    (done : condition context (expression context fuel)
      (machine.facing (conditionTokens ++ (body ++ closing :: rest))) = .done false reached)
    (cursor : reached.remaining = body ++ closing :: rest) :
    (whileBlock context (expression context fuel) fuel
      (machine.facing (opening :: (conditionTokens ++ (body ++ closing :: rest))))).Same
    (whileBlock context (expression context fuel) fuel
      (machine.facing (opening :: (conditionTokens ++ (replacement ++ closing :: rest))))) := by
  have stops : closing.kind ∈ [TokenKind.elseWord, .endWord] := by simp [closes]
  obtain ⟨reached', done', cursor', state⟩ :=
    condition_in_front_of closed done cursor
      (not_continuesExpression_front context fresh stops rest)
  cases fuel with
  | zero => cases done
  | succ fuel =>
      rw [whileBlock_of_false closed opening closes bodyInert done cursor,
        whileBlock_of_false closed opening closes replacementInert done' cursor']
      exact .done ⟨state.bindings, state.world, state.depth⟩ rfl

/-! ## Exchanging untaken code -/

/-- A machine at the keyword of a block with its condition, in an evaluation of some tokens before
it and others behind. -/
structure BlockSite (σ : Type) where
  host : Host σ
  preferences : EvaluationPreferences
  fuel : Nat
  machine : Machine σ
  before : List Token
  keyword : Token
  conditionTokens : List Token

namespace BlockSite

def tokens (site : BlockSite σ) (following : List Token) : List Token :=
  site.keyword :: (site.conditionTokens ++ following)

def context (site : BlockSite σ) (following : List Token) : Context σ :=
  contextOf site.host site.preferences (site.before ++ site.tokens following)

/-- The condition has the given truth and ends in front of the tokens behind it. -/
def Decides (site : BlockSite σ) (truth : Bool) (following : List Token) : Prop :=
  ∃ reached,
    condition (site.context following) (expression (site.context following) site.fuel)
        (site.machine.facing (site.conditionTokens ++ following)) = .done truth reached ∧
    reached.remaining = following

def outcome
    (block : Context σ → Eval σ Value → Nat → Eval σ Value) (site : BlockSite σ)
    (following : List Token) : Outcome σ Value :=
  block (site.context following) (expression (site.context following) site.fuel) site.fuel
    (site.machine.facing (site.tokens following))

theorem closed (site : BlockSite σ) (following : List Token) : (site.context following).IsClosed :=
  contextOf_isClosed _ _ _

/-- Only the last token matters to the mark behind the tokens. -/
theorem context_congr
    (site : BlockSite σ) (front front' : List Token) (token : Token) (rest : List Token) :
    site.context (front ++ token :: rest) = site.context (front' ++ token :: rest) := by
  have last (front : List Token) :
      (site.before ++ site.tokens (front ++ token :: rest)).getLast? =
        (token :: rest).getLast? := by
    rw [tokens, ← List.cons_append, ← List.append_assoc, ← List.append_assoc,
      List.getLast?_append_of_ne_nil _ (List.cons_ne_nil _ _)]
  unfold context contextOf endMark
  rw [last, last]

end BlockSite

/-- Neither the branch behind `else` of an `if` whose condition holds, nor the branch in front of
`else` or `end` of an `if` whose condition does not hold, nor the body of a loop that is not entered
makes a difference to its block. -/
theorem untaken_code_has_no_influence (site : BlockSite σ) :
    (∀ thenPart divider elsePart closing rest replacement,
      Inert thenPart → divider.kind = .elseWord → Inert elsePart → closing.kind = .endWord →
      Inert replacement →
      site.Decides true (thenPart ++ divider :: (elsePart ++ closing :: rest)) →
      (site.outcome ifBlock (thenPart ++ divider :: (elsePart ++ closing :: rest))).Same
        (site.outcome ifBlock (thenPart ++ divider :: (replacement ++ closing :: rest)))) ∧
    (∀ thenPart stop rest replacement,
      Inert thenPart → stop.kind = .elseWord ∨ stop.kind = .endWord → Inert replacement →
      (∀ token ∈ replacement.head?, ¬ token.kind.ContinuesExpression) →
      site.Decides false (thenPart ++ stop :: rest) →
      (site.outcome ifBlock (thenPart ++ stop :: rest)).Same
        (site.outcome ifBlock (replacement ++ stop :: rest))) ∧
    ∀ body closing rest replacement,
      Inert body → closing.kind = .endWord → Inert replacement →
      (∀ token ∈ replacement.head?, ¬ token.kind.ContinuesExpression) →
      site.Decides false (body ++ closing :: rest) →
      (site.outcome whileBlock (body ++ closing :: rest)).Same
        (site.outcome whileBlock (replacement ++ closing :: rest)) := by
  refine ⟨?_, ?_, ?_⟩
  · intro thenPart divider elsePart closing rest replacement thenInert divides elseInert closes
      replacementInert decides
    obtain ⟨decided, holds, cursor⟩ := decides
    have contexts := site.context_congr (thenPart ++ divider :: replacement)
      (thenPart ++ divider :: elsePart) closing rest
    rw [List.append_assoc, List.append_assoc, List.cons_append, List.cons_append] at contexts
    unfold BlockSite.outcome
    rw [contexts]
    exact ifBlock_same_of_true (site.closed _) site.keyword divides closes thenInert elseInert
      replacementInert holds cursor
  · intro thenPart stop rest replacement thenInert isStop replacementInert fresh decides
    obtain ⟨decided, fails, cursor⟩ := decides
    have stops : stop.kind ∈ [TokenKind.elseWord, .endWord] := by simpa using isStop
    unfold BlockSite.outcome
    rw [site.context_congr replacement thenPart stop rest]
    exact ifBlock_same_of_false (site.closed _) site.keyword stops thenInert replacementInert fresh
      fails cursor
  · intro body closing rest replacement bodyInert closes replacementInert fresh decides
    obtain ⟨decided, fails, cursor⟩ := decides
    unfold BlockSite.outcome
    rw [site.context_congr replacement body closing rest]
    exact whileBlock_same_of_false (site.closed _) site.keyword closes bodyInert replacementInert
      fresh fails cursor

/-- The tokens `if while ) end else + end`, which no block can evaluate. -/
def senselessTokens : List Token :=
  [⟨.ifWord, "if", 0⟩, ⟨.whileWord, "while", 3⟩, ⟨.closeParenthesis, ")", 9⟩, ⟨.endWord, "end", 11⟩,
    ⟨.elseWord, "else", 15⟩, ⟨.plus, "+", 20⟩, ⟨.endWord, "end", 22⟩]

/-- A keyword in front of a literal, with a variable declared before. -/
def literalSite (keyword : Token) (literal : Token) : BlockSite (MemoryHost Nat) where
  host := seededHost
  preferences := {}
  fuel := 4
  machine := initialMachine [] ⟨[("x", .int 3)]⟩ (.seeded 0)
  before := []
  keyword := keyword
  conditionTokens := [literal]

theorem senselessTokens_have_no_influence :
    let text : Token := ⟨.string, "a", 40⟩
    let divider : Token := ⟨.elseWord, "else", 50⟩
    let closing : Token := ⟨.endWord, "end", 60⟩
    let ifTrue := literalSite ⟨.ifWord, "if", 30⟩ ⟨.bool, "true", 33⟩
    let ifFalse := literalSite ⟨.ifWord, "if", 30⟩ ⟨.bool, "false", 33⟩
    let whileFalse := literalSite ⟨.whileWord, "while", 30⟩ ⟨.bool, "false", 33⟩
    (ifTrue.outcome ifBlock ([text] ++ divider :: ([] ++ closing :: []))).Same
      (ifTrue.outcome ifBlock ([text] ++ divider :: (senselessTokens ++ closing :: []))) ∧
    (ifFalse.outcome ifBlock ([text] ++ divider :: [text, closing])).Same
      (ifFalse.outcome ifBlock (senselessTokens ++ divider :: [text, closing])) ∧
    (whileFalse.outcome whileBlock ([text] ++ closing :: [])).Same
      (whileFalse.outcome whileBlock (senselessTokens ++ closing :: [])) := by
  intro text divider closing ifTrue ifFalse whileFalse
  have inert : Inert [text] := by decide
  have senseless : Inert senselessTokens := by decide
  have fresh : ∀ token ∈ senselessTokens.head?, ¬ token.kind.ContinuesExpression := by decide
  have holds : ifTrue.Decides true ([text] ++ divider :: ([] ++ closing :: [])) :=
    ⟨ifTrue.machine.facing _, by cbv, rfl⟩
  have fails : ifFalse.Decides false ([text] ++ divider :: [text, closing]) :=
    ⟨ifFalse.machine.facing _, by cbv, rfl⟩
  have ends : whileFalse.Decides false ([text] ++ closing :: []) :=
    ⟨whileFalse.machine.facing _, by cbv, rfl⟩
  obtain ⟨taken, -, -⟩ := untaken_code_has_no_influence ifTrue
  obtain ⟨-, untaken, -⟩ := untaken_code_has_no_influence ifFalse
  obtain ⟨-, -, unentered⟩ := untaken_code_has_no_influence whileFalse
  exact ⟨taken [text] divider [] closing [] senselessTokens inert rfl Inert.nil rfl senseless holds,
    untaken [text] divider [text, closing] senselessTokens inert (.inl rfl) senseless fresh fails,
    unentered [text] closing [] senselessTokens inert rfl senseless fresh ends⟩

end Evaluation

end PugScript
