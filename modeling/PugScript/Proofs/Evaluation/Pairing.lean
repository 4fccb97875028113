import PugScript.Proofs.Evaluation.Statements

/-!
# Two runs over similar tokens

Two evaluations over tokens of the same kinds and texts do the same, wherever the tokens stand in
a source, and fuel beyond what the one needs does not change the other. The right run may also have
more tokens where the left one ends, as long as the first of them does not continue an expression;
then the right run does what a successful left run did.
-/

namespace PugScript

/-- Two contexts whose runs are compared. -/
structure Pairing (σ : Type) where
  left : Context σ
  right : Context σ
  /-- The tokens that are taken for each other. -/
  same : Token → Token → Prop
  /-- The places where the left run ends and the right one may have more tokens. -/
  overhang : List Token → List Token → Prop
  leftClosed : left.IsClosed
  host_eq : left.host = right.host
  loopLimit_eq : left.loopLimit = right.loopLimit
  kind_eq : ∀ token other, same token other → token.kind = other.kind
  text_eq : ∀ token other, same token other → token.text = other.text
  overhang_left : ∀ tokens others, overhang tokens others →
    (left.front tokens).kind = .endOfInput
  overhang_right : ∀ tokens others, overhang tokens others →
    ¬ (right.front others).kind.ContinuesExpression

namespace Pairing

variable {σ α β : Type} (pairing : Pairing σ)

/-- Some place is an overhang; then only what a successful left run does is compared. -/
def Overhangs : Prop :=
  ∃ tokens others, pairing.overhang tokens others

/-- Two cursors in front of tokens that are taken for each other. -/
inductive Facing : List Token → List Token → Prop
  | token {token other : Token} {tokens others : List Token} :
      pairing.same token other →
      Facing tokens others →
      Facing (token :: tokens) (other :: others)
  | finish :
      pairing.same pairing.left.endMark pairing.right.endMark →
      Facing [] []
  | edge {tokens others : List Token} :
      pairing.overhang tokens others →
      Facing tokens others

/-- Two machines that differ at most in their places and their notes. -/
structure SameState (machine other : Machine σ) : Prop where
  bindings : machine.bindings = other.bindings
  world : machine.world = other.world
  depth : machine.depth = other.depth

/-- Two machines in the same state in front of tokens that are taken for each other. -/
structure Alike (machine other : Machine σ) : Prop extends SameState machine other where
  facing : pairing.Facing machine.remaining other.remaining

variable {pairing}

/-! ## Cursors -/

theorem Facing.same_front
    {tokens others : List Token} (facing : pairing.Facing tokens others) :
    pairing.same (pairing.left.front tokens) (pairing.right.front others) ∨
      pairing.overhang tokens others := by
  cases facing with
  | token same _ => exact .inl same
  | finish marks => exact .inl marks
  | edge overhangs => exact .inr overhangs

theorem Facing.map_append
    {move : Token → Token} {tokens rest others : List Token}
    (moved : ∀ token ∈ tokens, pairing.same token (move token))
    (facing : pairing.Facing rest others) :
    pairing.Facing (tokens ++ rest) (tokens.map move ++ others) := by
  induction tokens with
  | nil => exact facing
  | cons token tokens inductionHypothesis =>
      exact .token (moved token List.mem_cons_self)
        (inductionHypothesis fun other member => moved other (List.mem_cons_of_mem _ member))

theorem Facing.of_forall₂
    {tokens others : List Token} (same : List.Forall₂ pairing.same tokens others)
    (marks : pairing.same pairing.left.endMark pairing.right.endMark) :
    pairing.Facing tokens others := by
  induction same with
  | nil => exact .finish marks
  | cons first _ inductionHypothesis => exact .token first inductionHypothesis

theorem Facing.tail
    {tokens others : List Token} (facing : pairing.Facing tokens others)
    (notEnd : (pairing.left.front tokens).kind ≠ .endOfInput) :
    pairing.Facing tokens.tail others.tail := by
  cases facing with
  | token _ facing => exact facing
  | finish marks => exact absurd pairing.leftClosed notEnd
  | edge overhangs => exact absurd (pairing.overhang_left _ _ overhangs) notEnd

/-- Skipping a block in two lists of tokens that are taken for each other. -/
theorem Facing.skipBlock_cases
    {tokens others : List Token} (facing : pairing.Facing tokens others)
    (stops : List TokenKind) (depth : Nat) :
    (∃ stop rest others',
      skipBlock stops depth tokens = (some stop, rest) ∧
      skipBlock stops depth others = (some stop, others') ∧
      pairing.Facing rest others') ∨
    ∃ rest,
      skipBlock stops depth tokens = (none, rest) ∧
      (pairing.Overhangs ∨
        ∃ others', skipBlock stops depth others = (none, others') ∧
          pairing.Facing rest others') := by
  induction facing generalizing depth with
  | finish marks =>
      exact .inr ⟨[], rfl, .inr ⟨[], rfl, .finish marks⟩⟩
  | @edge tokens others overhangs =>
      refine .inr ⟨tokens, ?_, .inl ⟨tokens, others, overhangs⟩⟩
      have isEnd := pairing.overhang_left _ _ overhangs
      cases tokens with
      | nil => rfl
      | cons token rest =>
          rw [Context.front_cons] at isEnd
          rw [skipBlock, if_pos isEnd]
  | @token token other tokens others same facing inductionHypothesis =>
      have sameKind := pairing.kind_eq _ _ same
      rw [skipBlock, skipBlock, ← sameKind]
      by_cases isEnd : token.kind = .endOfInput
      · rw [if_pos isEnd, if_pos isEnd]
        exact .inr ⟨_, rfl, .inr ⟨_, rfl, .token same facing⟩⟩
      rw [if_neg isEnd, if_neg isEnd]
      by_cases opens : token.kind.opensBlock = true
      · rw [if_pos opens, if_pos opens]
        exact inductionHypothesis (depth + 1)
      rw [if_neg opens, if_neg opens]
      by_cases closes : token.kind = .endWord ∧ 0 < depth
      · rw [if_pos closes, if_pos closes]
        exact inductionHypothesis (depth - 1)
      rw [if_neg closes, if_neg closes]
      by_cases stopsHere : depth = 0 ∧ token.kind ∈ stops
      · rw [if_pos stopsHere, if_pos stopsHere]
        exact .inl ⟨_, _, _, rfl, rfl, .token same facing⟩
      · rw [if_neg stopsHere, if_neg stopsHere]
        exact inductionHypothesis depth

/-! ## The two runs -/

/-- Blocks make no difference here. -/
def cursors (pairing : Pairing σ) : Cursors σ σ where
  left := pairing.left
  right := pairing.right
  leftClosed := pairing.leftClosed
  same := pairing.same
  facing _ := pairing.Facing
  overhang := pairing.overhang
  kind_eq := pairing.kind_eq
  text_eq := pairing.text_eq
  overhang_left := pairing.overhang_left
  overhang_right := pairing.overhang_right
  front _ _ _ facing := facing.same_front
  tail _ _ _ facing plain := facing.tail plain.1
  tail_of_opensBlock _ _ _ facing opens := facing.tail fun isEnd => by
    rw [isEnd] at opens
    cases opens
  tail_of_elseWord _ _ _ facing divides := facing.tail (divides ▸ nofun)
  tail_of_endWord _ _ _ facing closes := facing.tail (closes ▸ nofun)
  skip level _ _ stops _ facing :=
    (facing.skipBlock_cases stops 0).imp_right fun ⟨rest, skipped, ends⟩ =>
      ⟨rest, skipped, ends.imp_right fun both => ⟨level, both⟩⟩

/-- The two runs do the same. The left one may lack fuel, and is taken to if there are overhangs. -/
def simulation (pairing : Pairing σ) (starves : Prop) (starved : pairing.Overhangs → starves) :
    Simulation σ σ :=
  pairing.cursors.uncut Eq starves (fun _ _ overhangs => starved ⟨_, _, overhangs⟩)
    (fun _ => by rw [Context.StopsLoop, Context.StopsLoop, cursors, pairing.loopLimit_eq])
    (fun _ _ => pairing.loopLimit_eq)
    (fun _ _ _ _ _ _ _ sameWorld => by rw [cursors, pairing.host_eq, sameWorld]; exact ⟨rfl, rfl⟩)

section Runs

variable {machine machine' : Machine σ}

/-- Machines that are alike in a pairing are so in the comparison of runs that it stands for. -/
theorem Alike.simulated
    (alike : pairing.Alike machine machine') (starves : Prop)
    (starved : pairing.Overhangs → starves) :
    (pairing.simulation starves starved).Alike 0 machine machine' :=
  ⟨⟨alike.bindings, alike.world, alike.depth, nofun⟩, alike.facing⟩

/-- The converse; blocks make no difference in a pairing. -/
theorem Alike.of_simulated
    {starves : Prop} {starved : pairing.Overhangs → starves} {level : Nat}
    (alike : (pairing.simulation starves starved).Alike level machine machine') :
    pairing.Alike machine machine' :=
  ⟨⟨alike.bindings, alike.world, alike.depth⟩, alike.facing⟩

open Evaluation

/-- In a pairing without overhang, statements that come to an end on the left come to the same end
on the right, whatever values were there before. -/
theorem statements_agree
    (exactly : ¬ pairing.Overhangs) (trace trace' : Bool)
    {fuel fuel' : Nat} (enough : fuel ≤ fuel') (before before' : List Value)
    (alike : pairing.Alike machine machine') {progress : Progress σ}
    (reached : statements pairing.left trace fuel before machine = some progress) :
    ∃ progress' values,
      statements pairing.right trace' fuel' before' machine' = some progress' ∧
      progress.values = before.reverse ++ values ∧
      progress'.values = before'.reverse ++ values ∧
      Option.Rel (SameFailure pairing.same) progress.failure? progress'.failure? ∧
      SameState progress.machine progress'.machine := by
  let simulation := pairing.simulation True fun _ => trivial
  have traces : simulation.noted → trace = trace' := False.elim
  have noOverhang : ¬ simulation.Overhangs := exactly
  obtain ⟨progress', values, reached', left, right, failures, _, alikeReached⟩ :=
    statements_simulate_exactly noOverhang (fun _ => id) traces (.inr ⟨trivial, enough⟩) before
      before' (alike.simulated True _) reached
  exact ⟨progress', values, reached', left, right, failures,
    (Alike.of_simulated alikeReached).toSameState⟩

/-- In a pairing without overhang, statements that come to an end on the right do so on the left
with the same fuel. -/
theorem exists_statements_of_right
    (exactly : ¬ pairing.Overhangs) (trace trace' : Bool) {fuel : Nat} (before before' : List Value)
    (alike : pairing.Alike machine machine') {progress' : Progress σ}
    (reached : statements pairing.right trace' fuel before' machine' = some progress') :
    ∃ progress, statements pairing.left trace fuel before machine = some progress := by
  let simulation := pairing.simulation False exactly
  have traces : simulation.noted → trace = trace' := False.elim
  refine Option.ne_none_iff_exists'.mp fun stuck => ?_
  have stuck' := statements_eq_none id traces fuel before before' (alike.simulated False exactly)
    stuck
  cases reached.symm.trans stuck'

/-- Statements that succeed on the left up to the end of its tokens succeed on the right as well,
and the right run then goes on from there. -/
theorem statements_pass
    (trace trace' : Bool) {fuel : Nat} (more : Nat) (before before' : List Value)
    (alike : pairing.Alike machine machine') {progress : Progress σ}
    (reached : statements pairing.left trace fuel before machine = some progress)
    (successful : progress.failure? = none) :
    ∃ values rest reached',
      progress.values = before.reverse ++ values ∧
      (pairing.left.front progress.machine.remaining).kind = .endOfInput ∧
      pairing.Alike progress.machine reached' ∧
      statements pairing.right trace' (fuel + more) before' machine' =
        statements pairing.right trace' (rest + more) (values.reverse ++ before') reached' := by
  let simulation := pairing.simulation True fun _ => trivial
  have traces : simulation.noted → trace = trace' := False.elim
  obtain ⟨values, valuesEq, follows⟩ :=
    statements_simulate traces (.inr ⟨trivial, Nat.le_add_right fuel more⟩) before before'
      (alike.simulated True _) reached
  cases follows with
  | onward rest _ isEnd _ alikeReached runs =>
      exact ⟨values, rest + 1, _, valuesEq, isEnd, .of_simulated alikeReached, runs⟩
  | failed failed _ _ _ _ => cases successful.symm.trans failed
  | cut _ isCut _ => exact isCut.cuts.elim
  | overhanging _ failed => exact absurd successful failed

end Runs

/-! ## Pairings without overhang -/

/-- Two runs over tokens that are taken for each other up to the end of both. -/
def withoutOverhang
    (left right : Context σ) (same : Token → Token → Prop) (leftClosed : left.IsClosed)
    (host_eq : left.host = right.host) (loopLimit_eq : left.loopLimit = right.loopLimit)
    (kind_eq : ∀ token other, same token other → token.kind = other.kind)
    (text_eq : ∀ token other, same token other → token.text = other.text) :
    Pairing σ where
  left := left
  right := right
  same := same
  overhang _ _ := False
  leftClosed := leftClosed
  host_eq := host_eq
  loopLimit_eq := loopLimit_eq
  kind_eq := kind_eq
  text_eq := text_eq
  overhang_left := fun _ _ => False.elim
  overhang_right := fun _ _ => False.elim

theorem not_overhangs_withoutOverhang
    {left right : Context σ} {same : Token → Token → Prop} {leftClosed : left.IsClosed}
    {host_eq : left.host = right.host} {loopLimit_eq : left.loopLimit = right.loopLimit}
    {kind_eq : ∀ token other, same token other → token.kind = other.kind}
    {text_eq : ∀ token other, same token other → token.text = other.text} :
    ¬ (withoutOverhang left right same leftClosed host_eq loopLimit_eq kind_eq
      text_eq).Overhangs :=
  fun ⟨_, _, overhangs⟩ => overhangs

/-- Two runs in one context over tokens that are taken for each other. -/
def inContext
    (context : Context σ) (closed : context.IsClosed) (same : Token → Token → Prop)
    (kind_eq : ∀ token other, same token other → token.kind = other.kind)
    (text_eq : ∀ token other, same token other → token.text = other.text) :
    Pairing σ :=
  withoutOverhang context context same closed rfl rfl kind_eq text_eq

/-- A run compared with itself, with more fuel. -/
def self (context : Context σ) (closed : context.IsClosed) : Pairing σ :=
  inContext context closed Eq (fun _ _ => congrArg Token.kind) (fun _ _ => congrArg Token.text)

end Pairing

namespace Evaluation

open Pairing

/-- Statements that come to an end come to the same end with more fuel. -/
theorem statements_of_le
    {σ : Type} {context : Context σ} (closed : context.IsClosed) {trace : Bool}
    {fuel fuel' : Nat} (enough : fuel ≤ fuel') {values : List Value} {machine : Machine σ}
    {progress : Progress σ}
    (reached : statements context trace fuel values machine = some progress) :
    ∃ progress',
      statements context trace fuel' values machine = some progress' ∧
      progress'.values = progress.values ∧
      progress'.failure? = progress.failure? ∧
      SameState progress.machine progress'.machine := by
  have alike : (Pairing.self context closed).Alike machine machine :=
    ⟨⟨rfl, rfl, rfl⟩, .of_forall₂ (List.forall₂_same.mpr fun _ _ => rfl) rfl⟩
  obtain ⟨progress', found, reached', left, right, failures, states⟩ :=
    statements_agree not_overhangs_withoutOverhang trace trace enough values values alike reached
  refine ⟨progress', reached', right.trans left.symm, ?_, states⟩
  generalize progress.failure? = failure at failures
  generalize progress'.failure? = failure' at failures
  cases failures with
  | none => rfl
  | some same => rw [same.eq fun _ _ => id]

end Evaluation

end PugScript
