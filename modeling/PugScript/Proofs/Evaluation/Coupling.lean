import PugScript.Proofs.Evaluation.Counting
import PugScript.Proofs.Evaluation.Statements

/-!
# Two runs in step

Two evaluations go in step as long as they are in front of the same tokens and their hosts answer
alike. The tokens may differ behind a wall: an `else` or `end` that belongs to a block around the
two cursors. No expression passes it, and a block that is opened in front of it is closed in front
of it, so that neither run ever looks behind it. Both then succeed with the same result, fail for
the same reason, or run out of fuel.
-/

namespace PugScript

/-- Two contexts whose runs are compared step by step. -/
structure Coupling (σ τ : Type) where
  left : Context σ
  right : Context τ
  /-- The states of the two hosts that correspond to each other. -/
  worlds : σ → τ → Prop
  /-- The functions that the two hosts answer alike. -/
  callable : Token → Prop
  /-- What may stand behind the walls of the two runs. -/
  behind : List Token → List Token → Prop
  leftClosed : left.IsClosed
  endMark_eq : left.endMark = right.endMark
  /-- The limits are the same, or neither of them bounds any loop. -/
  loopLimit : left.loopLimit = right.loopLimit ∨
    ¬ BoundsLoops left.loopLimit ∧ ¬ BoundsLoops right.loopLimit
  invoke : ∀ token arguments world other,
    token.kind = .function → callable token → worlds world other →
    (Builtin.invoke left.host token.text arguments world).1 =
        (Builtin.invoke right.host token.text arguments other).1 ∧
      worlds (Builtin.invoke left.host token.text arguments world).2
        (Builtin.invoke right.host token.text arguments other).2

namespace Coupling

variable {σ τ α β : Type} (coupling : Coupling σ τ)

/-- Two cursors in front of the same tokens, at least up to a wall. The level counts the blocks
that are open at the cursors and closed in front of the wall. -/
inductive Facing : Nat → List Token → List Token → Prop
  | same {level : Nat} {tokens : List Token} :
      (∀ token ∈ tokens, coupling.callable token) →
      Facing level tokens tokens
  | wall {wall : Token} {rest rest' : List Token} :
      wall.kind = .elseWord ∨ wall.kind = .endWord →
      coupling.behind rest rest' →
      Facing 0 (wall :: rest) (wall :: rest')
  | plain {level : Nat} {token : Token} {rest rest' : List Token} :
      token.kind.IsPlain →
      coupling.callable token →
      Facing level rest rest' →
      Facing level (token :: rest) (token :: rest')
  | opening {level : Nat} {token : Token} {rest rest' : List Token} :
      token.kind.opensBlock = true →
      Facing (level + 1) rest rest' →
      Facing level (token :: rest) (token :: rest')
  | dividing {level : Nat} {token : Token} {rest rest' : List Token} :
      token.kind = .elseWord →
      Facing (level + 1) rest rest' →
      Facing (level + 1) (token :: rest) (token :: rest')
  | closing {level : Nat} {token : Token} {rest rest' : List Token} :
      token.kind = .endWord →
      Facing level rest rest' →
      Facing (level + 1) (token :: rest) (token :: rest')

/-- The two runs stop a loop at the same turn. -/
theorem stopsLoop_iff (count : UInt64) :
    coupling.left.StopsLoop count ↔ coupling.right.StopsLoop count := by
  rcases coupling.loopLimit with same | ⟨leftBoundless, rightBoundless⟩
  · rw [Context.StopsLoop, Context.StopsLoop, same]
  · exact iff_of_false (not_exceeds leftBoundless count) (not_exceeds rightBoundless count)

/-- Where a loop is stopped, the limits of the two runs are equal, and so are the failures that
mention them. -/
theorem loopLimit_eq_of_stopsLoop {count : UInt64} (stops : coupling.left.StopsLoop count) :
    coupling.left.loopLimit = coupling.right.loopLimit :=
  coupling.loopLimit.resolve_right fun boundless => not_exceeds boundless.1 count stops

variable {coupling} {level : Nat}

/-! ## Cursors -/

namespace Facing

variable {tokens others : List Token} (facing : coupling.Facing level tokens others)

include facing

theorem front_eq : coupling.left.front tokens = coupling.right.front others := by
  cases facing with
  | @same _ tokens _ =>
      cases tokens with
      | nil => exact coupling.endMark_eq
      | cons token rest => rfl
  | _ => rfl

theorem callable_front (isFunction : (coupling.left.front tokens).kind = .function) :
    coupling.callable (coupling.left.front tokens) := by
  have plain : (coupling.left.front tokens).kind.IsPlain := by
    rw [isFunction]
    decide
  obtain ⟨notEnd, notOpening, notElse, notClosing⟩ := plain
  cases facing with
  | same callable =>
      obtain ⟨rest, cursor⟩ := coupling.leftClosed.exists_cons notEnd
      exact callable _ (cursor ▸ List.mem_cons_self)
  | wall isWall _ => exact absurd isWall (not_or.mpr ⟨notElse, notClosing⟩)
  | plain _ callable _ => exact callable
  | opening opens _ => exact absurd opens (ne_true_of_eq_false notOpening)
  | dividing divides _ => exact absurd divides notElse
  | closing closes _ => exact absurd closes notClosing

/-- Without walls the tokens are the same. -/
theorem tokens_eq (noWall : ∀ rest rest', ¬ coupling.behind rest rest') : tokens = others := by
  induction facing with
  | same _ => rfl
  | wall _ behind => exact absurd behind (noWall _ _)
  | plain _ _ _ inductionHypothesis => rw [inductionHypothesis]
  | opening _ _ inductionHypothesis => rw [inductionHypothesis]
  | dividing _ _ inductionHypothesis => rw [inductionHypothesis]
  | closing _ _ inductionHypothesis => rw [inductionHypothesis]

/-- Passing a token that does not concern blocks. -/
theorem tail (plain : (coupling.left.front tokens).kind.IsPlain) :
    coupling.Facing level tokens.tail others.tail := by
  obtain ⟨_, notOpening, notElse, notEnd⟩ := plain
  cases facing with
  | same callable => exact .same fun token member => callable token (List.mem_of_mem_tail member)
  | wall isWall _ => exact absurd isWall (not_or.mpr ⟨notElse, notEnd⟩)
  | plain _ _ facing => exact facing
  | opening opens _ => exact absurd opens (ne_true_of_eq_false notOpening)
  | dividing divides _ => exact absurd divides notElse
  | closing closes _ => exact absurd closes notEnd

theorem tail_of_opensBlock (opens : (coupling.left.front tokens).kind.opensBlock = true) :
    coupling.Facing (level + 1) tokens.tail others.tail := by
  cases facing with
  | same callable => exact .same fun token member => callable token (List.mem_of_mem_tail member)
  | wall isWall _ =>
      rw [Context.front_cons] at opens
      rcases isWall with isElse | isEnd
      · simp [isElse, TokenKind.opensBlock] at opens
      · simp [isEnd, TokenKind.opensBlock] at opens
  | plain isPlain _ _ => exact absurd opens (ne_true_of_eq_false isPlain.2.1)
  | opening _ facing => exact facing
  | dividing divides _ =>
      rw [Context.front_cons, divides] at opens
      cases opens
  | closing closes _ =>
      rw [Context.front_cons, closes] at opens
      cases opens

omit facing in
theorem tail_of_elseWord
    (facing : coupling.Facing (level + 1) tokens others)
    (divides : (coupling.left.front tokens).kind = .elseWord) :
    coupling.Facing (level + 1) tokens.tail others.tail := by
  cases facing with
  | same callable => exact .same fun token member => callable token (List.mem_of_mem_tail member)
  | plain isPlain _ _ => exact absurd divides isPlain.2.2.1
  | opening opens _ =>
      rw [Context.front_cons] at divides
      rw [divides] at opens
      cases opens
  | dividing _ facing => exact facing
  | closing closes _ => cases closes.symm.trans divides

omit facing in
/-- Passing the end of a block leads one level up. -/
theorem tail_of_endWord
    (facing : coupling.Facing (level + 1) tokens others)
    (closes : (coupling.left.front tokens).kind = .endWord) :
    coupling.Facing level tokens.tail others.tail := by
  cases facing with
  | same callable => exact .same fun token member => callable token (List.mem_of_mem_tail member)
  | plain isPlain _ _ => exact absurd closes isPlain.2.2.2
  | opening opens _ =>
      rw [Context.front_cons] at closes
      rw [closes] at opens
      cases opens
  | dividing divides _ => cases closes.symm.trans divides
  | closing _ facing => exact facing

omit facing in
/-- Inside a block, skipping leads both cursors to the same stop, in front of the wall. -/
theorem skipBlock_cases
    {stops : List TokenKind} (blockEnd : IsBlockEnd stops) (depth : Nat)
    (facing : coupling.Facing (level + 1 + depth) tokens others) :
    (∃ stop rest rest',
      skipBlock stops depth tokens = (some stop, rest) ∧
      skipBlock stops depth others = (some stop, rest') ∧
      coupling.Facing (level + 1) rest rest') ∨
    ∃ rest,
      skipBlock stops depth tokens = (none, rest) ∧
      skipBlock stops depth others = (none, rest) ∧
      ∀ token ∈ rest, coupling.callable token := by
  generalize reached : level + 1 + depth = inside at facing
  induction facing generalizing depth with
  | @same inside tokens callable =>
      have further := skipBlock_isSuffix stops depth tokens
      rcases skipped : skipBlock stops depth tokens with ⟨_ | stop, rest⟩
      all_goals
        rw [skipped] at further
        have callableRest : ∀ token ∈ rest, coupling.callable token :=
          fun token member => callable token (further.mem member)
      · exact .inr ⟨rest, rfl, rfl, callableRest⟩
      · exact .inl ⟨stop, rest, rest, rfl, rfl, .same callableRest⟩
  | wall _ _ => omega
  | @plain inside token rest rest' isPlain _ _ inductionHypothesis =>
      have passes : nestingAfter depth [token] = some depth :=
        nestingAfter_cons_of_isPlain isPlain depth []
      have step := skipBlock_append blockEnd passes
      rw [← List.singleton_append, step, ← List.singleton_append, step]
      exact inductionHypothesis depth reached
  | @opening inside token rest rest' opens _ inductionHypothesis =>
      have passes : nestingAfter depth [token] = some (depth + 1) :=
        nestingAfter_cons_of_opensBlock opens depth []
      have step := skipBlock_append blockEnd passes
      rw [← List.singleton_append, step, ← List.singleton_append, step]
      exact inductionHypothesis (depth + 1) (by omega)
  | @dividing inside token rest rest' divides facing inductionHypothesis =>
      by_cases stopsHere : depth = 0 ∧ token.kind ∈ stops
      · obtain ⟨rfl, member⟩ := stopsHere
        have stop := skipBlock_stop blockEnd member
        obtain rfl : level = inside := by omega
        exact .inl ⟨token.kind, _, _, stop rest, stop rest', .dividing divides facing⟩
      · have step (following : List Token) :
            skipBlock stops depth (token :: following) = skipBlock stops depth following := by
          rw [skipBlock, if_neg (by rw [divides]; decide), if_neg (by rw [divides]; decide),
            if_neg (by rw [divides]; simp), if_neg stopsHere]
        rw [step, step]
        exact inductionHypothesis depth reached
  | @closing inside token rest rest' closes facing inductionHypothesis =>
      cases depth with
      | zero =>
          have stop := skipBlock_stop blockEnd (closes ▸ blockEnd.endWord_mem)
          obtain rfl : level = inside := by omega
          exact .inl ⟨token.kind, _, _, stop rest, stop rest', .closing closes facing⟩
      | succ depth =>
          have passes : nestingAfter (depth + 1) [token] = some depth :=
            nestingAfter_cons_of_endWord closes depth []
          have step := skipBlock_append blockEnd passes
          rw [← List.singleton_append, step, ← List.singleton_append, step]
          exact inductionHypothesis depth (by omega)

omit facing in
/-- Tokens that lead out of all blocks, in front of a wall. -/
theorem of_nestingAfter
    {passed : List Token} (passes : nestingAfter level passed = some 0)
    (callable : ∀ token ∈ passed, coupling.callable token)
    {wall : Token} (isWall : wall.kind = .elseWord ∨ wall.kind = .endWord)
    {rest rest' : List Token} (behind : coupling.behind rest rest') :
    coupling.Facing level (passed ++ wall :: rest) (passed ++ wall :: rest') := by
  induction passed generalizing level with
  | nil =>
      cases passes
      exact .wall isWall behind
  | cons token passed inductionHypothesis =>
      obtain ⟨callableToken, callablePassed⟩ := List.forall_mem_cons.mp callable
      rw [List.cons_append, List.cons_append]
      by_cases isEnd : token.kind = .endOfInput
      · simp [nestingAfter, isEnd] at passes
      by_cases opens : token.kind.opensBlock = true
      · rw [nestingAfter_cons_of_opensBlock opens] at passes
        exact .opening opens (inductionHypothesis passes callablePassed)
      by_cases closes : token.kind = .endWord
      · cases level with
        | zero => simp [nestingAfter, closes, TokenKind.opensBlock] at passes
        | succ level =>
            rw [nestingAfter_cons_of_endWord closes] at passes
            exact .closing closes (inductionHypothesis passes callablePassed)
      by_cases divides : token.kind = .elseWord
      · cases level with
        | zero => simp [nestingAfter, divides, TokenKind.opensBlock] at passes
        | succ level =>
            rw [nestingAfter_cons_of_elseWord divides] at passes
            exact .dividing divides (inductionHypothesis passes callablePassed)
      · have isPlain : token.kind.IsPlain := ⟨isEnd, by simpa using opens, divides, closes⟩
        rw [nestingAfter_cons_of_isPlain isPlain] at passes
        exact .plain isPlain callableToken (inductionHypothesis passes callablePassed)

end Facing

/-! ## The simulation -/

/-- Equal tokens are taken for each other, functions only if both hosts answer them alike. -/
def cursors (coupling : Coupling σ τ) : Cursors σ τ where
  left := coupling.left
  right := coupling.right
  leftClosed := coupling.leftClosed
  same token other := token = other ∧ (token.kind = .function → coupling.callable token)
  facing := coupling.Facing
  overhang _ _ := False
  kind_eq _ _ same := congrArg Token.kind same.1
  text_eq _ _ same := congrArg Token.text same.1
  overhang_left _ _ := False.elim
  overhang_right _ _ := False.elim
  front _ _ _ facing := .inl ⟨facing.front_eq, facing.callable_front⟩
  tail _ _ _ facing plain := facing.tail plain
  tail_of_opensBlock _ _ _ facing opens := facing.tail_of_opensBlock opens
  tail_of_elseWord _ _ _ facing divides := facing.tail_of_elseWord divides
  tail_of_endWord _ _ _ facing closes := facing.tail_of_endWord closes
  skip level _ _ _ blockEnd facing :=
    (Facing.skipBlock_cases blockEnd 0 facing).imp_right fun ⟨rest, skipped, skipped', callable⟩ =>
      ⟨rest, skipped, .inr ⟨level, rest, skipped', .same callable⟩⟩

def simulation (coupling : Coupling σ τ) : Simulation σ τ :=
  coupling.cursors.uncut coupling.worlds False (fun _ _ => id) coupling.stopsLoop_iff
    (fun _ => coupling.loopLimit_eq_of_stopsLoop)
    (fun function other arguments world world' same isFunction worlds => by
      obtain ⟨rfl, callable⟩ := same
      exact coupling.invoke function arguments world world' isFunction (callable isFunction) worlds)

end Coupling

namespace Evaluation

variable {σ τ : Type}

/-- Runs with the same values and the same failure give the same result. -/
theorem ofProgress_result_eq
    {coupling : Coupling σ τ} (tokens : List Token) {progress : Progress σ} {other : Progress τ}
    (same : SameProgress coupling.simulation progress other) :
    (ofProgress tokens progress).result = (ofProgress tokens other).result := by
  obtain ⟨_, alike⟩ := same.alike
  have failures := same.failure?
  dsimp only [ofProgress]
  rw [same.values, alike.bindings]
  generalize progress.failure? = failure at failures
  generalize other.failure? = otherFailure at failures
  cases failures with
  | none => rfl
  | some both => rw [both.eq fun _ _ => And.left]

theorem contextOf_endMark_eq
    (host : Host σ) (other : Host τ) (preferences : EvaluationPreferences) (tokens : List Token) :
    (contextOf host preferences tokens).endMark = (contextOf other preferences tokens).endMark :=
  rfl

/-- Two evaluations of the same tokens with two hosts that give the same answers. -/
def hostCoupling
    (host : Host σ) (other : Host τ) (preferences : EvaluationPreferences) (tokens : List Token)
    (worlds : σ → τ → Prop) (callable : Token → Prop)
    (answers : ∀ token arguments world otherWorld,
      token.kind = .function → callable token → worlds world otherWorld →
      (Builtin.invoke host token.text arguments world).1 =
        (Builtin.invoke other token.text arguments otherWorld).1 ∧
      worlds (Builtin.invoke host token.text arguments world).2
        (Builtin.invoke other token.text arguments otherWorld).2) :
    Coupling σ τ where
  left := contextOf host preferences tokens
  right := contextOf other preferences tokens
  worlds := worlds
  callable := callable
  behind := fun _ _ => False
  leftClosed := contextOf_isClosed host preferences tokens
  endMark_eq := contextOf_endMark_eq host other preferences tokens
  loopLimit := .inl rfl
  invoke := answers

/-- Two evaluations of the same tokens that go in step come to the same end. -/
theorem evaluate_couple
    (coupling : Coupling σ τ) {host : Host σ} {other : Host τ}
    {preferences otherPreferences : EvaluationPreferences} {tokens : List Token}
    (leftIs : coupling.left = contextOf host preferences tokens)
    (rightIs : coupling.right = contextOf other otherPreferences tokens)
    (callable : ∀ token ∈ tokens, coupling.callable token)
    (fuel : Nat) (bindings : VariableTable) {world : σ} {otherWorld : τ}
    (worlds : coupling.worlds world otherWorld) :
    Option.Rel
      (fun evaluation otherEvaluation =>
        evaluation.result = otherEvaluation.result ∧
        evaluation.bindings = otherEvaluation.bindings ∧
        coupling.worlds evaluation.world otherEvaluation.world)
      (evaluate fuel host preferences tokens bindings world)
      (evaluate fuel other otherPreferences tokens bindings otherWorld) := by
  have alike : coupling.simulation.Alike 0 (initialMachine tokens bindings world)
      (initialMachine tokens bindings otherWorld) :=
    ⟨⟨rfl, worlds, rfl, nofun⟩, .same callable⟩
  have traces : coupling.simulation.noted →
      preferences.traceStatements = otherPreferences.traceStatements := False.elim
  have same := statements_rel id traces fuel [] alike
  rw [show coupling.simulation.left = _ from leftIs,
    show coupling.simulation.right = _ from rightIs] at same
  exact evaluate_rel same fun _ _ both =>
    have ⟨_, alikeReached⟩ := both.alike
    ⟨ofProgress_result_eq tokens both, alikeReached.bindings, alikeReached.world⟩

/-- Two evaluations end alike, whatever notes they leave. -/
def EndsLike (evaluation other : Evaluation σ) : Prop :=
  evaluation.result = other.result ∧
  evaluation.bindings = other.bindings ∧
  evaluation.world = other.world

/-- A loop limit that bounds no loop is as good as any other of this kind: the largest one is as
good as none. -/
theorem evaluate_of_not_boundsLoops
    (host : Host σ) (preferences : EvaluationPreferences) (tokens : List Token)
    (bindings : VariableTable) (world : σ) {limit other : UInt64}
    (boundless : ¬ BoundsLoops limit) (otherBoundless : ¬ BoundsLoops other) (fuel : Nat) :
    Option.Rel EndsLike
      (evaluate fuel host { preferences with maxLoopIterations := limit } tokens bindings world)
      (evaluate fuel host { preferences with maxLoopIterations := other } tokens bindings
        world) := by
  let coupling : Coupling σ σ :=
    { left := contextOf host { preferences with maxLoopIterations := limit } tokens
      right := contextOf host { preferences with maxLoopIterations := other } tokens
      worlds := Eq
      callable := fun _ => True
      behind := fun _ _ => False
      leftClosed := contextOf_isClosed ..
      endMark_eq := rfl
      loopLimit := .inr ⟨boundless, otherBoundless⟩
      invoke := fun _ _ _ _ _ _ same => by rw [← same]; exact ⟨rfl, rfl⟩ }
  have same : coupling.worlds world world := rfl
  exact evaluate_couple coupling rfl rfl (fun _ _ => trivial) fuel bindings same

end Evaluation

end PugScript
