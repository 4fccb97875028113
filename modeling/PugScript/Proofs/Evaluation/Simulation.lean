import PugScript.Proofs.Evaluation.Success

/-!
# Simulations

Two runs are compared step by step, a leading one on the left and one that follows it on the right.
As long as they go in step they stand at places that are taken for each other, with the same
variables, and with depths and hosts that correspond to each other. There are three ways to part.
The left run may come to the end of its tokens where the right one has more. The right run may be
cut short by a limit that is narrower than that of the left one; what the left run does from there
on can only add to what has happened to its host. And the left run may lack fuel.

The rules at the end of this module say how the single steps of the machine are compared. How a
construct of the language is compared follows from them, whatever the two runs are.
-/

namespace PugScript

/-! ## What corresponds -/

/-- Kinds that are read as part of the expression in front of them. -/
def TokenKind.ContinuesExpression (kind : TokenKind) : Prop :=
  kind = .assign ∨ ∃ tier : Tier, tier.accepts kind = true

instance (kind : TokenKind) : Decidable kind.ContinuesExpression :=
  let tiers : List Tier := [.disjunction, .conjunction, .comparison, .additive, .multiplicative]
  have complete (tier : Tier) : tier ∈ tiers := by
    cases tier <;> decide
  decidable_of_iff (kind = .assign ∨ ∃ tier ∈ tiers, tier.accepts kind = true)
    (or_congr_right
      ⟨fun ⟨tier, _, accepted⟩ => ⟨tier, accepted⟩,
        fun ⟨tier, accepted⟩ => ⟨tier, complete tier, accepted⟩⟩)

/-- Faults that do not mention a place in the source. -/
def EvaluationFault.IsPlaceless : EvaluationFault → Prop
  | unexpectedPrimary _ _ => False
  | _ => True

/-- Two failures for the same reason at tokens that are taken for each other. -/
inductive SameFailure (same : Token → Token → Prop) : Failure → Failure → Prop
  | placeless {fault : EvaluationFault} {token other : Token} :
      fault.IsPlaceless →
      same token other →
      SameFailure same ⟨fault, token⟩ ⟨fault, other⟩
  | unexpected {token other : Token} :
      same token other →
      SameFailure same ⟨.unexpectedPrimary token.kind token.offset, token⟩
        ⟨.unexpectedPrimary other.kind other.offset, other⟩

/-- Where only equal tokens are taken for each other, only equal failures are. -/
theorem SameFailure.eq
    {same : Token → Token → Prop} (exact : ∀ token other, same token other → token = other)
    {failure other : Failure} (failures : SameFailure same failure other) : failure = other := by
  cases failures with
  | placeless _ tokens => rw [exact _ _ tokens]
  | unexpected tokens => rw [exact _ _ tokens]

/-- A loop that has made so many turns is stopped. -/
def Context.StopsLoop {σ : Type} (context : Context σ) (turns : UInt64) : Prop :=
  0 < context.loopLimit ∧ context.loopLimit < turns

instance {σ : Type} (context : Context σ) (turns : UInt64) : Decidable (context.StopsLoop turns) :=
  inferInstanceAs (Decidable (_ ∧ _))

/-- Two contexts, and the places in their tokens that are taken for each other. -/
structure Cursors (σ τ : Type) where
  left : Context σ
  right : Context τ
  leftClosed : left.IsClosed
  /-- The tokens that are taken for each other. -/
  same : Token → Token → Prop
  /-- The places that are taken for each other, with the number of blocks that are open there. -/
  facing : Nat → List Token → List Token → Prop
  /-- The places where the left run ends and the right one may have more tokens. -/
  overhang : List Token → List Token → Prop
  kind_eq : ∀ token other, same token other → token.kind = other.kind
  text_eq : ∀ token other, same token other → token.text = other.text
  overhang_left : ∀ tokens others, overhang tokens others →
    (left.front tokens).kind = .endOfInput
  overhang_right : ∀ tokens others, overhang tokens others →
    ¬ (right.front others).kind.ContinuesExpression
  front : ∀ level tokens others, facing level tokens others →
    same (left.front tokens) (right.front others) ∨ overhang tokens others
  tail : ∀ level tokens others, facing level tokens others →
    (left.front tokens).kind.IsPlain → facing level tokens.tail others.tail
  tail_of_opensBlock : ∀ level tokens others, facing level tokens others →
    (left.front tokens).kind.opensBlock = true → facing (level + 1) tokens.tail others.tail
  tail_of_elseWord : ∀ level tokens others, facing (level + 1) tokens others →
    (left.front tokens).kind = .elseWord → facing (level + 1) tokens.tail others.tail
  tail_of_endWord : ∀ level tokens others, facing (level + 1) tokens others →
    (left.front tokens).kind = .endWord → facing level tokens.tail others.tail
  /-- Inside a block both runs skip to the same stop, or neither finds one. -/
  skip : ∀ level tokens others stops, IsBlockEnd stops → facing (level + 1) tokens others →
    (∃ stop rest rest',
      skipBlock stops 0 tokens = (some stop, rest) ∧
      skipBlock stops 0 others = (some stop, rest') ∧
      facing (level + 1) rest rest') ∨
    ∃ rest,
      skipBlock stops 0 tokens = (none, rest) ∧
      ((∃ tokens others, overhang tokens others) ∨
        ∃ level rest', skipBlock stops 0 others = (none, rest') ∧ facing level rest rest')

/-- How two runs are compared. -/
structure Simulation (σ τ : Type) extends Cursors σ τ where
  /-- The states of the two hosts that correspond to each other. -/
  worlds : σ → τ → Prop
  /-- The nesting depths that correspond to each other. -/
  depths : Nat → Nat → Prop
  /-- The left state of the host that comes second can follow from the first one. -/
  later : σ → σ → Prop
  /-- The failures with which the right run is cut short. -/
  cuts : Failure → Prop
  /-- The left run may lack fuel that the right one has. -/
  starves : Prop
  /-- The two runs leave the same notes. -/
  noted : Prop
  later_refl : ∀ world, later world world
  later_trans : ∀ first second third, later first second → later second third → later first third
  starves_of_overhang : ∀ tokens others, overhang tokens others → starves
  starves_of_cuts : ∀ failure, cuts failure → starves
  not_overhang_of_cuts : ∀ failure tokens others, cuts failure → ¬ overhang tokens others
  depths_of_cuts : ∀ failure depth, cuts failure → depths depth depth
  depths_le : ∀ depth depth', depths depth depth' → depth ≤ depth'
  depths_deeper : ∀ depth depth', depths depth depth' →
    depth < Limits.maxParseDepth → depth' < Limits.maxParseDepth → depths (depth + 1) (depth' + 1)
  depths_higher : ∀ depth depth', depths depth depth' → depths (depth - 1) (depth' - 1)
  cuts_depth : ∀ depth depth' token, depths depth depth' →
    depth < Limits.maxParseDepth → Limits.maxParseDepth ≤ depth' → cuts ⟨.maxDepthExceeded, token⟩
  /-- Two loops are stopped at the same turn, or the right run is cut short there. -/
  turns : ∀ count,
    (left.StopsLoop count ↔ right.StopsLoop count) ∧
        (left.StopsLoop count → left.loopLimit = right.loopLimit) ∨
      right.StopsLoop count ∧ ∀ keyword : Token, keyword.kind = .whileWord →
        cuts ⟨.loopLimitExceeded right.loopLimit, keyword⟩
  /-- The hosts answer alike. -/
  invoke : ∀ function other arguments world world',
    same function other → function.kind = .function → worlds world world' →
      (Builtin.invoke left.host function.text arguments world).1 =
        (Builtin.invoke right.host function.text arguments world').1 ∧
      worlds (Builtin.invoke left.host function.text arguments world).2
        (Builtin.invoke right.host function.text arguments world').2 ∧
      later world (Builtin.invoke left.host function.text arguments world).2
  written_eq : ∀ world world', noted → worlds world world' →
    left.host.written world = right.host.written world'
  offset_eq : ∀ token other, noted → same token other → token.offset = other.offset

namespace Simulation

variable {σ τ α β : Type} (simulation : Simulation σ τ)

/-- Some place is an overhang; then only what a successful left run does is compared. -/
def Overhangs : Prop :=
  ∃ tokens others, simulation.overhang tokens others

/-- Fuel for the two runs: the same for both, unless the left one may lack some. -/
def Enough (fuel fuel' : Nat) : Prop :=
  fuel = fuel' ∨ simulation.starves ∧ fuel ≤ fuel'

structure SameState (machine : Machine σ) (other : Machine τ) : Prop where
  bindings : machine.bindings = other.bindings
  world : simulation.worlds machine.world other.world
  depth : simulation.depths machine.depth other.depth
  notes : simulation.noted → machine.notes = other.notes

/-- Two machines in corresponding states and places, with so many open blocks. -/
structure Alike (level : Nat) (machine : Machine σ) (other : Machine τ) : Prop
    extends simulation.SameState machine other where
  facing : simulation.facing level machine.remaining other.remaining

/-- The right run was cut short; since then the left run has gone on to a state of its host. -/
structure IsCut (start : σ) (failure : Failure) (stopped : Machine τ) (world : σ) : Prop where
  cuts : simulation.cuts failure
  later : simulation.later start world
  added : ∃ reached, simulation.worlds reached stopped.world ∧ simulation.later reached world

/-- What the end of a left step that started from a state of the host says about the end of the
right step. -/
inductive Agree (start : σ) (post : α → Machine σ → β → Machine τ → Prop) :
    Outcome σ α → Outcome τ β → Prop
  | done {result : α} {machine : Machine σ} {other : β} {machine' : Machine τ} :
      simulation.later start machine.world →
      post result machine other machine' →
      Agree start post (.done result machine) (.done other machine')
  | failed {failure other : Failure} {level : Nat} {machine : Machine σ} {machine' : Machine τ} :
      simulation.later start machine.world →
      SameFailure simulation.same failure other →
      simulation.Alike level machine machine' →
      Agree start post (.failed failure machine) (.failed other machine')
  | cutDone {result : α} {machine : Machine σ} {other : β} {machine' stopped : Machine τ}
      {failure : Failure} :
      simulation.IsCut start failure stopped machine.world →
      post result machine other machine' →
      Agree start post (.done result machine) (.failed failure stopped)
  | cutFailed {failure other : Failure} {machine : Machine σ} {stopped : Machine τ} :
      simulation.IsCut start other stopped machine.world →
      Agree start post (.failed failure machine) (.failed other stopped)
  | overhanging {failure : Failure} {machine : Machine σ} {outcome : Outcome τ β} :
      simulation.Overhangs →
      Agree start post (.failed failure machine) outcome
  | starved {outcome : Outcome τ β} :
      simulation.starves →
      Agree start post .outOfFuel outcome
  | outOfFuel : Agree start post .outOfFuel .outOfFuel

def SameResult (level : Nat) (result : α) (machine : Machine σ) (other : α)
    (machine' : Machine τ) : Prop :=
  result = other ∧ simulation.Alike level machine machine'

/-- The same stop in machines that are alike and in front of it. -/
def SameStop (level : Nat) (stop : TokenKind) (machine : Machine σ) (other : TokenKind)
    (machine' : Machine τ) : Prop :=
  stop = other ∧ simulation.Alike level machine machine' ∧
    (simulation.left.front machine.remaining).kind = stop

/-- Tokens that are taken for each other were passed by machines that are alike. -/
def Passes (level : Nat) (before : Machine σ) (before' : Machine τ) (token : Token)
    (machine : Machine σ) (other : Token) (machine' : Machine τ) : Prop :=
  simulation.same token other ∧ simulation.Alike level machine machine' ∧
    machine.remaining = before.remaining.tail ∧ machine'.remaining = before'.remaining.tail

/-- From machines that are alike the two steps come to ends that agree. -/
def Simulates (step : Eval σ α) (other : Eval τ α) : Prop :=
  ∀ level machine machine', simulation.Alike level machine machine' →
    simulation.Agree machine.world (simulation.SameResult level) (step machine) (other machine')

end Simulation

theorem deeper_of_eq (depth depth' : Nat) (same : depth = depth')
    (_ : depth < Limits.maxParseDepth) (_ : depth' < Limits.maxParseDepth) :
    depth + 1 = depth' + 1 :=
  congrArg (· + 1) same

theorem higher_of_eq (depth depth' : Nat) (same : depth = depth') : depth - 1 = depth' - 1 :=
  congrArg (· - 1) same

/-- Two runs neither of which is cut short, at the same depths: their hosts answer alike, and their
limits stop loops at the same turn. -/
def Cursors.uncut
    {σ τ : Type} (cursors : Cursors σ τ) (worlds : σ → τ → Prop) (starves : Prop)
    (starves_of_overhang : ∀ tokens others, cursors.overhang tokens others → starves)
    (stops_iff : ∀ count, cursors.left.StopsLoop count ↔ cursors.right.StopsLoop count)
    (limits : ∀ count, cursors.left.StopsLoop count →
      cursors.left.loopLimit = cursors.right.loopLimit)
    (invoke : ∀ function other arguments world world',
      cursors.same function other → function.kind = .function → worlds world world' →
        (Builtin.invoke cursors.left.host function.text arguments world).1 =
          (Builtin.invoke cursors.right.host function.text arguments world').1 ∧
        worlds (Builtin.invoke cursors.left.host function.text arguments world).2
          (Builtin.invoke cursors.right.host function.text arguments world').2) :
    Simulation σ τ where
  toCursors := cursors
  worlds := worlds
  depths := Eq
  later _ _ := True
  cuts _ := False
  starves := starves
  noted := False
  later_refl _ := trivial
  later_trans _ _ _ _ _ := trivial
  starves_of_overhang := starves_of_overhang
  starves_of_cuts _ := False.elim
  not_overhang_of_cuts _ _ _ := False.elim
  depths_of_cuts _ _ := False.elim
  depths_le _ _ same := Nat.le_of_eq same
  depths_deeper := deeper_of_eq
  depths_higher := higher_of_eq
  cuts_depth _ _ _ same room full := absurd full (same ▸ Nat.not_le_of_lt room)
  turns count := .inl ⟨stops_iff count, limits count⟩
  invoke function other arguments world world' same isFunction alike :=
    have ⟨answers, reached⟩ := invoke function other arguments world world' same isFunction alike
    ⟨answers, reached, trivial⟩
  written_eq _ _ := False.elim
  offset_eq _ _ := False.elim

namespace Simulation

variable {σ τ α β : Type} {simulation : Simulation σ τ} {level : Nat}
  {machine : Machine σ} {machine' : Machine τ}

/-! ## Machines -/

namespace Alike

theorem withFacing
    (state : simulation.SameState machine machine') {tokens others : List Token}
    (facing : simulation.facing level tokens others) :
    simulation.Alike level (machine.facing tokens) (machine'.facing others) :=
  ⟨⟨state.bindings, state.world, state.depth, state.notes⟩, facing⟩

variable (alike : simulation.Alike level machine machine')

include alike

theorem front :
    simulation.same (simulation.left.front machine.remaining)
        (simulation.right.front machine'.remaining) ∨
      simulation.overhang machine.remaining machine'.remaining :=
  simulation.toCursors.front _ _ _ alike.facing

/-- In front of anything but the end of the input the two cursors see corresponding tokens. -/
theorem same_front (notEnd : (simulation.left.front machine.remaining).kind ≠ .endOfInput) :
    simulation.same (simulation.left.front machine.remaining)
      (simulation.right.front machine'.remaining) :=
  alike.front.resolve_right fun overhangs => notEnd (simulation.overhang_left _ _ overhangs)

/-- What only tokens do that continue an expression, both tokens do or neither. -/
theorem kind_iff
    (test : TokenKind → Prop) (notEnd : ¬ test .endOfInput)
    (continues : ∀ kind, test kind → kind.ContinuesExpression) :
    test (simulation.left.front machine.remaining).kind ↔
      test (simulation.right.front machine'.remaining).kind := by
  rcases alike.front with same | overhangs
  · rw [simulation.kind_eq _ _ same]
  · rw [simulation.overhang_left _ _ overhangs]
    exact iff_of_false notEnd fun found =>
      simulation.overhang_right _ _ overhangs (continues _ found)

theorem assign_iff :
    (simulation.left.front machine.remaining).kind = .assign ↔
      (simulation.right.front machine'.remaining).kind = .assign :=
  alike.kind_iff (fun kind => kind = .assign) nofun fun _ => .inl

theorem advance (plain : (simulation.left.front machine.remaining).kind.IsPlain) :
    simulation.Alike level (machine.facing machine.remaining.tail)
      (machine'.facing machine'.remaining.tail) :=
  withFacing alike.toSameState (simulation.tail _ _ _ alike.facing plain)

/-- Behind the keyword of a block one more block is open. -/
theorem enter (opens : (simulation.left.front machine.remaining).kind.opensBlock = true) :
    simulation.Alike (level + 1) (machine.facing machine.remaining.tail)
      (machine'.facing machine'.remaining.tail) :=
  withFacing alike.toSameState (simulation.tail_of_opensBlock _ _ _ alike.facing opens)

omit alike in
theorem passElse
    (alike : simulation.Alike (level + 1) machine machine')
    (divides : (simulation.left.front machine.remaining).kind = .elseWord) :
    simulation.Alike (level + 1) (machine.facing machine.remaining.tail)
      (machine'.facing machine'.remaining.tail) :=
  withFacing alike.toSameState (simulation.tail_of_elseWord _ _ _ alike.facing divides)

theorem withTable (bindings : VariableTable) :
    simulation.Alike level { machine with bindings } { machine' with bindings } :=
  ⟨⟨rfl, alike.world, alike.depth, alike.notes⟩, alike.facing⟩

theorem declare (name : String) (value : Value) :
    simulation.Alike level (machine.declare name value) (machine'.declare name value) := by
  unfold Machine.declare
  rw [alike.bindings]
  exact alike.withTable _

theorem higher : simulation.Alike level machine.higher machine'.higher :=
  ⟨⟨alike.bindings, alike.world, simulation.depths_higher _ _ alike.depth, alike.notes⟩,
    alike.facing⟩

theorem deeper
    (room : machine.depth < Limits.maxParseDepth) (room' : machine'.depth < Limits.maxParseDepth) :
    simulation.Alike level machine.deeper machine'.deeper :=
  ⟨⟨alike.bindings, alike.world, simulation.depths_deeper _ _ alike.depth room room',
    alike.notes⟩, alike.facing⟩

end Alike

/-! ## Ends of steps -/

open Eval

section Ends

variable {γ δ : Type} {start : σ}
  {middle : α → Machine σ → β → Machine τ → Prop}
  {post : γ → Machine σ → δ → Machine τ → Prop}

theorem IsCut.here
    {failure : Failure} (cuts : simulation.cuts failure)
    (alike : simulation.Alike level machine machine') :
    simulation.IsCut machine.world failure machine' machine.world :=
  ⟨cuts, simulation.later_refl _, _, alike.world, simulation.later_refl _⟩

/-- A run that was cut short stays so while the other one goes on. -/
theorem IsCut.trans
    {failure : Failure} {stopped : Machine τ} {reached world : σ}
    (isCut : simulation.IsCut start failure stopped reached)
    (isLater : simulation.later reached world) :
    simulation.IsCut start failure stopped world := by
  obtain ⟨cuts, later, cutWorld, corresponds, added⟩ := isCut
  exact ⟨cuts, simulation.later_trans _ _ _ later isLater, cutWorld, corresponds,
    simulation.later_trans _ _ _ added isLater⟩

/-- What the left run goes on to do after the right one was cut short is seen by comparing it with a
right run that was not. -/
theorem IsCut.agree
    {failure : Failure} {stopped : Machine τ} {reached : σ}
    (isCut : simulation.IsCut start failure stopped reached)
    {outcome : Outcome σ γ} {outcome' : Outcome τ δ}
    (agree : simulation.Agree reached post outcome outcome') :
    simulation.Agree start post outcome (.failed failure stopped) := by
  cases agree with
  | done isLater related => exact .cutDone (isCut.trans isLater) related
  | failed isLater _ _ => exact .cutFailed (isCut.trans isLater)
  | cutDone isCut' related => exact .cutDone (isCut.trans isCut'.later) related
  | cutFailed isCut' => exact .cutFailed (isCut.trans isCut'.later)
  | overhanging overhangs =>
      obtain ⟨tokens, others, overhangs⟩ := overhangs
      exact absurd overhangs (simulation.not_overhang_of_cuts _ _ _ isCut.cuts)
  | starved _ | outOfFuel => exact .starved (simulation.starves_of_cuts _ isCut.cuts)

/-- What agrees from a later state of the host on agrees from an earlier one. -/
theorem Agree.of_later
    {reached : σ} (isLater : simulation.later start reached)
    {outcome : Outcome σ γ} {outcome' : Outcome τ δ}
    (agree : simulation.Agree reached post outcome outcome') :
    simulation.Agree start post outcome outcome' := by
  cases agree with
  | done isLater' related => exact .done (simulation.later_trans _ _ _ isLater isLater') related
  | failed isLater' failures alike =>
      exact .failed (simulation.later_trans _ _ _ isLater isLater') failures alike
  | cutDone isCut related =>
      exact .cutDone ⟨isCut.cuts, simulation.later_trans _ _ _ isLater isCut.later, isCut.added⟩
        related
  | cutFailed isCut =>
      exact .cutFailed ⟨isCut.cuts, simulation.later_trans _ _ _ isLater isCut.later, isCut.added⟩
  | overhanging overhangs => exact .overhanging overhangs
  | starved starves => exact .starved starves
  | outOfFuel => exact .outOfFuel

/-- Where there is an overhang, a left step that does not succeed is not compared. -/
theorem Agree.of_not_done
    {tokens others : List Token} (overhangs : simulation.overhang tokens others)
    {outcome : Outcome σ γ} {outcome' : Outcome τ δ}
    (notDone : ∀ result reached, outcome ≠ .done result reached) :
    simulation.Agree start post outcome outcome' := by
  cases outcome with
  | done result reached => exact absurd rfl (notDone result reached)
  | failed failure reached => exact .overhanging ⟨_, _, overhangs⟩
  | outOfFuel => exact .starved (simulation.starves_of_overhang _ _ overhangs)

theorem Agree.exhausted
    {fuel' : Nat} (enough : simulation.Enough 0 fuel') {outcome' : Outcome τ δ}
    (stuck : 0 = fuel' → outcome' = .outOfFuel) :
    simulation.Agree start post .outOfFuel outcome' := by
  rcases enough with isZero | ⟨starves, _⟩
  · rw [stuck isZero]
    exact .outOfFuel
  · exact .starved starves

theorem Enough.same (fuel : Nat) : simulation.Enough fuel fuel :=
  .inl rfl

theorem Enough.exists_succ
    {fuel fuel' : Nat} (enough : simulation.Enough (fuel + 1) fuel') :
    ∃ rest, fuel' = rest + 1 ∧ simulation.Enough fuel rest := by
  rcases enough with rfl | ⟨starves, less⟩
  · exact ⟨fuel, rfl, .inl rfl⟩
  · obtain ⟨rest, rfl⟩ := Nat.exists_eq_add_of_le' less
    exact ⟨rest + fuel, rfl, .inr ⟨starves, Nat.le_add_left ..⟩⟩

/-! ## Sequences of steps -/

/-- A sequence agrees if its first steps do, and what follows agrees wherever they may lead. -/
theorem Agree.bind
    {first : Eval σ α} {first' : Eval τ β} {next : α → Eval σ γ} {next' : β → Eval τ δ}
    (firstAgrees : simulation.Agree start middle (first machine) (first' machine'))
    (nextAgrees : ∀ result reached result' reached', middle result reached result' reached' →
      simulation.Agree reached.world post (next result reached) (next' result' reached')) :
    simulation.Agree start post ((first >>= next) machine) ((first' >>= next') machine') := by
  change simulation.Agree start post (Eval.bind first next machine)
    (Eval.bind first' next' machine')
  unfold Eval.bind
  generalize first machine = outcome at firstAgrees ⊢
  generalize first' machine' = outcome' at firstAgrees ⊢
  cases firstAgrees with
  | done isLater related => exact (nextAgrees _ _ _ _ related).of_later isLater
  | failed isLater failures alike => exact .failed isLater failures alike
  | cutDone isCut related => exact isCut.agree (nextAgrees _ _ _ _ related)
  | cutFailed isCut => exact .cutFailed isCut
  | overhanging overhangs => exact .overhanging overhangs
  | starved starves => exact .starved starves
  | outOfFuel => exact .outOfFuel

/-- What two steps have done when both succeed. -/
theorem Agree.and_done
    (uncut : ∀ failure, ¬ simulation.cuts failure)
    {outcome : Outcome σ γ} {outcome' : Outcome τ δ}
    (agree : simulation.Agree start post outcome outcome') :
    simulation.Agree start
      (fun result reached result' reached' =>
        post result reached result' reached' ∧
        outcome = .done result reached ∧ outcome' = .done result' reached')
      outcome outcome' := by
  cases agree with
  | done isLater related => exact .done isLater ⟨related, rfl, rfl⟩
  | failed isLater failures alike => exact .failed isLater failures alike
  | cutDone isCut _ => exact absurd isCut.cuts (uncut _)
  | cutFailed isCut => exact .cutFailed isCut
  | overhanging overhangs => exact .overhanging overhangs
  | starved starves => exact .starved starves
  | outOfFuel => exact .outOfFuel

theorem Agree.ite
    {condition condition' : Prop} [Decidable condition] [Decidable condition']
    (conditions : condition ↔ condition')
    {first second : Eval σ γ} {first' second' : Eval τ δ}
    (firstAgrees : condition → simulation.Agree start post (first machine) (first' machine'))
    (secondAgrees : ¬ condition → simulation.Agree start post (second machine) (second' machine')) :
    simulation.Agree start post ((if condition then first else second) machine)
      ((if condition' then first' else second') machine') := by
  by_cases holds : condition
  · rw [if_pos holds, if_pos (conditions.mp holds)]
    exact firstAgrees holds
  · rw [if_neg holds, if_neg (mt conditions.mpr holds)]
    exact secondAgrees holds

/-! ## Single steps -/

section Alike

variable (alike : simulation.Alike level machine machine')

include alike

theorem Agree.pure (result : α) :
    simulation.Agree machine.world (simulation.SameResult level) (.done result machine)
      (.done result machine') :=
  .done (simulation.later_refl _) ⟨rfl, alike⟩

theorem Agree.fail
    {fault : EvaluationFault} {token other : Token} (same : simulation.same token other)
    (placeless : fault.IsPlaceless) :
    simulation.Agree machine.world post ((Eval.fail fault token : Eval σ γ) machine)
      ((Eval.fail fault other : Eval τ δ) machine') :=
  .failed (simulation.later_refl _) (.placeless placeless same) alike

theorem Agree.ofExcept
    {computation : Except EvaluationFault α} {token other : Token}
    (same : simulation.same token other)
    (placeless : ∀ fault, computation = .error fault → fault.IsPlaceless) :
    simulation.Agree machine.world (simulation.SameResult level)
      ((Eval.ofExcept token computation : Eval σ α) machine)
      ((Eval.ofExcept other computation : Eval τ α) machine') := by
  cases computation with
  | ok result => exact Agree.pure alike result
  | error fault => exact Agree.fail alike same (placeless fault rfl)

theorem Agree.failHere {fault : EvaluationFault} (placeless : fault.IsPlaceless) :
    simulation.Agree machine.world post ((Eval.failHere simulation.left fault : Eval σ γ) machine)
      ((Eval.failHere simulation.right fault : Eval τ δ) machine') := by
  rcases alike.front with same | overhangs
  · exact Agree.fail alike same placeless
  · exact Agree.of_not_done overhangs fun _ _ => failHere_ne_done

/-- A token that is expected is passed on both sides. -/
theorem Agree.expect_of_tail
    {kind : TokenKind} (notEnd : kind ≠ .endOfInput) {next : Nat}
    (passed : (simulation.left.front machine.remaining).kind = kind →
      simulation.facing next machine.remaining.tail machine'.remaining.tail) :
    simulation.Agree machine.world (simulation.Passes next machine machine')
      (Eval.expect simulation.left kind machine) (Eval.expect simulation.right kind machine') := by
  unfold Eval.expect
  rw [bind_current, bind_current]
  rcases alike.front with same | overhangs
  · rw [← simulation.kind_eq _ _ same]
    refine Agree.ite Iff.rfl (fun found => ?_) (fun _ => Agree.fail alike same trivial)
    exact .done (simulation.later_refl _)
      ⟨same, Alike.withFacing alike.toSameState (passed found), rfl, rfl⟩
  · have isEnd := simulation.overhang_left _ _ overhangs
    rw [if_neg fun found => notEnd (found.symm.trans isEnd)]
    exact Agree.of_not_done overhangs fun _ _ => fail_ne_done

/-- A plain token is expected alike: both runs pass it or fail for the same reason. -/
theorem Agree.expect {kind : TokenKind} (plain : kind.IsPlain) :
    simulation.Agree machine.world (simulation.Passes level machine machine')
      (Eval.expect simulation.left kind machine) (Eval.expect simulation.right kind machine') :=
  Agree.expect_of_tail alike plain.1 fun found => simulation.tail _ _ _ alike.facing (found ▸ plain)

omit alike in
/-- Behind the end of a block one block less is open. -/
theorem Agree.expect_endWord (alike : simulation.Alike (level + 1) machine machine') :
    simulation.Agree machine.world (simulation.Passes level machine machine')
      (Eval.expect simulation.left .endWord machine)
      (Eval.expect simulation.right .endWord machine') :=
  Agree.expect_of_tail alike (by decide) (simulation.tail_of_endWord _ _ _ alike.facing)

omit alike in
/-- Skipping stops alike, since corresponding tokens open and close the same blocks. -/
theorem Agree.skipTo
    (alike : simulation.Alike (level + 1) machine machine') (opener : TokenKind)
    {stops : List TokenKind} (blockEnd : IsBlockEnd stops) :
    simulation.Agree machine.world (simulation.SameStop (level + 1))
      (Eval.skipTo simulation.left opener stops machine)
      (Eval.skipTo simulation.right opener stops machine') := by
  unfold Eval.skipTo
  rcases simulation.skip _ _ _ stops blockEnd alike.facing with
    ⟨stop, rest, rest', skipped, skipped', facing⟩ |
    ⟨rest, skipped, ⟨_, _, overhangs⟩ | ⟨level, rest', skipped', facing⟩⟩
  · obtain ⟨_, _, _, _, rfl, isStop, _⟩ := exists_passed_of_skipBlock blockEnd skipped
    rw [skipped, skipped']
    exact .done (simulation.later_refl _)
      ⟨rfl, Alike.withFacing alike.toSameState facing, isStop⟩
  · rw [skipped]
    exact Agree.of_not_done overhangs fun _ _ => failHere_ne_done
  · rw [skipped, skipped']
    exact Agree.failHere (Alike.withFacing alike.toSameState facing) trivial

theorem Agree.assignVariable (name : String) (value : Value) :
    simulation.Agree machine.world (simulation.SameResult level)
      (Eval.assignVariable name value machine) (Eval.assignVariable name value machine') := by
  unfold Eval.assignVariable
  rw [← alike.bindings]
  cases machine.bindings.assign? name value with
  | none => exact Agree.pure alike false
  | some bindings => exact Agree.pure (alike.withTable bindings) true

theorem Agree.withHost
    {function other : Token} (same : simulation.same function other)
    (isFunction : function.kind = .function) (arguments : List Value) :
    simulation.Agree machine.world (simulation.SameResult level)
      (Eval.withHost (Builtin.invoke simulation.left.host function.text arguments) function machine)
      (Eval.withHost (Builtin.invoke simulation.right.host function.text arguments) other
        machine') := by
  obtain ⟨answers, worlds, isLater⟩ :=
    simulation.invoke function other arguments _ _ same isFunction alike.world
  unfold Eval.withHost
  generalize Builtin.invoke simulation.left.host function.text arguments machine.world = called
    at answers worlds isLater
  generalize Builtin.invoke simulation.right.host function.text arguments machine'.world = called'
    at answers worlds
  obtain ⟨answer, world⟩ := called
  obtain ⟨answer', world'⟩ := called'
  obtain rfl : answer = answer' := answers
  have alikeCalled :
      simulation.Alike level { machine with world } { machine' with world := world' } :=
    ⟨⟨alike.bindings, worlds, alike.depth, alike.notes⟩, alike.facing⟩
  cases answer with
  | error error => exact .failed isLater (.placeless trivial same) alikeCalled
  | ok value => exact .done isLater ⟨rfl, alikeCalled⟩

theorem Agree.noteLoop
    {keyword other : Token} (same : simulation.same keyword other) (iterations : UInt64) :
    simulation.Agree machine.world (simulation.SameResult level)
      (Eval.leaveNote simulation.left (.loopFinished iterations keyword.offset) machine)
      (Eval.leaveNote simulation.right (.loopFinished iterations other.offset) machine') := by
  refine .done (simulation.later_refl _) ⟨rfl, ⟨alike.bindings, alike.world, alike.depth, ?_⟩, ?_⟩
  · intro noted
    rw [simulation.written_eq _ _ noted alike.world, simulation.offset_eq _ _ noted same,
      alike.notes noted]
  · exact alike.facing

omit alike in
/-- What agrees one level deeper agrees when it has come back. -/
theorem Agree.nested
    {step : Eval σ α} {step' : Eval τ α}
    (inner : simulation.Agree machine.world (simulation.SameResult level) (step machine.deeper)
      (step' machine'.deeper)) :
    simulation.Agree machine.world (simulation.SameResult level) (Eval.nested step machine)
      (Eval.nested step' machine') := by
  rw [nested_apply, nested_apply]
  generalize step machine.deeper = outcome at inner ⊢
  generalize step' machine'.deeper = outcome' at inner ⊢
  cases inner with
  | done isLater related => exact .done isLater ⟨related.1, related.2.higher⟩
  | failed isLater failures alike => exact .failed isLater failures alike.higher
  | cutDone isCut related =>
      exact .cutDone ⟨isCut.cuts, isCut.later, isCut.added⟩ ⟨related.1, related.2.higher⟩
  | cutFailed isCut => exact .cutFailed ⟨isCut.cuts, isCut.later, isCut.added⟩
  | overhanging overhangs => exact .overhanging overhangs
  | starved starves => exact .starved starves
  | outOfFuel => exact .outOfFuel

/-! ## Where the limits are -/

/-- A step that is taken only above the depth limit. The right run may be too deep for it where the
left one is not; then the left step is compared with the right one from a lower depth. -/
theorem Agree.unlessTooDeep
    {next : Eval σ γ} {next' : Eval τ δ}
    (nextAgrees : ∀ reached', simulation.Alike level machine reached' →
      machine.depth < Limits.maxParseDepth → reached'.depth < Limits.maxParseDepth →
      reached'.remaining = machine'.remaining →
        simulation.Agree machine.world post (next machine) (next' reached')) :
    simulation.Agree machine.world post
      ((if Limits.maxParseDepth ≤ machine.depth then
          Eval.fail .maxDepthExceeded (simulation.left.front machine.remaining) else next) machine)
      ((if Limits.maxParseDepth ≤ machine'.depth then
          Eval.fail .maxDepthExceeded (simulation.right.front machine'.remaining) else next')
        machine') := by
  by_cases full : Limits.maxParseDepth ≤ machine.depth
  · rw [if_pos full, if_pos (full.trans (simulation.depths_le _ _ alike.depth))]
    exact Agree.failHere alike trivial
  have room := Nat.lt_of_not_le full
  rw [if_neg full]
  by_cases full' : Limits.maxParseDepth ≤ machine'.depth
  · rw [if_pos full']
    have cuts := simulation.cuts_depth _ _ (simulation.right.front machine'.remaining) alike.depth
      room full'
    have alikeHere : simulation.Alike level machine { machine' with depth := machine.depth } :=
      ⟨⟨alike.bindings, alike.world, simulation.depths_of_cuts _ _ cuts, alike.notes⟩,
        alike.facing⟩
    exact (IsCut.here cuts alike).agree (nextAgrees _ alikeHere room room rfl)
  · rw [if_neg full']
    exact nextAgrees _ alike room (Nat.lt_of_not_le full') rfl

/-- One more turn of a loop. The right loop may be stopped where the left one is not. -/
theorem Agree.unlessStopped
    {keyword other : Token} (same : simulation.same keyword other)
    (isWhile : keyword.kind = .whileWord) (count : UInt64)
    {next : Eval σ γ} {next' : Eval τ δ}
    (nextAgrees : simulation.Agree machine.world post (next machine) (next' machine')) :
    simulation.Agree machine.world post
      ((if 0 < simulation.left.loopLimit ∧ simulation.left.loopLimit < count then
          Eval.fail (.loopLimitExceeded simulation.left.loopLimit) keyword else next) machine)
      ((if 0 < simulation.right.loopLimit ∧ simulation.right.loopLimit < count then
          Eval.fail (.loopLimitExceeded simulation.right.loopLimit) other else next')
        machine') := by
  rcases simulation.turns count with ⟨stops, limits⟩ | ⟨stops', cuts⟩
  · refine Agree.ite stops (fun stopsHere => ?_) (fun _ => nextAgrees)
    rw [limits stopsHere]
    exact Agree.fail alike same trivial
  · have isCut := IsCut.here (cuts other (simulation.kind_eq _ _ same ▸ isWhile)) alike
    rw [if_pos (show _ ∧ _ from stops')]
    by_cases stops : simulation.left.StopsLoop count
    · rw [if_pos (show _ ∧ _ from stops)]
      exact .cutFailed isCut
    · rw [if_neg (show ¬ (_ ∧ _) from stops)]
      exact isCut.agree nextAgrees

end Alike

end Ends

end Simulation

end PugScript
