import PugScript.Proofs.Evaluation.Statements

/-!
# Runs that are cut short

Two runs over the same tokens with the same host: a strict one and a lenient one. They differ only
in the limits that they are held to, so that they do the same until the strict one fails at one of
its limits where the lenient one goes on. What the lenient run does from there on can only add to
what has happened to the host.
-/

namespace PugScript

/-- A context, a loop limit for a stricter run in it, and how the two runs may differ. -/
structure Curb (σ : Type) where
  lenient : Context σ
  /-- How often a loop of the strict run may run its body; zero for no limit. -/
  strictLimit : UInt64
  /-- The nesting depths that correspond to each other, the strict one first. -/
  depths : Nat → Nat → Prop
  /-- The state of the host that comes second can follow from the first one. -/
  later : σ → σ → Prop
  /-- The failures with which the strict run is cut short. -/
  cuts : Failure → Prop
  lenientClosed : lenient.IsClosed
  later_refl : ∀ world, later world world
  later_trans : ∀ first second third, later first second → later second third → later first third
  later_invoke : ∀ name arguments world,
    later world (Builtin.invoke lenient.host name arguments world).2
  depths_self : ∀ failure depth, cuts failure → depths depth depth
  depths_deeper : ∀ depth depth', depths depth depth' →
    depth < Limits.maxParseDepth → depth' < Limits.maxParseDepth → depths (depth + 1) (depth' + 1)
  depths_higher : ∀ depth depth', depths depth depth' → depths (depth - 1) (depth' - 1)
  depths_le : ∀ depth depth', depths depth depth' → depth' ≤ depth
  cuts_depth : ∀ depth depth' token, depths depth depth' →
    Limits.maxParseDepth ≤ depth → depth' < Limits.maxParseDepth →
      cuts ⟨.maxDepthExceeded, token⟩
  limits : strictLimit = lenient.loopLimit ∨
    (∀ count, 0 < lenient.loopLimit ∧ lenient.loopLimit < count →
        0 < strictLimit ∧ strictLimit < count) ∧
      ∀ keyword : Token, keyword.kind = .whileWord →
        cuts ⟨.loopLimitExceeded strictLimit, keyword⟩

namespace Curb

variable {σ α β : Type} (curb : Curb σ)

/-- The context of the strict run. -/
def strict : Context σ :=
  { curb.lenient with loopLimit := curb.strictLimit }

/-- A loop is stopped at the same turn in both runs, or the strict run is cut short there. -/
theorem turns (count : UInt64) :
    (curb.lenient.StopsLoop count ↔ curb.strict.StopsLoop count) ∧
        (curb.lenient.StopsLoop count → curb.lenient.loopLimit = curb.strict.loopLimit) ∨
      curb.strict.StopsLoop count ∧ ∀ keyword : Token, keyword.kind = .whileWord →
        curb.cuts ⟨.loopLimitExceeded curb.strict.loopLimit, keyword⟩ := by
  rcases curb.limits with sameLimit | ⟨stricter, isCut⟩
  · rw [Context.StopsLoop, Context.StopsLoop, strict, sameLimit]
    exact .inl ⟨Iff.rfl, fun _ => rfl⟩
  · by_cases stops : curb.strict.StopsLoop count
    · exact .inr ⟨stops, isCut⟩
    · have goesOn : ¬ curb.lenient.StopsLoop count := mt (stricter count) stops
      exact .inl ⟨iff_of_false goesOn stops, fun stopsHere => absurd stopsHere goesOn⟩

/-- The lenient run leads and the strict one follows it over the same tokens. -/
def cursors : Cursors σ σ where
  left := curb.lenient
  right := curb.strict
  leftClosed := curb.lenientClosed
  same := Eq
  facing _ := Eq
  overhang _ _ := False
  kind_eq _ _ := congrArg Token.kind
  text_eq _ _ := congrArg Token.text
  overhang_left _ _ := False.elim
  overhang_right _ _ := False.elim
  front _ _ _ facing := .inl (congrArg curb.lenient.front facing)
  tail _ _ _ facing _ := congrArg List.tail facing
  tail_of_opensBlock _ _ _ facing _ := congrArg List.tail facing
  tail_of_elseWord _ _ _ facing _ := congrArg List.tail facing
  tail_of_endWord _ _ _ facing _ := congrArg List.tail facing
  skip level tokens _ stops _ facing := by
    rw [← facing]
    rcases skipBlock stops 0 tokens with ⟨_ | stop, rest⟩
    · exact .inr ⟨rest, rfl, .inr ⟨level, rest, rfl, rfl⟩⟩
    · exact .inl ⟨stop, rest, rest, rfl, rfl, rfl⟩

def simulation : Simulation σ σ where
  toCursors := curb.cursors
  worlds := Eq
  depths depth depth' := curb.depths depth' depth
  later := curb.later
  cuts := curb.cuts
  starves := True
  noted := True
  later_refl := curb.later_refl
  later_trans := curb.later_trans
  starves_of_overhang _ _ _ := trivial
  starves_of_cuts _ _ := trivial
  not_overhang_of_cuts _ _ _ _ := id
  depths_of_cuts := curb.depths_self
  depths_le _ _ := curb.depths_le _ _
  depths_deeper _ _ depths room room' := curb.depths_deeper _ _ depths room' room
  depths_higher _ _ := curb.depths_higher _ _
  cuts_depth _ _ token depths room full := curb.cuts_depth _ _ token depths full room
  turns := curb.turns
  invoke function _ arguments world _ _ _ sameWorld := by
    rw [← sameWorld]
    exact ⟨rfl, rfl, curb.later_invoke function.text arguments world⟩
  written_eq _ _ _ := congrArg curb.lenient.host.written
  offset_eq _ _ _ := congrArg Token.offset

variable {curb}

/-- Machines in the same state and place, the lenient one first. -/
theorem alike_of_eq
    {machine machine' : Machine σ} {depth : Nat} (same : machine' = { machine with depth })
    (depths : curb.depths depth machine.depth) :
    curb.simulation.Alike 0 machine machine' := by
  rw [same]
  exact ⟨⟨rfl, rfl, depths, fun _ => rfl⟩, rfl⟩

/-- Machines that are alike differ in their depths at most. -/
theorem eq_of_alike
    {level : Nat} {machine machine' : Machine σ}
    (alike : curb.simulation.Alike level machine machine') :
    machine' = { machine with depth := machine'.depth } := by
  have notes := alike.notes trivial
  obtain ⟨⟨bindings, world, _, _⟩, remaining⟩ := alike
  cases machine
  cases machine'
  cases remaining
  cases bindings
  cases world
  cases notes
  rfl

end Curb

namespace Evaluation

open Simulation

variable {σ : Type} {curb : Curb σ}

/-- The strict run has come as far as the lenient one, or it was cut short before. -/
inductive Stays (curb : Curb σ) (progress other : Progress σ) : Prop
  | same {level : Nat} :
      progress.values = other.values →
      progress.failure? = other.failure? →
      curb.simulation.Alike level other.machine progress.machine →
      Stays curb progress other
  | cut {failure : Failure} :
      progress.failure? = some failure →
      curb.cuts failure →
      progress.values <+: other.values →
      curb.later progress.machine.world other.machine.world →
      Stays curb progress other

/-- If the lenient statements come to an end, then so do the strict ones. -/
theorem exists_statements_of_lenient
    (trace : Bool) (fuel : Nat) (values : List Value) {level : Nat} {machine machine' : Machine σ}
    (alike : curb.simulation.Alike level machine machine') {other : Progress σ}
    (reached : statements curb.lenient trace fuel values machine = some other) :
    ∃ progress,
      statements curb.strict trace fuel values machine' = some progress ∧
      Stays curb progress other := by
  have enough : curb.simulation.Enough fuel (fuel + 0) := .same fuel
  have traces : curb.simulation.noted → trace = trace := fun _ => rfl
  obtain ⟨completed, valuesEq, follows⟩ :=
    statements_simulate traces enough values values alike reached
  cases follows with
  | @onward rest _ stopped successful isEnd _ alikeEnd runs =>
      have isEnd' : (curb.strict.front stopped.remaining).kind = .endOfInput :=
        alikeEnd.facing ▸ isEnd
      refine ⟨_, runs.trans (statements_of_endOfInput rest _ isEnd'), .same ?_ ?_ alikeEnd⟩
      · rw [valuesEq, List.reverse_append, List.reverse_reverse]
      · exact successful.symm
  | failed failed failures _ alikeEnd runs =>
      refine ⟨_, runs, .same valuesEq.symm ?_ alikeEnd⟩
      rw [failed, failures.eq fun _ _ => id]
  | @cut failure stopped fewer fewerValues isCut runs =>
      obtain ⟨_, sameWorld, added⟩ := isCut.added
      obtain rfl : _ = stopped.world := sameWorld
      refine ⟨_, runs, .cut rfl isCut.cuts ?_ added⟩
      rw [valuesEq]
      exact (List.prefix_append_right_inj _).mpr fewerValues
  | overhanging overhangs _ =>
      obtain ⟨_, _, overhangs⟩ := overhangs
      exact overhangs.elim

end Evaluation

end PugScript
