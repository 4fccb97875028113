import PugScript.Host.Memory
import PugScript.Proofs.Evaluation.Coupling

/-!
# What is done without the host

Four functions reach the host. Where none of them is called, two evaluations with hosts of any kind
go in step: every other function computes its result from its arguments alone, so that neither host
is asked anything and neither is changed.
-/

namespace PugScript

namespace Builtin

/-- The names of the functions that reach the host. -/
def hostNames : List String :=
  ["print", "read", "clear", "random"]

/-- What a call gives if the function only computes. -/
def answer (name : String) (arguments : List Value) : Except ValueError Value :=
  match ofName? name with
  | none => .error (.functionNotFound name)
  | some builtin =>
    if builtin.arity.accepts arguments.length then builtin.compute arguments
    else .error (.invalidArgumentCount name)

theorem name_mem_hostNames_iff (builtin : Builtin) :
    builtin.name ∈ hostNames ↔ builtin.usesHost = true := by
  cases builtin <;> decide

theorem name_of_ofName? {name : String} {builtin : Builtin} (found : ofName? name = some builtin) :
    builtin.name = name := by
  have named := List.find?_some found
  exact beq_iff_eq.mp named

/-- A function that does not reach the host leaves it as it is, and gives what it computes. -/
theorem perform_of_not_usesHost
    {σ : Type} (host : Host σ) {builtin : Builtin} (free : builtin.usesHost = false)
    (arguments : List Value) (world : σ) :
    builtin.perform host arguments world = (builtin.compute arguments, world) := by
  unfold perform
  split
  · cases free
  · cases free
  · cases free
  · cases free
  · rfl

/-- A call of a function that does not reach the host does not depend on it and does not change
it. -/
theorem invoke_eq_answer
    {σ : Type} (host : Host σ) {name : String} (free : name ∉ hostNames)
    (arguments : List Value) (world : σ) :
    invoke host name arguments world = (answer name arguments, world) := by
  unfold invoke answer
  cases found : ofName? name with
  | none => rfl
  | some builtin =>
      have notUsed : builtin.usesHost = false := by
        rw [← name_of_ofName? found, name_mem_hostNames_iff] at free
        exact Bool.eq_false_of_not_eq_true free
      dsimp only
      split
      · exact perform_of_not_usesHost host notUsed arguments world
      · rfl

end Builtin

namespace Evaluation

variable {σ τ : Type}

/-- Two evaluations of the same tokens with any two hosts, neither of which is used. -/
def hostlessCoupling
    (host : Host σ) (other : Host τ) (preferences : EvaluationPreferences) (tokens : List Token)
    (world : σ) (otherWorld : τ) :
    Coupling σ τ :=
  hostCoupling host other preferences tokens
    (fun state otherState => state = world ∧ otherState = otherWorld)
    (fun token => token.kind = .function → token.text ∉ Builtin.hostNames)
    (fun token arguments state otherState isFunction callable unchanged => by
      have free := callable isFunction
      rw [Builtin.invoke_eq_answer host free, Builtin.invoke_eq_answer other free]
      exact ⟨rfl, unchanged⟩)

/-- Where no function that reaches the host is called, an evaluation comes to the same end with any
two hosts, and it leaves each of them as it was. -/
theorem unused_hosts_make_no_difference
    (host : Host σ) (other : Host τ) (preferences : EvaluationPreferences) {tokens : List Token}
    (unused : ∀ token ∈ tokens, token.kind = .function →
      token.text ∉ ["print", "read", "clear", "random"])
    (bindings : VariableTable) (world : σ) (otherWorld : τ) (fuel : Nat) :
    Option.Rel
      (fun evaluation otherEvaluation =>
        evaluation.result = otherEvaluation.result ∧
        evaluation.bindings = otherEvaluation.bindings ∧
        evaluation.world = world ∧
        otherEvaluation.world = otherWorld)
      (evaluate fuel host preferences tokens bindings world)
      (evaluate fuel other preferences tokens bindings otherWorld) := by
  let coupling := hostlessCoupling host other preferences tokens world otherWorld
  have worlds : coupling.worlds world otherWorld := ⟨rfl, rfl⟩
  exact evaluate_couple coupling rfl rfl unused fuel bindings worlds

/-- A host that fails at whatever it is asked, and counts how often it is asked. -/
def failingHost : Host Nat where
  print := fun _ count => (.error "closed", count + 1)
  readLine := fun count => (.error "closed", count + 1)
  clear := fun count => (.error "closed", count + 1)
  randomUnit := fun count => (0, count + 1)
  randomRange := fun lower _ count => (lower, count + 1)
  written := fun count => count

/-- The tokens of `print = trim(" a ") missing`, with `print` as a name and not as a function. -/
def trimmingTokens : List Token :=
  [⟨.identifier, "print", 0⟩, ⟨.assign, "=", 6⟩, ⟨.function, "trim", 8⟩,
    ⟨.openParenthesis, "(", 12⟩, ⟨.string, " a ", 13⟩, ⟨.closeParenthesis, ")", 18⟩,
    ⟨.identifier, "missing", 20⟩]

theorem unused_hosts_make_no_difference_to_trimmingTokens :
    let bindings : VariableTable := ⟨[("print", .none)]⟩
    let world : MemoryHost Nat := { input := ["b"], generator := 0 }
    (∀ token ∈ trimmingTokens, token.kind = .function →
      token.text ∉ ["print", "read", "clear", "random"]) ∧
    ∃ evaluation otherEvaluation error,
      evaluate 9 seededHost {} trimmingTokens bindings world = some evaluation ∧
      evaluate 9 failingHost {} trimmingTokens bindings 0 = some otherEvaluation ∧
      evaluation.result = .error error ∧
      error.values = [.string "a"] ∧
      otherEvaluation.result = .error error ∧
      otherEvaluation.bindings = ⟨[("print", .string "a")]⟩ ∧
      evaluation.world = world ∧
      otherEvaluation.world = 0 := by
  intro bindings world
  have unused : ∀ token ∈ trimmingTokens, token.kind = .function →
      token.text ∉ ["print", "read", "clear", "random"] := by
    decide
  have evaluated : evaluate 9 seededHost {} trimmingTokens bindings world =
      some
        { result := .error
            { fault := .unknownIdentifier "missing"
              token := ⟨.identifier, "missing", 20⟩
              tokens := trimmingTokens
              bindings := ⟨[("print", .string "a")]⟩
              values := [.string "a"] }
          bindings := ⟨[("print", .string "a")]⟩
          world := world
          notes := [] } := by
    cbv
  have same :=
    unused_hosts_make_no_difference seededHost failingHost {} unused bindings world 0 9
  rw [evaluated] at same
  generalize evaluate 9 failingHost {} trimmingTokens bindings 0 = other at same ⊢
  cases same with
  | @some _ otherEvaluation both =>
      obtain ⟨sameResult, sameBindings, unchanged, otherUnchanged⟩ := both
      exact ⟨unused, _, otherEvaluation, _, evaluated, rfl, rfl, rfl, sameResult.symm,
        sameBindings.symm, unchanged, otherUnchanged⟩

end Evaluation

end PugScript
