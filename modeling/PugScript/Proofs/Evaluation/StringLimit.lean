import PugScript.Proofs.Evaluation.HostCalls
import PugScript.Proofs.Evaluation.Vocabulary

/-!
# No string is longer than the limit

A script whose strings are within the limit never makes one that is not, and never prints one. What
is printed is observed through a host that keeps a record of it and otherwise does what the given
host does, so that nothing needs to be known about the given host.
-/

namespace PugScript

variable {σ : Type}

/-! ## Keeping a record of what is printed -/

namespace Host

/-- The operation on the first part of a state. -/
def besideRecord {α : Type} (operation : σ → α × σ) (state : σ × List String) :
    α × σ × List String :=
  ((operation state.1).1, (operation state.1).2, state.2)

/-- The host together with the lines that it was told to print, oldest first. -/
def recording (host : Host σ) : Host (σ × List String) where
  print := fun line state => besideRecord (host.print line) (state.1, state.2 ++ [line])
  readLine := besideRecord host.readLine
  clear := besideRecord host.clear
  randomUnit := besideRecord host.randomUnit
  randomRange := fun lower upper => besideRecord (host.randomRange lower upper)
  written := fun state => host.written state.1

/-- Keeping a record changes nothing in what a host does. -/
theorem recording_mimics (host : Host σ) :
    host.Mimics host.recording fun state recorded => state = recorded.1 where
  print := by
    rintro line _ recorded rfl
    exact ⟨rfl, rfl⟩
  readLine := by
    rintro _ recorded rfl
    exact ⟨rfl, rfl⟩
  clear := by
    rintro _ recorded rfl
    exact ⟨rfl, rfl⟩
  randomUnit := by
    rintro _ recorded rfl
    exact ⟨rfl, rfl⟩
  randomRange := by
    rintro lower upper _ recorded rfl
    exact ⟨rfl, rfl⟩

/-- As long as no line is too long, no line on record is. -/
theorem recording_maintains (host : Host σ) (bound : Nat) :
    host.recording.Maintains bound fun state => ∀ line ∈ state.2, line.length ≤ bound where
  print := by
    intro line state short record other member
    rcases List.mem_append.mp member with old | new
    · exact record other old
    · obtain rfl := List.mem_singleton.mp new
      exact short
  readLine := fun _ record => record
  clear := fun _ record => record
  randomUnit := fun _ record => record
  randomRange := fun _ _ _ record => record

end Host

namespace Evaluation

/-! ## Runs on record -/

/-- Keeping a record changes nothing in an evaluation. -/
theorem exists_evaluate_recording
    {fuel : Nat} {host : Host σ} {preferences : EvaluationPreferences} {tokens : List Token}
    {bindings : VariableTable} {world : σ} {evaluation : Evaluation σ}
    (evaluated : evaluate fuel host preferences tokens bindings world = some evaluation)
    (lines : List String) :
    ∃ recorded,
      evaluate fuel host.recording preferences tokens bindings (world, lines) = some recorded ∧
      recorded.result = evaluation.result ∧
      recorded.bindings = evaluation.bindings ∧
      recorded.world.1 = evaluation.world := by
  have correspond : world = (world, lines).1 := rfl
  obtain ⟨recorded, ran, result, sameBindings, sameWorld⟩ :=
    exists_evaluate_of_mimics host.recording_mimics evaluated correspond
  exact ⟨recorded, ran, result, sameBindings, sameWorld.symm⟩

/-! ## The limit -/

/-- If no variable holds a string that is too long, then an evaluation of the tokens of a source
leaves none in a variable and produces none, whether it succeeds or fails, and it prints no line
that is too long. -/
theorem strings_stay_within_limit
    {detailed : Bool} {source : String} {tokens : List Token}
    (splits : (tokenize detailed source).result = .ok tokens)
    {bindings : VariableTable} (short : bindings.Holds (·.IsWithin Limits.maxStringLength))
    {fuel : Nat} {host : Host σ} {preferences : EvaluationPreferences} {world : σ}
    {evaluation : Evaluation σ}
    (evaluated : evaluate fuel host preferences tokens bindings world = some evaluation) :
    evaluation.bindings.Holds (·.IsWithin Limits.maxStringLength) ∧
    (∀ values, evaluation.result = .ok values →
      ∀ value ∈ values, value.IsWithin Limits.maxStringLength) ∧
    (∀ error, evaluation.result = .error error →
      error.bindings.Holds (·.IsWithin Limits.maxStringLength) ∧
      ∀ value ∈ error.values, value.IsWithin Limits.maxStringLength) ∧
    ∃ recorded,
      evaluate fuel host.recording preferences tokens bindings (world, []) = some recorded ∧
      recorded.result = evaluation.result ∧
      recorded.bindings = evaluation.bindings ∧
      recorded.world.1 = evaluation.world ∧
      ∀ line ∈ recorded.world.2, line.length ≤ Limits.maxStringLength := by
  -- The invariant is one of the run on record: there its condition on the host can speak of the
  -- printed lines.
  obtain ⟨recorded, onRecord, sameResult, sameBindings, sameWorld⟩ :=
    exists_evaluate_recording evaluated []
  let invariant := spellingInvariant (contextOf host.recording preferences tokens)
    (Nat.le_refl Limits.maxStringLength) (host.recording_maintains Limits.maxStringLength)
  have unprinted : invariant.world (world, []) := by
    intro line member
    cases member
  obtain ⟨yields, table, lines⟩ :=
    evaluate_keeps invariant (isSpelled_of_tokenize splits) short unprinted onRecord
  rw [sameResult] at yields
  rw [sameBindings] at table
  refine ⟨table, ?_, ?_, recorded, onRecord, sameResult, sameBindings, sameWorld, lines⟩
  · intro values succeeded
    rw [succeeded] at yields
    exact yields
  · intro error failed
    rw [failed] at yields
    exact yields.2

/-- A source that prints what it reads and then asks for a variable that there is not. -/
def echoSource : String :=
  "string s = read() + t print(s + s) x"

def echoTokens : List Token :=
  [⟨.dataType, "string", 0⟩, ⟨.identifier, "s", 7⟩, ⟨.assign, "=", 9⟩, ⟨.function, "read", 11⟩,
    ⟨.openParenthesis, "(", 15⟩, ⟨.closeParenthesis, ")", 16⟩, ⟨.plus, "+", 18⟩,
    ⟨.identifier, "t", 20⟩, ⟨.function, "print", 22⟩, ⟨.openParenthesis, "(", 27⟩,
    ⟨.identifier, "s", 28⟩, ⟨.plus, "+", 30⟩, ⟨.identifier, "s", 32⟩,
    ⟨.closeParenthesis, ")", 33⟩, ⟨.identifier, "x", 35⟩, ⟨.endOfInput, "", 36⟩]

theorem strings_of_echoSource_stay_within_limit :
    let bindings : VariableTable := ⟨[("t", .string "b")]⟩
    let world : MemoryHost Nat := { input := ["a"], generator := 0 }
    (tokenize false echoSource).result = .ok echoTokens ∧
    bindings.Holds (·.IsWithin Limits.maxStringLength) ∧
    ∃ evaluation error,
      evaluate 9 seededHost {} echoTokens bindings world = some evaluation ∧
      evaluation.result = .error error ∧
      error.values = [.string "ab", .none] ∧
      (∀ value ∈ error.values, value.IsWithin Limits.maxStringLength) ∧
      evaluation.bindings.Holds (·.IsWithin Limits.maxStringLength) ∧
      ∃ recorded,
        evaluate 9 seededHost.recording {} echoTokens bindings (world, []) = some recorded ∧
        recorded.world.2 = ["abab"] ∧
        ∀ line ∈ recorded.world.2, line.length ≤ Limits.maxStringLength := by
  intro bindings world
  have splits : (tokenize false echoSource).result = .ok echoTokens := by
    cbv
  have short : bindings.Holds (·.IsWithin Limits.maxStringLength) := by
    intro entry member
    obtain rfl := List.mem_singleton.mp member
    change "b".length ≤ Limits.maxStringLength
    decide
  have evaluated : evaluate 9 seededHost {} echoTokens bindings world =
      some
        { result := .error
            { fault := .unknownIdentifier "x"
              token := ⟨.identifier, "x", 35⟩
              tokens := echoTokens
              bindings := ⟨[("t", .string "b"), ("s", .string "ab")]⟩
              values := [.string "ab", .none] }
          bindings := ⟨[("t", .string "b"), ("s", .string "ab")]⟩
          world := { output := #["abab"], generator := 0 }
          notes := [] } := by
    cbv
  have printed : ∃ recorded,
      evaluate 9 seededHost.recording {} echoTokens bindings (world, []) = some recorded ∧
      recorded.world.2 = ["abab"] :=
    ⟨_, by cbv, rfl⟩
  obtain ⟨kept, -, onFailure, recorded, onRecord, -, -, -, lines⟩ :=
    strings_stay_within_limit splits short evaluated
  obtain ⟨other, onRecordToo, isPrinted⟩ := printed
  obtain rfl := Option.some.inj (onRecord.symm.trans onRecordToo)
  exact ⟨splits, short, _, _, evaluated, rfl, rfl, (onFailure _ rfl).2, kept, recorded, onRecord,
    isPrinted, lines⟩

end Evaluation

end PugScript
