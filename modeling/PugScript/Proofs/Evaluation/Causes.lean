import PugScript.Host.Memory
import PugScript.Proofs.Evaluation.Termination
import PugScript.Proofs.Variables

/-!
# What the tokens of an evaluation can cause

An evaluation does nothing that its tokens do not ask for. A failure is attributed to one of them,
or to the mark behind the last one. A variable is new only if its name stands behind a type, and it
has a new value only if its name stands there or in front of `=`. Both follow from the place of the
cursor, so they go into one invariant.
-/

namespace PugScript

/-! ## Names that are written -/

/-- The pairs of tokens that stand next to each other. -/
def neighbours (tokens : List Token) : List (Token × Token) :=
  tokens.zip tokens.tail

/-- A type stands directly in front of the name. -/
def IsDeclaredIn (tokens : List Token) (name : String) : Prop :=
  ∃ pair ∈ neighbours tokens,
    pair.1.kind = .dataType ∧ pair.2.kind = .identifier ∧ pair.2.text = name

/-- An assignment sign stands directly behind the name. -/
def IsAssignedIn (tokens : List Token) (name : String) : Prop :=
  ∃ pair ∈ neighbours tokens,
    pair.1.kind = .identifier ∧ pair.2.kind = .assign ∧ pair.1.text = name

instance (tokens : List Token) (name : String) : Decidable (IsDeclaredIn tokens name) :=
  inferInstanceAs (Decidable (∃ pair ∈ neighbours tokens, _))

instance (tokens : List Token) (name : String) : Decidable (IsAssignedIn tokens name) :=
  inferInstanceAs (Decidable (∃ pair ∈ neighbours tokens, _))

/-- The token at a cursor and the one behind it stand next to each other in the source. -/
theorem mem_neighbours_of_isSuffix
    {first second : Token} {rest tokens : List Token}
    (isSuffix : first :: second :: rest <:+ tokens) :
    (first, second) ∈ neighbours tokens := by
  obtain ⟨before, rfl⟩ := isSuffix
  induction before with
  | nil => exact List.mem_cons_self
  | cons token before inductionHypothesis =>
      cases before with
      | nil => exact List.mem_cons_of_mem _ inductionHypothesis
      | cons next before => exact List.mem_cons_of_mem _ inductionHypothesis

/-! ## Tables that tokens have changed -/

/-- The final table is one that the tokens can have made of the initial one. -/
structure ChangedBy (tokens : List Token) (initial final : VariableTable) : Prop where
  /-- The names of the initial table stay where they are, and those that come behind them are
  different names that the tokens declare. -/
  names : ∃ added,
    final.names = initial.names ++ added ∧
    added.Nodup ∧
    ∀ name ∈ added, name ∉ initial.names ∧ IsDeclaredIn tokens name
  /-- A variable that is neither declared nor assigned keeps its value. -/
  kept : ∀ name, ¬ IsDeclaredIn tokens name → ¬ IsAssignedIn tokens name →
    final.get? name = initial.get? name

namespace ChangedBy

variable {tokens : List Token} {initial table : VariableTable} {name : String}

theorem refl (tokens : List Token) (initial : VariableTable) :
    ChangedBy tokens initial initial :=
  ⟨⟨[], by simp⟩, fun _ _ _ => rfl⟩

theorem declare
    (changed : ChangedBy tokens initial table) (isDeclared : IsDeclaredIn tokens name)
    (value : Value) :
    ChangedBy tokens initial (table.declare name value) := by
  obtain ⟨added, names, distinct, declared⟩ := changed.names
  constructor
  · rw [VariableTable.names_declare]
    by_cases present : table.contains name = true
    · rw [if_pos present]
      exact changed.names
    · have absent : name ∉ initial.names ++ added := by
        rwa [VariableTable.contains_iff_mem_names, names] at present
      obtain ⟨notInitial, notAdded⟩ := not_or.mp (mt List.mem_append.mpr absent)
      rw [if_neg present, names, List.append_assoc]
      refine ⟨added ++ [name], rfl, ?_, ?_⟩
      · rw [← List.concat_eq_append]
        exact distinct.concat notAdded
      · intro other member
        rcases List.mem_append.mp member with old | new
        · exact declared other old
        · obtain rfl := List.mem_singleton.mp new
          exact ⟨notInitial, isDeclared⟩
  · intro other notDeclared notAssigned
    have different : name ≠ other := by
      rintro rfl
      exact notDeclared isDeclared
    rw [VariableTable.get?_declare, if_neg different]
    exact changed.kept other notDeclared notAssigned

theorem assign?
    (changed : ChangedBy tokens initial table) (isAssigned : IsAssignedIn tokens name)
    {value : Value} {final : VariableTable} (assigned : table.assign? name value = some final) :
    ChangedBy tokens initial final := by
  rw [VariableTable.assign?_eq] at assigned
  by_cases present : table.contains name = true
  · rw [if_pos present] at assigned
    cases assigned
    constructor
    · rw [VariableTable.names_declare, if_pos present]
      exact changed.names
    · intro other notDeclared notAssigned
      have different : name ≠ other := by
        rintro rfl
        exact notAssigned isAssigned
      rw [VariableTable.get?_declare, if_neg different]
      exact changed.kept other notDeclared notAssigned
  · rw [if_neg present] at assigned
    cases assigned

end ChangedBy

namespace Evaluation

variable {σ : Type}

/-! ## The invariant -/

theorem front_mem_or_eq_endMark
    {context : Context σ} {remaining tokens : List Token} (isSuffix : remaining <:+ tokens) :
    context.front remaining ∈ tokens ∨ context.front remaining = context.endMark := by
  cases remaining with
  | nil => exact .inr rfl
  | cons token rest => exact .inl (isSuffix.subset List.mem_cons_self)

/-- The cursor stays among the tokens; failures are attributed to them, and the variables are
changed by them. -/
def causeInvariant (context : Context σ) (tokens : List Token) (initial : VariableTable) :
    Invariant context where
  __ := cursorInvariant context tokens
  table := ChangedBy tokens initial
  failure := fun failure => failure.token ∈ tokens ∨ failure.token = context.endMark
  value_stored := fun _ _ _ _ _ => trivial
  failure_formal := fun _ _ isSuffix _ => front_mem_or_eq_endMark isSuffix
  failure_type := fun _ _ isSuffix _ _ => front_mem_or_eq_endMark isSuffix
  failure_truth := fun _ _ _ isSuffix _ _ => front_mem_or_eq_endMark isSuffix
  literal := fun _ _ isSuffix _ => .of_blames (fun _ => front_mem_or_eq_endMark isSuffix) _
  sign := fun _ _ _ isSuffix _ => .of_blames (fun _ => front_mem_or_eq_endMark isSuffix) _
  combine := fun _ _ _ _ _ isSuffix _ _ =>
    .of_blames (fun _ => front_mem_or_eq_endMark isSuffix) _
  cast := fun _ _ _ isSuffix _ _ => .of_blames (fun _ => front_mem_or_eq_endMark isSuffix) _
  declare := fun dataType name _ _ stored isSuffix isType isName changed _ =>
    changed.declare ⟨(dataType, name), mem_neighbours_of_isSuffix isSuffix, isType, isName, rfl⟩
      stored
  assign := fun name assign _ _ _ _ isSuffix isName isAssign changed _ assigned =>
    changed.assign? ⟨(name, assign), mem_neighbours_of_isSuffix isSuffix, isName, isAssign, rfl⟩
      assigned
  invoke := fun _ _ _ _ isSuffix _ _ _ =>
    ⟨.of_blames (fun _ => front_mem_or_eq_endMark isSuffix) _, trivial⟩

/-! ## Whole evaluations -/

section Evaluations

variable {fuel : Nat} {host : Host σ} {preferences : EvaluationPreferences} {tokens : List Token}
  {bindings : VariableTable} {world : σ} {evaluation : Evaluation σ}
  (evaluated : evaluate fuel host preferences tokens bindings world = some evaluation)

include evaluated

/-- An error keeps the tokens that were evaluated and the variables that the evaluation left. -/
theorem tokens_and_bindings_of_error
    {error : EvaluationError} (failed : evaluation.result = .error error) :
    error.tokens = tokens ∧ error.bindings = evaluation.bindings := by
  obtain ⟨progress, _, rfl⟩ := Option.map_eq_some_iff.mp evaluated
  rw [ofProgress] at failed
  cases cause : progress.failure? with
  | none =>
      rw [cause] at failed
      cases failed
  | some failure =>
      rw [cause] at failed
      cases failed
      exact ⟨rfl, rfl⟩

/-- A failure is attributed to a token of the source or to the mark for its end. -/
theorem token_of_error
    {error : EvaluationError} (failed : evaluation.result = .error error) :
    error.token ∈ tokens ∨ error.token = endMark tokens := by
  let invariant := causeInvariant (contextOf host preferences tokens) tokens bindings
  obtain ⟨yields, -, -⟩ :=
    evaluate_keeps invariant List.suffix_rfl (ChangedBy.refl tokens bindings) trivial evaluated
  rw [failed] at yields
  exact yields.1

end Evaluations

/-- Whether it succeeds or fails, an evaluation adds only variables that its tokens declare, behind
those that were there, and changes only the values of variables that they declare or assign. -/
theorem evaluation_changes_only_named_variables
    {fuel : Nat} {host : Host σ} {preferences : EvaluationPreferences} {tokens : List Token}
    {bindings : VariableTable} {world : σ} {evaluation : Evaluation σ}
    (evaluated : evaluate fuel host preferences tokens bindings world = some evaluation) :
    ChangedBy tokens bindings evaluation.bindings ∧
    ∀ error, evaluation.result = .error error → error.bindings = evaluation.bindings := by
  let invariant := causeInvariant (contextOf host preferences tokens) tokens bindings
  obtain ⟨-, changed, -⟩ :=
    evaluate_keeps invariant List.suffix_rfl (ChangedBy.refl tokens bindings) trivial evaluated
  exact ⟨changed, fun error failed => (tokens_and_bindings_of_error evaluated failed).2⟩

/-- The tokens of `if on string n = s = "b" end missing`: an assignment inside a declaration inside
a block, and a failure behind it. -/
def nestedAssignmentTokens : List Token :=
  [⟨.ifWord, "if", 0⟩, ⟨.identifier, "on", 3⟩, ⟨.dataType, "string", 6⟩, ⟨.identifier, "n", 13⟩,
    ⟨.assign, "=", 15⟩, ⟨.identifier, "s", 17⟩, ⟨.assign, "=", 19⟩, ⟨.string, "b", 21⟩,
    ⟨.endWord, "end", 25⟩, ⟨.identifier, "missing", 29⟩]

theorem nestedAssignmentTokens_change_only_named_variables :
    let bindings : VariableTable :=
      ⟨[("on", .bool true), ("s", .string "a"), ("kept", .string "c")]⟩
    ∃ evaluation error,
      evaluate 9 seededHost {} nestedAssignmentTokens bindings (.seeded 0) = some evaluation ∧
      evaluation.result = .error error ∧
      error.fault = .unknownIdentifier "missing" ∧
      evaluation.bindings.names = ["on", "s", "kept", "n"] ∧
      ChangedBy nestedAssignmentTokens bindings evaluation.bindings ∧
      ¬ IsAssignedIn nestedAssignmentTokens "on" ∧
      evaluation.bindings.get? "on" = bindings.get? "on" ∧
      IsAssignedIn nestedAssignmentTokens "s" ∧
      evaluation.bindings.get? "s" = some (.string "b") := by
  intro bindings
  have evaluated : evaluate 9 seededHost {} nestedAssignmentTokens bindings (.seeded 0) =
      some
        { result := .error
            { fault := .unknownIdentifier "missing"
              token := ⟨.identifier, "missing", 29⟩
              tokens := nestedAssignmentTokens
              bindings :=
                ⟨[("on", .bool true), ("s", .string "b"), ("kept", .string "c"),
                  ("n", .string "b")]⟩
              values := [.bool true] }
          bindings :=
            ⟨[("on", .bool true), ("s", .string "b"), ("kept", .string "c"), ("n", .string "b")]⟩
          world := .seeded 0
          notes := [] } := by
    cbv
  obtain ⟨changed, -⟩ := evaluation_changes_only_named_variables evaluated
  exact ⟨_, _, evaluated, rfl, rfl, rfl, changed, by decide,
    changed.kept "on" (by decide) (by decide), by decide, rfl⟩

end Evaluation

end PugScript
