import Mathlib.Data.List.DropRight
import PugScript.Proofs.Variables.Indexed

/-!
# What a table says about its history

A table that has gone through declarations, assignments and clearings is an insertion-ordered map:
it has the names that were declared since it was last cleared, in the order of their first
declarations, each with the value that was stored last.
-/

namespace PugScript

inductive TableOperation where
  | declare (name : String) (value : Value)
  | assign (name : String) (value : Value)
  | clear

namespace TableOperation

def isClear : TableOperation → Bool
  | clear => true
  | _ => false

def declaredName? : TableOperation → Option String
  | declare name _ => some name
  | _ => none

/-- The name under which a value is to be stored. -/
def storedName? : TableOperation → Option String
  | declare name _ => some name
  | assign name _ => some name
  | clear => none

end TableOperation

def IndexedTable.perform (table : IndexedTable) : TableOperation → IndexedTable
  | .declare name value => table.declare name value
  | .assign name value => (table.assign name value).2
  | .clear => table.clear

/-- The table with an index after some operations on the empty one. -/
def IndexedTable.after (operations : List TableOperation) : IndexedTable :=
  operations.foldl perform empty

def VariableTable.perform (table : VariableTable) : TableOperation → VariableTable
  | .declare name value => table.declare name value
  | .assign name value => (table.assign? name value).getD table
  | .clear => table.clear

/-- The table after some operations on the empty one. -/
def VariableTable.after (operations : List TableOperation) : VariableTable :=
  operations.foldl perform empty

/-! ## Histories -/

/-- The operations since the last clearing. -/
def sinceClear (operations : List TableOperation) : List TableOperation :=
  operations.rtakeWhile fun operation => !operation.isClear

/-- The name was declared since the last clearing. -/
def IsDeclared (operations : List TableOperation) (name : String) : Prop :=
  ∃ value, .declare name value ∈ sinceClear operations

/-- The names in the order of their first declarations since the last clearing. -/
def firstDeclarations (operations : List TableOperation) : List String :=
  ((sinceClear operations).filterMap TableOperation.declaredName?).eraseDups

/-- After the earlier operations, this one stores the value: it is a declaration, or an assignment
to a name that was declared earlier. -/
def StoresAfter (earlier : List TableOperation) (operation : TableOperation) (name : String)
    (value : Value) : Prop :=
  operation = .declare name value ∨
    operation = .assign name value ∧ ∃ initial, .declare name initial ∈ earlier

/-- The value was the last one to be stored under the name since the last clearing. -/
def IsLastStored (operations : List TableOperation) (name : String) (value : Value) : Prop :=
  ∃ earlier operation later, sinceClear operations = earlier ++ operation :: later ∧
    StoresAfter earlier operation name value ∧ ∀ other ∈ later, other.storedName? ≠ some name

section Histories

variable (operations : List TableOperation) {operation : TableOperation} {name : String}
  {value : Value}

/-! Each of these notions after one more operation. -/

theorem sinceClear_clear : sinceClear (operations ++ [.clear]) = [] :=
  List.rtakeWhile_concat_neg _ _ _ (by decide)

theorem sinceClear_concat (kept : operation.isClear = false) :
    sinceClear (operations ++ [operation]) = sinceClear operations ++ [operation] :=
  List.rtakeWhile_concat_pos _ _ _ (by rw [kept]; rfl)

theorem mem_firstDeclarations_iff :
    name ∈ firstDeclarations operations ↔ IsDeclared operations name := by
  rw [firstDeclarations, List.mem_eraseDups, List.mem_filterMap]
  constructor
  · rintro ⟨operation, member, declares⟩
    cases operation with
    | declare other value =>
      cases declares
      exact ⟨value, member⟩
    | assign => cases declares
    | clear => cases declares
  · rintro ⟨value, member⟩
    exact ⟨_, member, rfl⟩

theorem firstDeclarations_clear : firstDeclarations (operations ++ [.clear]) = [] := by
  rw [firstDeclarations, sinceClear_clear]
  rfl

theorem firstDeclarations_assign (name : String) (value : Value) :
    firstDeclarations (operations ++ [.assign name value]) = firstDeclarations operations := by
  rw [firstDeclarations, sinceClear_concat operations rfl, List.filterMap_append]
  exact congrArg List.eraseDups (List.append_nil _)

theorem firstDeclarations_declare (name : String) (value : Value) :
    firstDeclarations (operations ++ [.declare name value]) =
      if name ∈ firstDeclarations operations then firstDeclarations operations
      else firstDeclarations operations ++ [name] := by
  have appended : firstDeclarations (operations ++ [.declare name value]) =
      ((sinceClear operations).filterMap TableOperation.declaredName? ++ [name]).eraseDups := by
    rw [firstDeclarations, sinceClear_concat operations rfl, List.filterMap_append]
    rfl
  rw [appended, List.eraseDups_append, firstDeclarations]
  split
  · next again =>
    rw [List.mem_eraseDups] at again
    simp [List.cons_removeAll, again]
  · next first =>
    rw [List.mem_eraseDups] at first
    simp [List.cons_removeAll, first, List.eraseDups_cons]

theorem storesAfter_declare_iff {earlier : List TableOperation} {other : String} {stored : Value} :
    StoresAfter earlier (.declare other stored) name value ↔ other = name ∧ stored = value := by
  simp [StoresAfter]

theorem storesAfter_assign_iff {other : String} {stored : Value} :
    StoresAfter (sinceClear operations) (.assign other stored) name value ↔
      (other = name ∧ stored = value) ∧ IsDeclared operations name := by
  simp [StoresAfter, IsDeclared]

/-- A value is the last one stored if the last operation stores it, or if that stores nothing under
the name and the value was the last one before. -/
theorem isLastStored_concat (kept : operation.isClear = false) :
    IsLastStored (operations ++ [operation]) name value ↔
      StoresAfter (sinceClear operations) operation name value ∨
        operation.storedName? ≠ some name ∧ IsLastStored operations name value := by
  unfold IsLastStored
  rw [sinceClear_concat operations kept]
  constructor
  · rintro ⟨earlier, storing, later, decomposition, stores, untouched⟩
    obtain rfl | ⟨between, last, rfl⟩ := List.eq_nil_or_concat later
    · obtain ⟨rfl, same⟩ := List.append_inj' decomposition rfl
      cases same
      exact .inl stores
    · rw [List.concat_eq_append, ← List.cons_append, ← List.append_assoc] at decomposition
      obtain ⟨shorter, same⟩ := List.append_inj' decomposition rfl
      cases same
      refine .inr ⟨untouched operation (by simp), earlier, storing, between, shorter, stores, ?_⟩
      intro other member
      exact untouched other (by simp [member])
  · rintro (stores | ⟨different, earlier, storing, later, decomposition, stores, untouched⟩)
    · exact ⟨sinceClear operations, operation, [], rfl, stores, nofun⟩
    · refine ⟨earlier, storing, later ++ [operation], by rw [decomposition]; simp, stores, ?_⟩
      intro other member
      rw [List.mem_append, List.mem_singleton] at member
      obtain member | rfl := member
      · exact untouched other member
      · exact different

theorem not_isLastStored_of_sinceClear_eq_nil (cleared : sinceClear operations = []) :
    ¬ IsLastStored operations name value := by
  rintro ⟨earlier, storing, later, decomposition, -⟩
  rw [cleared] at decomposition
  simp at decomposition

variable {operations} in
theorem IsLastStored.isDeclared (stored : IsLastStored operations name value) :
    IsDeclared operations name := by
  obtain ⟨earlier, storing, later, decomposition, stores, -⟩ := stored
  rw [IsDeclared, decomposition]
  obtain rfl | ⟨rfl, initial, member⟩ := stores
  · exact ⟨value, by simp⟩
  · exact ⟨initial, by simp [member]⟩

end Histories

/-! ## Runs -/

namespace VariableTable

variable (operations : List TableOperation) (name : String) (value : Value)

theorem after_concat (operation : TableOperation) :
    after (operations ++ [operation]) = (after operations).perform operation :=
  List.foldl_concat ..

theorem perform_assign (table : VariableTable) :
    table.perform (.assign name value) =
      if table.contains name = true then table.declare name value else table := by
  rw [perform, assign?_eq]
  split <;> rfl

theorem names_after : (after operations).names = firstDeclarations operations := by
  induction operations using List.reverseRecOn with
  | nil => rfl
  | append_singleton operations operation inductionHypothesis =>
    rw [after_concat]
    cases operation with
    | declare name value =>
      rw [perform, names_declare, firstDeclarations_declare, ← inductionHypothesis]
      exact if_congr (contains_iff_mem_names _ _) rfl rfl
    | assign name value =>
      rw [perform_assign, firstDeclarations_assign, ← inductionHypothesis]
      split
      · next present => rw [names_declare, if_pos present]
      · rfl
    | clear =>
      rw [firstDeclarations_clear]
      rfl

theorem contains_after_iff :
    (after operations).contains name = true ↔ IsDeclared operations name := by
  rw [contains_iff_mem_names, names_after, mem_firstDeclarations_iff]

theorem get?_after_declare_iff {other : String} {stored : Value}
    (recorded : (after operations).get? name = some value ↔ IsLastStored operations name value) :
    ((after operations).declare other stored).get? name = some value ↔
      other = name ∧ stored = value ∨ other ≠ name ∧ IsLastStored operations name value := by
  rw [get?_declare]
  by_cases same : other = name
  · simp [same]
  · simp [same, recorded]

theorem get?_after_iff :
    (after operations).get? name = some value ↔ IsLastStored operations name value := by
  induction operations using List.reverseRecOn with
  | nil =>
    constructor
    · nofun
    · exact fun stored => absurd stored (not_isLastStored_of_sinceClear_eq_nil [] rfl)
  | append_singleton operations operation inductionHypothesis =>
    rw [after_concat]
    cases operation with
    | declare other stored =>
      rw [perform, get?_after_declare_iff operations name value inductionHypothesis,
        isLastStored_concat operations rfl, storesAfter_declare_iff]
      simp [TableOperation.storedName?]
    | assign other stored =>
      rw [perform_assign, isLastStored_concat operations rfl, storesAfter_assign_iff]
      by_cases declared : IsDeclared operations other
      · rw [if_pos ((contains_after_iff operations other).mpr declared),
          get?_after_declare_iff operations name value inductionHypothesis]
        constructor
        · rintro (⟨rfl, same⟩ | ⟨different, last⟩)
          · exact .inl ⟨⟨rfl, same⟩, declared⟩
          · exact .inr ⟨by simpa [TableOperation.storedName?] using different, last⟩
        · rintro (⟨stores, -⟩ | ⟨different, last⟩)
          · exact .inl stores
          · exact .inr ⟨by simpa [TableOperation.storedName?] using different, last⟩
      · rw [if_neg fun contained => declared ((contains_after_iff operations other).mp contained),
          inductionHypothesis]
        constructor
        · intro last
          -- A name with a value is declared, so the refused assignment is to another name.
          refine .inr ⟨?_, last⟩
          rintro same
          cases same
          exact declared last.isDeclared
        · rintro (⟨⟨rfl, -⟩, isDeclared⟩ | ⟨-, last⟩)
          · exact absurd isDeclared declared
          · exact last
    | clear =>
      constructor
      · nofun
      · intro stored
        exact absurd stored (not_isLastStored_of_sinceClear_eq_nil _ (sinceClear_clear operations))

end VariableTable

namespace IndexedTable

variable (operations : List TableOperation)

theorem after_concat (operation : TableOperation) :
    after (operations ++ [operation]) = (after operations).perform operation :=
  List.foldl_concat ..

/-- Every table with an index is consistent. -/
theorem isConsistent_after : (after operations).IsConsistent := by
  induction operations using List.reverseRecOn with
  | nil => exact isConsistent_empty
  | append_singleton operations operation inductionHypothesis =>
    rw [after_concat]
    cases operation with
    | declare name value => exact inductionHypothesis.declare name value
    | assign name value => exact inductionHypothesis.assign name value
    | clear => exact isConsistent_empty

/-- With or without an index, the same operations lead to the same table. -/
theorem toTable_after : (after operations).toTable = VariableTable.after operations := by
  induction operations using List.reverseRecOn with
  | nil => rfl
  | append_singleton operations operation inductionHypothesis =>
    have consistent := isConsistent_after operations
    rw [VariableTable.after_concat, ← inductionHypothesis, after_concat]
    cases operation with
    | declare name value => exact consistent.toTable_declare name value
    | assign name value =>
      rw [VariableTable.perform_assign, ← consistent.contains_eq, perform, assign_eq]
      split
      · exact consistent.toTable_declare name value
      · rfl
    | clear => rfl

theorem contains_after_iff (name : String) :
    (after operations).contains name = true ↔ IsDeclared operations name := by
  rw [(isConsistent_after operations).contains_eq, toTable_after]
  exact VariableTable.contains_after_iff operations name

theorem get?_after_iff (name : String) (value : Value) :
    (after operations).get? name = some value ↔ IsLastStored operations name value := by
  rw [(isConsistent_after operations).get?_eq, toTable_after]
  exact VariableTable.get?_after_iff operations name value

theorem names_after : (after operations).names = firstDeclarations operations := by
  rw [← VariableTable.names_after, ← toTable_after]
  rfl

/-- What a table says about the operations it went through: its index and its entries belong
together, and all it answers follows from the operations since the last clearing. -/
structure Reflects (table : IndexedTable) (operations : List TableOperation) : Prop where
  index_iff : ∀ name slot, table.index name = some slot ↔ table.names[slot]? = some name
  slot_lt : ∀ name slot, table.index name = some slot → slot < table.entries.length
  nodup_names : table.names.Nodup
  get?_iff : ∀ name value, table.get? name = some value ↔ IsLastStored operations name value
  get?_eq_none_iff : ∀ name, table.get? name = none ↔ ¬ IsDeclared operations name
  contains_iff : ∀ name, table.contains name = true ↔ IsDeclared operations name
  size_eq : table.size = (firstDeclarations operations).length
  isEmpty_iff : table.isEmpty = true ↔ ∀ name, ¬ IsDeclared operations name
  assign_iff : ∀ name value, (table.assign name value).1 = true ↔ IsDeclared operations name
  assign_unchanged : ∀ name value, ¬ IsDeclared operations name →
    (table.assign name value).2 = table
  names_eq : table.names = firstDeclarations operations
  mem_entries_iff : ∀ name value,
    (name, value) ∈ table.entries ↔ IsLastStored operations name value

/-- A table with an index reflects the operations it went through, and the table without the index
that went through the same operations has the same entries and gives the same answers. -/
theorem every_table_reflects_its_history (operations : List TableOperation) :
    (after operations).Reflects operations ∧
      (VariableTable.after operations).entries = (after operations).entries ∧
      ∀ name, (VariableTable.after operations).get? name = (after operations).get? name ∧
        (VariableTable.after operations).contains name = (after operations).contains name ∧
        ∀ value, (VariableTable.after operations).assign? name value =
          if ((after operations).assign name value).1 then
            some ((after operations).assign name value).2.toTable
          else none := by
  have consistent := isConsistent_after operations
  have names := names_after operations
  have contains := contains_after_iff operations
  rw [← toTable_after]
  refine ⟨?_, rfl, fun name => ⟨(consistent.get?_eq name).symm, (consistent.contains_eq name).symm,
    fun value => consistent.toTable_assign name value⟩⟩
  refine ⟨consistent, fun name _ => consistent.lt_size name, consistent.nodup_names,
    get?_after_iff operations, ?_, contains, ?_, ?_, ?_, ?_, names, ?_⟩
  · intro name
    rw [consistent.get?_eq_none_iff, contains]
  · rw [← names]
    exact (List.length_map _).symm
  · rw [isEmpty_iff, names]
    exact forall_congr' fun name => not_congr (mem_firstDeclarations_iff operations)
  · intro name value
    rw [assign_fst, contains]
  · intro name value undeclared
    rw [assign_eq, if_neg (mt (contains name).mp undeclared)]
  · intro name value
    rw [consistent.mem_entries_iff]
    exact get?_after_iff operations name value

example : (after [.declare "a" (.int 1), .declare "b" (.int 2),
    .declare "a" (.bool true)]).names = ["a", "b"] := rfl

end IndexedTable

end PugScript
