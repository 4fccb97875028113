import PugScript.Proofs.Variables
import PugScript.Variables.Indexed

/-!
# The index and the entries

A table is consistent if its index gives exactly the names of its entries, each its own slot. Every
operation keeps a table consistent, and a consistent table answers as the table without the index.
-/

namespace PugScript

/-! ## Slots of entries -/

namespace VariableTable

variable {name : String} {entries : List (String × Value)} {slot : Nat}

theorem ne_of_getElem?_rest {entry : String × Value} (fresh : entry.1 ∉ entries.map Prod.fst)
    (place : (entries.map Prod.fst)[slot]? = some name) : entry.1 ≠ name := by
  rintro rfl
  exact fresh (List.mem_of_getElem? place)

/-- Under distinct names, looking through the entries finds the one in the slot of the name. -/
theorem lookup_of_getElem? (distinct : (entries.map Prod.fst).Nodup)
    (place : (entries.map Prod.fst)[slot]? = some name) :
    lookup name entries = entries[slot]?.map Prod.snd := by
  induction entries generalizing slot with
  | nil => cases place
  | cons entry rest inductionHypothesis =>
    rw [List.map_cons, List.nodup_cons] at distinct
    cases slot with
    | zero =>
      have found : entry.1 = name := Option.some.inj place
      rw [lookup, if_pos found]
      rfl
    | succ slot =>
      have placeInRest : (rest.map Prod.fst)[slot]? = some name := place
      rw [lookup, if_neg (ne_of_getElem?_rest distinct.1 placeInRest)]
      exact inductionHypothesis distinct.2 placeInRest

theorem replaceValue_of_getElem? (value : Value) (distinct : (entries.map Prod.fst).Nodup)
    (place : (entries.map Prod.fst)[slot]? = some name) :
    replaceValue name value entries = entries.modify slot fun entry => (entry.1, value) := by
  induction entries generalizing slot with
  | nil => cases place
  | cons entry rest inductionHypothesis =>
    rw [List.map_cons, List.nodup_cons] at distinct
    cases slot with
    | zero =>
      have found : entry.1 = name := Option.some.inj place
      rw [replaceValue, if_pos found, List.modify_zero_cons, found]
    | succ slot =>
      have placeInRest : (rest.map Prod.fst)[slot]? = some name := place
      rw [replaceValue, if_neg (ne_of_getElem?_rest distinct.1 placeInRest),
        List.modify_succ_cons, inductionHypothesis distinct.2 placeInRest]

end VariableTable

/-! ## Consistency -/

namespace IndexedTable

/-- The index gives exactly the names of the entries, each its own slot. -/
def IsConsistent (table : IndexedTable) : Prop :=
  ∀ name slot, table.index name = some slot ↔ table.names[slot]? = some name

theorem isConsistent_empty : empty.IsConsistent := by
  intro name slot
  constructor <;> nofun

variable {table : IndexedTable} (consistent : table.IsConsistent) (name : String) (value : Value)

theorem names_store (slot : Nat) : (table.store slot value).names = table.names := by
  apply List.ext_getElem?
  intro place
  simp only [names, store, List.getElem?_map, List.getElem?_modify]
  cases table.entries[place]? with
  | none => rfl
  | some entry => split <;> rfl

theorem names_push : (table.push name value).names = table.names ++ [name] :=
  List.map_append

theorem assign_eq :
    table.assign name value =
      if table.contains name = true then (true, table.declare name value) else (false, table) := by
  rw [contains, assign, declare]
  cases table.index name with
  | none => rfl
  | some slot => rfl

theorem assign_fst : (table.assign name value).1 = table.contains name := by
  rw [assign_eq]
  cases table.contains name with
  | false => rfl
  | true => rfl

theorem isEmpty_iff : table.isEmpty = true ↔ ∀ name, name ∉ table.names := by
  rw [isEmpty, List.isEmpty_iff, ← List.eq_nil_iff_forall_not_mem, names, List.map_eq_nil_iff]

include consistent

theorem IsConsistent.lt_size {slot : Nat} (found : table.index name = some slot) :
    slot < table.size := by
  have place := (consistent name slot).mp found
  have inRange := (List.getElem?_eq_some_iff.mp place).1
  rwa [names, List.length_map] at inRange

theorem IsConsistent.nodup_names : table.names.Nodup := by
  rw [List.nodup_iff_getElem?_ne_getElem?]
  intro first second before inRange same
  have atSecond := List.getElem?_eq_getElem inRange
  have firstSlot := (consistent _ first).mpr (same.trans atSecond)
  have secondSlot := (consistent _ second).mpr atSecond
  have sameSlot : first = second := Option.some.inj (firstSlot.symm.trans secondSlot)
  omega

theorem IsConsistent.store (slot : Nat) : (table.store slot value).IsConsistent := by
  intro other place
  rw [names_store]
  exact consistent other place

theorem IsConsistent.push (absent : table.index name = none) :
    (table.push name value).IsConsistent := by
  intro other place
  have length : table.names.length = table.entries.length := List.length_map _
  have appended : (table.names ++ [name])[place]? = some other ↔
      table.names[place]? = some other ∨ place = table.entries.length ∧ name = other := by
    grind
  rw [names_push, appended, ← consistent other place, IndexedTable.push]
  dsimp only
  by_cases isNew : other = name
  · subst isNew
    rw [if_pos rfl, absent]
    simp [eq_comm]
  · rw [if_neg isNew]
    simp [Ne.symm isNew]

theorem IsConsistent.declare : (table.declare name value).IsConsistent := by
  unfold IndexedTable.declare
  split
  · exact consistent.store value _
  · next absent => exact consistent.push name value absent

theorem IsConsistent.assign : (table.assign name value).2.IsConsistent := by
  rw [assign_eq]
  split
  · exact consistent.declare name value
  · exact consistent

/-! ## Agreement with the entries alone -/

theorem IsConsistent.contains_iff_mem_names : table.contains name = true ↔ name ∈ table.names := by
  rw [contains, Option.isSome_iff_exists, List.mem_iff_getElem?]
  exact exists_congr (consistent name)

theorem IsConsistent.contains_eq : table.contains name = table.toTable.contains name := by
  rw [Bool.eq_iff_iff, consistent.contains_iff_mem_names]
  exact (table.toTable.contains_iff_mem_names name).symm

/-- The index finds what looking through the entries finds. -/
theorem IsConsistent.get?_eq : table.get? name = table.toTable.get? name := by
  unfold IndexedTable.get?
  split
  · next slot found =>
    exact (VariableTable.lookup_of_getElem? consistent.nodup_names
      ((consistent name slot).mp found)).symm
  · next absent =>
    have notContained := consistent.contains_eq name
    rw [contains, absent] at notContained
    exact (Option.not_isSome_iff_eq_none.mp (Bool.eq_false_iff.mp notContained.symm)).symm

theorem IsConsistent.get?_eq_none_iff :
    table.get? name = none ↔ ¬ table.contains name = true := by
  rw [consistent.get?_eq, consistent.contains_eq, VariableTable.contains,
    Option.not_isSome_iff_eq_none]

theorem IsConsistent.toTable_store {slot : Nat} (found : table.index name = some slot) :
    (table.store slot value).toTable =
      ⟨VariableTable.replaceValue name value table.entries⟩ := by
  rw [VariableTable.replaceValue_of_getElem? value consistent.nodup_names
    ((consistent name slot).mp found)]
  rfl

/-- A declaration does the same with and without the index. -/
theorem IsConsistent.toTable_declare :
    (table.declare name value).toTable = table.toTable.declare name value := by
  rw [VariableTable.declare, ← consistent.contains_eq, contains, IndexedTable.declare]
  cases found : table.index name with
  | none => rfl
  | some slot => exact consistent.toTable_store name value found

/-- So does an assignment. -/
theorem IsConsistent.toTable_assign :
    table.toTable.assign? name value =
      if (table.assign name value).1 then some (table.assign name value).2.toTable else none := by
  rw [VariableTable.assign?_eq, ← consistent.contains_eq, ← consistent.toTable_declare, assign_eq]
  cases table.contains name with
  | false => rfl
  | true => rfl

theorem IsConsistent.mem_entries_iff :
    (name, value) ∈ table.entries ↔ table.get? name = some value := by
  rw [List.mem_iff_getElem?]
  constructor
  · rintro ⟨slot, entry⟩
    have place : table.names[slot]? = some name := by
      rw [names, List.getElem?_map, entry]
      rfl
    rw [get?, (consistent name slot).mpr place]
    dsimp only
    rw [entry]
    rfl
  · intro found
    unfold get? at found
    split at found
    · next slot isSlot =>
      obtain ⟨⟨other, stored⟩, entry, same⟩ := Option.map_eq_some_iff.mp found
      have place := (consistent name slot).mp isSlot
      rw [names, List.getElem?_map, entry] at place
      cases same
      cases place
      exact ⟨slot, entry⟩
    · cases found

end IndexedTable

end PugScript
