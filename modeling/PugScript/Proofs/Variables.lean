import Mathlib
import PugScript.Variables

/-!
# What declaring and assigning change

Declaring a name gives it a value and leaves all other names alone. A new name comes behind the
names that are there already; no name is moved, removed or listed twice. Assigning is declaring a
name that is there.
-/

namespace PugScript.VariableTable

/-! ## Lists of entries -/

theorem map_fst_replaceValue (name : String) (value : Value) (entries : List (String × Value)) :
    (replaceValue name value entries).map Prod.fst = entries.map Prod.fst := by
  induction entries with
  | nil => rfl
  | cons entry rest inductionHypothesis =>
      by_cases found : entry.1 = name
      · simp [replaceValue, found]
      · simp [replaceValue, found, inductionHypothesis]

theorem isSome_lookup_iff (name : String) (entries : List (String × Value)) :
    (lookup name entries).isSome = true ↔ name ∈ entries.map Prod.fst := by
  induction entries with
  | nil => simp [lookup]
  | cons entry rest inductionHypothesis =>
      by_cases found : entry.1 = name
      · simp [lookup, found]
      · simp only [lookup, if_neg found, List.map_cons, List.mem_cons, inductionHypothesis]
        exact (or_iff_right (Ne.symm found)).symm

theorem lookup_append (name : String) (entries others : List (String × Value)) :
    lookup name (entries ++ others) = (lookup name entries).or (lookup name others) := by
  induction entries with
  | nil => rfl
  | cons entry rest inductionHypothesis =>
      by_cases found : entry.1 = name
      · simp [lookup, found]
      · simp [lookup, found, inductionHypothesis]

theorem lookup_replaceValue
    {name : String} (value : Value) {entries : List (String × Value)}
    (present : (lookup name entries).isSome = true) (other : String) :
    lookup other (replaceValue name value entries) =
      if name = other then some value else lookup other entries := by
  induction entries with
  | nil => cases present
  | cons entry rest inductionHypothesis =>
      by_cases found : entry.1 = name
      · by_cases same : name = other
        · simp [replaceValue, lookup, found, same]
        · simp [replaceValue, lookup, found, same]
      · have presentRest : (lookup name rest).isSome = true := by
          rwa [lookup, if_neg found] at present
        rw [replaceValue, if_neg found, lookup, lookup, inductionHypothesis presentRest]
        by_cases same : name = other
        · have skipped : ¬ entry.1 = other := fun isEntry => found (isEntry.trans same.symm)
          rw [if_neg skipped, if_neg skipped]
        · rw [if_neg same, if_neg same]

/-! ## Tables -/

variable (table : VariableTable) (name : String) (value : Value)

theorem contains_iff_mem_names : table.contains name = true ↔ name ∈ table.names :=
  isSome_lookup_iff name table.entries

/-- A declaration adds the name at the end, unless it is there. -/
theorem names_declare :
    (table.declare name value).names =
      if table.contains name = true then table.names else table.names ++ [name] := by
  by_cases present : table.contains name = true
  · rw [declare, if_pos present, if_pos present]
    exact map_fst_replaceValue name value table.entries
  · rw [declare, if_neg present, if_neg present]
    exact List.map_append

/-- A declaration stores the value under the name and leaves the other variables alone. -/
theorem get?_declare (other : String) :
    (table.declare name value).get? other =
      if name = other then some value else table.get? other := by
  by_cases present : table.contains name = true
  · rw [declare, if_pos present]
    exact lookup_replaceValue value present other
  · have absent : lookup name table.entries = none := by
      simpa [contains, get?] using present
    rw [declare, if_neg present, get?, lookup_append, get?]
    by_cases same : name = other
    · subst same
      simp [absent, lookup]
    · simp [lookup, same]

/-- An assignment to a declared name is a declaration of it. -/
theorem assign?_eq :
    table.assign? name value =
      if table.contains name = true then some (table.declare name value) else none := by
  by_cases present : table.contains name = true
  · rw [assign?, if_pos present, if_pos present, declare, if_pos present]
  · rw [assign?, if_neg present, if_neg present]

end PugScript.VariableTable
