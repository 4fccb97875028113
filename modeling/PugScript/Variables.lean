import PugScript.Value

/-!
# The table of variables

A table lists its variables in the order in which their names were first declared. Declaring a
name again, or assigning to it, changes its value and keeps its place.
-/

namespace PugScript

structure VariableTable where
  entries : List (String × Value)

namespace VariableTable

def empty : VariableTable :=
  ⟨[]⟩

def clear (_ : VariableTable) : VariableTable :=
  empty

def names (table : VariableTable) : List String :=
  table.entries.map Prod.fst

def size (table : VariableTable) : Nat :=
  table.entries.length

def isEmpty (table : VariableTable) : Bool :=
  table.entries.isEmpty

/-- The value stored under a name in a list of entries. -/
def lookup (name : String) : List (String × Value) → Option Value
  | [] => none
  | entry :: rest => if entry.1 = name then some entry.2 else lookup name rest

def get? (table : VariableTable) (name : String) : Option Value :=
  lookup name table.entries

def contains (table : VariableTable) (name : String) : Bool :=
  (table.get? name).isSome

/-- The entries with the value under a name replaced; unchanged if the name is not there. -/
def replaceValue (name : String) (value : Value) :
    List (String × Value) → List (String × Value)
  | [] => []
  | entry :: rest =>
    if entry.1 = name then (name, value) :: rest else entry :: replaceValue name value rest

/-- Stores a value under a name, at its old place or else at the end. -/
def declare (table : VariableTable) (name : String) (value : Value) : VariableTable :=
  if table.contains name then ⟨replaceValue name value table.entries⟩
  else ⟨table.entries ++ [(name, value)]⟩

/-- Stores a value under a declared name; gives nothing if the name is not declared. -/
def assign? (table : VariableTable) (name : String) (value : Value) : Option VariableTable :=
  if table.contains name then some ⟨replaceValue name value table.entries⟩ else none

end VariableTable

end PugScript
