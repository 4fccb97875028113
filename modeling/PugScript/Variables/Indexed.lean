import PugScript.Variables

/-!
# Tables with an index

A table of variables with an index beside its entries: the index gives the slot of a name, which is
the place of its entry. Reading and storing go to the slot and search no entries.
-/

namespace PugScript

structure IndexedTable where
  entries : List (String × Value)
  index : String → Option Nat

namespace IndexedTable

def empty : IndexedTable :=
  ⟨[], fun _ => none⟩

def clear (_ : IndexedTable) : IndexedTable :=
  empty

/-- The table without its index. -/
def toTable (table : IndexedTable) : VariableTable :=
  ⟨table.entries⟩

def names (table : IndexedTable) : List String :=
  table.entries.map Prod.fst

def size (table : IndexedTable) : Nat :=
  table.entries.length

def isEmpty (table : IndexedTable) : Bool :=
  table.entries.isEmpty

/-- The value of a variable: the one in the slot of its name. -/
def get? (table : IndexedTable) (name : String) : Option Value :=
  match table.index name with
  | some slot => table.entries[slot]?.map Prod.snd
  | none => none

def contains (table : IndexedTable) (name : String) : Bool :=
  (table.index name).isSome

/-- Stores a value in a slot; the name that is there stays. -/
def store (table : IndexedTable) (slot : Nat) (value : Value) : IndexedTable :=
  { table with entries := table.entries.modify slot fun entry => (entry.1, value) }

/-- Appends an entry and gives its name the next slot. -/
def push (table : IndexedTable) (name : String) (value : Value) : IndexedTable where
  entries := table.entries ++ [(name, value)]
  index := fun other => if other = name then some table.entries.length else table.index other

/-- Stores a value under a name, in its slot or else in a new one. -/
def declare (table : IndexedTable) (name : String) (value : Value) : IndexedTable :=
  match table.index name with
  | some slot => table.store slot value
  | none => table.push name value

/-- Stores a value in the slot of a name and says whether the name has one. -/
def assign (table : IndexedTable) (name : String) (value : Value) : Bool × IndexedTable :=
  match table.index name with
  | some slot => (true, table.store slot value)
  | none => (false, table)

end IndexedTable

end PugScript
