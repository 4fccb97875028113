/-!
# Looking up a number in an ascending table

A table is halved until one entry is left: the last that is not greater than the number, if there
is such an entry.
-/

namespace PugScript

/-- Where a number stands in an ascending table. -/
inductive TablePlace where
  /-- It is the entry at the index. -/
  | found (index : Nat)
  /-- It is no entry, and would have to be inserted at the index. -/
  | missing (index : Nat)
  deriving DecidableEq, Repr

namespace TablePlace

/-- Halves the part of a table that starts at an index until one entry is left. The number is less
than every entry behind that part. -/
def narrow (table : Array Nat) (number index size : Nat) : Nat :=
  if 1 < size then
    if table.getD (index + size / 2) 0 ≤ number then
      narrow table number (index + size / 2) (size - size / 2)
    else narrow table number index (size - size / 2)
  else index
termination_by size

/-- Finds the place of a number in an ascending table. -/
def find (table : Array Nat) (number : Nat) : TablePlace :=
  let index := narrow table number 0 table.size
  match table[index]? with
  | none => missing 0
  | some entry =>
    if entry = number then found index
    else if entry < number then missing (index + 1)
    else missing index

end TablePlace

end PugScript
