/-!
# TOML documents

A document is a table. While it is read, each table remembers how it came about, because that
decides who may still add to it: a table made only on the way to another one may get a header of
its own later, and dotted keys may go through it; a table made by dotted keys takes values from
further dotted keys; and a table with a header may be extended by neither.
-/

namespace PugScript

/-- A value of a document. Numbers with a fraction and dates are only recognised. -/
inductive Toml where
  | string (content : String)
  | integer (number : Int)
  | boolean (truth : Bool)
  | float
  | datetime
  | array (elements : List Toml)
  | table (entries : List (String × Toml))

namespace Toml

/-- How deep values may be nested in each other. -/
def maxDepth : Nat := 79

/-- How a table came about. -/
inductive Origin where
  /-- By its own header, or as the document itself. -/
  | header
  /-- On the way to a table with a header. -/
  | passage
  /-- By dotted keys. -/
  | dotted
  deriving DecidableEq, Repr

/-- A document while it is read. -/
inductive Node where
  | value (content : Toml)
  | table (origin : Origin) (entries : List (String × Node))
  /-- An array of tables, last first. -/
  | tables (elements : List (List (String × Node)))

/-- The entries of a table while it is read. -/
abbrev Entries := List (String × Node)

def Entries.get? (entries : Entries) (key : String) : Option Node :=
  (List.find? (fun entry => entry.1 == key) entries).map Prod.snd

def Entries.set (entries : Entries) (key : String) (node : Node) : Entries :=
  if (entries.get? key).isSome then
    List.map (fun entry => if entry.1 == key then (key, node) else entry) entries
  else List.append entries [(key, node)]

/-! ## Adding to a document -/

/-- Adds a value under dotted keys, the last of which must be new. No table on the way may have a
header of its own, and in an array of tables the way goes through the last one. `isOpen` says
whether the table at hand takes values: the one that the keys start from does, and so does one that
comes from dotted keys. -/
def addValue? (isOpen : Bool) (entries : Entries) : List String → Toml → Option Entries
  | [], _ => none
  | [key], content =>
    if isOpen && (entries.get? key).isNone then some (entries.set key (.value content)) else none
  | key :: path, content =>
    match entries.get? key with
    | none =>
      (addValue? true [] path content).map fun inner => entries.set key (.table .dotted inner)
    | some (.table .dotted inner) =>
      (addValue? true inner path content).map fun inner => entries.set key (.table .dotted inner)
    | some (.table .passage inner) =>
      (addValue? false inner path content).map fun inner => entries.set key (.table .passage inner)
    | some (.tables (last :: others)) =>
      (addValue? false last path content).map fun last => entries.set key (.tables (last :: others))
    | some _ => none

/-- Changes the table at the end of a path of keys, making tables on the way. In an array of tables
the path goes through the last one. -/
def alongPath? (change : Entries → Option Entries) : List String → Entries → Option Entries
  | [], entries => change entries
  | key :: path, entries =>
    match entries.get? key with
    | none =>
      (alongPath? change path []).map fun inner => entries.set key (.table .passage inner)
    | some (.table origin inner) =>
      (alongPath? change path inner).map fun inner => entries.set key (.table origin inner)
    | some (.tables (last :: others)) =>
      (alongPath? change path last).map fun last => entries.set key (.tables (last :: others))
    | some _ => none

/-- Opens a table with a header; it must be new or have been made on the way to another one. -/
def openTable? (key : String) (entries : Entries) : Option Entries :=
  match entries.get? key with
  | none => some (entries.set key (.table .header []))
  | some (.table .passage inner) => some (entries.set key (.table .header inner))
  | some _ => none

def openElement? (key : String) (entries : Entries) : Option Entries :=
  match entries.get? key with
  | none => some (entries.set key (.tables [[]]))
  | some (.tables elements) => some (entries.set key (.tables ([] :: elements)))
  | some _ => none

mutual

def Node.toToml : Node → Toml
  | .value content => content
  | .table _ entries => .table (entriesToToml entries)
  | .tables elements => .array (elementsToToml elements).reverse

def entriesToToml : List (String × Node) → List (String × Toml)
  | [] => []
  | (key, node) :: rest => (key, node.toToml) :: entriesToToml rest

def elementsToToml : List (List (String × Node)) → List Toml
  | [] => []
  | entries :: rest => .table (entriesToToml entries) :: elementsToToml rest

end

end Toml

end PugScript
