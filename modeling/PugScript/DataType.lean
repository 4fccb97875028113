/-!
# The types of values
-/

namespace PugScript

/-- The type of a value. `none` is the type of a statement that produces nothing. -/
inductive DataType where
  | int
  | double
  | bool
  | string
  | none
  deriving DecidableEq, Repr

namespace DataType

/-- The word that declares a variable of the type. -/
def name : DataType → String
  | int => "int"
  | double => "double"
  | bool => "bool"
  | string => "string"
  | none => "none"

def title : DataType → String
  | int => "Int"
  | double => "Double"
  | bool => "Bool"
  | string => "String"
  | none => "None"

/-- The types that a variable can be declared with. -/
def declarable : List DataType :=
  [int, double, bool, string]

def ofName? (text : String) : Option DataType :=
  declarable.find? fun dataType => dataType.name == text

def isNumber : DataType → Bool
  | int | double => true
  | _ => false

end DataType

end PugScript
