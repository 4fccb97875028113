import PugScript.Json.Reader
import PugScript.Value
import PugScript.Variables

/-!
# Values and tokens as JSON

A value is an object with the name of its type and, unless it is nothing, the value itself. Reading
takes the two fields in either order and passes over any others; an array of the two parts is read
as well. In an object the name of the type may also be the only key of an object, with null.
-/

namespace PugScript

namespace Value

def content? : Value → Option Json
  | int number => some (.integer number.toInt)
  | double number => some (.double number)
  | bool truth => some (.bool truth)
  | string content => some (.string content)
  | none => Option.none

def toTagged (value : Value) : Json :=
  let tag : String × Json := ("data_type", .string value.dataType.title)
  match value.content? with
  | some content => .object [tag, ("value", content)]
  | Option.none => .object [tag]

/-- The value of the type with the given name that a content stands for. -/
def ofContent? (title : String) (content : Json) : Option Value :=
  match title, content with
  | "Int", .integer number =>
    if Decimal.isInt64 number then some (int (Int64.ofInt number)) else Option.none
  | "Double", .integer number => some (double (Decimal.nearestFloat (number < 0) number.natAbs 1))
  | "Double", .double number => some (double number)
  | "Bool", .bool truth => some (bool truth)
  | "String", .string content => some (string content)
  | "None", .null => some none
  | _, _ => Option.none

/-- The fields with the given name. -/
def fieldsNamed (name : String) (fields : List (String × Json)) : List Json :=
  (fields.filter fun field => field.1 == name).map Prod.snd

/-- The name of a type as a field holds it: a text, or an object with the name as key of null. -/
def titleOf? : Json → Option String
  | .string title => some title
  | .object [(title, .null)] => some title
  | _ => Option.none

/-- The value that a document stands for. -/
def ofTagged? : Json → Option Value
  | .object fields =>
    match fieldsNamed "data_type" fields, fieldsNamed "value" fields with
    | [tag], [content] => (titleOf? tag).bind fun title => ofContent? title content
    | [tag], [] => if titleOf? tag = some "None" then some none else Option.none
    | _, _ => Option.none
  | .array [.string title, content] => ofContent? title content
  | _ => Option.none

/-- The value that a text holds as JSON. -/
def ofJsonText? (text : String) : Option Value :=
  (Json.read? (fun name => name == "data_type" || name == "value") text).bind ofTagged?

end Value

def Token.toJson (token : Token) : Json :=
  .object [("kind", .string token.kind.name), ("text", .string token.text),
    ("offset", .integer token.offset)]

def VariableTable.toJson (table : VariableTable) : Json :=
  .array <| table.entries.map fun (name, value) =>
    .object [("name", .string name), ("data_type", .string value.dataType.title),
      ("value", .string value.text)]

end PugScript
