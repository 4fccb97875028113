/-!
# Replacing and repeating texts
-/

namespace PugScript.Text

/-- Copies characters to `result`, putting `replacement` for each occurrence of `search`. The
counter is the number of characters still to drop because an occurrence covers them. -/
def replaceFrom (search : List Char) (replacement : String) :
    String → Nat → List Char → String
  | result, _, [] => result
  | result, covered + 1, _ :: rest => replaceFrom search replacement result covered rest
  | result, 0, c :: rest =>
    if search.isPrefixOf (c :: rest) then
      replaceFrom search replacement (result ++ replacement) (search.length - 1) rest
    else
      replaceFrom search replacement (result.push c) 0 rest

def replaceAll (text search replacement : String) : String :=
  replaceFrom search.toList replacement "" 0 text.toList

def repeatText (text : String) (count : Nat) : String :=
  if text.isEmpty then "" else Nat.repeat (fun result => result ++ text) count ""

/-- The characters of a text from a place on, up to a number of them. -/
def slice (text : String) (start count : Nat) : String :=
  String.ofList ((text.toList.drop start).take count)

end PugScript.Text
