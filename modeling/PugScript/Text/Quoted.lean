import PugScript.Text.Plain

/-!
# Texts in quotes for messages

Quotes, backslashes and characters that would not show as themselves are escaped, everything else
stands for itself.
-/

namespace PugScript.Text

/-- A hexadecimal number in lower case without leading zeros. -/
def hexText (number : Nat) : String :=
  String.ofList (Nat.toDigits 16 number)

def quotedChar (c : Char) : String :=
  if c = '"' then "\\\""
  else if c = '\\' then "\\\\"
  else if c = '\n' then "\\n"
  else if c = '\r' then "\\r"
  else if c = '\t' then "\\t"
  else if c.toNat = 0 then "\\0"
  else if isPlain c then String.singleton c
  else "\\u\x7b" ++ hexText c.toNat ++ "\x7d"

def quoted (text : String) : String :=
  text.toList.foldl (fun result c => result ++ quotedChar c) "\"" ++ "\""

def quotedOption : Option String → String
  | some text => "Some(" ++ quoted text ++ ")"
  | none => "None"

end PugScript.Text
