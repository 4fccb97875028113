/-!
# Blank characters and trimming

A character is blank when it has the White_Space property. Trimming removes every blank character
at one end or at both ends of a text and touches nothing between them.
-/

namespace PugScript.Text

def isBlank (c : Char) : Bool :=
  let codePoint := c.toNat
  if codePoint < 0x80 then
    codePoint == 0x20 || (0x09 ≤ codePoint && codePoint ≤ 0x0D)
  else
    codePoint == 0x85 || codePoint == 0xA0 || codePoint == 0x1680 ||
      (0x2000 ≤ codePoint && codePoint ≤ 0x200A) || codePoint == 0x2028 ||
      codePoint == 0x2029 || codePoint == 0x202F || codePoint == 0x205F || codePoint == 0x3000

def trimStart (text : String) : String :=
  String.ofList (text.toList.dropWhile isBlank)

def trimEnd (text : String) : String :=
  String.ofList (text.toList.reverse.dropWhile isBlank).reverse

def trim (text : String) : String :=
  String.ofList ((text.toList.dropWhile isBlank).reverse.dropWhile isBlank).reverse

def isAllBlank (text : String) : Bool :=
  text.toList.all isBlank

end PugScript.Text
