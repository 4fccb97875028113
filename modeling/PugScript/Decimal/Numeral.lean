import PugScript.Decimal.Binary
import PugScript.Text.Letter

/-!
# Reading numbers from text

A numeral is an optional sign, digits with at most one point and at least one digit, and an
optional exponent. A double may also be written as `inf`, `infinity` or `nan` in any case. Both are
read over the whole text, with nothing before or after.
-/

namespace PugScript.Decimal

open PugScript.Text

/-- The number `± digits * 10 ^ exponent`, as written. -/
structure Numeral where
  negative : Bool
  digits : Nat
  exponent : Int
  deriving DecidableEq, Repr

/-- The number that a run of digits stands for, after the digits already read. -/
def digitsValue (already : Nat) (digits : List Char) : Nat :=
  digits.foldl (fun value c => 10 * value + (c.toNat - '0'.toNat)) already

def isInt64 (number : Int) : Bool :=
  -9223372036854775808 ≤ number && number ≤ 9223372036854775807

/-- Splits an optional sign off; the flag says whether it is a minus. -/
def takeSign : List Char → Bool × List Char
  | '-' :: rest => (true, rest)
  | '+' :: rest => (false, rest)
  | rest => (false, rest)

/-- A whole number: an optional sign and at least one digit, nothing else. -/
def readInteger? (text : List Char) : Option Int :=
  let (negative, digits) := takeSign text
  if digits.isEmpty || !digits.all isDigit then none
  else
    let magnitude : Int := digitsValue 0 digits
    some (if negative then -magnitude else magnitude)

/-- The exponent part of a numeral; no text is exponent zero. -/
def readExponent? : List Char → Option Int
  | [] => some 0
  | c :: rest => if c == 'e' || c == 'E' then readInteger? rest else none

/-- A numeral over the whole text. -/
def readNumeral? (text : List Char) : Option Numeral :=
  let (negative, unsigned) := takeSign text
  let whole := unsigned.takeWhile isDigit
  let afterWhole := unsigned.dropWhile isDigit
  let (fraction, afterFraction) : List Char × List Char :=
    match afterWhole with
    | '.' :: rest => (rest.takeWhile isDigit, rest.dropWhile isDigit)
    | rest => ([], rest)
  if whole.isEmpty && fraction.isEmpty then none
  else
    (readExponent? afterFraction).map fun exponent =>
      { negative
        digits := digitsValue (digitsValue 0 whole) fraction
        exponent := exponent - fraction.length }

/-- The double nearest to a numeral; far out of range it is an infinity or a zero. -/
def Numeral.toFloat (numeral : Numeral) : Float :=
  if numeral.digits == 0 then nearestFloat numeral.negative 0 1
  else
    let magnitude := (numeral.digits.log2 : Int) * 30103 / 100000 + numeral.exponent
    if 400 < magnitude then nearestFloat numeral.negative (twoTo 1024) 1
    else if magnitude < -400 then nearestFloat numeral.negative 0 1
    else
      nearestFloat numeral.negative (numeral.digits * tenTo numeral.exponent.toNat)
        (tenTo (-numeral.exponent).toNat)

/-- The double that a word stands for: an infinity or not a number, in any case. -/
def readWord? (text : List Char) : Option Float :=
  let (negative, unsigned) := takeSign text
  let word := String.ofList (unsigned.map Char.toLower)
  let magnitude : Option Float :=
    if word == "inf" || word == "infinity" then some (1.0 / 0.0)
    else if word == "nan" then some (0.0 / 0.0)
    else none
  magnitude.map fun x => if negative then -x else x

def readFloat? (text : String) : Option Float :=
  match readNumeral? text.toList with
  | some numeral => some numeral.toFloat
  | none => readWord? text.toList

end PugScript.Decimal
