import PugScript.Decimal.Numeral
import PugScript.Json

/-!
# Numbers in JSON

`Json.readNumeral?` reads how a number is written, and `Json.Numeral.toJson?` says what it stands
for. A whole number that fits into 64 bits stays one; any other number becomes a double.
-/

namespace PugScript.Json

open PugScript.Decimal
open PugScript.Text

/-! ## How numbers are written -/

/-- The digits at the front, at least one. -/
def readDigits? (characters : List Char) : Option (List Char × List Char) :=
  let digits := characters.takeWhile isDigit
  if digits.isEmpty then none else some (digits, characters.dropWhile isDigit)

/-- The whole part of a number: a zero alone, or digits that do not start with one. -/
def readWhole? : List Char → Option (List Char × List Char)
  | '0' :: rest => if rest.head?.any isDigit then none else some (['0'], rest)
  | characters => readDigits? characters

structure Numeral where
  isNegative : Bool
  whole : List Char
  fraction : List Char
  exponent? : Option Int

def Numeral.isPlain (numeral : Numeral) : Bool :=
  numeral.fraction.isEmpty && numeral.exponent?.isNone

/-- The fraction of a number, if it has one. -/
def readFraction? : List Char → Option (List Char × List Char)
  | '.' :: rest => readDigits? rest
  | rest => some ([], rest)

def readExponent? : List Char → Option (Option Int × List Char)
  | [] => some (none, [])
  | c :: rest =>
    if c == 'e' || c == 'E' then do
      let (isNegative, rest) := takeSign rest
      let (digits, rest) ← readDigits? rest
      let magnitude : Int := digitsValue 0 digits
      return (some (if isNegative then -magnitude else magnitude), rest)
    else some (none, c :: rest)

def readNumeral? (characters : List Char) : Option (Numeral × List Char) := do
  let (isNegative, start) : Bool × List Char :=
    match characters with
    | '-' :: rest => (true, rest)
    | rest => (false, rest)
  let (whole, rest) ← readWhole? start
  let (fraction, rest) ← readFraction? rest
  let (exponent?, rest) ← readExponent? rest
  return ({ isNegative, whole, fraction, exponent? }, rest)

/-! ## What numbers stand for -/

/-- The digits of a number as far as they fit into 64 bits. -/
structure Significand where
  value : Nat
  /-- How many digits were taken. -/
  taken : Nat
  /-- How many digits did not fit. -/
  dropped : Nat

/-- Takes digits until the first that does not fit, and counts the others. -/
def takeDigits (significand : Significand) : List Char → Significand
  | [] => significand
  | c :: rest =>
    let next := 10 * significand.value + (c.toNat - '0'.toNat)
    if significand.dropped = 0 ∧ next < twoTo 64 then
      takeDigits ⟨next, significand.taken + 1, 0⟩ rest
    else
      takeDigits { significand with dropped := significand.dropped + 1 } rest

/-- A double times a power of ten, by one multiplication or division where one is enough; none if
it grows out of range. -/
def scaleByTen? : Nat → Float → Int → Option Float
  | 0, _, _ => some 0.0
  | fuel + 1, number, exponent =>
    if exponent.natAbs ≤ 308 then
      let power := nearestFloat false (tenTo exponent.natAbs) 1
      if 0 ≤ exponent then
        let scaled := number * power
        if scaled.isInf then none else some scaled
      else some (number / power)
    else if number == 0.0 then some number
    else if 0 ≤ exponent then none
    else scaleByTen? fuel (number / nearestFloat false (tenTo 308) 1) (exponent + 308)

/-- The number that a numeral stands for: whole if it is written so and fits into 64 bits, else a
double, unless that grows out of range. -/
def Numeral.toJson? (numeral : Numeral) : Option Json :=
  let wholePart := takeDigits ⟨0, 0, 0⟩ numeral.whole
  let fits := numeral.isPlain && wholePart.dropped == 0
  if fits && !numeral.isNegative then some (.integer wholePart.value)
  else if fits && 0 < wholePart.value && wholePart.value ≤ twoTo 63 then
    some (.integer (-wholePart.value))
  else
    let all := takeDigits ⟨wholePart.value, 0, 0⟩ numeral.fraction
    let exponent := numeral.exponent?.getD 0 + wholePart.dropped - all.taken
    (scaleByTen? 8 (Float.ofNat all.value) exponent).map fun magnitude =>
      .double (if numeral.isNegative then -magnitude else magnitude)

def readNumber? (characters : List Char) : Option (Json × List Char) := do
  let (numeral, rest) ← readNumeral? characters
  return (← numeral.toJson?, rest)

end PugScript.Json
