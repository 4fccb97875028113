import PugScript.Decimal.Numeral
import PugScript.Toml

/-!
# Numbers, truth values and dates in TOML

These values are written as one run of letters, digits and a few signs. `Toml.scalar?` says what
such a run stands for.
-/

namespace PugScript.Toml

open PugScript.Decimal
open PugScript.Text

def isScalarChar (c : Char) : Bool :=
  isAsciiLetter c || isDigit c || c == '_' || c == '+' || c == '-' || c == '.' || c == ':'

/-! ## Numbers -/

/-- Digits of one sort in which an underscore may stand between two digits; gives the digits. -/
def groupedDigits? (isSort : Char → Bool) : List Char → Option (List Char)
  | [] => none
  | [c] => if isSort c then some [c] else none
  | c :: '_' :: rest =>
    if isSort c then (groupedDigits? isSort rest).map (c :: ·) else none
  | c :: rest => if isSort c then (groupedDigits? isSort rest).map (c :: ·) else none

def digitValue (c : Char) : Nat :=
  if isDigit c then c.toNat - '0'.toNat else c.toLower.toNat - 'a'.toNat + 10

def integerInRange? (number : Int) : Option Toml :=
  if isInt64 number then some (.integer number) else none

def basedInteger? (base : Nat) (isSort : Char → Bool) (characters : List Char) : Option Toml :=
  match groupedDigits? isSort characters with
  | none => none
  | some digits =>
    integerInRange? (digits.foldl (fun value c => base * value + digitValue c) 0 : Nat)

/-- Decimal digits that start with a zero only if there is no other. -/
def wholeDigits? (characters : List Char) : Option (List Char) :=
  match groupedDigits? isDigit characters with
  | some ('0' :: _ :: _) => none
  | digits => digits

/-- The exponent of a number is well formed; none is. -/
def isExponent : List Char → Bool
  | [] => true
  | c :: rest =>
    (c == 'e' || c == 'E') && (groupedDigits? isDigit (takeSign rest).2).isSome

/-- What follows the whole part of a number with a fraction or an exponent is well formed. -/
def isFractionOrExponent : List Char → Bool
  | '.' :: rest =>
    (groupedDigits? isDigit (rest.takeWhile fun c => isDigit c || c == '_')).isSome &&
      isExponent (rest.dropWhile fun c => isDigit c || c == '_')
  | rest => isExponent rest

/-- A decimal number: whole, or with a fraction or exponent and then not above the range of
doubles; below it there is no bound. -/
def decimalNumber? (characters : List Char) : Option Toml :=
  let (negative, unsigned) := takeSign characters
  let whole := unsigned.takeWhile fun c => isDigit c || c == '_'
  let rest := unsigned.dropWhile fun c => isDigit c || c == '_'
  match wholeDigits? whole with
  | none => none
  | some digits =>
    if rest.isEmpty then
      let magnitude : Int := digitsValue 0 digits
      integerInRange? (if negative then -magnitude else magnitude)
    else if isFractionOrExponent rest then
      match readNumeral? (unsigned.filter (· ≠ '_')) with
      | some numeral => if negative || numeral.toFloat.isFinite then some .float else none
      | none => none
    else none

/-! ## Dates and times -/

def takeNumber? (count : Nat) (characters : List Char) : Option (Nat × List Char) :=
  let digits := characters.take count
  if digits.length = count ∧ digits.all isDigit then
    some (digitsValue 0 digits, characters.drop count)
  else none

def afterChar? (expected : Char) : List Char → Option (List Char)
  | c :: rest => if c = expected then some rest else none
  | [] => none

def daysIn (year month : Nat) : Nat :=
  if month = 2 then
    if (year % 4 = 0 ∧ year % 100 ≠ 0) ∨ year % 400 = 0 then 29 else 28
  else if month = 4 ∨ month = 6 ∨ month = 9 ∨ month = 11 then 30
  else 31

def afterDate? (characters : List Char) : Option (List Char) := do
  let (year, rest) ← takeNumber? 4 characters
  let rest ← afterChar? '-' rest
  let (month, rest) ← takeNumber? 2 rest
  let rest ← afterChar? '-' rest
  let (day, rest) ← takeNumber? 2 rest
  if 1 ≤ month ∧ month ≤ 12 ∧ 1 ≤ day ∧ day ≤ daysIn year month then some rest else none

def afterTime? (characters : List Char) : Option (List Char) := do
  let (hour, rest) ← takeNumber? 2 characters
  let rest ← afterChar? ':' rest
  let (minute, rest) ← takeNumber? 2 rest
  let rest ← afterChar? ':' rest
  let (second, rest) ← takeNumber? 2 rest
  if 23 < hour ∨ 59 < minute ∨ 60 < second then none
  else
    match rest with
    | '.' :: fraction =>
      if fraction.head?.any isDigit then some (fraction.dropWhile isDigit) else none
    | rest => some rest

def isOffset : List Char → Bool
  | [] => true
  | [c] => c == 'Z' || c == 'z'
  | sign :: rest =>
    let parts := do
      let (hour, rest) ← takeNumber? 2 rest
      let rest ← afterChar? ':' rest
      let (minute, rest) ← takeNumber? 2 rest
      if hour ≤ 23 ∧ minute ≤ 59 then some rest else none
    (sign == '+' || sign == '-') && parts == some []

def isDatetime (characters : List Char) : Bool :=
  match afterDate? characters with
  | some [] => true
  | some (separator :: rest) =>
    (separator == 'T' || separator == 't' || separator == ' ') &&
      (afterTime? rest).any isOffset
  | none => afterTime? characters == some []

/-! ## All of them -/

def scalar? (characters : List Char) : Option Toml :=
  match characters with
  | ['t', 'r', 'u', 'e'] => some (.boolean true)
  | ['f', 'a', 'l', 's', 'e'] => some (.boolean false)
  | '0' :: 'x' :: rest =>
    basedInteger? 16 (fun c => isDigit c || ('a' ≤ c.toLower && c.toLower ≤ 'f')) rest
  | '0' :: 'o' :: rest => basedInteger? 8 (fun c => '0' ≤ c && c ≤ '7') rest
  | '0' :: 'b' :: rest => basedInteger? 2 (fun c => c == '0' || c == '1') rest
  | characters =>
    let unsigned := (takeSign characters).2
    if unsigned = ['i', 'n', 'f'] ∨ unsigned = ['n', 'a', 'n'] then some .float
    else if isDatetime characters then some .datetime
    else decimalNumber? characters

/-- The run of characters at the front and what follows it. A date may be followed by a blank and a
time. -/
def takeScalar (characters : List Char) : List Char × List Char :=
  let run := characters.takeWhile isScalarChar
  let rest := characters.dropWhile isScalarChar
  match rest with
  | ' ' :: after =>
    if afterDate? run == some [] && (takeNumber? 2 after).isSome then
      (run ++ ' ' :: after.takeWhile isScalarChar, after.dropWhile isScalarChar)
    else (run, rest)
  | rest => (run, rest)

end PugScript.Toml
