import PugScript.Decimal.Shortest

/-!
# How a double is written

A layout collects the decisions of one number format; `Layout.render` applies them to the shortest
decimal of a double. `fixedPlaces` writes a double with a fixed number of places instead.
-/

namespace PugScript.Decimal

structure Layout where
  /-- The exponents of the leading digit that are written without an exponent. -/
  positional : Int → Bool
  /-- What follows the digits of a whole number written without an exponent. -/
  wholeMark : String
  /-- The rule for two equally near decimals. -/
  tie : Tie
  notANumber : String
  positiveInfinity : String
  negativeInfinity : String

def zeros (count : Nat) : String :=
  "".pushn '0' count

/-- The digits without an exponent: a point after, inside or in front of them. -/
def Layout.renderPositional (layout : Layout) (digits : String) (exponent : Int) : String :=
  let point := (digits.length : Int) + exponent
  if 0 ≤ exponent then
    digits ++ zeros exponent.toNat ++ layout.wholeMark
  else if 0 < point then
    (digits.take point.toNat).toString ++ "." ++ (digits.drop point.toNat).toString
  else
    "0." ++ zeros (-point).toNat ++ digits

/-- The leading digit, the others after a point, and a signed exponent. -/
def renderScientific (digits : String) (leading : Int) : String :=
  let fraction := (digits.drop 1).toString
  let sign := if leading < 0 then "-" else "+"
  (digits.take 1).toString ++ (if fraction.isEmpty then "" else "." ++ fraction) ++
    "e" ++ sign ++ toString leading.natAbs

def Layout.renderMagnitude (layout : Layout) (x : Binary) : String :=
  if x.significand == 0 then
    layout.renderPositional "0" 0
  else
    let decimal := x.shortest layout.tie
    let digits := toString decimal.digits
    let leading := (digits.length : Int) + decimal.exponent - 1
    if layout.positional leading then layout.renderPositional digits decimal.exponent
    else renderScientific digits leading

def Layout.render (layout : Layout) (x : Float) : String :=
  if x.isNaN then layout.notANumber
  else if x.isInf then
    if isNegative x then layout.negativeInfinity else layout.positiveInfinity
  else
    (if isNegative x then "-" else "") ++ layout.renderMagnitude (Binary.ofFloat x)

/-- A non-negative finite double with the given number of places, a half going to the even digit. -/
def fixedPlaces (places : Nat) (x : Float) : String :=
  let binary := Binary.ofFloat x
  let scaled := roundQuotient (binary.numerator * tenTo places) binary.denominator
  let whole := toString (scaled / tenTo places)
  let fraction := toString (scaled % tenTo places)
  whole ++ "." ++ zeros (places - fraction.length) ++ fraction

end PugScript.Decimal
