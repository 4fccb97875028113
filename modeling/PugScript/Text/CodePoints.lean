/-!
# Sets of code points

A set is written as an ascending list of bounds: the code points from the first bound up to the
second are inside, those from the second up to the third are outside, and so on.
-/

namespace PugScript.Text

/-- Walks along ascending bounds, changing sides at each bound that the code point has reached. -/
def insideFrom (codePoint : Nat) : Bool → List Nat → Bool
  | inside, [] => inside
  | inside, bound :: bounds =>
    if codePoint < bound then inside else insideFrom codePoint (!inside) bounds

/-- The code point lies in the set that the ascending bounds describe. -/
def insideBounds (bounds : List Nat) (codePoint : Nat) : Bool :=
  insideFrom codePoint false bounds

end PugScript.Text
