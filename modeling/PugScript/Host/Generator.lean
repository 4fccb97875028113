/-!
# Random numbers

A generator is given by how it draws from a state of its own. The linear one steps through the
numbers below `2 ^ 31`.
-/

namespace PugScript

/-- A generator of random numbers whose state has type `γ`. -/
structure Generator (γ : Type) where
  /-- A number from zero on and below one. -/
  unit : γ → Float × γ
  /-- A number from the first bound on and below the second, which is greater. -/
  range : Int64 → Int64 → γ → Int64 × γ

namespace Generator

/-- A number from the first bound on and below the second. If there is none, it is the first bound,
and nothing is drawn. -/
def rangeOrFirst {γ : Type} (generator : Generator γ) (lower upper : Int64) (state : γ) :
    Int64 × γ :=
  if upper ≤ lower then (lower, state) else generator.range lower upper state

def nextLinear (state : Nat) : Nat :=
  (state * 1103515245 + 12345) % 2147483648

/-- The state is also the number that was drawn last. -/
def linear : Generator Nat where
  unit := fun state =>
    let drawn := nextLinear state
    (Float.ofNat (drawn % 1024) / 1024.0, drawn)
  range := fun lower upper state =>
    let drawn := nextLinear state
    (Int64.ofInt (lower.toInt + (drawn : Int) % (upper.toInt - lower.toInt)), drawn)

end Generator

end PugScript
