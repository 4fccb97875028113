/-!
# Numbers that do not fit their word

The lines and columns of a source are 32-bit words. A build with overflow checks ends where the
next word or the difference of two words is no word; a build without the checks goes on with what
the word keeps of it.
-/

namespace PugScript

/-- One number less another; none if it would be negative. -/
def difference? (number other : Nat) : Option Nat :=
  if other ≤ number then some (number - other) else none

/-- What a build does with a result that does not fit its word. -/
inductive Overflow where
  /-- The program ends. -/
  | ends
  /-- The result is reduced to the width of the word. -/
  | wraps
  deriving DecidableEq, Repr

namespace Overflow

def successor? (overflow : Overflow) (word : UInt32) : Option UInt32 :=
  match overflow with
  | ends => if word.toNat + 1 < UInt32.size then some (word + 1) else none
  | wraps => some (word + 1)

def difference? (overflow : Overflow) (word other : UInt32) : Option UInt32 :=
  match overflow with
  | ends => if other ≤ word then some (word - other) else none
  | wraps => some (word - other)

end Overflow

end PugScript
