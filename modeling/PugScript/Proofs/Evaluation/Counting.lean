import PugScript.Evaluation

/-!
# Counting the turns of a loop

The turns of a loop are counted in a word, which wraps. A limit that some word exceeds is compared
with the count before it can wrap, so that the comparison is one of natural numbers. No word exceeds
the largest one: as a limit it bounds no loop, and neither does zero.
-/

namespace PugScript

/-- A limit that a count of turns can exceed. -/
def BoundsLoops (limit : UInt64) : Prop :=
  0 < limit ∧ limit.toNat + 1 < UInt64.size

instance (limit : UInt64) : Decidable (BoundsLoops limit) :=
  inferInstanceAs (Decidable (_ ∧ _))

/-- The limit that no word exceeds. -/
def largestLimit : UInt64 :=
  .ofNat (UInt64.size - 1)

/-- Two limits bound no loop: zero, which stands for no limit, and the largest one, which no count
of turns exceeds. -/
theorem not_boundsLoops_iff (limit : UInt64) :
    ¬ BoundsLoops limit ↔ limit = 0 ∨ limit = largestLimit := by
  have bound := limit.toNat_lt
  simp only [BoundsLoops, largestLimit, UInt64.size, UInt64.lt_iff_toNat_lt, ← UInt64.toNat_inj,
    UInt64.toNat_ofNat', UInt64.toNat_zero]
  omega

theorem boundsLoops_iff {limit : UInt64} (positive : 0 < limit) :
    BoundsLoops limit ↔ limit ≠ largestLimit := by
  have notZero : limit ≠ 0 := UInt64.pos_iff_ne_zero.mp positive
  constructor
  · intro bounds isLargest
    exact (not_boundsLoops_iff limit).mpr (.inr isLargest) bounds
  · intro isOther
    refine Decidable.not_not.mp fun boundless => ?_
    exact ((not_boundsLoops_iff limit).mp boundless).elim notZero isOther

theorem eq_largestLimit_of_le {limit : UInt64} (larger : largestLimit ≤ limit) :
    limit = largestLimit := by
  have bound := limit.toNat_lt
  rw [UInt64.le_iff_toNat_le, largestLimit] at larger
  simp only [largestLimit, UInt64.size, ← UInt64.toNat_inj, UInt64.toNat_ofNat'] at larger ⊢
  omega

/-- A limit that bounds no loop is never exceeded. -/
theorem not_exceeds {limit : UInt64} (boundless : ¬ BoundsLoops limit) (count : UInt64) :
    ¬ (0 < limit ∧ limit < count) := by
  have bound := count.toNat_lt
  rintro ⟨positive, exceeded⟩
  rw [UInt64.lt_iff_toNat_lt] at exceeded
  exact boundless ⟨positive, by rw [UInt64.size]; omega⟩

/-- While a limit has not been passed, one more turn exceeds it exactly if it bounds loops and has
been reached. -/
theorem exceeds_iff {limit : UInt64} {turns : Nat}
    (within : BoundsLoops limit → turns ≤ limit.toNat) :
    0 < limit ∧ limit < .ofNat turns + 1 ↔ BoundsLoops limit ∧ limit.toNat ≤ turns := by
  have bound := limit.toNat_lt
  simp only [BoundsLoops, UInt64.size, UInt64.lt_iff_toNat_lt, UInt64.toNat_add,
    UInt64.toNat_ofNat', UInt64.toNat_zero, UInt64.toNat_one] at within ⊢
  omega

/-- While a limit that bounds loops is not exceeded, one more turn does not pass it. -/
theorem succ_le_of_not_exceeds {limit : UInt64} {turns : Nat} (bounds : BoundsLoops limit)
    (within : turns ≤ limit.toNat) (room : ¬ (0 < limit ∧ limit < .ofNat turns + 1)) :
    turns + 1 ≤ limit.toNat :=
  Nat.lt_of_not_le fun full => room ((exceeds_iff fun _ => within).mpr ⟨bounds, full⟩)

end PugScript
