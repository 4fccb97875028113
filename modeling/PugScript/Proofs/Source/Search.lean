import Mathlib.Data.List.Basic
import PugScript.Source.Search

/-!
# What a lookup in an ascending table finds

Halving keeps the last entry that is not greater than the number inside the part that is left. A
lookup of a number that the table does not start behind therefore ends at that entry: it is the
number, or the number is missing right behind it.
-/

namespace PugScript.TablePlace

variable {table : Array Nat} {number index size : Nat}

/-- The entries of the table ascend. -/
def Ascending (table : Array Nat) : Prop :=
  table.toList.Pairwise (· < ·)

/-- The part of a table from an index on, of the given size, does not start behind the number,
except at the front of the table, and the number is less than every entry behind it. -/
structure Brackets (table : Array Nat) (number index size : Nat) : Prop where
  nonempty : 0 < size
  inside : index + size ≤ table.size
  reached : index ≠ 0 → table.getD index 0 ≤ number
  beyond : ∀ later, index + size ≤ later → later < table.size → number < table.getD later 0

theorem Ascending.getD_lt_getD (ascending : Ascending table) {first second : Nat}
    (before : first < second) (inside : second < table.size) :
    table.getD first 0 < table.getD second 0 := by
  have apart := List.pairwise_iff_getElem.mp ascending first second (by simp; omega) (by simpa)
    before
  have firstInside : first < table.size := by omega
  simpa [Array.getD, firstInside, inside] using apart

theorem Brackets.right (brackets : Brackets table number index size) (long : 1 < size)
    (low : table.getD (index + size / 2) 0 ≤ number) :
    Brackets table number (index + size / 2) (size - size / 2) := by
  obtain ⟨_, inside, _, beyond⟩ := brackets
  refine ⟨by omega, by omega, fun _ => low, fun later behind => ?_⟩
  exact beyond later (by omega)

theorem Brackets.left (ascending : Ascending table)
    (brackets : Brackets table number index size) (long : 1 < size)
    (high : number < table.getD (index + size / 2) 0) :
    Brackets table number index (size - size / 2) := by
  obtain ⟨_, inside, reached, _⟩ := brackets
  refine ⟨by omega, by omega, reached, fun later behind laterInside => ?_⟩
  -- The larger half is kept, so that every entry behind it is at or behind the middle one.
  rcases Nat.eq_or_lt_of_le (show index + size / 2 ≤ later by omega) with rfl | past
  · exact high
  · have ascends := ascending.getD_lt_getD past laterInside
    omega

/-- Halving keeps the number between the first entry of the part and the entry behind it. -/
theorem narrow_brackets (ascending : Ascending table)
    (brackets : Brackets table number index size) :
    Brackets table number (narrow table number index size) 1 := by
  fun_induction narrow table number index size with
  | case1 index size long low inductionHypothesis =>
      exact inductionHypothesis (brackets.right long low)
  | case2 index size long high inductionHypothesis =>
      exact inductionHypothesis (brackets.left ascending long (Nat.lt_of_not_le high))
  | case3 index size short =>
      have one : size = 1 := by
        have nonempty := brackets.nonempty
        omega
      rwa [one] at brackets

/-- A lookup ends at the last entry that is not greater than the number. -/
theorem find_cases (ascending : Ascending table) {first : Nat} (start : table[0]? = some first)
    (low : first ≤ number) :
    ∃ index entry,
      table[index]? = some entry ∧
      entry ≤ number ∧
      (∀ later next, index < later → table[later]? = some next → number < next) ∧
      (find table number = found index ∨ find table number = missing (index + 1)) := by
  have nonempty : 0 < table.size := (Array.getElem?_eq_some_iff.mp start).1
  have whole : Brackets table number 0 table.size := by
    refine ⟨nonempty, by omega, fun absurdity => absurd rfl absurdity, ?_⟩
    intro later behind inside
    omega
  obtain ⟨_, inside, reached, beyond⟩ := narrow_brackets ascending whole
  generalize last : narrow table number 0 table.size = index at inside reached beyond
  have isEntry : table[index]? = some (table.getD index 0) := by
    have indexInside : index < table.size := by omega
    simp [Array.getD, indexInside]
  have notGreater : table.getD index 0 ≤ number := by
    by_cases atFront : index = 0
    · subst atFront
      rw [isEntry] at start
      cases start
      exact low
    · exact reached atFront
  refine ⟨index, table.getD index 0, isEntry, notGreater, ?_, ?_⟩
  · intro later next behind isNext
    obtain ⟨laterInside, rfl⟩ := Array.getElem?_eq_some_iff.mp isNext
    simpa [Array.getD, laterInside] using beyond later behind laterInside
  · simp only [find, last, isEntry]
    by_cases same : table.getD index 0 = number
    · exact .inl (if_pos same)
    · right
      rw [if_neg same, if_pos (Nat.lt_of_le_of_ne notGreater same)]

end PugScript.TablePlace
