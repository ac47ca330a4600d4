/-!
# Sets of code points

A property of characters holds on stretches of code points.  Such a set is written as the
increasing list of its boundaries: the first code point of a stretch, the first one after it,
the first of the next stretch, and so on.  A code point is in the set when an odd number of
boundaries are at most it.
-/

namespace DiffContents

namespace CodePoints

/-- Whether a code point lies in the set with the given boundaries. -/
def contains : List Nat → Nat → Bool
  | [], _ => false
  | b :: bs, n => if n < b then false else !contains bs n

@[simp] theorem contains_nil (n : Nat) : contains [] n = false := rfl

theorem contains_cons_of_lt {b n : Nat} (bs : List Nat) (h : n < b) :
    contains (b :: bs) n = false := by
  simp [contains, h]

theorem contains_cons_of_le {b n : Nat} (bs : List Nat) (h : b ≤ n) :
    contains (b :: bs) n = !contains bs n := by
  simp [contains, Nat.not_lt.mpr h]

/-- A single stretch holds the code points from its first boundary up to its second. -/
theorem contains_pair (a b n : Nat) :
    contains [a, b] n = (decide (a ≤ n) && decide (n < b)) := by
  by_cases h1 : n < a
  · have h2 : ¬ a ≤ n := by omega
    simp [contains, h1, h2]
  · have h2 : a ≤ n := by omega
    by_cases h3 : n < b <;> simp [contains, h1, h2, h3]

end CodePoints

end DiffContents
