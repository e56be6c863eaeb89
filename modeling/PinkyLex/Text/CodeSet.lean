namespace PinkyLex.Text

/-!
# Sets of code points

A set of code points is given by its boundaries: the code points, in ascending
order, at which membership changes, the first one entering the set.  A lookup
stops at the first boundary beyond the code point, so the answer for a small
code point reads only the head of a long table.
-/

namespace CodeSet

/-- Whether a code point lies in the set with the given ascending boundaries. -/
def contains : List Nat → Nat → Bool
  | [], _ =>
      false
  | boundary :: later, code =>
      if code < boundary then
        false
      else
        !contains later code

/-- Nothing below the first boundary is in the set. -/
theorem contains_eq_false_of_lt
    {boundary code : Nat}
    (later : List Nat)
    (below : code < boundary) :
    contains (boundary :: later) code = false := by
  simp [contains, below]

/-- From its first boundary on, a set is the complement of what the later boundaries describe. -/
theorem contains_cons_of_le
    {boundary code : Nat}
    (later : List Nat)
    (reached : boundary ≤ code) :
    contains (boundary :: later) code = !contains later code := by
  simp [contains, Nat.not_lt.mpr reached]

/-- A code point is in the first range of a set, or it is beyond it and in one of the later ranges. -/
theorem contains_cons_cons_iff
    {low high code : Nat}
    {later : List Nat} :
    contains (low :: high :: later) code = true ↔
      low ≤ code ∧ (code < high ∨ contains later code = true) := by
  by_cases below : code < low
  · simp [contains, below, Nat.not_le.mpr below]
  · by_cases inside : code < high
    · simp [contains, below, inside, Nat.le_of_not_lt below]
    · simp [contains, below, inside, Nat.le_of_not_lt below]

end CodeSet

end PinkyLex.Text
