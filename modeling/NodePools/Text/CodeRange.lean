/-!
# Sets of code points, written as ranges

A property of characters that a standard gives by table is held as a list of
closed ranges of code points.  The tables of this library follow version 14 of
the Unicode character database.
-/

namespace NodePools.Text

/-- A character lies in a table when one of its closed ranges holds the code
point. -/
def inRanges (table : List (Nat × Nat)) (c : Char) : Bool :=
  table.any fun r => r.1 ≤ c.toNat && c.toNat ≤ r.2

theorem inRanges_eq_true_iff {table : List (Nat × Nat)} {c : Char} :
    inRanges table c = true ↔ ∃ r ∈ table, r.1 ≤ c.toNat ∧ c.toNat ≤ r.2 := by
  simp [inRanges]

end NodePools.Text
