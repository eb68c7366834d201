/-!
# Sets of code points

A class of characters is kept as a table of code point intervals, or as a table
of progressions where every other character belongs (capital letters and small
letters of many scripts alternate). The two membership tests are here; each
class has a module of its own.
-/

namespace RelationalSearch.Text

/-- Membership in a table of closed intervals. -/
def inIntervals (table : List (Nat × Nat)) (n : Nat) : Bool :=
  table.any fun r => r.1 ≤ n && n ≤ r.2

/-- Membership in a table of progressions: first member, last member, step. -/
def inProgressions (table : List (Nat × Nat × Nat)) (n : Nat) : Bool :=
  table.any fun r => r.1 ≤ n && n ≤ r.2.1 && (n - r.1) % r.2.2 == 0

theorem inIntervals_iff {table : List (Nat × Nat)} {n : Nat} :
    inIntervals table n = true ↔ ∃ r ∈ table, r.1 ≤ n ∧ n ≤ r.2 := by
  simp [inIntervals]

end RelationalSearch.Text
