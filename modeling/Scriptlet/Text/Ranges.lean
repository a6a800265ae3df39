/-
# Sets of characters given by ranges

A property of characters is tabulated by its maximal runs of code points, written as pairs of a
first and a last code point. Membership is a search through the runs, so a table is read off as
the disjunction of its intervals.
-/

namespace Scriptlet.Text

/-- A set of characters, as the list of its runs of code points; both ends of a run belong to it. -/
abbrev Ranges := List (Nat × Nat)

namespace Ranges

/-- Whether a character lies in one of the runs. -/
def contains (runs : Ranges) (c : Char) : Bool :=
  runs.any fun run => run.1 ≤ c.toNat && c.toNat ≤ run.2

theorem contains_iff (runs : Ranges) (c : Char) :
    runs.contains c = true ↔ ∃ run ∈ runs, run.1 ≤ c.toNat ∧ c.toNat ≤ run.2 := by
  simp [contains]

end Ranges

end Scriptlet.Text
