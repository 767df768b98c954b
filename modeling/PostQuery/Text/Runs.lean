/-!
# Runs of code points

A character class is a list of runs, each an inclusive interval of code points.
-/

namespace PostQuery.Text

/-- The code points from the first component up to the second, both included. -/
abbrev Run := Nat × Nat

/-- Some run of the list contains the code point. -/
def inRuns (runs : List Run) (n : Nat) : Bool :=
  runs.any fun r => r.1 ≤ n && n ≤ r.2

end PostQuery.Text
