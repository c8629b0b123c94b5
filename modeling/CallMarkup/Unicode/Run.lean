/-!
# Runs of code points

Tables of character properties list runs of code points.  A run has a step, so
that one entry covers an alphabet in which two cases alternate.
-/

namespace CallMarkup.Unicode

/-- The code points `first`, `first + step`, … up to `last`. -/
structure Run where
  first : Nat
  last : Nat
  step : Nat
  deriving DecidableEq

namespace Run

def contains (run : Run) (code : Nat) : Bool :=
  decide (run.first ≤ code ∧ code ≤ run.last) && (code - run.first) % run.step == 0

def codes (run : Run) : List Nat :=
  (List.range ((run.last - run.first) / run.step + 1)).map fun count =>
    run.first + count * run.step

end Run

def inRuns (runs : List Run) (code : Nat) : Bool :=
  runs.any (·.contains code)

end CallMarkup.Unicode
