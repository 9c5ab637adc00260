import TierSweep.Enumeration
import TierSweep.Run

/-!
# Plans

A plan lists what a sweep would do: every combination that the standard constraints accept, with the
run derived from it or the fault that keeps it from running.
-/

namespace TierSweep

/-- One entry of a plan. -/
structure PlanEntry where
  index : Nat
  params : Combination
  run : Except SetupFault Run

namespace Plan

/-- The entries of some combinations, counted from `index`. -/
def ofCombinations (x : Experiment) (executable : Path) : Nat → List Combination → List PlanEntry
  | _, [] => []
  | index, c :: rest =>
    ⟨index, c, Run.ofCombination c x executable⟩ :: ofCombinations x executable (index + 1) rest

/-- The whole plan of a specification. -/
def ofSpec (s : Spec) (x : Experiment) (executable : Path) : List PlanEntry :=
  ofCombinations x executable 0 (Enumeration.start s .standard).drain.1

/-- The first `n` entries of the plan of a specification. -/
def first (n : Nat) (s : Spec) (x : Experiment) (executable : Path) : List PlanEntry :=
  ofCombinations x executable 0 ((Enumeration.start s .standard).take n).1

end Plan

end TierSweep
