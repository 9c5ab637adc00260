import TierSweep.Identifier
import TierSweep.Invocation

/-!
# Runs

A run is derived from a combination without touching the file system: the combination is checked, the
run is named, its result files are placed, and its invocation is laid out.
-/

namespace TierSweep

/-- All that is known about a run before it is launched. -/
structure Run where
  setup : RunSetup
  identifier : String
  files : ResultFiles
  invocation : Invocation
  deriving DecidableEq

namespace Run

/-- The run of a checked combination. -/
def ofSetup (setup : RunSetup) (x : Experiment) (executable : Path) : Run :=
  let identifier := Identifier.ofSetup setup
  let files := x.files identifier
  ⟨setup, identifier, files, .ofSetup executable setup files⟩

/-- Checks a combination and derives its run. -/
def ofCombination (c : Combination) (x : Experiment) (executable : Path) : Except SetupFault Run :=
  (RunSetup.ofCombination c).map (ofSetup · x executable)

end Run

end TierSweep
