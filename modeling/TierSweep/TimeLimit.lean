import TierSweep.Duration
import TierSweep.RunSetup

/-!
# Time limits

How long a run may take is the same for every run, or follows from the running time that the benchmark
itself is given.
-/

namespace TierSweep

/-- How long runs may take. -/
inductive TimeLimit where
  /-- As long as they like. -/
  | unlimited
  /-- The same time for every run. -/
  | uniform (time : Duration)
  /-- The run's own running time and a grace period. -/
  | beyondRunningTime (grace : Duration)

namespace TimeLimit

/-- The grace period, in seconds, unless another is given. -/
def standardGraceSeconds : Nat := 600

/-- The running time and ten minutes. -/
def standard : TimeLimit := .beyondRunningTime (.ofSeconds standardGraceSeconds)

/-- The time a run is expected to take. A running time that is no duration counts as none. -/
def runningTime (r : RunSetup) : Duration :=
  (Duration.ofBinary64? r.runningTime.toBinary64).getD .zero

/-- The time a run may take, or nothing if it may take as long as it likes. -/
def forRun? (t : TimeLimit) (r : RunSetup) : Option Duration :=
  match t with
  | .unlimited => none
  | .uniform time => some time
  | .beyondRunningTime grace => some ((runningTime r).saturatingAdd grace)

end TimeLimit

end TierSweep
