import TierSweep.Experiment
import TierSweep.RunSetup

/-!
# Invocations

An invocation is the program and the arguments of one benchmark run: every parameter that the run has
stands behind a flag of its own.
-/

namespace TierSweep

/-- The program and arguments of one run. -/
structure Invocation where
  program : Path
  arguments : List String
  deriving DecidableEq, Repr

namespace Invocation

/-- The arguments of a run: pairs of a flag and a value, the common parameters first and then those of
the policy. -/
def argumentsOf (r : RunSetup) (o : ResultFiles) : List String :=
  ["-p", r.pattern,
    "-c", r.clientTierSizes,
    "-b", toString r.bufferSize,
    "--running-time", r.runningTime.render,
    "-s", r.serverMemSizes,
    "--policy-type", r.policy.name,
    "-t", toString r.numTiers,
    "--scan-interval", r.scanInterval.render,
    "--sample-rate", r.sampleRate.render,
    "--output", o.cdf.display,
    "--periodic-output", o.periodic.display]
  ++ r.tuning.flatMap fun p => [p.1.flag, p.2.render]

/-- The invocation of a program for a run. -/
def ofSetup (program : Path) (r : RunSetup) (o : ResultFiles) : Invocation :=
  ⟨program, argumentsOf r o⟩

/-- Program and arguments separated by spaces, for people to read. -/
def text (i : Invocation) : String := " ".intercalate (i.program.display :: i.arguments)

end Invocation

end TierSweep
