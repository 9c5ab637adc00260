import TierSweep.Path

/-!
# Experiments and where their results go

All results of an experiment lie in one directory below a common root. A run leaves two files there,
told apart by the first part of their names and named after the run's identifier. The columns of the
files are part of the agreement with those who read them.
-/

namespace TierSweep

/-- The two result files of a run. -/
structure ResultFiles where
  /-- The latency distribution. -/
  cdf : Path
  /-- The time series. -/
  periodic : Path
  deriving DecidableEq, Repr

namespace ResultFiles

/-- The paths in JSON. -/
def toJson (o : ResultFiles) : Except Failure Json := do
  let cdf ← o.cdf.toJson
  let periodic ← o.periodic.toJson
  pure (.object [("cdf", cdf), ("periodic", periodic)])

end ResultFiles

/-- An experiment: its name, and the root below which its results lie. -/
structure Experiment where
  root : Path
  name : String
  deriving DecidableEq, Repr

namespace Experiment

/-- The first part of the name of the latency distribution. -/
def cdfStem : String := "cdf"

/-- The first part of the name of the time series. -/
def periodicStem : String := "periodic"

/-- The extension of both files. -/
def extension : String := "csv"

/-- The counters of pages moved between tiers. -/
def transferColumns : List String :=
  ["local2remote", "remote2local", "remote2pmem", "pmem2remote", "local2pmem", "pmem2local"]

/-- The columns of the time series. -/
def periodicColumns : List String :=
  ["Latency(ns)", "Throughput(ops/s)", "LocalAccess", "RemoteAccess", "PmemAccess", "TotalAccess",
    "LocalCount", "RemoteCount", "PmemCount"] ++ transferColumns

/-- The columns of the latency distribution. -/
def cdfColumns : List String := ["percentile", "latency_ns"]

/-- The words that may stand in place of a percentile. -/
def summaryTokens : List String := ["Min", "Max", "Mean"]

/-- The directory for the results. -/
def directory (x : Experiment) : Path := x.root.joinString x.name

/-- The name of a result file. -/
def fileName (stem identifier : String) : String :=
  stem ++ "_" ++ identifier ++ "." ++ extension

/-- The result files of the run with the given identifier. -/
def files (x : Experiment) (identifier : String) : ResultFiles where
  cdf := x.directory.joinString (fileName cdfStem identifier)
  periodic := x.directory.joinString (fileName periodicStem identifier)

end Experiment

end TierSweep
