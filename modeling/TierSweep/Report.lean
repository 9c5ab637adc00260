import TierSweep.Digest.Sha256
import TierSweep.Outcome
import TierSweep.Run
import TierSweep.SpecFile

/-!
# Reports

A sweep leaves one entry for every combination it came to, and a report of all entries with a summary
of how they ended. A report can be saved to a file as canonical JSON.
-/

namespace TierSweep

/-- How far a combination has come. -/
inductive Stage where
  | pending
  | running
  | succeeded
  | failed
  /-- The same invocation was launched before. -/
  | skipped
  deriving DecidableEq, Repr

namespace Stage

/-- The name of a stage. -/
def name : Stage → String
  | pending => "pending"
  | running => "running"
  | succeeded => "succeeded"
  | failed => "failed"
  | skipped => "skipped"

/-- Whether nothing more happens to the combination. -/
def isFinal : Stage → Bool
  | succeeded | failed | skipped => true
  | pending | running => false

end Stage

/-- What became of one combination. -/
structure ReportEntry where
  /-- The position of the combination in the sweep. -/
  index : Nat
  params : Combination
  identifier? : Option String
  files? : Option ResultFiles
  /-- The text of the invocation. -/
  invocation? : Option String
  stage : Stage
  outcome? : Option Outcome
  failure? : Option Failure
  elapsedMillis : UInt64

namespace ReportEntry

/-- The entry of a combination with the run derived from it, if one could be. -/
def ofRun? (run? : Option Run) (index : Nat) (params : Combination) (stage : Stage)
    (outcome? : Option Outcome) (failure? : Option Failure) (elapsedMillis : UInt64) :
    ReportEntry where
  index := index
  params := params
  identifier? := run?.map (·.identifier)
  files? := run?.map (·.files)
  invocation? := run?.map (·.invocation.text)
  stage := stage
  outcome? := outcome?
  failure? := failure?
  elapsedMillis := elapsedMillis

/-- Whether the benchmark was run and succeeded. -/
def isSuccess (e : ReportEntry) : Bool := e.stage = .succeeded

/-- The field for a value that may be missing. -/
def field? (name : String) (v? : Option Json) : List (String × Json) :=
  match v? with
  | some v => [(name, v)]
  | none => []

/-- The entry in JSON; what is missing is left out. -/
def toJson (e : ReportEntry) : Except Failure Json := do
  let files? ← match e.files? with
    | none => pure none
    | some files => some <$> files.toJson
  pure (.object (
    [("index", .int e.index), ("params", e.params.toJson)]
    ++ field? "identifier" (e.identifier?.map .text)
    ++ field? "outputs" files?
    ++ field? "command" (e.invocation?.map .text)
    ++ [("state", .text e.stage.name)]
    ++ field? "outcome" (e.outcome?.map Outcome.toJson)
    ++ field? "error" (e.failure?.map Failure.toJson)
    ++ [("elapsed_ms", .int e.elapsedMillis.toNat)]))

end ReportEntry

/-- How many entries ended how. -/
structure Summary where
  total : Nat
  succeeded : Nat
  failed : Nat
  skipped : Nat
  /-- How many combinations the constraints rejected. -/
  passedOver : Nat
  cancelled : Bool
  deriving DecidableEq, Repr

namespace Summary

/-- How many entries ended in a stage. -/
def count (stage : Stage) (entries : List ReportEntry) : Nat := entries.countP (·.stage = stage)

/-- The summary of some entries. -/
def ofEntries (entries : List ReportEntry) (passedOver : Nat) (cancelled : Bool) : Summary where
  total := entries.length
  succeeded := count .succeeded entries
  failed := count .failed entries
  skipped := count .skipped entries
  passedOver := passedOver
  cancelled := cancelled

/-- The summary in JSON. -/
def toJson (s : Summary) : Json :=
  .object [("total", .int s.total), ("succeeded", .int s.succeeded), ("failed", .int s.failed),
    ("skipped", .int s.skipped), ("pruned", .int s.passedOver), ("cancelled", .bool s.cancelled)]

end Summary

/-- The digest of a specification, which is that of its canonical JSON text. -/
def Spec.digest (s : Spec) : String := Sha256.hexOfText s.toJson.canonical

/-- What became of a whole sweep. -/
structure Report where
  experiment : String
  specDigest : String
  /-- The times of day at which the sweep began and ended. -/
  begun : String
  ended : String
  entries : List ReportEntry
  summary : Summary

namespace Report

/-- Whether any combination failed. -/
def anyFailed (r : Report) : Bool := 0 < r.summary.failed

/-- The entries of the combinations that failed. -/
def failed (r : Report) : List ReportEntry := r.entries.filter (·.stage = .failed)

/-- The report in JSON. -/
def toJson (r : Report) : Except Failure Json := do
  let entries ← r.entries.mapM ReportEntry.toJson
  pure (.object [("experiment", .text r.experiment), ("spec_hash", .text r.specDigest),
    ("started_at", .text r.begun), ("finished_at", .text r.ended), ("runs", .array entries),
    ("summary", r.summary.toJson)])

/-- The report as it is saved. -/
def bytes (r : Report) : Except Failure Bytes := do
  pure (Utf8.encode (← r.toJson).canonical)

/-- The failure to save a report. -/
def unsaved (code : String) (p : Path) (fault : FileFault) : Failure :=
  .ofFileFault code "failed to persist sweep report" p fault

/-- Makes the directories above a path. -/
def makeRoom (t : FileTree) (p : Path) : FileTree × Option FileFault :=
  match p.parent? with
  | some above => t.makeDirectories above
  | none => (t, none)

/-- Saves the report to a file, making the directories above it. -/
def save (r : Report) (t : FileTree) (p : Path) : FileTree × Except Failure Path :=
  match makeRoom t p with
  | (t, some fault) => (t, .error (unsaved "report_dir" p fault))
  | (t, none) =>
    match r.bytes with
    | .error failure => (t, .error failure)
    | .ok content =>
      match t.write p content with
      | .error fault => (t, .error (unsaved "report_write" p fault))
      | .ok t => (t, .ok p)

end Report

end TierSweep
