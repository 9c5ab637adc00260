import TierSweep.FileTree
import TierSweep.Experiment
import TierSweep.Spec

/-!
# Specification files and result directories

The specification of an experiment is a file named after it. Faults of the files a sweep reads and
writes are reported with the path they concern.
-/

namespace TierSweep

/-- The file that is expected to specify an experiment. -/
def specFile (directory : Path) (experiment : String) : Path :=
  directory.joinString (experiment ++ ".yaml")

namespace Failure

/-- The failure of an operation on a path. -/
def ofFileFault (code message : String) (p : Path) (fault : FileFault) : Failure :=
  (Failure.new .files code message)
    |>.noting "path" p.display
    |>.advising fault.message

/-- The failure to make the directory for results. -/
def resultDirectory (p : Path) (fault : FileFault) : Failure :=
  ofFileFault "result_dir" "failed to create result directory" p fault

end Failure

namespace FileTree

/-- Reads the specification in a file. -/
def readSpec (t : FileTree) (p : Path) : Except Failure Spec :=
  if !t.has p then
    .error ((Failure.new .specification "spec_missing" "experiment specification not found")
      |>.noting "path" p.display)
  else match t.read p with
    | .error fault =>
      .error (.ofFileFault "spec_read" "failed to read experiment specification" p fault)
    | .ok bytes => (Spec.ofYaml bytes).mapError fun fault =>
      fault.toFailure.noting "path" p.display

/-- Makes the directory for an experiment's results and tells where the results of a run will be. -/
def makeRoom (t : FileTree) (x : Experiment) (identifier : String) :
    FileTree × Except Failure ResultFiles :=
  match t.makeDirectories x.directory with
  | (t, none) => (t, .ok (x.files identifier))
  | (t, some fault) => (t, .error (.resultDirectory x.directory fault))

end FileTree

end TierSweep
