import TierSweep.CommandLine
import TierSweep.Coverage
import TierSweep.Launcher

/-!
# Carrying out command lines

An action is carried out on a machine, whose output receives what the action prints. It ends with a
code: zero for success, one for failure, two for a command line that could not be understood.
-/

namespace TierSweep

/-- How a command line was carried out. -/
structure Execution where
  machine : Machine
  code : UInt32
  /-- What to tell the user when something is wrong. -/
  complaint? : Option String

namespace Execution

/-- Success. -/
def success (m : Machine) : Execution := ⟨m, 0, none⟩

/-- Success or failure. -/
def ofBool (m : Machine) (fine : Bool) : Execution := ⟨m, if fine then 0 else 1, none⟩

/-- A failure with its report. -/
def failure (m : Machine) (f : Failure) : Execution := ⟨m, 1, some f.render⟩

end Execution

namespace Run

/-- The line of a planned run: its identifier, a tab and its invocation. -/
def line (run : Run) : String := run.identifier ++ "\t" ++ run.invocation.text

/-- The line of a planned run as JSON. -/
def jsonLine (index : Nat) (run : Run) : Except Failure String := do
  let files ← run.files.toJson
  pure (Json.canonical (.object [("index", .int index), ("identifier", .text run.identifier),
    ("argv", .array (run.invocation.arguments.map .text)), ("outputs", files)]))

end Run

namespace Plan

/-- The line of an entry; an entry that cannot be run has none. -/
def line? (asJson : Bool) (e : PlanEntry) : Option (Except Failure String) :=
  match e.run with
  | .error _ => none
  | .ok run => some (if asJson then run.jsonLine e.index else .ok run.line)

/-- The text of a plan up to the first line that cannot be written, and the failure there. -/
def text (asJson : Bool) : List PlanEntry → String × Option Failure
  | [] => ("", none)
  | e :: rest =>
    match line? asJson e with
    | none => text asJson rest
    | some (.error f) => ("", some f)
    | some (.ok l) =>
      let (after, failure?) := text asJson rest
      (l ++ "\n" ++ after, failure?)

end Plan

namespace CoverageGap

/-- The line that reports a gap. -/
def line (g : CoverageGap) : String :=
  "uncovered\t" ++ g.policy.name ++ "\t" ++ g.parameter ++ "\t" ++ toString g.distinctTexts
    ++ " values\t" ++ g.effect ++ "\n"

end CoverageGap

/-- What a check of a specification prints. -/
def Spec.checkText (s : Spec) : String :=
  String.join (s.unknownNames.map fun name => "unrecognized\t" ++ name ++ "\n")
    ++ String.join (s.gaps.map CoverageGap.line)

namespace Machine

/-- Sweeps a specification and saves the report. -/
def sweep (m : Machine) (spec : Spec) (o : SweepOptions) (report? : Option Path)
    (failOnError : Bool) : Execution :=
  match (Session.start m).sweep world o spec with
  | (s, .error f) => .failure s.world f
  | (s, .ok report) =>
    let fine := !(failOnError && report.anyFailed)
    match report? with
    | none => .ofBool s.world fine
    | some p =>
      match report.save s.world.tree p with
      | (tree, .error f) => .failure { s.world with tree } f
      | (tree, .ok _) => .ofBool { s.world with tree } fine

/-- Carries out an action. -/
def carryOut (m : Machine) : Action → Execution
  | .sweep source o report? failOnError =>
    match m.tree.readSpec source.path with
    | .error f => .failure m f
    | .ok spec => m.sweep spec o report? failOnError
  | .plan source experiment benchmark asJson =>
    match m.tree.readSpec source.path with
    | .error f => .failure m f
    | .ok spec =>
      match Plan.text asJson (Plan.ofSpec spec experiment benchmark) with
      | (text, none) => .success (m.print text)
      | (text, some f) => .failure (m.print text) f
  | .check source =>
    match m.tree.readSpec source.path with
    | .error f => .failure m f
    | .ok spec => .ofBool (m.print spec.checkText) spec.gaps.isEmpty

/-- How the program is used. -/
def usage : String :=
  "Usage: tiersweep [-v] run|plan|check EXPERIMENT [--experiment-dir DIR] [--spec FILE]\n"
    ++ "  run, plan: [--executable PATH] [--result-root DIR]\n"
    ++ "  run: [--timeout-secs N] [--timeout-grace-secs N] [--poll-ms N] [--report FILE]\n"
    ++ "       [--fail-on-error]\n"
    ++ "  plan: [--json]\n"

/-- Carries out a command line. It is not over before the last process is that could still print
something. -/
def execute (m : Machine) (arguments : List String) : Execution :=
  match Action.ofArguments arguments with
  | .ok action =>
    let e := m.carryOut action
    { e with machine := e.machine.drain programs maxWakes }
  | .error .help => .success (m.print usage)
  | .error .wrong => ⟨m, 2, some usage⟩

end Machine

end TierSweep
