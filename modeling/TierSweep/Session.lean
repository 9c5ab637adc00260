import TierSweep.Plan
import TierSweep.Report
import TierSweep.TimeLimit

/-!
# Sweeping

A session launches the benchmark for combinations, one after another, and remembers what it launched:
a combination whose invocation was launched before is skipped, and one whose identifier belongs to
another invocation is refused, so that no run overwrites the results of another. A run that fails is
recorded and the sweep goes on; it ends early only when the directory for results cannot be made or
when it is cancelled.

All that happens outside the session is left to a world, which makes directories, launches
invocations and tells the time. The session keeps a log of what it asked of the world.
-/

namespace TierSweep

/-- What bounds a launch. -/
structure LaunchBounds where
  /-- How long the benchmark may take. -/
  time? : Option Duration
  /-- How long to wait between two looks at the benchmark. -/
  interval : Duration
  /-- Whether cancellation has been requested already. -/
  cancelled : Bool
  deriving DecidableEq

/-- What comes back from a launch. -/
structure LaunchAnswer where
  result : Except Failure Outcome
  /-- Whether cancellation was requested meanwhile. -/
  cancels : Bool

/-- What a session needs of the world outside, which is in a state of type `σ`. -/
structure World (σ : Type) where
  makeDirectories : Path → σ → σ × Option FileFault
  launch : Invocation → LaunchBounds → σ → σ × LaunchAnswer
  /-- The time on a clock that never goes back. -/
  clock : σ → Duration
  /-- The time of day as a text. -/
  timeOfDay : σ → String

/-- How a session launches the benchmark. -/
structure SweepOptions where
  experiment : Experiment
  /-- The program that is launched. -/
  benchmark : Path
  timeLimit : TimeLimit
  /-- How long to wait between two looks at the benchmark. -/
  interval : Duration
  constraints : Constraints

namespace SweepOptions

/-- The benchmark that is launched unless another is given. -/
def standardBenchmark : String := "./build/main"

/-- The root of results unless another is given. -/
def standardRoot : String := "result"

/-- The milliseconds between two looks at the benchmark unless another number is given. -/
def standardIntervalMillis : Nat := 50

/-- The bounds of the launch of a run. -/
def bounds (o : SweepOptions) (r : RunSetup) (cancelled : Bool) : LaunchBounds :=
  ⟨o.timeLimit.forRun? r, o.interval, cancelled⟩

end SweepOptions

/-- What a session asked of the world. -/
inductive Effect where
  /-- To make the directory for results, and whether it is there now. -/
  | directory (p : Path) (made : Bool)
  /-- To launch the invocation of a run. -/
  | launch (run : Run) (bounds : LaunchBounds)
  deriving DecidableEq

/-- A session in progress. -/
structure Session (σ : Type) where
  /-- The arguments of what was launched, by identifier. -/
  launched : List (String × List String)
  /-- Whether cancellation has been requested. -/
  cancelled : Bool
  /-- What was asked of the world, from the first to the last. -/
  effects : List Effect
  world : σ

namespace Session

variable {σ : Type}

/-- A session that has done nothing. -/
def start (world : σ) : Session σ := ⟨[], false, [], world⟩

/-- Requests cancellation. -/
def cancel (s : Session σ) : Session σ := { s with cancelled := true }

/-- The refusal of a combination whose identifier belongs to another invocation. -/
def collision (identifier : String) : Failure :=
  (Failure.new .configuration "identifier_collision"
    "identifier already used by a different invocation")
    |>.noting "identifier" identifier
    |>.advising "a varying field is missing from the identifier"

/-- Makes sure that the directory for results is there. -/
def makeRoom (w : World σ) (o : SweepOptions) (s : Session σ) : Session σ × Option Failure :=
  let p := o.experiment.directory
  match w.makeDirectories p s.world with
  | (world, none) => ({ s with effects := s.effects ++ [.directory p true], world }, none)
  | (world, some fault) =>
    ({ s with effects := s.effects ++ [.directory p false], world }, some (.resultDirectory p fault))

/-- Launches a run and remembers it. -/
def launch (w : World σ) (o : SweepOptions) (run : Run) (s : Session σ) :
    Session σ × Except Failure Outcome :=
  let bounds := o.bounds run.setup s.cancelled
  match w.launch run.invocation bounds s.world with
  | (world, answer) =>
    ({ launched := (run.identifier, run.invocation.arguments) :: s.launched
       cancelled := s.cancelled || answer.cancels
       effects := s.effects ++ [.launch run bounds]
       world }, answer.result)

/-- The stage, outcome and failure in which the result of a launch is recorded. -/
def ending : Except Failure Outcome → Stage × Option Outcome × Option Failure
  | .ok .success => (.succeeded, some .success, none)
  | .ok outcome => (.failed, some outcome, none)
  | .error failure => (.failed, none, some failure)

/-- Comes to a combination and records what becomes of it. Only a directory for results that cannot be
made is a failure of the session itself. -/
def attempt (w : World σ) (o : SweepOptions) (index : Nat) (c : Combination) (s : Session σ) :
    Session σ × Except Failure ReportEntry :=
  let begun := w.clock s.world
  let elapsed (s : Session σ) : UInt64 := ((w.clock s.world).since begun).millis64
  match Run.ofCombination c o.experiment o.benchmark with
  | .error fault =>
    (s, .ok (.ofRun? none index c .failed none (some fault.toFailure) (elapsed s)))
  | .ok run =>
    match s.launched.lookup run.identifier with
    | some arguments =>
      if arguments = run.invocation.arguments then
        (s, .ok (.ofRun? (some run) index c .skipped none none (elapsed s)))
      else
        (s, .ok (.ofRun? (some run) index c .failed none (some (collision run.identifier)) (elapsed s)))
    | none =>
      match makeRoom w o s with
      | (s, some failure) => (s, .error failure)
      | (s, none) =>
        match launch w o run s with
        | (s, result) =>
          let (stage, outcome?, failure?) := ending result
          (s, .ok (.ofRun? (some run) index c stage outcome? failure? (elapsed s)))

/-- Comes to the further combinations of an enumeration, at most `fuel` of them. A combination is
drawn before the session sees whether it is cancelled. -/
def sweepWithin (w : World σ) (o : SweepOptions) :
    Nat → Nat → Enumeration → Session σ →
      Session σ × Enumeration × Except Failure (List ReportEntry)
  | 0, _, e, s => (s, e, .ok [])
  | fuel + 1, index, e, s =>
    match e.next with
    | (none, e) => (s, e, .ok [])
    | (some c, e) =>
      if s.cancelled then (s, e, .ok [])
      else match attempt w o index c s with
        | (s, .error failure) => (s, e, .error failure)
        | (s, .ok entry) =>
          match sweepWithin w o fuel (index + 1) e s with
          | (s, e, .error failure) => (s, e, .error failure)
          | (s, e, .ok entries) => (s, e, .ok (entry :: entries))

/-- Comes to all combinations of a specification that the constraints accept. -/
def sweep (w : World σ) (o : SweepOptions) (spec : Spec) (s : Session σ) :
    Session σ × Except Failure Report :=
  let begun := w.timeOfDay s.world
  let e := Enumeration.start spec o.constraints
  match sweepWithin w o (e.remaining + 1) 0 e s with
  | (s, _, .error failure) => (s, .error failure)
  | (s, e, .ok entries) =>
    (s, .ok {
      experiment := o.experiment.name
      specDigest := spec.digest
      begun := begun
      ended := w.timeOfDay s.world
      entries := entries
      summary := .ofEntries entries e.passedOver s.cancelled })

/-- Something asked of a session. -/
inductive Request where
  | sweep (spec : Spec)
  | attempt (index : Nat) (c : Combination)
  | cancel

/-- The session after a request. -/
def after (w : World σ) (o : SweepOptions) (s : Session σ) : Request → Session σ
  | .sweep spec => (s.sweep w o spec).1
  | .attempt index c => (s.attempt w o index c).1
  | .cancel => s.cancel

end Session

end TierSweep
