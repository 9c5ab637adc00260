import TierSweep.Duration
import TierSweep.Outcome

/-!
# Supervision

A running benchmark is looked at again and again. The first look that finds a reason ends the wait:
that the benchmark has ended by itself, else that the sweep is cancelled, else that the benchmark has
used up its time. In the last two cases it is killed and its remains are collected.
-/

namespace TierSweep

/-- What one look at a running benchmark shows. -/
structure Observation where
  /-- How the benchmark ended, if it has. -/
  exit? : Option ExitStatus
  cancelled : Bool
  /-- The time since the benchmark was started. -/
  elapsed : Duration

/-- What the supervisor does between looks and at the end. -/
inductive SupervisorAction where
  /-- To wait for the next look. -/
  | pause
  | kill
  /-- To collect what is left of a benchmark that was killed. -/
  | reap
  deriving DecidableEq, Repr

namespace Supervision

/-- Whether a time limit, if there is one, has been reached. -/
def isOver (timeout? : Option Duration) (elapsed : Duration) : Bool :=
  match timeout? with
  | some limit => decide (limit.nanos ≤ elapsed.nanos)
  | none => false

/-- The outcome that a look leads to, if it ends the wait. -/
def judge (timeout? : Option Duration) (o : Observation) : Option Outcome :=
  match o.exit? with
  | some status => some (.ofStatus status)
  | none =>
    if o.cancelled then some .cancelled
    else if isOver timeout? o.elapsed then some (.timedOut o.elapsed.millis64)
    else none

/-- What is done at the end: only a benchmark that has not ended by itself is killed. -/
def closing (o : Observation) : List SupervisorAction :=
  if o.exit?.isSome then [] else [.kill, .reap]

/-- Looks until a look ends the wait. Without an outcome the looks ran out before. -/
def watch (timeout? : Option Duration) :
    List Observation → List SupervisorAction × Option Outcome
  | [] => ([], none)
  | o :: rest =>
    match judge timeout? o with
    | some outcome => (closing o, some outcome)
    | none =>
      let (actions, outcome?) := watch timeout? rest
      (.pause :: actions, outcome?)

end Supervision

end TierSweep
