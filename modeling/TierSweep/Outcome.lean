import TierSweep.Json.Read

/-!
# Outcomes

A benchmark that could be started comes to one of four ends. In JSON an outcome is an object whose
field `kind` tells which, beside what is known about that end.
-/

namespace TierSweep

/-- How a process ended by itself. -/
inductive ExitStatus where
  /-- It returned this code. -/
  | exited (code : Int32)
  /-- A signal ended it. -/
  | signalled
  deriving DecidableEq, Repr

/-- How a started benchmark ended. -/
inductive Outcome where
  | success
  /-- It returned a code other than zero, or none because a signal ended it. -/
  | failure (code? : Option Int32)
  /-- It was stopped after so many milliseconds because it had used up its time. -/
  | timedOut (afterMillis : UInt64)
  /-- It was stopped because the sweep was cancelled. -/
  | cancelled
  deriving DecidableEq, Repr

namespace Outcome

/-- The outcome of a process that ended by itself. -/
def ofStatus : ExitStatus → Outcome
  | .exited code => if code = 0 then success else failure (some code)
  | .signalled => failure none

/-- Whether the benchmark succeeded. -/
def isSuccess : Outcome → Bool
  | success => true
  | _ => false

/-- The code the benchmark returned, if it ended by itself and no signal ended it. -/
def exitCode? : Outcome → Option Int32
  | success => some 0
  | failure code? => code?
  | timedOut _ => none
  | cancelled => none

/-- The name of the kind of an outcome. -/
def kind : Outcome → String
  | success => "success"
  | failure _ => "failure"
  | timedOut _ => "timed-out"
  | cancelled => "cancelled"

/-- What is known beside the kind. -/
def particulars : Outcome → List (String × Json)
  | success => []
  | failure code? => [("code", (code?.map fun c => Json.int c.toInt).getD .null)]
  | timedOut afterMillis => [("after_ms", .int afterMillis.toNat)]
  | cancelled => []

/-- The outcome in JSON. -/
def toJson (o : Outcome) : Json := .object (("kind", .text o.kind) :: o.particulars)

/-- Reads an exit code, which may be null. -/
def codeOfJson? : Json → Option (Option Int32)
  | .null => some none
  | .int n =>
    if Int32.minValue.toInt ≤ n ∧ n ≤ Int32.maxValue.toInt then some (some (Int32.ofInt n))
    else none
  | _ => none

/-- Reads a number of milliseconds. -/
def millisOfJson? : Json → Option UInt64
  | .int n => if 0 ≤ n ∧ n < UInt64.size then some (UInt64.ofNat n.toNat) else none
  | _ => none

/-- The values of the fields of a given name. -/
def valuesOf (name : String) (fields : List (String × Json)) : List Json :=
  (fields.filter (·.1 = name)).map (·.2)

/-- Reads an outcome of a kind from the fields beside it. A field of the kind must not occur twice,
the code may be missing, and all other fields are skipped. -/
def ofFields? (kind : String) (fields : List (String × Json)) : Option Outcome :=
  if kind = "success" then some success
  else if kind = "cancelled" then some cancelled
  else if kind = "failure" then
    match valuesOf "code" fields with
    | [] => some (failure none)
    | [v] => (codeOfJson? v).map failure
    | _ => none
  else if kind = "timed-out" then
    match valuesOf "after_ms" fields with
    | [v] => (millisOfJson? v).map timedOut
    | _ => none
  else none

/-- Reads an outcome of a kind from its particulars in order. -/
def ofItems? (kind : String) : List Json → Option Outcome
  | [] =>
    if kind = "success" then some success
    else if kind = "cancelled" then some cancelled
    else none
  | [v] =>
    if kind = "failure" then (codeOfJson? v).map failure
    else if kind = "timed-out" then (millisOfJson? v).map timedOut
    else none
  | _ => none

/-- Reads an outcome from an object with the kind anywhere among its fields, or from an array that
begins with the kind. -/
def ofSketch? : Json.Sketch → Option Outcome
  | .array (kind :: rest) => do
    ofItems? (← kind.text?) (← Json.Sketch.resolveItems? (Json.Sketch.maxDepth - 1) rest)
  | .object fields => do
    let keyed ← Json.Sketch.keyed? fields
    let kind ← (← Json.Sketch.field? "kind" keyed) >>= Json.Sketch.text?
    let others ← (keyed.filter (·.1 ≠ "kind")).mapM fun p =>
      (p.2.resolve? (Json.Sketch.maxDepth - 1)).map (p.1, ·)
    ofFields? kind others
  | _ => none

end Outcome

end TierSweep
