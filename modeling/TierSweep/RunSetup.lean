import TierSweep.Combination
import TierSweep.Failure

/-!
# Run configurations

A run configuration is a combination that has been checked: the policy is known, every parameter that
all runs or this policy need is there, and each has the kind it must have. Parameters that the policy
does not take are not looked at.
-/

namespace TierSweep

/-- What keeps a combination from being a run configuration. -/
inductive SetupFault where
  /-- A parameter is missing; the policy is given once it is known. -/
  | missing (field : String) (policy? : Option Policy)
  /-- A parameter has a value of the wrong kind. -/
  | wrongKind (field expected : String) (found : Value)
  /-- There is no policy of this name. -/
  | unknownPolicy (name : String)
  deriving DecidableEq

namespace SetupFault

/-- The report of a fault. -/
def toFailure : SetupFault → Failure
  | .missing field policy? =>
    let f := (Failure.new .configuration "missing_required_field" "missing required field")
      |>.noting "field" field
    match policy? with
    | none => f
    | some p => f.noting "policy_type" p.name
  | .wrongKind field expected found =>
    (Failure.new .configuration "invalid_field_type" "field has the wrong type")
      |>.noting "field" field
      |>.noting "expected" expected
      |>.noting "found" found.kind
      |>.noting "value" found.render
  | .unknownPolicy name => Policy.unknownFailure name

end SetupFault

/-- A checked configuration of one run. -/
structure RunSetup where
  pattern : String
  clientTierSizes : String
  serverMemSizes : String
  bufferSize : Nat
  runningTime : Number
  policy : Policy
  numTiers : Nat
  scanInterval : Number
  sampleRate : Number
  /-- The parameters of the policy with their values. -/
  tuning : List (TuningField × Number)
  /-- The parameters listed are exactly those of the policy, in its order. -/
  tuning_eq : tuning.map Prod.fst = policy.tuned
  deriving DecidableEq

namespace RunSetup

/-- The value of a parameter that must be there. -/
def require (c : Combination) (field : String) (policy? : Option Policy) :
    Except SetupFault Value :=
  match c.get? field with
  | some v => .ok v
  | none => .error (.missing field policy?)

/-- A text parameter. -/
def text (c : Combination) (field : CommonField) (policy : Policy) : Except SetupFault String := do
  match ← require c field.name (some policy) with
  | .text s => pure s
  | v => throw (.wrongKind field.name "text" v)

/-- A list of sizes: a text, or one size as a bare integer. -/
def sizes (c : Combination) (field : CommonField) (policy : Policy) :
    Except SetupFault String := do
  match ← require c field.name (some policy) with
  | .text s => pure s
  | .number (.int n) => pure (Number.int n).render
  | v => throw (.wrongKind field.name "text" v)

/-- A parameter that counts something. -/
def count (c : Combination) (field : CommonField) (policy : Policy) : Except SetupFault Nat := do
  let v ← require c field.name (some policy)
  match v.nat? with
  | some n => pure n
  | none => throw (.wrongKind field.name "non-negative integer" v)

/-- A numeric parameter. -/
def number (c : Combination) (field : String) (policy : Policy) : Except SetupFault Number := do
  let v ← require c field (some policy)
  match v.number? with
  | some n => pure n
  | none => throw (.wrongKind field "number" v)

/-- The values of the parameters of a policy, in the order given. -/
def tune (c : Combination) (policy : Policy) :
    (fields : List TuningField) →
      Except SetupFault { vs : List (TuningField × Number) // vs.map Prod.fst = fields }
  | [] => .ok ⟨[], rfl⟩
  | f :: rest => do
    let n ← number c f.name policy
    let vs ← tune c policy rest
    pure ⟨(f, n) :: vs.val, by simp [vs.property]⟩

/-- The policy a combination names. -/
def policyOf (c : Combination) : Except SetupFault Policy := do
  match ← require c CommonField.policyType.name none with
  | .text s =>
    match Policy.ofName? s with
    | some p => pure p
    | none => throw (.unknownPolicy s)
  | v => throw (.wrongKind CommonField.policyType.name "text" v)

/-- Checks a combination. The policy is looked at first, then the common parameters in a fixed order,
then those of the policy; the first fault is reported. -/
def ofCombination (c : Combination) : Except SetupFault RunSetup := do
  let policy ← policyOf c
  let pattern ← text c .pattern policy
  let clientTierSizes ← sizes c .clientTierSizes policy
  let serverMemSizes ← sizes c .serverMemSizes policy
  let bufferSize ← count c .bufferSize policy
  let runningTime ← number c CommonField.runningTime.name policy
  let numTiers ← count c .numTiers policy
  let scanInterval ← number c CommonField.scanInterval.name policy
  let sampleRate ← number c CommonField.sampleRate.name policy
  let tuning ← tune c policy policy.tuned
  pure {
    pattern, clientTierSizes, serverMemSizes, bufferSize, runningTime, policy, numTiers,
    scanInterval, sampleRate
    tuning := tuning.val
    tuning_eq := tuning.property }

/-- The value of a policy parameter by name, if the policy takes it. -/
def tuning? (r : RunSetup) (name : String) : Option Number :=
  (r.tuning.find? (·.1.name = name)).map (·.2)

/-- A run configuration in JSON. -/
def toJson (r : RunSetup) : Json :=
  .object ([
    (CommonField.pattern.name, .text r.pattern),
    (CommonField.clientTierSizes.name, .text r.clientTierSizes),
    (CommonField.serverMemSizes.name, .text r.serverMemSizes),
    (CommonField.bufferSize.name, .int r.bufferSize),
    (CommonField.runningTime.name, r.runningTime.toJson),
    (CommonField.policyType.name, .text r.policy.name),
    (CommonField.numTiers.name, .int r.numTiers),
    (CommonField.scanInterval.name, r.scanInterval.toJson),
    (CommonField.sampleRate.name, r.sampleRate.toJson)]
    ++ r.tuning.map fun p => (p.1.name, p.2.toJson))

end RunSetup

end TierSweep
