import TierSweep.Identifier
import TierSweep.Spec

/-!
# Coverage of identifiers

A parameter that varies but does not reach the identifiers of some policy makes runs share their
result files. If the benchmark is given the parameter, different runs collide; otherwise the runs are
mere duplicates.
-/

namespace TierSweep

/-- A varying parameter that the identifiers of a policy leave out. -/
structure CoverageGap where
  parameter : String
  policy : Policy
  /-- How many different texts the values of the parameter have. -/
  distinctTexts : Nat
  /-- Whether the benchmark is given the parameter. -/
  passedOn : Bool
  deriving DecidableEq, Repr

namespace CoverageGap

/-- The word for what the gap leads to. -/
def effect (g : CoverageGap) : String := if g.passedOn then "collides" else "duplicates"

end CoverageGap

namespace Spec

/-- The policies among the values of the policy parameter, each once and in their order. -/
def policies (s : Spec) : List Policy :=
  match s.get? CommonField.policyType.name with
  | none => []
  | some p => Policy.all.filter fun policy => p.values.contains (.text policy.name)

/-- How many different texts the values of a parameter have. -/
def distinctTexts (p : Parameter) : Nat := (p.values.map Value.render).eraseDups.length

/-- Whether the benchmark is given a parameter under a policy. -/
def isPassedOn (policy : Policy) (name : String) : Bool :=
  CommonField.names.contains name || policy.takes name

/-- The gaps of one parameter. -/
def gapsOf (policies : List Policy) (p : Parameter) : List CoverageGap :=
  let n := distinctTexts p
  if n < 2 then []
  else (policies.filter fun policy => !(Identifier.fields policy).contains p.name).map fun policy =>
    ⟨p.name, policy, n, isPassedOn policy p.name⟩

/-- All varying parameters that the identifiers of some policy of the specification leave out. -/
def gaps (s : Spec) : List CoverageGap := s.params.flatMap (gapsOf s.policies)

end Spec

end TierSweep
