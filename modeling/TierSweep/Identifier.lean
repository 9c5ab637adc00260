import TierSweep.RunSetup

/-!
# Run identifiers

The identifier of a run names its result files. It lists the parameters that tell runs apart, each
cleaned of characters that a file name or a list should not contain, joined by a separator.
-/

namespace TierSweep.Identifier

/-- The separator between the parts of an identifier. -/
def separator : Char := '_'

/-- The common parameters that every identifier carries, in order. -/
def commonFields : List CommonField :=
  [.pattern, .clientTierSizes, .serverMemSizes, .bufferSize, .scanInterval, .sampleRate, .policyType]

/-- The names of all parameters that the identifier of a run carries under a policy. -/
def fields (p : Policy) : List String :=
  commonFields.map CommonField.name ++ p.tuned.map TuningField.name

/-- A character as it appears in an identifier: blanks, commas, slashes and backslashes become
hyphens. -/
def cleanChar (c : Char) : Char :=
  if c = ' ' ∨ c = ',' ∨ c = '/' ∨ c = '\\' ∨ c = '\t' then '-' else c

/-- A part of an identifier. -/
def clean (s : String) : String := String.ofList (s.toList.map cleanChar)

/-- The parts of the identifier of a run. -/
def parts (r : RunSetup) : List String :=
  [clean r.pattern, clean r.clientTierSizes, clean r.serverMemSizes,
    "buf" ++ toString r.bufferSize,
    clean ("scan" ++ r.scanInterval.render),
    clean ("sample" ++ r.sampleRate.render),
    r.policy.name]
  ++ r.tuning.map fun p => clean (p.1.mark ++ p.2.render)

/-- The identifier of a run. -/
def ofSetup (r : RunSetup) : String := separator.toString.intercalate (parts r)

end TierSweep.Identifier
