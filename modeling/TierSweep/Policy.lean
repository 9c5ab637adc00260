/-!
# Parameters and policies of the benchmark

The benchmark under test takes nine parameters whatever its tiering policy, and each policy takes
further ones of its own. Every parameter has a name in specifications; the parameters of a policy also
have a command line flag and a short mark used in run identifiers.
-/

namespace TierSweep

/-- A parameter that every run has. -/
inductive CommonField where
  | pattern
  | clientTierSizes
  | serverMemSizes
  | bufferSize
  | runningTime
  | policyType
  | numTiers
  | scanInterval
  | sampleRate
  deriving DecidableEq, Repr

namespace CommonField

/-- All common parameters, in the order in which they are listed to users. -/
def all : List CommonField :=
  [pattern, clientTierSizes, serverMemSizes, bufferSize, runningTime, policyType, numTiers,
    scanInterval, sampleRate]

theorem mem_all (f : CommonField) : f ∈ all := by cases f <;> decide

/-- The name of the parameter in a specification. -/
def name : CommonField → String
  | pattern => "pattern"
  | clientTierSizes => "client_tier_sizes"
  | serverMemSizes => "server_mem_sizes"
  | bufferSize => "buffer_size"
  | runningTime => "running_time"
  | policyType => "policy_type"
  | numTiers => "num_tiers"
  | scanInterval => "scan_interval"
  | sampleRate => "sample_rate"

/-- The names of the parameters every run must have. -/
def names : List String := all.map name

end CommonField

/-- A parameter that only some policies take. -/
inductive TuningField where
  | hotThreshold
  | coldThreshold
  | hotCount
  | coldCount
  | recencyWeight
  | frequencyWeight
  deriving DecidableEq, Repr

namespace TuningField

/-- All policy parameters, in the order in which they are listed to users. -/
def all : List TuningField :=
  [hotThreshold, coldThreshold, hotCount, coldCount, recencyWeight, frequencyWeight]

theorem mem_all (f : TuningField) : f ∈ all := by cases f <;> decide

/-- The name of the parameter in a specification. -/
def name : TuningField → String
  | hotThreshold => "hot_threshold"
  | coldThreshold => "cold_threshold"
  | hotCount => "hot_count"
  | coldCount => "cold_count"
  | recencyWeight => "recency_weight"
  | frequencyWeight => "frequency_weight"

/-- The command line flag of the benchmark. -/
def flag : TuningField → String
  | hotThreshold => "--hot-threshold"
  | coldThreshold => "--cold-threshold"
  | hotCount => "--hot-count"
  | coldCount => "--cold-count"
  | recencyWeight => "--recency-weight"
  | frequencyWeight => "--frequency-weight"

/-- The mark in front of the value in a run identifier. -/
def mark : TuningField → String
  | hotThreshold => "h"
  | coldThreshold => "c"
  | hotCount => "hc"
  | coldCount => "cc"
  | recencyWeight => "wr"
  | frequencyWeight => "wf"

/-- The parameter of a given name. -/
def ofName? (s : String) : Option TuningField := all.find? (·.name = s)

end TuningField

/-- The names of all parameters the benchmark takes. -/
def parameterNames : List String := CommonField.names ++ TuningField.all.map TuningField.name

/-- A tiering policy of the benchmark. -/
inductive Policy where
  | lru
  | frequency
  | hybrid
  deriving DecidableEq, Repr

namespace Policy

/-- All policies, in their order. -/
def all : List Policy := [lru, frequency, hybrid]

theorem mem_all (p : Policy) : p ∈ all := by cases p <;> decide

/-- The name of the policy in specifications and on the command line. -/
def name : Policy → String
  | lru => "lru"
  | frequency => "frequency"
  | hybrid => "hybrid"

/-- The parameters of the policy, in the order of identifiers and command lines. -/
def tuned : Policy → List TuningField
  | lru => [.hotThreshold, .coldThreshold]
  | frequency => [.hotCount, .coldCount]
  | hybrid =>
    [.hotThreshold, .coldThreshold, .hotCount, .coldCount, .recencyWeight, .frequencyWeight]

/-- Whether a parameter of the given name must be present for the policy. -/
def takes (p : Policy) (name : String) : Bool := p.tuned.any (·.name = name)

/-- The policy of a given name. -/
def ofName? (s : String) : Option Policy := all.find? (·.name = s)

end Policy

end TierSweep
