import TierSweep.Combination
import TierSweep.Failure
import TierSweep.Yaml.Document

/-!
# Sweep specifications

A specification lists parameters in order, each with the values it is to take. It is built by setting
parameters one after another, or read from a YAML mapping whose entries are scalars or flat sequences
of scalars.
-/

namespace TierSweep

/-- A parameter and the values it is to take. -/
structure Parameter where
  name : String
  values : List Value
  deriving DecidableEq

/-- A parameter in JSON. -/
def Parameter.toJson (p : Parameter) : Json :=
  .object [("name", .text p.name), ("values", .array (p.values.map Value.toJson))]

/-- The parameters of a sweep. -/
structure Spec where
  params : List Parameter
  deriving DecidableEq

/-- What is wrong with the content of a specification. -/
inductive SpecFault where
  /-- The text is not YAML. -/
  | notYaml (fault : Yaml.Fault)
  /-- The document is not a mapping but of this kind. -/
  | notMapping (found : String)
  /-- The name of a parameter is not a text. -/
  | nameNotText (key : Yaml.Node)
  /-- A value of a parameter is of a kind that none can have. -/
  | unsupported (field found : String)
  /-- There are no parameters. -/
  | noParameters

namespace SpecFault

/-- The report of a fault. -/
def toFailure : SpecFault → Failure
  | .notYaml fault => .new .specification "spec_yaml" fault.message
  | .notMapping found =>
    (Failure.new .specification "spec_shape" "specification must be a mapping").noting "found" found
  | .nameNotText key =>
    (Failure.new .specification "spec_key" "parameter names must be strings").noting "key" key.display
  | .unsupported field found =>
    (Failure.new .specification "spec_value" "unsupported value shape")
      |>.noting "field" field
      |>.noting "found" found
      |>.advising "values must be scalars or flat lists of scalars"
  | .noParameters => .new .specification "spec_empty" "specification defines no parameters"

end SpecFault

namespace Spec

/-- The specification without parameters. -/
def empty : Spec := ⟨[]⟩

/-- Sets the values of a parameter in a list of parameters: in place if it is there, at the end
otherwise. -/
def setIn (name : String) (values : List Value) : List Parameter → List Parameter
  | [] => [⟨name, values⟩]
  | p :: rest =>
    if p.name = name then ⟨p.name, values⟩ :: rest else p :: setIn name values rest

/-- Sets the values of a parameter. -/
def set (s : Spec) (name : String) (values : List Value) : Spec := ⟨setIn name values s.params⟩

/-- Sets a single value for a parameter. -/
def setOne (s : Spec) (name : String) (value : Value) : Spec := s.set name [value]

/-- The parameter of a given name. -/
def get? (s : Spec) (name : String) : Option Parameter := s.params.find? (·.name = name)

/-- A parameter that was set has the values given last, and all others are as before. -/
theorem get?_set (s : Spec) (name other : String) (values : List Value) :
    (s.set name values).get? other =
      if other = name then some ⟨name, values⟩ else s.get? other := by
  obtain ⟨params⟩ := s
  simp only [set, get?]
  induction params with
  | nil =>
    simp only [setIn, List.find?]
    split <;> simp_all [eq_comm]
  | cons p rest ih =>
    unfold setIn
    split
    · next h =>
      subst h
      simp only [List.find?_cons]
      by_cases ho : p.name = other <;> simp_all [eq_comm]
    · next h =>
      simp only [List.find?_cons, ih]
      by_cases ho : p.name = other
      · subst ho
        simp [h]
      · simp [ho]

/-- The number of parameters. -/
def size (s : Spec) : Nat := s.params.length

/-- The names of the parameters in order. -/
def names (s : Spec) : List String := s.params.map Parameter.name

/-- The number of choices of one value for every parameter. -/
def choices (params : List Parameter) : Nat :=
  params.foldr (fun p n => p.values.length * n) 1

/-- The number of combinations before any constraint, at most `2 ^ 64 - 1`; none without
parameters. -/
def combinationCount (s : Spec) : Nat :=
  if s.params.isEmpty then 0
  else s.params.foldl (fun n p => min (n * p.values.length) Json.maxNat64) 1

/-- The names that the benchmark does not take. -/
def unknownNames (s : Spec) : List String := s.names.filter (!parameterNames.contains ·)

/-- The parameters in JSON. -/
def toJson (s : Spec) : Json := .array (s.params.map Parameter.toJson)

/-- The value of a scalar. An integer that only an unsigned word can hold becomes a double. -/
def valueOf (field : String) : Yaml.Node → Except SpecFault Value
  | .bool b => .ok (.bool b)
  | .int n => .ok (.ofInteger n)
  | .real x => .ok (.float x)
  | .text s => .ok (.text s)
  | other => .error (.unsupported field other.kind)

/-- The values of an entry: those of a sequence, or a single one. -/
def valuesOf (field : String) : Yaml.Node → Except SpecFault (List Value)
  | .sequence items => items.mapM (valueOf field)
  | other => (fun v => [v]) <$> valueOf field other

/-- The parameter of an entry. -/
def parameterOf (entry : Yaml.Node × Yaml.Node) : Except SpecFault Parameter :=
  match entry.1 with
  | .text name => (fun vs => ⟨name, vs⟩) <$> valuesOf name entry.2
  | key => .error (.nameNotText key)

/-- The specification of a mapping's entries. The first fault in the order of the document is
reported. -/
def ofMapping (entries : List (Yaml.Node × Yaml.Node)) : Except SpecFault Spec :=
  (fun ps => ⟨ps⟩) <$> entries.mapM parameterOf

/-- The specification of a YAML value; null has no parameters. -/
def ofNode : Yaml.Node → Except SpecFault Spec
  | .mapping entries => ofMapping entries
  | .null => .ok empty
  | other => .error (.notMapping other.kind)

/-- Reads a specification, which must have parameters. -/
def ofYaml (bytes : Bytes) : Except SpecFault Spec := do
  let node ← (Yaml.Node.ofBytes bytes).mapError SpecFault.notYaml
  let spec ← ofNode node
  if spec.params.isEmpty then throw .noParameters
  pure spec

end Spec

end TierSweep
