import TierSweep.Value
import TierSweep.Policy

/-!
# Combinations

A combination gives one value to every parameter of a specification, in the specification's order.
It is read by name; the first entry of a name counts.
-/

namespace TierSweep

/-- One value for every parameter. -/
structure Combination where
  entries : List (String × Value)
  deriving DecidableEq

namespace Combination

/-- The value of a parameter. -/
def get? (c : Combination) (name : String) : Option Value := c.entries.lookup name

/-- The value of a parameter as a double, if it is a number. -/
def binary64? (c : Combination) (name : String) : Option Binary64 :=
  c.get? name >>= Value.binary64?

/-- The policy's name, if it is given as a text. -/
def policyText? (c : Combination) : Option String :=
  c.get? CommonField.policyType.name >>= Value.text?

/-- The names of the parameters in order. -/
def names (c : Combination) : List String := c.entries.map (·.1)

/-- The text of a combination: its entries separated by commas. -/
def render (c : Combination) : String :=
  ", ".intercalate (c.entries.map fun p => p.1 ++ "=" ++ p.2.render)

/-- A combination in JSON: an object with one field per entry. -/
def toJson (c : Combination) : Json :=
  .object (c.entries.map fun p => (p.1, p.2.toJson))

end Combination

end TierSweep
