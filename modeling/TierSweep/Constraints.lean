import TierSweep.Combination

/-!
# Constraints

A rule concerns the combinations of some policies and judges each of them, unless it lacks what it
needs to judge. A combination is rejected when a rule that concerns its policy judges against it; the
first such rule is named. A combination without a policy name is never rejected.
-/

namespace TierSweep

/-- A rule about the combinations of some policies. -/
structure Rule where
  name : String
  /-- The names of the policies concerned. -/
  policies : List String
  /-- The judgement on a combination, if one can be made. -/
  holds? : Combination → Option Bool

namespace Rule

/-- Whether the rule concerns a policy. -/
def concerns (r : Rule) (policy : String) : Bool := r.policies.contains policy

/-- Whether the rule concerns the policy and judges against the combination. -/
def rejects (r : Rule) (policy : String) (c : Combination) : Bool :=
  r.concerns policy && r.holds? c = some false

/-- The judgement that one numeric parameter is at most another, if both are there. -/
def atMost (low high : TuningField) (c : Combination) : Option Bool := do
  let l ← c.binary64? low.name
  let h ← c.binary64? high.name
  pure (l.le h)

/-- A page must not turn cold before it stops being hot. -/
def coldAfterHot : Rule where
  name := "cold_threshold_not_before_hot"
  policies := [Policy.lru.name, Policy.hybrid.name]
  holds? := atMost .hotThreshold .coldThreshold

/-- The count below which a page is cold must not be above the count from which it is hot. -/
def coldRarerThanHot : Rule where
  name := "cold_count_not_above_hot"
  policies := [Policy.frequency.name, Policy.hybrid.name]
  holds? := atMost .coldCount .hotCount

end Rule

/-- Rules in the order in which they are asked. -/
structure Constraints where
  rules : List Rule

namespace Constraints

/-- No rules. -/
def empty : Constraints := ⟨[]⟩

/-- The rules that every sweep follows unless it is told otherwise. -/
def standard : Constraints := ⟨[.coldAfterHot, .coldRarerThanHot]⟩

/-- Adds a rule after the others. -/
def add (t : Constraints) (r : Rule) : Constraints := ⟨t.rules ++ [r]⟩

/-- The name of the first rule that rejects a combination. -/
def rejecting? (t : Constraints) (c : Combination) : Option String := do
  let policy ← c.policyText?
  let rule ← t.rules.find? (·.rejects policy c)
  pure rule.name

/-- Whether no rule rejects the combination. -/
def accepts (t : Constraints) (c : Combination) : Bool := (t.rejecting? c).isNone

end Constraints

end TierSweep
