import TierSweep.Coverage
import TierSweep.Enumeration
import TierSweep.Proofs.Run.Dependence

/-!
# What coverage gaps account for

The value that a combination of a specification has for a parameter is one of the values of the
first parameter of that name (`Spec.get?_of_mem_product`). If two combinations have different texts
for a parameter that the identifiers of a policy leave out, and the specification lists the policy,
then this is one of its gaps (`Spec.exists_gap`). In a specification without gaps all combinations
therefore have the same text for every parameter that is left out.

## Main results

* `Spec.get?_of_mem_product`, `Spec.mem_policies_of_mem_product`.
* `Spec.exists_gap`.
-/

namespace TierSweep

namespace Spec

variable {s : Spec} {c d : Combination} {name : String} {policy : Policy}

/-- The benchmark is given the required parameters, and no others. -/
theorem isPassedOn_iff : isPassedOn policy name = true ↔ name ∈ policy.required := by
  rw [isPassedOn, Bool.or_eq_true, List.contains_iff_mem, Policy.takes, List.any_eq_true,
    Policy.required, List.mem_append, List.mem_map]
  simp only [decide_eq_true_eq]

private theorem lookup_of_mem_productOf {params : List Parameter} {entries : List (String × Value)}
    (h : entries ∈ productOf params) {v : Value} (hv : entries.lookup name = some v) :
    ∃ p, params.find? (·.name = name) = some p ∧ v ∈ p.values := by
  induction params generalizing entries with
  | nil =>
    obtain rfl := List.mem_singleton.mp h
    cases hv
  | cons p params ih =>
    obtain ⟨w, hw, hentries⟩ := List.mem_flatMap.mp h
    obtain ⟨rest, hrest, rfl⟩ := List.mem_map.mp hentries
    by_cases hname : p.name = name
    · subst hname
      rw [List.lookup_cons_self] at hv
      obtain rfl := Option.some.inj hv
      exact ⟨p, List.find?_cons_of_pos (decide_eq_true rfl), hw⟩
    · rw [List.lookup_cons, beq_eq_false_iff_ne.mpr (Ne.symm hname)] at hv
      obtain ⟨q, hq, hmem⟩ := ih hrest hv
      exact ⟨q, (List.find?_cons_of_neg (by simp [hname])).trans hq, hmem⟩

/-- The value that a combination has for a parameter is one that the parameter is to take. -/
theorem get?_of_mem_product (h : c ∈ s.product) {v : Value} (hv : c.get? name = some v) :
    ∃ p, s.get? name = some p ∧ v ∈ p.values := by
  rw [product] at h
  split at h
  · exact absurd h List.not_mem_nil
  · obtain ⟨entries, hentries, rfl⟩ := List.mem_map.mp h
    exact lookup_of_mem_productOf hentries hv

/-- The policy that a combination names is among those of the specification. -/
theorem mem_policies_of_mem_product (h : c ∈ s.product)
    (hpolicy : c.get? CommonField.policyType.name = some (.text policy.name)) :
    policy ∈ s.policies := by
  obtain ⟨p, hp, hmem⟩ := get?_of_mem_product h hpolicy
  rw [policies, hp]
  exact List.mem_filter.mpr ⟨policy.mem_all, List.contains_iff_mem.mpr hmem⟩

/-- Two different texts make at least two without repetitions. -/
private theorem two_le_length_eraseDups {texts : List String} {a b : String} (ha : a ∈ texts)
    (hb : b ∈ texts) (hne : a ≠ b) : 2 ≤ texts.eraseDups.length := by
  have ha := List.mem_eraseDups.mpr ha
  have hb := List.mem_eraseDups.mpr hb
  generalize texts.eraseDups = texts at ha hb
  match texts with
  | [] => exact absurd ha List.not_mem_nil
  | [x] => exact absurd ((List.mem_singleton.mp ha).trans (List.mem_singleton.mp hb).symm) hne
  | _ :: _ :: texts => exact Nat.le_add_left 2 texts.length

/-- A parameter that takes two texts and that the identifiers of a policy leave out is a gap. -/
theorem exists_gap (hc : c ∈ s.product) (hd : d ∈ s.product) (hpolicy : policy ∈ s.policies)
    (hname : name ∉ Identifier.fields policy) {a b : String} (ha : c.text? name = some a)
    (hb : d.text? name = some b) (hne : a ≠ b) :
    ∃ g ∈ s.gaps, g.parameter = name ∧ g.policy = policy ∧ 2 ≤ g.distinctTexts ∧
      g.passedOn = isPassedOn policy name := by
  obtain ⟨v, hv, rfl⟩ := Option.map_eq_some_iff.mp ha
  obtain ⟨w, hw, rfl⟩ := Option.map_eq_some_iff.mp hb
  obtain ⟨p, hp, hvp⟩ := get?_of_mem_product hc hv
  obtain ⟨q, hq, hwq⟩ := get?_of_mem_product hd hw
  obtain rfl : p = q := Option.some.inj (hp.symm.trans hq)
  rw [get?] at hp
  have hfound := List.find?_some hp
  have hpname : p.name = name := of_decide_eq_true hfound
  have htexts : 2 ≤ distinctTexts p :=
    two_le_length_eraseDups (List.mem_map_of_mem hvp) (List.mem_map_of_mem hwq) hne
  refine ⟨⟨name, policy, distinctTexts p, isPassedOn policy name⟩, ?_, rfl, rfl, htexts, rfl⟩
  refine List.mem_flatMap.mpr ⟨p, List.mem_of_find?_eq_some hp, ?_⟩
  rw [gapsOf, if_neg (Nat.not_lt.mpr htexts), hpname]
  refine List.mem_map_of_mem (List.mem_filter.mpr ⟨hpolicy, ?_⟩)
  simpa using hname

/-- Without gaps all combinations have the same text for a parameter that is left out. -/
theorem text_eq_of_gaps_eq_nil (h : s.gaps = []) (hc : c ∈ s.product) (hd : d ∈ s.product)
    (hpolicy : policy ∈ s.policies) (hname : name ∉ Identifier.fields policy) {a b : String}
    (ha : c.text? name = some a) (hb : d.text? name = some b) : a = b := by
  refine Decidable.byContradiction fun hne => ?_
  obtain ⟨g, hg, -⟩ := exists_gap hc hd hpolicy hname ha hb hne
  rw [h] at hg
  exact absurd hg List.not_mem_nil

end Spec

end TierSweep
