import Mathlib.Data.List.Perm.Basic
import TierSweep.Proofs.Constraints.Standard

/-!
# Putting constraints together

A table accepts a combination exactly when none of its rules prunes it (`Constraints.accepts_eq`).
This condition asks every rule by itself, so further rules only take away combinations that they
prune themselves, and the order of the rules does not matter. The enumeration inherits both: under
more rules it gives out what it gave out before, in the same order, less what the further rules
prune, and it passes over the others. A combination that names no policy is pruned by no rule.

## Main definitions

* `Rule.prunes` — a rule judges against a combination that it concerns.
* `Constraints.addAll` — rules added one after another.

## Main results

* `Constraints.accepts_addAll`, `Constraints.accepts_eq_of_perm`.
* `Enumeration.drain_addAll`.
-/

namespace TierSweep

variable {c : Combination}

namespace Rule

/-- Whether the rule judges against a combination whose policy it concerns. -/
def prunes (r : Rule) (c : Combination) : Bool := c.policyText?.any (r.rejects · c)

variable {r : Rule}

theorem prunes_iff : r.prunes c = true ↔
    ∃ policy, c.get? CommonField.policyType.name = some (.text policy) ∧ policy ∈ r.policies ∧
      r.holds? c = some false := by
  simp only [prunes, Option.any_eq_true, rejects, concerns, Bool.and_eq_true, decide_eq_true_eq,
    List.contains_iff_mem, Combination.policyText?_eq_some_iff]

/-- No rule prunes a combination that names no policy. -/
theorem prunes_of_unnamed
    (h : ∀ policy, c.get? CommonField.policyType.name ≠ some (.text policy)) :
    r.prunes c = false := by
  rw [← Bool.not_eq_true, prunes_iff]
  rintro ⟨policy, hpolicy, -⟩
  exact h policy hpolicy

end Rule

namespace Constraints

variable {t u : Constraints}

/-- Adds rules one after another. -/
def addAll (t : Constraints) (rs : List Rule) : Constraints := rs.foldl add t

theorem rules_addAll (t : Constraints) (rs : List Rule) :
    (t.addAll rs).rules = t.rules ++ rs := by
  rw [addAll]
  induction rs generalizing t with
  | nil => rw [List.foldl_nil, List.append_nil]
  | cons r rs ih => rw [List.foldl_cons, ih, add, List.append_assoc, List.singleton_append]

/-- A combination is accepted when none of the rules prunes it. -/
theorem accepts_eq (t : Constraints) (c : Combination) :
    t.accepts c = t.rules.all (!·.prunes c) := by
  rw [Bool.eq_iff_iff, accepts_iff, List.all_eq_true]
  simp only [Bool.not_eq_true', ← Bool.not_eq_true, Rule.prunes, Option.any_eq_true, not_exists,
    Rule.rejects, Bool.and_eq_true, decide_eq_true_eq, not_and]
  exact ⟨fun h r hr policy hpolicy => h policy hpolicy r hr,
    fun h policy hpolicy r hr => h r hr policy hpolicy⟩

/-- Further rules take away what they prune themselves. -/
theorem accepts_addAll (t : Constraints) (rs : List Rule) (c : Combination) :
    (t.addAll rs).accepts c = (t.accepts c && rs.all (!·.prunes c)) := by
  rw [accepts_eq, rules_addAll, List.all_append, ← accepts_eq]

/-- The order of the rules does not matter. -/
theorem accepts_eq_of_perm (h : t.rules.Perm u.rules) : t.accepts = u.accepts := by
  funext c
  rw [accepts_eq, accepts_eq]
  exact h.all_eq

/-- A combination that names no policy is always accepted. -/
theorem accepts_of_unnamed (t : Constraints)
    (h : ∀ policy, c.get? CommonField.policyType.name ≠ some (.text policy)) :
    t.accepts c = true := by
  rw [accepts_eq, List.all_eq_true]
  intro r _
  rw [Rule.prunes_of_unnamed h, Bool.not_false]

end Constraints

namespace Enumeration

/-- At the end every combination of the product was given out or passed over. -/
theorem counters_drain (s : Spec) (t : Constraints) :
    (start s t).drain.2.givenOut = s.product.countP t.accepts ∧
      (start s t).drain.2.passedOver = s.product.countP (!t.accepts ·) ∧
      (start s t).drain.2.givenOut + (start s t).drain.2.passedOver = s.product.length := by
  have hgiven : (start s t).drain.2.givenOut = s.product.countP t.accepts := by
    rw [drain_start_eq]
    exact Nat.zero_add _
  have hpassed : (start s t).drain.2.passedOver = s.product.countP (!t.accepts ·) := by
    rw [drain_start_eq]
    exact Nat.zero_add _
  refine ⟨hgiven, hpassed, ?_⟩
  rw [hgiven, hpassed, List.length_eq_countP_add_countP t.accepts]
  simp only [Bool.not_eq_true, Bool.decide_eq_false]

/-- **Constraints are put together rule by rule.** Under further rules an enumeration gives out the
combinations that it gives out without them, in the same order, less those that one of the further
rules prunes: it concerns the policy named by the combination and judges against the combination. At
the end as many combinations were given out and passed over together as without them. What is given
out and both counters at the end are the same for every order of the rules. A combination that names
no policy is accepted by every table, so it is given out. -/
theorem drain_addAll (s : Spec) (t : Constraints) (rs : List Rule) :
    let before := (start s t).drain
    let after := (start s (t.addAll rs)).drain
    after.1 = before.1.filter (fun c => !rs.any (·.prunes c)) ∧
      (∀ (c : Combination) (r : Rule), r.prunes c = true ↔
        ∃ policy, c.get? CommonField.policyType.name = some (.text policy) ∧
          policy ∈ r.policies ∧ r.holds? c = some false) ∧
      before.2.place? = none ∧ after.2.place? = none ∧
      after.2.givenOut + after.2.passedOver = before.2.givenOut + before.2.passedOver ∧
      (∀ u : Constraints, u.rules.Perm (t.rules ++ rs) →
        (start s u).drain.1 = after.1 ∧ (start s u).drain.2.givenOut = after.2.givenOut ∧
          (start s u).drain.2.passedOver = after.2.passedOver) ∧
      ∀ c, (∀ policy, c.get? CommonField.policyType.name ≠ some (.text policy)) →
        ∀ u : Constraints, u.accepts c = true ∧ (c ∈ s.product → c ∈ (start s u).drain.1) := by
  intro before after
  have hdrained (u : Constraints) : (start s u).drain.1 = s.product.filter u.accepts :=
    congrArg Prod.fst (drain_start_eq s u)
  have hended (u : Constraints) : (start s u).drain.2.place? = none := by
    rw [drain_start_eq]
    rfl
  refine ⟨?_, fun _ _ => Rule.prunes_iff, hended t, hended (t.addAll rs), ?_, fun u hu => ?_,
    fun c hunnamed u => ?_⟩
  · rw [show after.1 = _ from hdrained (t.addAll rs), show before.1 = _ from hdrained t,
      List.filter_filter]
    refine List.filter_congr fun c _ => ?_
    rw [Constraints.accepts_addAll, Bool.and_comm, List.not_any_eq_all_not]
  · obtain ⟨-, -, hafter⟩ := counters_drain s (t.addAll rs)
    obtain ⟨-, -, hbefore⟩ := counters_drain s t
    exact hafter.trans hbefore.symm
  · have haccepts : u.accepts = (t.addAll rs).accepts :=
      Constraints.accepts_eq_of_perm (Constraints.rules_addAll t rs ▸ hu)
    obtain ⟨hgiven, hpassed, -⟩ := counters_drain s u
    obtain ⟨hgiven', hpassed', -⟩ := counters_drain s (t.addAll rs)
    rw [haccepts] at hgiven hpassed
    refine ⟨?_, hgiven.trans hgiven'.symm, hpassed.trans hpassed'.symm⟩
    rw [show after.1 = _ from hdrained (t.addAll rs), hdrained, haccepts]
  · have haccepts := Constraints.accepts_of_unnamed u hunnamed
    refine ⟨haccepts, fun hc => ?_⟩
    rw [hdrained]
    exact List.mem_filter.mpr ⟨hc, haccepts⟩

/-- A policy with standard rules, one without, and a value that names none. -/
def namedOrNot : Spec :=
  ⟨[⟨"policy_type", [.text "lru", .text "clock", .int 5]⟩, ⟨"num_tiers", [.int 2, .int 4]⟩]⟩

/-- No more than three tiers under two of the policies, as far as the number is known. -/
def fewTiers : Rule where
  name := "few_tiers"
  policies := ["lru", "clock"]
  holds? c := (c.binary64? "num_tiers").map (·.le (.ofInt 3))

/-- A rule that never judges. -/
def silent : Rule := ⟨"silent", ["lru"], fun _ => none⟩

theorem drain_addAll_namedOrNot :
    let rs := [fewTiers, silent]
    let reversed : Constraints := ⟨(Constraints.standard.rules ++ rs).reverse⟩
    let unnamed : Combination := ⟨[("policy_type", .int 5), ("num_tiers", .int 4)]⟩
    reversed.rules.Perm (Constraints.standard.rules ++ rs) ∧
      (∀ policy, unnamed.get? CommonField.policyType.name ≠ some (.text policy)) ∧
      unnamed ∈ namedOrNot.product ∧ unnamed ∈ (start namedOrNot reversed).drain.1 ∧
      (start namedOrNot reversed).drain.1
        = (start namedOrNot .standard).drain.1.filter (fun c => !rs.any (·.prunes c)) ∧
      (start namedOrNot reversed).drain.1.length = 4 := by
  intro rs reversed unnamed
  obtain ⟨hless, -, -, -, -, horder, hnamed⟩ := drain_addAll namedOrNot .standard rs
  have hperm : reversed.rules.Perm (Constraints.standard.rules ++ rs) := List.reverse_perm _
  have hunnamed : ∀ policy, unnamed.get? CommonField.policyType.name ≠ some (.text policy) := by
    simp [unnamed, Combination.get?, CommonField.name, Value.int]
  have hmem : unnamed ∈ namedOrNot.product := by decide
  exact ⟨hperm, hunnamed, hmem, (hnamed unnamed hunnamed reversed).2 hmem,
    (horder reversed hperm).1.trans hless, by decide +kernel⟩

end Enumeration

end TierSweep
