import TierSweep.Proofs.Enumeration.Draws
import TierSweep.Proofs.Number.Comparison
import TierSweep.Proofs.Run.Dependence

/-!
# What the standard constraints let pass

A table accepts a combination unless it names a policy and some rule that concerns the policy judges
against the combination; which rule is asked first does not matter for that
(`Constraints.accepts_iff`). The standard rules compare a hot and a cold limit of the combination as
doubles. Where the limits are integers, a rule judges against the combination only if they are out of
order, but it does not do so if both are the same double. That cannot happen up to `2 ^ 53`.

## Main definitions

* `Combination.limit?` — a limit that is an integer.
* `Combination.KeepsOrder` — the limits of a combination are in order where its policy asks for it.

## Main results

* `Constraints.accepts_iff`, `Constraints.accepts_standard_iff`.
* `Enumeration.mem_drain_iff_keepsOrder`.
-/

namespace TierSweep

/-- The limits that the standard rules compare. -/
def Rule.compared : List TuningField := [.hotThreshold, .coldThreshold, .hotCount, .coldCount]

namespace Combination

/-- The limits that are there are integers. -/
def HasIntegerLimits (c : Combination) : Prop :=
  ∀ f ∈ Rule.compared, ∀ v ∈ c.get? f.name, v.kind = "int"

instance (c : Combination) : Decidable c.HasIntegerLimits :=
  inferInstanceAs (Decidable (∀ f ∈ Rule.compared, ∀ v ∈ c.get? f.name, v.kind = "int"))

/-- The integer given for a limit, if one is. -/
def limit? (c : Combination) (f : TuningField) : Option ℤ :=
  match c.get? f.name with
  | some (.number (.int n)) => some n.toInt
  | _ => none

/-- Integer limits of a combination are in order, in a given sense, where its policy asks for it:
thresholds under `lru` and `hybrid`, counts under `frequency` and `hybrid`. -/
structure KeepsOrder (c : Combination) (atMost : ℤ → ℤ → Prop) : Prop where
  thresholds : c.HasPolicy .lru ∨ c.HasPolicy .hybrid →
    ∀ hot ∈ c.limit? .hotThreshold, ∀ cold ∈ c.limit? .coldThreshold, atMost hot cold
  counts : c.HasPolicy .frequency ∨ c.HasPolicy .hybrid →
    ∀ cold ∈ c.limit? .coldCount, ∀ hot ∈ c.limit? .hotCount, atMost cold hot

variable {c : Combination}

theorem KeepsOrder.imp {R S : ℤ → ℤ → Prop} (h : c.KeepsOrder R) (himp : ∀ n m, R n m → S n m) :
    c.KeepsOrder S where
  thresholds hpolicy hot hhot cold hcold := himp _ _ (h.thresholds hpolicy hot hhot cold hcold)
  counts hpolicy cold hcold hot hhot := himp _ _ (h.counts hpolicy cold hcold hot hhot)

instance (c : Combination) (p : Policy) : Decidable (c.HasPolicy p) :=
  inferInstanceAs (Decidable (c.get? CommonField.policyType.name = some (.text p.name)))

instance (c : Combination) (atMost : ℤ → ℤ → Prop) [DecidableRel atMost] :
    Decidable (c.KeepsOrder atMost) :=
  decidable_of_iff
    ((c.HasPolicy .lru ∨ c.HasPolicy .hybrid →
      ∀ hot ∈ c.limit? .hotThreshold, ∀ cold ∈ c.limit? .coldThreshold, atMost hot cold) ∧
    (c.HasPolicy .frequency ∨ c.HasPolicy .hybrid →
      ∀ cold ∈ c.limit? .coldCount, ∀ hot ∈ c.limit? .hotCount, atMost cold hot))
    ⟨fun ⟨hthresholds, hcounts⟩ => ⟨hthresholds, hcounts⟩,
      fun ⟨hthresholds, hcounts⟩ => ⟨hthresholds, hcounts⟩⟩

theorem policyText?_eq_some_iff {policy : String} :
    c.policyText? = some policy ↔ c.get? CommonField.policyType.name = some (.text policy) := by
  rw [policyText?, Option.bind_eq_bind, Option.bind_eq_some_iff]
  constructor
  · rintro ⟨v, hv, htext⟩
    cases v with
    | text s => rwa [← Option.some_inj.mp htext]
    | bool b => cases htext
    | number n => cases htext
  · exact fun h => ⟨_, h, rfl⟩

/-- A limit that is an integer is read as the double nearest to it. -/
theorem binary64?_eq_map_limit? {f : TuningField} (h : ∀ v ∈ c.get? f.name, v.kind = "int") :
    c.binary64? f.name = (c.limit? f).map Binary64.ofInt := by
  rw [binary64?, limit?]
  cases hv : c.get? f.name with
  | none => rfl
  | some v =>
    have hkind := h v hv
    rcases v with _ | (n | x) | _
    · exact absurd hkind (by simp [Value.kind])
    · rfl
    · exact absurd hkind (by simp [Value.kind])
    · exact absurd hkind (by simp [Value.kind])

end Combination

open Combination

variable {c : Combination}

/-! ### Tables -/

/-- A combination is accepted unless a rule that concerns its policy judges against it. -/
theorem Constraints.accepts_iff {t : Constraints} : t.accepts c = true ↔
    ∀ policy, c.policyText? = some policy → ∀ r ∈ t.rules, r.concerns policy = true →
      r.holds? c ≠ some false := by
  have hrejects (policy : String) : t.rules.find? (·.rejects policy c) = none ↔
      ∀ r ∈ t.rules, r.concerns policy = true → r.holds? c ≠ some false := by
    simp only [List.find?_eq_none, Rule.rejects, Bool.and_eq_true, not_and, decide_eq_true_eq, ne_eq]
  rw [accepts, rejecting?]
  cases hpolicy : c.policyText? with
  | none => simp
  | some policy =>
    simp only [Option.some_inj, forall_eq', ← hrejects]
    cases hfind : t.rules.find? (·.rejects policy c) <;> simp [hfind]

/-- A rule for two policies is asked about the combinations that name one of them. -/
private theorem forall_concerns_iff {r : Rule} {p q : Policy} (hr : r.policies = [p.name, q.name])
    {P : Prop} : (∀ policy, c.policyText? = some policy → r.concerns policy = true → P) ↔
      (c.HasPolicy p ∨ c.HasPolicy q → P) := by
  simp only [policyText?_eq_some_iff, Rule.concerns, hr, List.contains_cons, List.contains_nil,
    Bool.or_false, Bool.or_eq_true, beq_iff_eq, HasPolicy]
  constructor
  · rintro h (hp | hq)
    · exact h _ hp (.inl rfl)
    · exact h _ hq (.inr rfl)
  · rintro h policy hpolicy (rfl | rfl)
    · exact h (.inl hpolicy)
    · exact h (.inr hpolicy)

theorem Constraints.accepts_standard_iff : standard.accepts c = true ↔
    (c.HasPolicy .lru ∨ c.HasPolicy .hybrid →
      Rule.atMost .hotThreshold .coldThreshold c ≠ some false) ∧
    (c.HasPolicy .frequency ∨ c.HasPolicy .hybrid →
      Rule.atMost .coldCount .hotCount c ≠ some false) := by
  rw [accepts_iff, ← forall_concerns_iff (r := .coldAfterHot) rfl,
    ← forall_concerns_iff (r := .coldRarerThanHot) rfl]
  simp only [standard, List.forall_mem_cons, List.not_mem_nil, false_imp_iff, implies_true, and_true,
    forall_and]
  rfl

/-! ### Integers -/

/-- A comparison of integer limits fails only if they are out of order and different doubles. -/
theorem Rule.atMost_ne_some_false_iff {low high : TuningField}
    (hlow : ∀ v ∈ c.get? low.name, v.kind = "int") (hhigh : ∀ v ∈ c.get? high.name, v.kind = "int") :
    Rule.atMost low high c ≠ some false ↔
      ∀ l ∈ c.limit? low, ∀ h ∈ c.limit? high, l ≤ h ∨ Binary64.ofInt l = Binary64.ofInt h := by
  rw [Rule.atMost, binary64?_eq_map_limit? hlow, binary64?_eq_map_limit? hhigh]
  cases c.limit? low with
  | none => simp
  | some l =>
    cases c.limit? high with
    | none => simp
    | some h => simp [Binary64.le_ofInt_iff]

/-- Integer limits are accepted if every pair that is asked for is in order or a single double. -/
theorem Constraints.accepts_standard_iff_keepsOrder (h : c.HasIntegerLimits) :
    standard.accepts c = true ↔
      c.KeepsOrder fun n m => n ≤ m ∨ Binary64.ofInt n = Binary64.ofInt m := by
  rw [accepts_standard_iff,
    Rule.atMost_ne_some_false_iff (h .hotThreshold (by decide)) (h .coldThreshold (by decide)),
    Rule.atMost_ne_some_false_iff (h .coldCount (by decide)) (h .hotCount (by decide))]
  exact ⟨fun ⟨hthresholds, hcounts⟩ => ⟨hthresholds, hcounts⟩,
    fun ⟨hthresholds, hcounts⟩ => ⟨hthresholds, hcounts⟩⟩

namespace Enumeration

/-- **Integer limits under the standard constraints.** A combination of a specification whose limits
are integers is given out exactly if the limits that its policy compares are in order or are the same
double. So none whose limits are in order is passed over, and as long as the limits are at most
`2 ^ 53` the combinations given out are exactly those whose limits are in order. -/
theorem mem_drain_iff_keepsOrder (s : Spec) (hc : c ∈ s.product) (h : c.HasIntegerLimits) :
    (c ∈ (start s .standard).drain.1 ↔
      c.KeepsOrder fun n m => n ≤ m ∨ Binary64.ofInt n = Binary64.ofInt m) ∧
    (c.KeepsOrder (· ≤ ·) → c ∈ (start s .standard).drain.1) ∧
    ((∀ f ∈ Rule.compared, ∀ n ∈ c.limit? f, n.natAbs ≤ 2 ^ 53) →
      (c ∈ (start s .standard).drain.1 ↔ c.KeepsOrder (· ≤ ·))) := by
  have hiff : c ∈ (start s .standard).drain.1 ↔
      c.KeepsOrder fun n m => n ≤ m ∨ Binary64.ofInt n = Binary64.ofInt m := by
    rw [drain_start_eq, List.mem_filter, Constraints.accepts_standard_iff_keepsOrder h]
    exact and_iff_right hc
  have hkept (hordered : c.KeepsOrder (· ≤ ·)) : c ∈ (start s .standard).drain.1 :=
    hiff.mpr (hordered.imp fun _ _ => .inl)
  refine ⟨hiff, hkept, fun hsmall => ⟨fun hmem => ?_, hkept⟩⟩
  have hexact {n m : ℤ} (hn : n.natAbs ≤ 2 ^ 53) (hm : m.natAbs ≤ 2 ^ 53)
      (hle : n ≤ m ∨ Binary64.ofInt n = Binary64.ofInt m) : n ≤ m :=
    hle.elim id fun heq => (Binary64.ofInt_injOn hn hm heq).le
  have hrounded := hiff.mp hmem
  constructor
  · intro hpolicy hot hhot cold hcold
    exact hexact (hsmall _ (by decide) hot hhot) (hsmall _ (by decide) cold hcold)
      (hrounded.thresholds hpolicy hot hhot cold hcold)
  · intro hpolicy cold hcold hot hhot
    exact hexact (hsmall _ (by decide) cold hcold) (hsmall _ (by decide) hot hhot)
      (hrounded.counts hpolicy cold hcold hot hhot)

/-- Thresholds out of order by one, which are the same double, and counts in order. -/
def adjacent : Combination :=
  ⟨[("policy_type", .text "hybrid"), ("hot_threshold", .int 9007199254740993),
    ("cold_threshold", .int 9007199254740992), ("hot_count", .int 9223372036854775807),
    ("cold_count", .int (-9223372036854775808))]⟩

/-- The specification of these limits alone. -/
def adjacentSpec : Spec := ⟨adjacent.entries.map fun p => ⟨p.1, [p.2]⟩⟩

/-- Thresholds out of order among those of `thresholds`. -/
def crossed : Combination :=
  ⟨[("policy_type", .text "lru"), ("hot_threshold", .int 15), ("cold_threshold", .int 10)]⟩

theorem mem_drain_iff_keepsOrder_adjacent :
    (adjacent ∈ adjacentSpec.product ∧ adjacent.HasIntegerLimits ∧
      adjacent ∈ (start adjacentSpec .standard).drain.1) ∧
    crossed ∈ thresholds.product ∧ crossed.HasIntegerLimits ∧
      crossed ∉ (start thresholds .standard).drain.1 := by
  have hadjacent : adjacent ∈ adjacentSpec.product := by decide
  have hlimits : adjacent.HasIntegerLimits := by decide
  have hcrossed : crossed ∈ thresholds.product := by decide
  have hlimits' : crossed.HasIntegerLimits := by decide
  obtain ⟨hrounded, -, -⟩ := mem_drain_iff_keepsOrder adjacentSpec hadjacent hlimits
  obtain ⟨-, -, hsmall⟩ := mem_drain_iff_keepsOrder thresholds hcrossed hlimits'
  exact ⟨⟨hadjacent, hlimits, hrounded.mpr (by decide +kernel)⟩, hcrossed, hlimits',
    (hsmall (by decide)).not.mpr (by decide)⟩

/-- Integer limits that are out of order are given out if they are the same double. -/
theorem adjacent_given_out :
    adjacent ∈ adjacentSpec.product ∧ adjacent.HasIntegerLimits ∧
      adjacent ∈ (start adjacentSpec .standard).drain.1 ∧ ¬adjacent.KeepsOrder (· ≤ ·) :=
  ⟨by decide, by decide, by decide +kernel, by decide⟩

end Enumeration

end TierSweep
