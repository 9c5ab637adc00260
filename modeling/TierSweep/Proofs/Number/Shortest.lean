import Mathlib.Algebra.Order.Field.Power
import Mathlib.Data.Nat.Log
import TierSweep.Proofs.Number.Rounding

/-!
# The shortest decimal reads back

A decimal that is written for a magnitude lies in the rounding interval of its rank
(`Shortest.roundsTo_ofRank`), so it is read back as that rank and as no other. The search is over the
grids from the leading digit of the magnitude downwards. On each of them the two neighbours of the
magnitude are tried. The last grid is narrower than the gap above the magnitude, so the neighbour
above lies in the interval there, and the search succeeds on that grid at the latest.

## Main definitions

* `Decimal.value` — the number a decimal stands for.
* `Binary64.RoundsTo` — a number rounds to the magnitude of a rank.

## Main results

* `Binary64.RoundsTo.rank_eq` — a number rounds to one rank only.
* `Shortest.roundsTo_ofRank`.
-/

namespace TierSweep

namespace Decimal

/-- The number a decimal stands for. -/
def value (d : Decimal) : ℚ := d.digits * 10 ^ d.exponent

theorem length_eq_log (n : ℕ) : length n = Nat.log 10 n + 1 := by
  fun_induction length n with
  | case1 n h => rw [Nat.log_of_lt h]
  | case2 n h ih => rw [ih, Nat.log_of_one_lt_of_le (by decide) (Nat.not_lt.mp h)]

end Decimal

namespace Binary64

/-- The number one in half units. -/
@[irreducible] def one : ℕ := twoTo 1075

theorem one_pos : 0 < one := by
  unfold one
  exact twoTo_pos 1075

theorem one_eq : one = 2 * twoTo 1074 := by
  unfold one
  exact twoTo_eq_two_mul (by decide)

/-- The number rounds to the magnitude of the rank. -/
def RoundsTo (x : ℚ) (rank : ℕ) : Prop := (Shortest.Interval.ofRank rank).Contains (x * one)

theorem roundsTo_zero : RoundsTo 0 0 := by
  have h := Shortest.Interval.contains_units 0
  rwa [units_zero, Nat.cast_zero, mul_zero, ← zero_mul (one : ℚ)] at h

theorem RoundsTo.rank_eq {x : ℚ} {rank rank' : ℕ} (h : RoundsTo x rank) (h' : RoundsTo x rank') :
    rank = rank' :=
  Shortest.Interval.rank_eq_of_contains h h'

end Binary64

namespace Shortest

open Binary64

/-! ### One grid -/

theorem gridStep_of_nonneg {e : ℤ} (he : 0 ≤ e) : gridStep e = (tenTo e.toNat * one, 1) := by
  unfold gridStep one
  exact if_pos he

theorem gridStep_of_neg {e : ℤ} (he : ¬0 ≤ e) : gridStep e = (one, tenTo (-e).toNat) := by
  unfold gridStep one
  exact if_neg he

theorem cast_tenTo (k : ℕ) : (tenTo k : ℚ) = 10 ^ (k : ℤ) := by
  rw [zpow_natCast, tenTo, Nat.pow_eq, Nat.cast_pow, Nat.cast_ofNat]

/-- The step of a grid in half units. -/
theorem gridStep_spec (e : ℤ) : 0 < (gridStep e).1 ∧ 0 < (gridStep e).2 ∧
    ((gridStep e).1 / (gridStep e).2 : ℚ) = 10 ^ e * one := by
  have hten (k : ℕ) : 0 < tenTo k := Nat.pow_pos (by decide)
  by_cases he : 0 ≤ e
  · rw [gridStep_of_nonneg he]
    refine ⟨Nat.mul_pos (hten _) one_pos, Nat.one_pos, ?_⟩
    rw [Nat.cast_mul, Nat.cast_one, div_one, cast_tenTo, Int.toNat_of_nonneg he]
  · rw [gridStep_of_neg he]
    refine ⟨one_pos, hten _, ?_⟩
    rw [cast_tenTo, Int.toNat_of_nonneg (by omega), zpow_neg, div_inv_eq_mul, mul_comm]

variable {tie : Tie} {i : Interval} {half : ℕ} {e : ℤ}

/-- A neighbour that is tried is a point of the grid. -/
theorem holds_gridStep_iff {n : ℕ} :
    i.holds (n * (gridStep e).1) (gridStep e).2 = true ↔ i.Contains (n * 10 ^ e * one) := by
  obtain ⟨-, hden, hgrid⟩ := gridStep_spec e
  rw [Interval.holds_iff hden, Nat.cast_mul, mul_div_assoc, hgrid, mul_assoc]

/-- What is taken from a grid lies in the interval. -/
theorem contains_of_onGrid? {n : ℕ} (h : onGrid? tie i half e = some n) :
    i.Contains (n * 10 ^ e * one) := by
  rw [onGrid?] at h
  dsimp only at h
  refine holds_gridStep_iff.mp ?_
  split at h
  · next hbelow _ => rwa [← Option.some_inj.mp h]
  · next _ habove => rwa [← Option.some_inj.mp h]
  · cases h
  · next hbelow habove =>
    split at h
    · rwa [← Option.some_inj.mp h]
    · split at h
      · rwa [← Option.some_inj.mp h]
      · split at h
        · rwa [← Option.some_inj.mp h]
        · rw [← Option.some_inj.mp h]
          split <;> assumption

/-- A grid with a step less than what is left of the interval above the magnitude has a point in it. -/
theorem exists_onGrid? (hlow : i.low ≤ half) (hhigh : half + 10 ^ e * one < (i.high : ℚ)) :
    ∃ n, onGrid? tie i half e = some n := by
  obtain ⟨hstep, hden, hgrid⟩ := gridStep_spec e
  have hden' : (0 : ℚ) < (gridStep e).2 := by exact_mod_cast hden
  have habove : i.Contains ((half * (gridStep e).2 / (gridStep e).1 + 1 : ℕ) * 10 ^ e * one) := by
    set step := (gridStep e).1
    set den := (gridStep e).2
    have hbelow : (half * den / step : ℕ) * step ≤ half * den := Nat.div_mul_le_self _ _
    have habove : half * den < (half * den / step + 1 : ℕ) * step :=
      (Nat.div_lt_iff_lt_mul hstep).mp (Nat.lt_succ_self _)
    rw [mul_assoc, ← hgrid, ← mul_div_assoc]
    apply Interval.contains_of_lt
    · refine lt_of_le_of_lt (Nat.cast_le.mpr hlow) ?_
      rw [lt_div_iff₀ hden']
      exact_mod_cast habove
    · refine lt_of_le_of_lt ?_ hhigh
      rw [← hgrid, div_le_iff₀ hden', add_mul, div_mul_cancel₀ _ hden'.ne']
      exact_mod_cast (by rw [Nat.add_one_mul]; exact Nat.add_le_add_right hbelow step)
  have hholds := holds_gridStep_iff.mpr habove
  rw [onGrid?]
  dsimp only
  rw [hholds]
  split
  · exact ⟨_, rfl⟩
  · exact ⟨_, rfl⟩
  · contradiction
  · split
    · exact ⟨_, rfl⟩
    · split
      · exact ⟨_, rfl⟩
      · split <;> exact ⟨_, rfl⟩

/-! ### The search -/

/-- What the search ends with lies in the interval, if some grid that it comes to has a point there. -/
theorem contains_search {fuel : ℕ} (h : ∃ k < fuel, ∃ n, onGrid? tie i half (e - k) = some n) :
    i.Contains ((search tie i half e fuel).value * one) := by
  induction fuel generalizing e with
  | zero =>
    obtain ⟨k, hk, -⟩ := h
    cases hk
  | succ fuel ih =>
    rw [search]
    cases hgrid : onGrid? tie i half e with
    | some n => exact contains_of_onGrid? hgrid
    | none =>
      obtain ⟨k, hk, n, hn⟩ := h
      cases k with
      | zero =>
        rw [Nat.cast_zero, sub_zero, hgrid] at hn
        cases hn
      | succ k =>
        refine ih ⟨k, Nat.lt_of_succ_lt_succ hk, n, ?_⟩
        rwa [sub_sub, add_comm, ← Nat.cast_succ]

/-- Trailing zeros do not count. -/
theorem value_trim (fuel : ℕ) (d : Decimal) : (trim fuel d).value = d.value := by
  induction fuel generalizing d with
  | zero => rfl
  | succ fuel ih =>
    rw [trim]
    split
    · next h =>
      rw [ih, Decimal.value, Decimal.value]
      have hdigits : (d.digits : ℚ) = (d.digits / 10 : ℕ) * 10 := by
        exact_mod_cast (Nat.div_mul_cancel (Nat.dvd_of_mod_eq_zero h.2)).symm
      rw [zpow_add_one₀ (by norm_num), hdigits]
      ring
    · rfl

/-- A power of two is at most a power of ten if some roots of them are. -/
theorem twoTo_le_tenTo {a b : ℕ} (m n k : ℕ) (ha : a = m * k) (hb : b = n * k) (h : 2 ^ m ≤ 10 ^ n) :
    twoTo a ≤ tenTo b := by
  subst ha hb
  simp only [twoTo, tenTo, Nat.pow_eq, pow_mul]
  exact Nat.pow_le_pow_left h k

/-- The leading digit of a magnitude is at least one. -/
theorem pow_leadingExponent_le {units : ℕ} (h : 0 < units) :
    (10 : ℚ) ^ leadingExponent units * one ≤ 2 * units := by
  have hpos : 0 < twoTo 1074 := twoTo_pos 1074
  rw [one_eq, leadingExponent]
  have hunit : twoTo 1074 ≤ tenTo 324 :=
    twoTo_le_tenTo 179 54 6 (by decide) (by decide) (by norm_num)
  have hten : (tenTo 324 : ℚ) = 10 ^ (324 : ℤ) := cast_tenTo 324
  generalize twoTo 1074 = unit at *
  generalize tenTo 324 = scale at *
  have hn : units * scale / unit ≠ 0 := by
    have hle : 1 * unit ≤ units * scale := Nat.mul_le_mul h hunit
    exact Nat.one_le_iff_ne_zero.mp ((Nat.le_div_iff_mul_le hpos).mpr hle)
  set n := units * scale / unit
  have hlead : (Decimal.length n : ℤ) - 325 = Nat.log 10 n - 324 := by
    rw [Decimal.length_eq_log]
    push_cast
    ring
  have hle : (10 : ℚ) ^ Nat.log 10 n * unit ≤ units * scale := by
    exact_mod_cast le_trans (Nat.mul_le_mul_right unit (Nat.pow_log_le_self 10 hn))
      (Nat.div_mul_le_self (units * scale) unit)
  rw [hlead, zpow_sub₀ (by norm_num), zpow_natCast, Nat.cast_mul, Nat.cast_two]
  have hscale : (0 : ℚ) < 10 ^ (324 : ℤ) := by positivity
  rw [div_mul_eq_mul_div, div_le_iff₀ hscale, ← hten]
  linarith

/-- **The shortest decimal reads back.** What is written for a magnitude rounds to its rank. -/
theorem roundsTo_ofRank (tie : Tie) (rank : ℕ) : RoundsTo (ofRank tie rank).value rank := by
  rw [ofRank]
  split
  · next h =>
    subst h
    rw [Decimal.value, Nat.cast_zero, zero_mul]
    exact roundsTo_zero
  · next h =>
    have hunits : 0 < units rank := strictMono_units (Nat.pos_of_ne_zero h)
    dsimp only
    rw [value_trim]
    refine contains_search ⟨17, by decide, exists_onGrid? ?_ ?_⟩
    · have hbelow := strictMono_units.monotone (Nat.sub_le rank 1)
      simp only [Interval.ofRank]
      omega
    · -- seventeen places below the leading digit, a step is less than the gap above
      have hlead := pow_leadingExponent_le hunits
      have hgap : (units rank + 2 ^ 53 * units rank : ℚ) < 2 ^ 53 * units (rank + 1) := by
        exact_mod_cast units_lt_mul_gap rank
      rw [zpow_sub₀ (by norm_num), Interval.ofRank]
      push_cast
      norm_num at hgap ⊢
      linarith

end Shortest

end TierSweep
