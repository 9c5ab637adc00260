import Mathlib.Algebra.Order.Field.Rat
import Mathlib.Tactic.FieldSimp
import Mathlib.Tactic.Linarith
import Mathlib.Tactic.Positivity
import Mathlib.Tactic.Ring
import TierSweep.Number.Shortest

/-!
# Rounding to a rank

The magnitudes of the finite doubles are `q * 2 ^ s` units, where `q` has at most fifty-three bits,
and exactly fifty-three unless `s = 0`. In these terms a rank is `s * 2 ^ 52 + q`, whichever of the
two readings is taken where they overlap (`Binary64.units_scale`), so the magnitudes increase with
the rank.

Every rational belongs to the rounding interval of one rank only, and larger rationals belong to
those of larger ranks (`Shortest.Interval.rank_le_of_contains`): two neighbouring intervals share a
midpoint, which belongs to the even rank. The rank nearest to a ratio is the one whose interval it
lies in (`Binary64.contains_nearestRank`).

## Main definitions

* `Shortest.Interval.Contains` — a rational lies in a rounding interval.

## Main results

* `Binary64.strictMono_units`, `Binary64.units_lt_mul_gap`.
* `Shortest.Interval.rank_le_of_contains`.
* `Binary64.contains_nearestRank`, `Binary64.nearestRank_le_nearestRank`.
-/

namespace TierSweep

theorem twoTo_pos (n : ℕ) : 0 < twoTo n := Nat.pow_pos Nat.two_pos

theorem twoTo_eq_two_mul {m n : ℕ} (h : m = n + 1) : twoTo m = 2 * twoTo n := by
  subst h
  exact Nat.pow_succ'

namespace Binary64

/-! ### Magnitudes -/

/-- The magnitude of the rank that has the digits `q` at the scale `2 ^ s`. -/
theorem units_scale {s q : ℕ} (hs : s = 0 ∨ 2 ^ 52 ≤ q) (hq : q ≤ 2 ^ 53) :
    units (s * 2 ^ 52 + q) = q * 2 ^ s := by
  rw [units]
  simp only [twoTo, Nat.pow_eq]
  by_cases hsmall : q < 2 ^ 52
  · obtain rfl : s = 0 := by omega
    rw [if_pos (by omega)]
    omega
  · rw [if_neg (by omega)]
    by_cases hlast : q < 2 ^ 53
    · have hfraction : (s * 2 ^ 52 + q) % 2 ^ 52 = q - 2 ^ 52 := by omega
      have hscale : (s * 2 ^ 52 + q) / 2 ^ 52 - 1 = s := by omega
      rw [hfraction, hscale, Nat.add_sub_cancel' (by omega)]
    · have hfraction : (s * 2 ^ 52 + q) % 2 ^ 52 = 0 := by omega
      have hscale : (s * 2 ^ 52 + q) / 2 ^ 52 - 1 = s + 1 := by omega
      have hq : q = 2 ^ 53 := by omega
      rw [hfraction, hscale, hq, Nat.add_zero, pow_succ 2 s]
      ring

theorem exists_scale (rank : ℕ) :
    ∃ s q, rank = s * 2 ^ 52 + q ∧ (s = 0 ∨ 2 ^ 52 ≤ q) ∧ q < 2 ^ 53 := by
  by_cases h : rank < 2 ^ 53
  · exact ⟨0, rank, by omega, .inl rfl, h⟩
  · exact ⟨rank / 2 ^ 52 - 1, 2 ^ 52 + rank % 2 ^ 52, by omega, .inr (by omega), by omega⟩

/-- One more digit at the same scale leads to the next rank. -/
theorem units_succ_scale {s q : ℕ} (hs : s = 0 ∨ 2 ^ 52 ≤ q) (hq : q < 2 ^ 53) :
    units (s * 2 ^ 52 + q + 1) = (q + 1) * 2 ^ s := by
  rw [Nat.add_assoc]
  exact units_scale (by omega) (by omega)

/-- Larger ranks are larger magnitudes. -/
theorem strictMono_units : StrictMono units := by
  refine strictMono_nat_of_lt_succ fun rank => ?_
  obtain ⟨s, q, rfl, hs, hq⟩ := exists_scale rank
  rw [units_scale hs hq.le, units_succ_scale hs hq]
  exact Nat.mul_lt_mul_of_pos_right (Nat.lt_succ_self q) (Nat.two_pow_pos s)

@[simp] theorem units_zero : units 0 = 0 := rfl

/-- A magnitude is less than `2 ^ 53` times the gap above it. -/
theorem units_lt_mul_gap (rank : ℕ) :
    units rank + 2 ^ 53 * units rank < 2 ^ 53 * units (rank + 1) := by
  obtain ⟨s, q, rfl, hs, hq⟩ := exists_scale rank
  rw [units_scale hs hq.le, units_succ_scale hs hq]
  have hscale := Nat.two_pow_pos s
  nlinarith

end Binary64

/-! ### Rounding intervals -/

namespace Shortest.Interval

open Binary64

/-- The rational lies in the interval. -/
def Contains (i : Interval) (x : ℚ) : Prop :=
  if i.closed then i.low ≤ x ∧ x ≤ i.high else i.low < x ∧ x < i.high

theorem holds_iff {i : Interval} {num den : ℕ} (hden : 0 < den) :
    i.holds num den = true ↔ i.Contains (num / den) := by
  have hpos : (0 : ℚ) < den := by exact_mod_cast hden
  rw [holds, Contains]
  split <;> simp only [decide_eq_true_eq, le_div_iff₀ hpos, div_le_iff₀ hpos, lt_div_iff₀ hpos,
    div_lt_iff₀ hpos] <;> norm_cast

theorem Contains.le {i : Interval} {x : ℚ} (h : i.Contains x) : i.low ≤ x ∧ x ≤ i.high := by
  rw [Contains] at h
  split at h
  · exact h
  · exact ⟨h.1.le, h.2.le⟩

theorem contains_of_lt {i : Interval} {x : ℚ} (hlow : i.low < x) (hhigh : x < i.high) :
    i.Contains x := by
  rw [Contains]
  split
  · exact ⟨hlow.le, hhigh.le⟩
  · exact ⟨hlow, hhigh⟩

/-- The interval of a rank ends where that of the next one begins. -/
theorem low_ofRank_succ (rank : ℕ) : (ofRank (rank + 1)).low = (ofRank rank).high := rfl

theorem high_ofRank_mono {r r' : ℕ} (h : r ≤ r') : (ofRank r).high ≤ (ofRank r').high :=
  Nat.add_le_add (strictMono_units.monotone h) (strictMono_units.monotone (Nat.succ_le_succ h))

theorem high_ofRank_lt {r r' : ℕ} (h : r < r') : (ofRank r).high < (ofRank r').high :=
  Nat.add_lt_add (strictMono_units h) (strictMono_units (Nat.succ_lt_succ h))

/-- The intervals of larger ranks lie higher. -/
theorem rank_le_of_contains {r r' : ℕ} {x x' : ℚ} (h : (ofRank r).Contains x)
    (h' : (ofRank r').Contains x') (hle : x ≤ x') : r ≤ r' := by
  by_contra! hlt
  obtain ⟨k, rfl⟩ : ∃ k, r = k + 1 := ⟨r - 1, by omega⟩
  have hhigh : ((ofRank r').high : ℚ) ≤ (ofRank k).high := by
    exact_mod_cast high_ofRank_mono (Nat.le_of_lt_succ hlt)
  have hlow := h.le.1
  rw [low_ofRank_succ] at hlow
  -- both rationals are the one end that the two intervals share
  have hx : x = (ofRank k).high := le_antisymm (by linarith [h'.le.2]) hlow
  have hx' : x' = (ofRank r').high := le_antisymm h'.le.2 (by linarith)
  have hsame : k = r' := by
    by_contra hne
    have hstrict : ((ofRank r').high : ℚ) < (ofRank k).high := by
      exact_mod_cast high_ofRank_lt (by omega)
    linarith
  subst hsame
  -- and it belongs to the even rank alone
  rw [Contains] at h h'
  split at h
  · next heven =>
    have hodd : ¬(ofRank k).closed = true := by
      simp only [ofRank, decide_eq_true_eq] at heven ⊢
      omega
    rw [if_neg hodd] at h'
    exact absurd hx' h'.2.ne
  · rw [low_ofRank_succ] at h
    exact absurd hx h.1.ne'

theorem rank_eq_of_contains {r r' : ℕ} {x : ℚ} (h : (ofRank r).Contains x)
    (h' : (ofRank r').Contains x) : r = r' :=
  le_antisymm (rank_le_of_contains h h' le_rfl) (rank_le_of_contains h' h le_rfl)

/-- A magnitude belongs to the interval of its rank. -/
theorem contains_units (rank : ℕ) : (ofRank rank).Contains (2 * units rank) := by
  have hhigh : (2 * units rank : ℚ) < (ofRank rank).high := by
    have hgap := strictMono_units rank.lt_add_one
    simp only [ofRank]
    exact_mod_cast (by omega : 2 * units rank < units rank + units (rank + 1))
  cases rank with
  | zero => simp [Contains, ofRank]
  | succ k =>
    refine contains_of_lt ?_ hhigh
    have hgap := strictMono_units k.lt_add_one
    simp only [ofRank, Nat.add_sub_cancel]
    exact_mod_cast (by omega : units k + units (k + 1) < 2 * units (k + 1))

end Shortest.Interval

/-! ### The nearest rank -/

namespace Binary64

open Shortest

/-- The scale at which the whole part of a ratio has at most fifty-three bits, and fifty-three unless
it is one. -/
private theorem scale_bounds (m : ℕ) :
    (Nat.log2 m - 52 = 0 ∨ 2 ^ 52 ≤ m / 2 ^ (Nat.log2 m - 52)) ∧
      m / 2 ^ (Nat.log2 m - 52) < 2 ^ 53 := by
  have hscale := Nat.two_pow_pos (Nat.log2 m - 52)
  constructor
  · by_cases hs : Nat.log2 m - 52 = 0
    · exact .inl hs
    · have hm : m ≠ 0 := by
        rintro rfl
        exact hs (by decide)
      refine .inr ((Nat.le_div_iff_mul_le hscale).mpr ?_)
      rw [← pow_add, Nat.add_sub_cancel' (by omega)]
      exact Nat.log2_self_le hm
  · rw [Nat.div_lt_iff_lt_mul hscale, ← pow_add]
    exact Nat.lt_log2_self.trans_le (Nat.pow_le_pow_right (by decide) (by omega))

/-- A ratio lies in the rounding interval of the rank nearest to it. -/
theorem holds_nearestRank (num : ℕ) {den : ℕ} (hden : 0 < den) :
    (Interval.ofRank (nearestRank num den)).holds (2 * num) den = true := by
  rw [nearestRank]
  simp only [twoTo, Nat.pow_eq]
  obtain ⟨hs, hq⟩ := scale_bounds (num / den)
  rw [Nat.div_div_eq_div_mul] at hs hq
  set s := Nat.log2 (num / den) - 52
  have hnum : den * 2 ^ s * (num / (den * 2 ^ s)) + num % (den * 2 ^ s) = num :=
    Nat.div_add_mod num (den * 2 ^ s)
  have hrest : num % (den * 2 ^ s) < den * 2 ^ s :=
    Nat.mod_lt num (Nat.mul_pos hden (Nat.two_pow_pos s))
  set q := num / (den * 2 ^ s)
  set rest := num % (den * 2 ^ s)
  have hbelow : units (s * 2 ^ 52 + q) * den = den * 2 ^ s * q := by
    rw [units_scale hs hq.le]
    ring
  have habove : units (s * 2 ^ 52 + q + 1) * den = den * 2 ^ s * q + den * 2 ^ s := by
    rw [units_succ_scale hs hq]
    ring
  have hparity : (s * 2 ^ 52 + q) % 2 = q % 2 := by omega
  set below := s * 2 ^ 52 + q
  set scale := den * 2 ^ s
  split_ifs with hup
  · -- the ratio is past the middle, or at it with the odd rank below
    have hbeyond : units (below + 1) * den < units (below + 1 + 1) * den :=
      Nat.mul_lt_mul_of_pos_right (strictMono_units (below + 1).lt_add_one) hden
    rw [Interval.holds]
    simp only [Interval.ofRank, Nat.add_sub_cancel, Nat.add_mul, decide_eq_true_eq]
    split_ifs <;> rw [decide_eq_true_eq] <;> omega
  · have hbehind : units (below - 1) * den ≤ units below * den :=
      Nat.mul_le_mul_right den (strictMono_units.monotone (Nat.sub_le below 1))
    have hstrict : below = 0 ∨ units (below - 1) * den < units below * den := by
      rcases Nat.eq_zero_or_pos below with h | h
      · exact .inl h
      · exact .inr (Nat.mul_lt_mul_of_pos_right (strictMono_units (Nat.sub_one_lt_of_lt h)) hden)
    rw [Nat.add_zero, Interval.holds]
    simp only [Interval.ofRank, Nat.add_mul, decide_eq_true_eq]
    split_ifs <;> rw [decide_eq_true_eq] <;> omega

theorem contains_nearestRank (num : ℕ) {den : ℕ} (hden : 0 < den) :
    (Interval.ofRank (nearestRank num den)).Contains (2 * (num / den)) := by
  have h := (Interval.holds_iff hden).mp (holds_nearestRank num hden)
  rwa [Nat.cast_mul, Nat.cast_two, mul_div_assoc] at h

/-- Rounding keeps the order of ratios. -/
theorem nearestRank_le_nearestRank {num den num' den' : ℕ} (hden : 0 < den) (hden' : 0 < den')
    (h : (num / den : ℚ) ≤ num' / den') : nearestRank num den ≤ nearestRank num' den' :=
  Interval.rank_le_of_contains (contains_nearestRank num hden) (contains_nearestRank num' hden')
    (by linarith)

/-- A magnitude is its own nearest. -/
theorem nearestRank_units (rank : ℕ) : nearestRank (units rank) 1 = rank := by
  refine Interval.rank_eq_of_contains (contains_nearestRank (units rank) Nat.one_pos) ?_
  rw [Nat.cast_one, div_one]
  exact Interval.contains_units rank

end Binary64

end TierSweep
