import Mathlib.Algebra.Order.Ring.Abs
import TierSweep.Duration
import TierSweep.Proofs.Number.Exact

/-!
# Rounding to nanoseconds

A number of seconds that is not negative becomes the duration of the nearest number of nanoseconds,
and of the even one where two are equally near (`Duration.exists_isNearest`). There is at most one
such number, and it does not decrease when the seconds increase (`IsNearest.le_of_le`). Durations
end before `2 ^ 64` seconds: a double from there on has no duration, and one before it is rounded to
a duration, as the last double before `2 ^ 64` is smaller by more than a second
(`Duration.nanos_lt_iff`).

## Main definitions

* `IsNearest` — a whole number is nearest to a rational one.

## Main results

* `IsNearest.le_of_le`, `Duration.isNearest_roundDiv`.
* `Duration.exists_isNearest`, `Duration.nanos_lt_iff`, `Duration.ofBinary64?_of_neg`.
-/

namespace TierSweep

/-- A whole number is nearest to a rational one, and it is even if another one is as near. -/
structure IsNearest (x : ℚ) (n : ℕ) : Prop where
  close : |x - n| ≤ 1 / 2
  even_of_tie : |x - n| = 1 / 2 → Even n

namespace IsNearest

variable {x y : ℚ} {n m : ℕ}

theorem natCast (n : ℕ) : IsNearest n n := by
  constructor <;> simp

/-- Larger numbers have larger nearest whole numbers. -/
theorem le_of_le (hn : IsNearest x n) (hm : IsNearest y m) (h : x ≤ y) : n ≤ m := by
  by_contra! hlt
  have hgap : (m + 1 : ℚ) ≤ n := by exact_mod_cast hlt
  have hbelow := (abs_le.mp hn.close).1
  have habove := (abs_le.mp hm.close).2
  -- both numbers are the middle between two neighbours
  have hx : x - n = -(1 / 2) := by linarith
  have hy : y - m = 1 / 2 := by linarith
  have hsucc : n = m + 1 := by
    have hcast : (n : ℚ) = m + 1 := by linarith
    exact_mod_cast hcast
  -- and only one of the two is even
  have hneven : Even n := hn.even_of_tie (by rw [hx, abs_neg, abs_of_nonneg (by norm_num)])
  have hmeven : Even m := hm.even_of_tie (by rw [hy, abs_of_nonneg (by norm_num)])
  rw [hsucc, Nat.even_add_one] at hneven
  exact hneven hmeven

theorem eq (hn : IsNearest x n) (hm : IsNearest x m) : n = m :=
  le_antisymm (hn.le_of_le hm le_rfl) (hm.le_of_le hn le_rfl)

/-- The whole part is nearest if the fraction is below one half. -/
theorem whole {f : ℚ} (hf : 0 ≤ f) (h : f < 1 / 2 ∨ f = 1 / 2 ∧ Even n) : IsNearest (n + f) n := by
  have habs : |(n + f : ℚ) - n| = f := by rw [add_sub_cancel_left, abs_of_nonneg hf]
  constructor
  · rw [habs]
    exact h.elim le_of_lt fun htie => htie.1.le
  · rw [habs]
    exact fun htie => (h.resolve_left htie.not_lt).2

/-- The next whole number is nearest if the fraction is above one half. -/
theorem next {f : ℚ} (hf : f ≤ 1) (h : 1 / 2 < f ∨ f = 1 / 2 ∧ ¬Even n) :
    IsNearest (n + f) (n + 1) := by
  have habs : |(n + f : ℚ) - (n + 1 : ℕ)| = 1 - f := by
    rw [abs_of_nonpos (by push_cast; linarith)]
    push_cast
    ring
  constructor
  · rw [habs]
    rcases h with h | ⟨h, -⟩ <;> linarith
  · rw [habs]
    intro htie
    have hhalf : f = 1 / 2 := by linarith
    exact Nat.even_add_one.mpr (h.resolve_left hhalf.not_gt).2

end IsNearest

namespace Duration

open Binary64

theorem nanosPerSecond_eq : nanosPerSecond = 10 ^ 9 := rfl

theorem ext_iff {a b : Duration} : a = b ↔ a.nanos = b.nanos := by
  obtain ⟨n, hn⟩ := a
  obtain ⟨m, hm⟩ := b
  exact ⟨congrArg nanos, fun h => by cases h; rfl⟩

@[simp] theorem nanos_zero : zero.nanos = 0 := rfl

theorem nanos_le_max (d : Duration) : d.nanos ≤ max.nanos := Nat.le_sub_one_of_lt d.nanos_lt

/-- Too many nanoseconds are cut off. -/
theorem nanos_ofNanos (n : ℕ) : (ofNanos n).nanos = min n max.nanos := by
  rw [ofNanos]
  split
  · next h => exact (min_eq_left (Nat.le_sub_one_of_lt h)).symm
  · next h => exact (min_eq_right ((Nat.sub_le _ 1).trans (not_lt.mp h))).symm

theorem nanos_since (reading earlier : Duration) :
    (reading.since earlier).nanos = reading.nanos - earlier.nanos := by
  rw [since, nanos_ofNanos]
  exact min_eq_left ((Nat.sub_le _ _).trans reading.nanos_le_max)

theorem toNat_millis64 (d : Duration) : d.millis64.toNat = d.millis % twoTo 64 :=
  UInt64.toNat_ofNat' ..

theorem nanos_saturatingAdd (a b : Duration) :
    (a.saturatingAdd b).nanos = min (a.nanos + b.nanos) max.nanos := nanos_ofNanos _

/-- A duration is so many seconds, of which there are fewer than `2 ^ 64`, and a part of one. -/
theorem seconds_and_subsecNanos (d : Duration) :
    d.seconds < 2 ^ 64 ∧ d.subsecNanos < 10 ^ 9 ∧ d.nanos = d.seconds * 10 ^ 9 + d.subsecNanos :=
  ⟨Nat.div_lt_of_lt_mul (Nat.mul_comm _ _ ▸ d.nanos_lt), Nat.mod_lt _ (by decide),
    (Nat.div_add_mod' d.nanos nanosPerSecond).symm⟩

/-! ### Rounding -/

/-- The quotient of whole numbers is rounded to the nearest one. -/
theorem isNearest_roundDiv (num : ℕ) {den : ℕ} (hden : 0 < den) :
    IsNearest (num / den) (roundDiv num den) := by
  have hpos : (0 : ℚ) < den := by exact_mod_cast hden
  have hparts : (num / den : ℚ) = (num / den : ℕ) + (num % den : ℕ) / den := by
    have hsum : (den * (num / den : ℕ) + (num % den : ℕ) : ℚ) = num := by
      exact_mod_cast Nat.div_add_mod num den
    rw [← hsum, add_div, mul_div_cancel_left₀ _ hpos.ne']
  have hle : ((num % den : ℕ) / den : ℚ) ≤ 1 := by
    rw [div_le_one hpos]
    exact_mod_cast (Nat.mod_lt num hden).le
  -- the fraction is compared with one half as twice the remainder with the divisor
  have hbelow : ((num % den : ℕ) / den : ℚ) < 1 / 2 ↔ 2 * (num % den) < den := by
    rw [div_lt_div_iff₀ hpos two_pos, one_mul, mul_comm]
    norm_cast
  have habove : 1 / 2 < ((num % den : ℕ) / den : ℚ) ↔ den < 2 * (num % den) := by
    rw [div_lt_div_iff₀ two_pos hpos, one_mul, mul_comm _ (2 : ℚ)]
    norm_cast
  have hhalf : ((num % den : ℕ) / den : ℚ) = 1 / 2 ↔ 2 * (num % den) = den := by
    rw [div_eq_div_iff hpos.ne' two_ne_zero, one_mul, mul_comm]
    norm_cast
  rw [hparts, roundDiv]
  split
  · next hup =>
    refine .next hle ?_
    rw [habove, hhalf, Nat.not_even_iff]
    exact hup
  · next hdown =>
    refine .whole (by positivity) ?_
    rw [hbelow, hhalf, Nat.even_iff]
    omega

theorem ofBinary64?_negative {rank : Fin finiteCount} (h : rank.val ≠ 0) :
    ofBinary64? (.finite true rank) = none := by
  rw [ofBinary64?, if_pos ⟨rfl, h⟩]

/-- A number below zero has no duration. -/
theorem ofBinary64?_of_neg {x : Number} {v : ℚ} (h : x.rational? = some v) (hv : v < 0) :
    ofBinary64? x.toBinary64 = none := by
  cases x with
  | int n =>
    obtain rfl := Option.some.inj h
    have hn : n.toInt < 0 := by exact_mod_cast hv
    have hrank : 0 < rankOfNat n.toInt.natAbs := rankOfNat_pos (by omega)
    rw [Number.toBinary64, ofInt_eq, decide_eq_true hn, ofRank]
    split
    · exact ofBinary64?_negative hrank.ne'
    · rfl
  | float x =>
    cases x with
    | nan => cases h
    | infinity => cases h
    | finite negative rank =>
      obtain rfl := Option.some.inj h
      have hmagnitude : (0 : ℚ) ≤ units rank / unitsPerOne := by positivity
      cases negative with
      | false =>
        rw [if_neg Bool.false_ne_true, one_mul] at hv
        exact absurd hmagnitude hv.not_ge
      | true =>
        refine ofBinary64?_negative fun hrank => ?_
        rw [hrank, units_zero, Nat.cast_zero, zero_div, mul_zero] at hv
        exact lt_irrefl _ hv

/-- The nanoseconds of a double are a duration exactly if the double is before `2 ^ 64`. -/
theorem nanos_lt_iff {rank n : ℕ} {v : ℚ} (hv : v * unitsPerOne = units rank)
    (hn : IsNearest (v * 10 ^ 9) n) : n < 2 ^ 64 * 10 ^ 9 ↔ rank < rankOfPower 64 := by
  have hone : (0 : ℚ) < unitsPerOne := by exact_mod_cast unitsPerOne_pos
  -- whole seconds that bound the double bound its nanoseconds
  constructor
  · intro hlt
    by_contra! hbeyond
    have hmono := strictMono_units.monotone hbeyond
    rw [units_rankOfPower] at hmono
    have hunits : ((2 ^ 64 * unitsPerOne : ℕ) : ℚ) ≤ units rank := Nat.cast_le.mpr hmono
    rw [← hv, Nat.cast_mul] at hunits
    have hseconds := le_of_mul_le_mul_right hunits hone
    have hnanos : ((2 ^ 64 * 10 ^ 9 : ℕ) : ℚ) ≤ v * 10 ^ 9 := by
      push_cast at hseconds ⊢
      linarith
    exact absurd ((IsNearest.natCast _).le_of_le hn hnanos) hlt.not_ge
  · intro hlt
    have hmono := strictMono_units.monotone (Nat.le_sub_one_of_lt hlt)
    rw [units_beforePower] at hmono
    have hunits : (units rank : ℚ) ≤ ((2 ^ 64 - 2 ^ 11) * unitsPerOne : ℕ) := Nat.cast_le.mpr hmono
    rw [← hv, Nat.cast_mul] at hunits
    have hseconds := le_of_mul_le_mul_right hunits hone
    have hnanos : v * 10 ^ 9 ≤ ((2 ^ 64 - 2 ^ 11) * 10 ^ 9 : ℕ) := by
      push_cast at hseconds ⊢
      linarith
    exact (hn.le_of_le (IsNearest.natCast _) hnanos).trans_lt (by decide)

/-- A double that is not negative is rounded to the nearest nanosecond, unless the nanoseconds are
too many for a duration. -/
theorem exists_isNearest {negative : Bool} {rank : Fin finiteCount} {v : ℚ}
    (hsign : negative = true → rank.val = 0) (hv : v * unitsPerOne = units rank) :
    ∃ n, IsNearest (v * 10 ^ 9) n ∧
      ((ofBinary64? (.finite negative rank)).getD zero).nanos
        = if n < 2 ^ 64 * 10 ^ 9 then n else 0 := by
  have hone : (0 : ℚ) < unitsPerOne := by exact_mod_cast unitsPerOne_pos
  have hnearest := isNearest_roundDiv (units rank * nanosPerSecond) unitsPerOne_pos
  have hseconds : ((units rank * nanosPerSecond : ℕ) / unitsPerOne : ℚ) = v * 10 ^ 9 := by
    rw [Nat.cast_mul, ← hv, nanosPerSecond_eq, mul_right_comm, mul_div_cancel_right₀ _ hone.ne']
    norm_cast
  rw [hseconds] at hnearest
  refine ⟨_, hnearest, ?_⟩
  rw [ofBinary64?, if_neg fun h => h.2 (hsign h.1), ← unitsPerOne_eq]
  dsimp only
  by_cases h : roundDiv (units rank * nanosPerSecond) unitsPerOne < 2 ^ 64 * 10 ^ 9
  · rw [dif_pos (show _ < twoTo 64 * nanosPerSecond from h), if_pos h, Option.getD_some]
  · rw [dif_neg (show ¬_ < twoTo 64 * nanosPerSecond from h), if_neg h, Option.getD_none,
      nanos_zero]

end Duration

end TierSweep
