import TierSweep.Proofs.Number.Comparison
import TierSweep.Value

/-!
# The exact value of a number

An integer and a finite double are rational numbers, and both are whole numbers of units. A number
that is not negative becomes the double nearest to its units (`Number.exists_units`): an integer
because it is rounded, and a double because it stays what it is. So of two such numbers the larger
one becomes the larger double, whichever of the two kinds they are.

Integers of sixty-four bits stay below `2 ^ 63`, so a number is below `2 ^ 64` exactly if its double
is (`Number.lt_iff_lt_rankOfPower`).

## Main definitions

* `Binary64.rational?`, `Number.rational?`.

## Main results

* `Number.exists_units`, `Number.lt_iff_lt_rankOfPower`.
-/

namespace TierSweep

theorem twoTo_add (m n : ℕ) : twoTo (m + n) = 2 ^ m * 2 ^ n := Nat.pow_add 2 m n

namespace Binary64

/-- The number of units in one. It is too large to be counted down, so it is not unfolded. -/
@[irreducible]
def unitsPerOne : ℕ := twoTo 1074

theorem unitsPerOne_eq : unitsPerOne = twoTo 1074 := by
  delta unitsPerOne
  exact Eq.refl (twoTo 1074)

theorem unitsPerOne_pos : 0 < unitsPerOne := by
  rw [unitsPerOne_eq]
  exact twoTo_pos 1074

/-- The rational number that a finite double is. -/
def rational? : Binary64 → Option ℚ
  | .finite negative rank => some ((if negative then -1 else 1) * (units rank / unitsPerOne))
  | _ => none

variable {negative : Bool} {rank : Fin finiteCount} {v : ℚ}

/-- A double that is not negative has no sign, or it is zero. -/
theorem rank_eq_zero_of_nonneg (h : rational? (.finite negative rank) = some v) (hv : 0 ≤ v)
    (hsign : negative = true) : rank.val = 0 := by
  subst hsign
  obtain rfl := Option.some.inj h
  by_contra hrank
  have hunits : (0 : ℚ) < units rank := by
    exact_mod_cast strictMono_units (Nat.pos_of_ne_zero hrank)
  have hone : (0 : ℚ) < unitsPerOne := by exact_mod_cast unitsPerOne_pos
  have hmagnitude := div_pos hunits hone
  rw [if_pos rfl] at hv
  linarith

/-- The units of a double that is not negative are its magnitude. -/
theorem mul_unitsPerOne_of_nonneg (h : rational? (.finite negative rank) = some v) (hv : 0 ≤ v) :
    v * unitsPerOne = units rank := by
  have hone : (unitsPerOne : ℚ) ≠ 0 := by exact_mod_cast unitsPerOne_pos.ne'
  cases negative with
  | false =>
    obtain rfl := Option.some.inj h
    rw [if_neg Bool.false_ne_true, one_mul, div_mul_cancel₀ _ hone]
  | true =>
    have hzero := rank_eq_zero_of_nonneg h hv rfl
    obtain rfl := Option.some.inj h
    rw [hzero, units_zero, Nat.cast_zero, zero_div, mul_zero, zero_mul]

/-- Larger magnitudes have larger nearest ranks. -/
theorem nearestRank_mono {n m : ℕ} (h : n ≤ m) : nearestRank n 1 ≤ nearestRank m 1 := by
  refine nearestRank_le_nearestRank Nat.one_pos Nat.one_pos ?_
  rw [Nat.cast_one, div_one, div_one]
  exact_mod_cast h

theorem rankOfNat_eq (n : ℕ) : rankOfNat n = nearestRank (n * unitsPerOne) 1 := by
  rw [rankOfNat, unitsPerOne_eq]

/-! ### Powers of two -/

/-- The rank of a power of two. -/
def rankOfPower (k : ℕ) : ℕ := (1022 + k) * 2 ^ 52 + 2 ^ 52

/-- Ranks with the digits `q` at a scale that is not the least. -/
theorem units_scale_add (k : ℕ) {q : ℕ} (hq : 2 ^ 52 ≤ q) (hlast : q ≤ 2 ^ 53) :
    2 ^ 52 * units ((1022 + k) * 2 ^ 52 + q) = q * 2 ^ k * unitsPerOne := by
  have hone : unitsPerOne = 2 ^ 52 * 2 ^ 1022 := by
    have hsum : 1074 = 52 + 1022 := rfl
    rw [unitsPerOne_eq, hsum, twoTo_add]
  rw [units_scale (.inr hq) hlast, hone, pow_add]
  generalize 2 ^ 1022 = scale
  ring

theorem units_rankOfPower (k : ℕ) : units (rankOfPower k) = 2 ^ k * unitsPerOne := by
  have hunits := units_scale_add k le_rfl (by decide : 2 ^ 52 ≤ 2 ^ 53)
  rw [mul_assoc] at hunits
  exact Nat.eq_of_mul_eq_mul_left (by decide) hunits

/-- The last double before `2 ^ 64` is smaller by `2 ^ 11`. -/
theorem units_beforePower : units (rankOfPower 64 - 1) = (2 ^ 64 - 2 ^ 11) * unitsPerOne := by
  have hunits := units_scale_add 63 (q := 2 ^ 53 - 1) (by decide) (by decide)
  have hlast : units (rankOfPower 64 - 1) = units ((1022 + 63) * 2 ^ 52 + (2 ^ 53 - 1)) := rfl
  omega

theorem nearestRank_power (k : ℕ) : nearestRank (2 ^ k * unitsPerOne) 1 = rankOfPower k := by
  rw [← units_rankOfPower, nearestRank_units]

end Binary64

namespace Number

open Binary64

/-- The rational number that an integer or a finite double is. -/
def rational? : Number → Option ℚ
  | .int n => some n.toInt
  | .float x => x.rational?

variable {x : Number} {v : ℚ}

/-- A number that is not negative is a whole number of units, and it is taken as the double nearest
to them. -/
theorem exists_units (h : x.rational? = some v) (hv : 0 ≤ v) :
    ∃ (negative : Bool) (rank : Fin finiteCount) (n : ℕ), x.toBinary64 = .finite negative rank ∧
      (negative = true → rank.val = 0) ∧ v * unitsPerOne = n ∧ rank.val = nearestRank n 1 := by
  cases x with
  | float x =>
    cases x with
    | nan => cases h
    | infinity => cases h
    | finite negative rank =>
      exact ⟨negative, rank, units rank, rfl, rank_eq_zero_of_nonneg h hv,
        mul_unitsPerOne_of_nonneg h hv, (nearestRank_units rank).symm⟩
  | int n =>
    obtain rfl := Option.some.inj h
    have hn : 0 ≤ n.toInt := by exact_mod_cast hv
    have hbound : rankOfNat n.toInt.natAbs ≤ rankOfPower 63 := by
      have hmax : n.toInt < 2 ^ 63 := n.toInt_lt
      rw [rankOfNat_eq, ← nearestRank_power]
      exact nearestRank_mono (Nat.mul_le_mul_right _ (by omega))
    have hfinite : rankOfNat n.toInt.natAbs < finiteCount := hbound.trans_lt (by decide)
    refine ⟨false, ⟨_, hfinite⟩, n.toInt.natAbs * unitsPerOne, ?_,
      fun hsign => absurd hsign Bool.false_ne_true, ?_, rankOfNat_eq _⟩
    · rw [toBinary64, ofInt_eq, ofRank, dif_pos hfinite, decide_eq_false (by omega)]
    · rw [Nat.cast_mul, Nat.cast_natAbs, abs_of_nonneg hn]

/-- A number is below `2 ^ 64` exactly if its double is. -/
theorem lt_iff_lt_rankOfPower (h : x.rational? = some v) (hv : 0 ≤ v) {negative : Bool}
    {rank : Fin finiteCount} {n : ℕ} (hx : x.toBinary64 = .finite negative rank)
    (hn : v * unitsPerOne = n) (hrank : rank.val = nearestRank n 1) :
    v < 2 ^ 64 ↔ rank.val < rankOfPower 64 := by
  have hone : (0 : ℚ) < unitsPerOne := by exact_mod_cast unitsPerOne_pos
  constructor
  · intro hlt
    cases x with
    | int k =>
      obtain rfl := Option.some.inj h
      have hmax : (k.toInt : ℚ) ≤ 2 ^ 63 := by exact_mod_cast k.toInt_lt.le
      have hle : n ≤ 2 ^ 63 * unitsPerOne := by
        have hunits := mul_le_mul_of_nonneg_right hmax hone.le
        rw [hn] at hunits
        exact_mod_cast hunits
      calc rank.val = nearestRank n 1 := hrank
        _ ≤ rankOfPower 63 := nearestRank_power 63 ▸ nearestRank_mono hle
        _ < rankOfPower 64 := by decide
    | float y =>
      obtain rfl : y = .finite negative rank := hx
      have hunits := mul_lt_mul_of_pos_right hlt hone
      rw [mul_unitsPerOne_of_nonneg h hv] at hunits
      refine strictMono_units.lt_iff_lt.mp ?_
      rw [units_rankOfPower]
      exact_mod_cast hunits
  · intro hlt
    by_contra! hlarge
    have hunits := mul_le_mul_of_nonneg_right hlarge hone.le
    rw [hn] at hunits
    have hle : rankOfPower 64 ≤ nearestRank n 1 := by
      rw [← nearestRank_power]
      exact nearestRank_mono (by exact_mod_cast hunits)
    omega

end Number

end TierSweep
