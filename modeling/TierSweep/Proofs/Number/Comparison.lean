import TierSweep.Proofs.Number.Rounding

/-!
# Comparing integers as doubles

Integers are rounded to doubles before they are compared. Rounding keeps their order, but it may make
different integers the same double; then the comparison holds both ways. Up to `2 ^ 53` every integer
is a double of its own.

## Main results

* `Binary64.le_ofInt_iff` — when an integer counts as at most another one.
* `Binary64.ofInt_injOn` — integers that no other integer is taken for.
-/

namespace TierSweep.Binary64

/-- The number at a rank has the place of the rank, and there are no places beyond infinity. -/
theorem place?_ofRank (negative : Bool) (rank : ℕ) :
    (ofRank negative rank).place? =
      some (if negative then -(min rank finiteCount : ℤ) else min rank finiteCount) := by
  rw [ofRank]
  split
  · next h => rw [place?, min_eq_left (by exact_mod_cast h.le)]
  · next h => rw [place?, min_eq_right (by exact_mod_cast Nat.not_lt.mp h)]

/-- The rank of an integer's magnitude, which may lie beyond infinity. -/
def rankOfNat (n : ℕ) : ℕ := nearestRank (n * twoTo 1074) 1

theorem ofInt_eq (n : ℤ) : ofInt n = ofRank (n < 0) (rankOfNat n.natAbs) := rfl

theorem rankOfNat_mono {n m : ℕ} (h : n ≤ m) : rankOfNat n ≤ rankOfNat m := by
  refine nearestRank_le_nearestRank Nat.one_pos Nat.one_pos ?_
  rw [Nat.cast_one, div_one, div_one]
  exact_mod_cast Nat.mul_le_mul_right _ h

/-- Only zero is rounded to zero. -/
theorem rankOfNat_pos {n : ℕ} (h : 0 < n) : 0 < rankOfNat n := by
  have hone : nearestRank (units 1) 1 ≤ rankOfNat n := by
    refine nearestRank_le_nearestRank Nat.one_pos Nat.one_pos ?_
    rw [Nat.cast_one, div_one, div_one]
    exact_mod_cast Nat.mul_pos h (twoTo_pos 1074)
  rwa [nearestRank_units] at hone

/-! ### Order -/

/-- The place of the double nearest to an integer. -/
def placeOfInt (n : ℤ) : ℤ :=
  if n < 0 then -(min (rankOfNat n.natAbs) finiteCount : ℤ)
  else min (rankOfNat n.natAbs) finiteCount

theorem place?_ofInt (n : ℤ) : (ofInt n).place? = some (placeOfInt n) := by
  rw [ofInt_eq, place?_ofRank, placeOfInt]
  simp only [decide_eq_true_eq]

theorem le_ofInt_iff_placeOfInt {a b : ℤ} :
    (ofInt a).le (ofInt b) = true ↔ placeOfInt a ≤ placeOfInt b := by
  rw [le, place?_ofInt, place?_ofInt]
  exact decide_eq_true_iff

theorem placeOfInt_mono {a b : ℤ} (h : a ≤ b) : placeOfInt a ≤ placeOfInt b := by
  rw [placeOfInt, placeOfInt]
  split_ifs with ha hb
  · have hrank := rankOfNat_mono (by omega : b.natAbs ≤ a.natAbs)
    omega
  · omega
  · omega
  · have hrank := rankOfNat_mono (by omega : a.natAbs ≤ b.natAbs)
    omega

/-- Integers at one place are the same double: zero is never taken with a sign. -/
theorem ofInt_eq_of_placeOfInt_eq {a b : ℤ} (h : placeOfInt a = placeOfInt b) :
    ofInt a = ofInt b := by
  have hcount : 0 < finiteCount := by decide
  have hpos (n : ℤ) (hn : n < 0) : 0 < rankOfNat n.natAbs := rankOfNat_pos (by omega)
  have hrank (negative : Bool) {r r' : ℕ} (hr : min r finiteCount = min r' finiteCount) :
      ofRank negative r = ofRank negative r' := by
    rw [ofRank, ofRank]
    split_ifs
    · have hsame : r = r' := by omega
      subst hsame
      rfl
    · omega
    · omega
    · rfl
  rw [placeOfInt, placeOfInt] at h
  rw [ofInt_eq, ofInt_eq]
  by_cases ha : a < 0 <;> by_cases hb : b < 0
  · simp only [ha, hb, if_true] at h ⊢
    exact hrank _ (by omega)
  · have hrankPos := hpos a ha
    rw [if_pos ha, if_neg hb] at h
    omega
  · have hrankPos := hpos b hb
    rw [if_neg ha, if_pos hb] at h
    omega
  · simp only [ha, hb, if_false] at h ⊢
    exact hrank _ (by omega)

/-- **Comparing integers as doubles.** Of two integers the first counts as at most the second exactly
if it is, or if both are the same double. -/
theorem le_ofInt_iff {a b : ℤ} : (ofInt a).le (ofInt b) = true ↔ a ≤ b ∨ ofInt a = ofInt b := by
  rw [le_ofInt_iff_placeOfInt]
  constructor
  · intro h
    rcases le_or_gt a b with hab | hab
    · exact .inl hab
    · exact .inr (ofInt_eq_of_placeOfInt_eq (le_antisymm h (placeOfInt_mono hab.le)))
  · rintro (h | h)
    · exact placeOfInt_mono h
    · have hplace := place?_ofInt a
      rw [h, place?_ofInt] at hplace
      exact (Option.some_inj.mp hplace).ge

/-! ### Integers that are doubles -/

/-- Up to fifty-three bits are a magnitude at every scale. -/
theorem exists_units_eq (s : ℕ) {q : ℕ} (hq : q ≤ 2 ^ 53) :
    ∃ rank ≤ (s + 2) * 2 ^ 52, units rank = q * twoTo s := by
  induction s generalizing q with
  | zero => exact ⟨0 * 2 ^ 52 + q, by omega, units_scale (.inl rfl) hq⟩
  | succ s ih =>
    by_cases h : q ≤ 2 ^ 52
    · obtain ⟨rank, hle, hrank⟩ := ih (q := 2 * q) (by omega)
      refine ⟨rank, hle.trans (Nat.mul_le_mul_right _ (Nat.le_succ _)), hrank.trans ?_⟩
      rw [Nat.mul_comm 2 q, Nat.mul_assoc, Nat.mul_comm 2]
      exact congrArg (q * ·) (Nat.pow_succ 2 s).symm
    · exact ⟨(s + 1) * 2 ^ 52 + q, by omega, units_scale (.inr (by omega)) hq⟩

/-- An integer up to `2 ^ 53` keeps its magnitude, which is finite. -/
theorem units_rankOfNat {n : ℕ} (h : n ≤ 2 ^ 53) :
    rankOfNat n < finiteCount ∧ units (rankOfNat n) = n * twoTo 1074 := by
  obtain ⟨rank, hle, hrank⟩ := exists_units_eq 1074 h
  rw [rankOfNat, ← hrank, nearestRank_units]
  have hcount : finiteCount = 2047 * 2 ^ 52 := rfl
  exact ⟨by omega, rfl⟩

/-- No two integers up to `2 ^ 53` are the same double. -/
theorem ofInt_injOn {a b : ℤ} (ha : a.natAbs ≤ 2 ^ 53) (hb : b.natAbs ≤ 2 ^ 53)
    (h : ofInt a = ofInt b) : a = b := by
  rw [ofInt_eq, ofInt_eq, ofRank, ofRank, dif_pos (units_rankOfNat ha).1,
    dif_pos (units_rankOfNat hb).1] at h
  injection h with hsign hrank
  have hunits := congrArg units (Fin.mk.inj hrank)
  rw [(units_rankOfNat ha).2, (units_rankOfNat hb).2] at hunits
  have habs := Nat.eq_of_mul_eq_mul_right (twoTo_pos 1074) hunits
  have hneg : a < 0 ↔ b < 0 := by simpa using hsign
  omega

end TierSweep.Binary64
