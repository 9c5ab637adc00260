import TierSweep.Proofs.Run.Dependence
import TierSweep.Proofs.Time.Rounding
import TierSweep.TimeLimit

/-!
# Time limits beyond the running time

A run may take its running time and a grace period. The running time is a number of seconds that is
rounded twice: an integer becomes a double, and the double becomes a whole number of nanoseconds.
Both steps keep the order, and the first one loses nothing up to `2 ^ 53`. A running time below zero
counts as none, and so does one from `2 ^ 64` seconds on, which is too long to be a duration: its
run may take less time than a shorter one (`TimeLimit.beforePower_outlasts_power`).

## Main results

* `TimeLimit.exists_nanos_runningTime`, `TimeLimit.runningTime_of_neg`.
* `TimeLimit.limit_le_iff`, `TimeLimit.limit_exact`.
-/

namespace TierSweep

namespace Binary64

/-- The value of a double that is a whole number. -/
theorem rational?_of_units (rank : Fin finiteCount) {n : ℕ} (h : units rank = n * unitsPerOne) :
    rational? (.finite false rank) = some (n : ℚ) := by
  have hone : (unitsPerOne : ℚ) ≠ 0 := by exact_mod_cast unitsPerOne_pos.ne'
  rw [rational?, h, Nat.cast_mul, mul_div_cancel_right₀ _ hone, if_neg Bool.false_ne_true, one_mul]

end Binary64

namespace TimeLimit

open Binary64

variable {r q : RunSetup} {v w : ℚ}

/-- A running time that is not negative is rounded to a double and then to nanoseconds. From
`2 ^ 64` seconds on it counts as none. -/
theorem exists_nanos_runningTime (h : r.runningTime.rational? = some v) (hv : 0 ≤ v) :
    ∃ num n : ℕ, v * unitsPerOne = num ∧
      IsNearest (units (nearestRank num 1) / unitsPerOne * 10 ^ 9) n ∧
      (runningTime r).nanos = if v < 2 ^ 64 then n else 0 := by
  have hone : (unitsPerOne : ℚ) ≠ 0 := by exact_mod_cast unitsPerOne_pos.ne'
  obtain ⟨negative, rank, num, hx, hsign, hnum, hrank⟩ := Number.exists_units h hv
  have hvalue : (units rank / unitsPerOne : ℚ) * unitsPerOne = units rank :=
    div_mul_cancel₀ _ hone
  obtain ⟨n, hn, hnanos⟩ := Duration.exists_isNearest hsign hvalue
  have hlt : n < 2 ^ 64 * 10 ^ 9 ↔ v < 2 ^ 64 :=
    (Duration.nanos_lt_iff hvalue hn).trans
      (Number.lt_iff_lt_rankOfPower h hv hx hnum hrank).symm
  refine ⟨num, n, hnum, hrank ▸ hn, ?_⟩
  rw [runningTime, hx, hnanos]
  simp only [hlt]

/-- A running time below zero counts as none. -/
theorem runningTime_of_neg
    (h : (∃ v < 0, r.runningTime.rational? = some v) ∨ r.runningTime = .float (.infinity true)) :
    (runningTime r).nanos = 0 := by
  rw [runningTime]
  rcases h with ⟨v, hv, h⟩ | h
  · rw [Duration.ofBinary64?_of_neg h hv, Option.getD_none, Duration.nanos_zero]
  · rw [h]
    rfl

/-- The limit of a run is its running time and the grace period. -/
theorem nanos_limit (grace : Duration) (r : RunSetup) :
    ∃ b, (beyondRunningTime grace).forRun? r = some b ∧
      b.nanos = min ((runningTime r).nanos + grace.nanos) Duration.max.nanos :=
  ⟨_, rfl, Duration.nanos_saturatingAdd _ _⟩

/-- A run that counts as taking no time has the grace period. -/
theorem eq_grace_of_nanos_eq {grace b : Duration}
    (h : b.nanos = min (0 + grace.nanos) Duration.max.nanos) : b = grace := by
  rw [Duration.ext_iff, h, Nat.zero_add, min_eq_left grace.nanos_le_max]

theorem grace_le_of_nanos_eq {grace b : Duration} {n : ℕ}
    (h : b.nanos = min (n + grace.nanos) Duration.max.nanos) : grace.nanos ≤ b.nanos := by
  rw [h]
  exact le_min (Nat.le_add_left _ _) grace.nanos_le_max

/-! ### Order -/

/-- **Longer runs have longer limits, below `2 ^ 64` seconds.** Of two running times that are not
negative the longer one has a limit that is at least the limit of the other one, if it is below
`2 ^ 64` seconds. From there on its limit is the grace period alone, and that is no less than the
limit of the shorter one only if that is the grace period, too. -/
theorem limit_le_iff (grace : Duration) (hr : r.runningTime.rational? = some v)
    (hq : q.runningTime.rational? = some w) (hv : 0 ≤ v) (hvw : v ≤ w) :
    ∃ b b', (beyondRunningTime grace).forRun? r = some b ∧
      (beyondRunningTime grace).forRun? q = some b' ∧
      (b.nanos ≤ b'.nanos ↔ w < 2 ^ 64 ∨ b = grace) ∧ (2 ^ 64 ≤ w → b' = grace) := by
  obtain ⟨b, hb, hnanos⟩ := nanos_limit grace r
  obtain ⟨b', hb', hnanos'⟩ := nanos_limit grace q
  obtain ⟨num, n, hnum, hn, hrunning⟩ := exists_nanos_runningTime hr hv
  obtain ⟨num', n', hnum', hn', hrunning'⟩ := exists_nanos_runningTime hq (hv.trans hvw)
  have hbeyond (hw : 2 ^ 64 ≤ w) : b' = grace := by
    rw [hrunning', if_neg hw.not_gt] at hnanos'
    exact eq_grace_of_nanos_eq hnanos'
  refine ⟨b, b', hb, hb', ⟨fun hle => ?_, ?_⟩, hbeyond⟩
  · by_contra! hnot
    rw [hbeyond hnot.1] at hle
    exact hnot.2 (Duration.ext_iff.mpr (le_antisymm hle (grace_le_of_nanos_eq hnanos)))
  · rintro (hw | rfl)
    · have hone : (0 : ℚ) < unitsPerOne := by exact_mod_cast unitsPerOne_pos
      -- the longer one has more units, a larger double and more nanoseconds
      have hunits : num ≤ num' := by
        have hle := mul_le_mul_of_nonneg_right hvw hone.le
        rw [hnum, hnum'] at hle
        exact_mod_cast hle
      have hdouble : (units (nearestRank num 1) : ℚ) ≤ units (nearestRank num' 1) := by
        exact_mod_cast strictMono_units.monotone (nearestRank_mono hunits)
      have hnn : n ≤ n' := hn.le_of_le hn' (by gcongr)
      rw [hnanos, hnanos', hrunning, hrunning', if_pos (hvw.trans_lt hw), if_pos hw]
      omega
    · exact grace_le_of_nanos_eq hnanos'

/-- A run of some length. -/
def lasting (t : Number) : RunSetup where
  pattern := "uniform"
  clientTierSizes := "10-20"
  serverMemSizes := "30"
  bufferSize := 10
  runningTime := t
  policy := .lru
  numTiers := 2
  scanInterval := .int 1
  sampleRate := .int 100
  tuning := [(.hotThreshold, .int 5), (.coldThreshold, .int 10)]
  tuning_eq := rfl

theorem ofCombination_timed (t : Number) :
    RunSetup.ofCombination (RunSetup.timed (.number t)) = .ok (lasting t) := rfl

/-- The double `2 ^ 64`. -/
def power : Number := .float (.finite false ⟨rankOfPower 64, by decide⟩)

/-- The last double before `2 ^ 64`. -/
def beforePower : Number := .float (.finite false ⟨rankOfPower 64 - 1, by decide⟩)

theorem rational?_power : power.rational? = some (2 ^ 64) := by
  have hunits := rational?_of_units ⟨rankOfPower 64, by decide⟩ (units_rankOfPower 64)
  rw [Nat.cast_pow, Nat.cast_ofNat] at hunits
  exact hunits

theorem rational?_beforePower : beforePower.rational? = some (2 ^ 64 - 2 ^ 11) := by
  have hunits := rational?_of_units ⟨rankOfPower 64 - 1, by decide⟩ units_beforePower
  rw [Nat.cast_sub (by decide), Nat.cast_pow, Nat.cast_pow, Nat.cast_ofNat] at hunits
  exact hunits

theorem limit_le_iff_beforePower : ∃ b b' b'',
    (beyondRunningTime (.ofSeconds 600)).forRun? (lasting (.int 9007199254740993)) = some b ∧
      (beyondRunningTime (.ofSeconds 600)).forRun? (lasting beforePower) = some b' ∧
      (beyondRunningTime (.ofSeconds 600)).forRun? (lasting power) = some b'' ∧
      b.nanos ≤ b'.nanos ∧ ¬b'.nanos ≤ b''.nanos := by
  have hint : (lasting (.int 9007199254740993)).runningTime.rational? = some 9007199254740993 := rfl
  obtain ⟨b, b', hb, hb', hle, -⟩ := limit_le_iff (.ofSeconds 600) hint
    (q := lasting beforePower) rational?_beforePower (by norm_num) (by norm_num)
  obtain ⟨c, b'', hc, hb'', hnot, -⟩ := limit_le_iff (.ofSeconds 600)
    (r := lasting beforePower) (q := lasting power) rational?_beforePower rational?_power
    (by norm_num) (by norm_num)
  obtain rfl := Option.some.inj (hb'.symm.trans hc)
  have hlong : (beyondRunningTime (.ofSeconds 600)).forRun? (lasting beforePower)
      ≠ some (.ofSeconds 600) := by decide +kernel
  refine ⟨b, b', b'', hb, hb', hb'', hle.mpr (.inl (by norm_num)), hnot.not.mpr ?_⟩
  rintro (hlt | hgrace)
  · exact lt_irrefl _ hlt
  · exact hlong (hb'.trans (congrArg some hgrace))

/-- The last running time before `2 ^ 64` seconds may take as long as durations go, and that of
`2 ^ 64` seconds only for its grace period. -/
theorem beforePower_outlasts_power : ∃ r q v w,
    RunSetup.ofCombination (RunSetup.timed (.number beforePower)) = .ok r ∧
      RunSetup.ofCombination (RunSetup.timed (.number power)) = .ok q ∧
      r.runningTime.rational? = some v ∧ q.runningTime.rational? = some w ∧ 0 ≤ v ∧ v ≤ w ∧
      (beyondRunningTime (.ofSeconds 4096)).forRun? r = some .max ∧
      (beyondRunningTime (.ofSeconds 4096)).forRun? q = some (.ofSeconds 4096) ∧
      ¬Duration.max.nanos ≤ (Duration.ofSeconds 4096).nanos :=
  ⟨lasting beforePower, lasting power, _, _, ofCombination_timed _, ofCombination_timed _,
    rational?_beforePower, rational?_power, by norm_num, by norm_num,
    by decide +kernel, by decide +kernel, by decide +kernel⟩

/-! ### Exactness -/

/-- Up to `2 ^ 53` whole seconds are not rounded. -/
theorem nanos_runningTime_of_int {n : Int64} (h : r.runningTime = .int n) (hn : 0 ≤ n.toInt)
    (hsmall : n.toInt ≤ 2 ^ 53) : (runningTime r).nanos = n.toInt.toNat * 10 ^ 9 := by
  obtain ⟨k, hk⟩ : ∃ k : ℕ, n.toInt = k := ⟨n.toInt.toNat, (Int.toNat_of_nonneg hn).symm⟩
  have hexact : r.runningTime.rational? = some (k : ℚ) := by
    rw [h, Number.rational?, hk, Int.cast_natCast]
  have hone : (unitsPerOne : ℚ) ≠ 0 := by exact_mod_cast unitsPerOne_pos.ne'
  obtain ⟨num, m, hnum, hm, hrunning⟩ := exists_nanos_runningTime hexact (Nat.cast_nonneg k)
  obtain rfl : num = k * unitsPerOne := by exact_mod_cast hnum.symm
  have hunits : units (nearestRank (k * unitsPerOne) 1) = k * unitsPerOne := by
    rw [← rankOfNat_eq, (units_rankOfNat (by omega)).2, unitsPerOne_eq]
  rw [hunits, Nat.cast_mul, mul_div_cancel_right₀ _ hone] at hm
  have hnearest : IsNearest (k * 10 ^ 9 : ℚ) (k * 10 ^ 9) := by
    exact_mod_cast IsNearest.natCast (k * 10 ^ 9)
  have hlt : (k : ℚ) < 2 ^ 64 := by exact_mod_cast (by omega : k < 2 ^ 64)
  rw [hrunning, if_pos hlt, hm.eq hnearest, hk, Int.toNat_natCast]

/-- A double that is not negative is rounded to nanoseconds. -/
theorem exists_nanos_runningTime_of_float {x : Binary64} (h : r.runningTime = .float x)
    (hexact : x.rational? = some v) (hv : 0 ≤ v) :
    ∃ n, IsNearest (v * 10 ^ 9) n ∧
      (runningTime r).nanos = if n < 2 ^ 64 * 10 ^ 9 then n else 0 := by
  rw [runningTime, h, Number.toBinary64]
  cases x with
  | nan => cases hexact
  | infinity => cases hexact
  | finite negative rank =>
    exact Duration.exists_isNearest (rank_eq_zero_of_nonneg hexact hv)
      (mul_unitsPerOne_of_nonneg hexact hv)

/-- **The limit of a run.** The running time and the grace period always give a limit, which is at
least the grace period. A running time of up to `2 ^ 53` whole seconds counts exactly, one below
zero as none, and one that is a double is rounded to the nearest nanosecond, and to the even one of
two that are as near. Sums that are too long become the longest duration. -/
theorem limit_exact (grace : Duration) (r : RunSetup) :
    ∃ b, (beyondRunningTime grace).forRun? r = some b ∧
      grace.nanos ≤ b.nanos ∧
      (b.seconds < 2 ^ 64 ∧ b.subsecNanos < 10 ^ 9 ∧
        b.nanos = b.seconds * 10 ^ 9 + b.subsecNanos) ∧
      (∀ n : Int64, r.runningTime = .int n → 0 ≤ n.toInt → n.toInt ≤ 2 ^ 53 →
        b.nanos = min (n.toInt.toNat * 10 ^ 9 + grace.nanos) Duration.max.nanos) ∧
      ((∃ v < 0, r.runningTime.rational? = some v) ∨ r.runningTime = .float (.infinity true) →
        b = grace) ∧
      ∀ x v, r.runningTime = .float x → x.rational? = some v → 0 ≤ v →
        ∃ n, (∀ m, IsNearest (v * 10 ^ 9) m ↔ m = n) ∧
          (n < 2 ^ 64 * 10 ^ 9 → b.nanos = min (n + grace.nanos) Duration.max.nanos) := by
  obtain ⟨b, hb, hnanos⟩ := nanos_limit grace r
  refine ⟨b, hb, grace_le_of_nanos_eq hnanos, b.seconds_and_subsecNanos, ?_, ?_, ?_⟩
  · intro n hn hnonneg hsmall
    rw [hnanos, nanos_runningTime_of_int hn hnonneg hsmall]
  · intro hneg
    rw [runningTime_of_neg hneg] at hnanos
    exact eq_grace_of_nanos_eq hnanos
  · intro x v hx hv hnonneg
    obtain ⟨n, hn, hrunning⟩ := exists_nanos_runningTime_of_float hx hv hnonneg
    refine ⟨n, fun m => ⟨fun hm => hm.eq hn, fun h => h ▸ hn⟩, fun hlt => ?_⟩
    rw [hnanos, hrunning, if_pos hlt]

-- `2 ^ -10` seconds are 976562.5 nanoseconds
example : (beyondRunningTime (.ofSeconds 4)).forRun?
    (lasting (.float (.finite false ⟨1013 * twoTo 52, by decide⟩))) =
      some (.ofNanos 4000976562) := by
  decide +kernel

end TimeLimit

end TierSweep
