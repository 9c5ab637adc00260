import Mathlib.Data.Nat.Digits.Defs
import TierSweep.Number.Decimal

/-!
# Decimal digits

The digits of a number are read back as the number. Zeros in front of digits do not count, and each
zero behind them multiplies by ten.

## Main results

* `Decimal.ofDigits_toDigits`, `Decimal.ofDigits_zeros_append`, `Decimal.ofDigits_append_zeros`.
* `Decimal.eq_zero_of_head?_toDigits` — no needless zero is written.
-/

namespace TierSweep.Decimal

theorem digit?_of_isDigit {c : Char} (h : c.isDigit = true) :
    digit? c = some (c.toNat - '0'.toNat) := by
  have hc : '0' ≤ c ∧ c ≤ '9' := by simpa [Char.isDigit, Char.le_def] using h
  exact if_pos hc

theorem isDigit_iff {c : Char} : isDigit c = true ↔ c.isDigit = true := by
  simp [isDigit, digit?, Char.isDigit, Char.le_def]

theorem all_isDigit_toDigits (n : Nat) : ∀ c ∈ Nat.toDigits 10 n, isDigit c = true := fun _ hc =>
  isDigit_iff.mpr (Nat.isDigit_of_mem_toDigits (by decide) (by decide) hc)

/-- No number but zero is written with a zero in front. -/
theorem eq_zero_of_head?_toDigits {n : Nat} (h : (Nat.toDigits 10 n).head? = some '0') : n = 0 := by
  induction n using Nat.base_induction 10 (by decide) with
  | single m hm =>
    rw [Nat.toDigits_of_lt_base hm] at h
    exact Nat.digitChar_eq_zero.mp (Option.some_inj.mp h)
  | digit m k hk hm ih =>
    obtain ⟨c, cs, hcs⟩ := List.exists_cons_of_ne_nil (Nat.toDigits_ne_nil (b := 10) (n := m))
    rw [← Nat.toDigits_append_toDigits (by decide) hm hk, hcs] at h
    rw [ih (hcs ▸ h)] at hm
    cases hm

/-- Runs of digits are read like those of natural numbers. -/
theorem ofDigits_eq_ofDigitChars {cs : List Char} (h : ∀ c ∈ cs, isDigit c = true) :
    ofDigits cs = Nat.ofDigitChars 10 cs 0 := by
  have hfrom (n : Nat) : cs.foldl (fun n c => 10 * n + (digit? c).getD 0) n =
      Nat.ofDigitChars 10 cs n := by
    induction cs generalizing n with
    | nil => rfl
    | cons c cs ih =>
      obtain ⟨hc, hcs⟩ := List.forall_mem_cons.mp h
      rw [List.foldl_cons, digit?_of_isDigit (isDigit_iff.mp hc), Option.getD_some, ih hcs,
        Nat.ofDigitChars_cons]
  exact hfrom 0

theorem ofDigits_toDigits (n : Nat) : ofDigits (Nat.toDigits 10 n) = n := by
  rw [ofDigits_eq_ofDigitChars (all_isDigit_toDigits n), Nat.ofDigitChars_ten_toDigits]

theorem isDigit_of_mem_zeros {k : Nat} : ∀ c ∈ List.replicate k '0', isDigit c = true :=
  fun _ hc => by rw [List.eq_of_mem_replicate hc]; rfl

/-- Zeros in front do not count. -/
theorem ofDigits_zeros_append (k : Nat) (cs : List Char) :
    ofDigits (List.replicate k '0' ++ cs) = ofDigits cs := by
  have hzeros : ofDigits (List.replicate k '0') = 0 := by
    rw [ofDigits_eq_ofDigitChars isDigit_of_mem_zeros, Nat.ofDigitChars_replicate_zero, Nat.mul_zero]
  rw [ofDigits, List.foldl_append, ← ofDigits, hzeros, ← ofDigits]

/-- Every zero behind multiplies by ten. -/
theorem ofDigits_append_zeros {cs : List Char} (h : ∀ c ∈ cs, isDigit c = true) (k : Nat) :
    ofDigits (cs ++ List.replicate k '0') = 10 ^ k * ofDigits cs := by
  rw [ofDigits_eq_ofDigitChars (List.forall_mem_append.mpr ⟨h, isDigit_of_mem_zeros⟩),
    ofDigits_eq_ofDigitChars h, Nat.ofDigitChars_append, Nat.ofDigitChars_replicate_zero]

end TierSweep.Decimal
