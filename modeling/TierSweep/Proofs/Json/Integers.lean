import Mathlib.Data.List.TakeWhile
import TierSweep.Proofs.Json.Trees
import TierSweep.Proofs.Number.Characters
import TierSweep.Proofs.Number.Digits

/-!
# Integers in JSON texts

An integer is written as its decimal digits, with a minus sign in front of those of a negative one.
The word it makes is read as a numeral (`Json.numeralOf`), because its digits have no needless
leading zero, and the numeral has the integer as its value as long as that fits in sixty-four bits.

## Main definitions

* `Json.numeralOf` — the numeral of an integer.

## Main results

* `Json.ofWord?_toString_int`.
* `Json.ofNumeral?_numeralOf`.
-/

namespace TierSweep

namespace Json

/-! ### The word of an integer -/

/-- The numeral of an integer. -/
def numeralOf (n : Int) : Numeral := ⟨n < 0, Nat.toDigits 10 n.natAbs, none, none⟩

theorem toList_toString_int (n : Int) : (toString n).toList =
    (if n < 0 then ['-'] else []) ++ Nat.toDigits 10 n.natAbs := by
  rw [Int.toString_eq_repr, Int.repr_eq_if]
  by_cases hn : n < 0
  · have htoNat : (-n).toNat = n.natAbs := by omega
    simp [hn, Int.not_le.mpr hn, htoNat]
  · have htoNat : n.toNat = n.natAbs := by omega
    simp [hn, Int.not_lt.mp hn, htoNat]

theorem split?_toDigits (negative : Bool) (n : Nat) :
    Numeral.split? negative (Nat.toDigits 10 n)
      = some ⟨negative, Nat.toDigits 10 n, none, none⟩ := by
  have hall := Decimal.all_isDigit_toDigits n
  rw [Numeral.split?, List.takeWhile_eq_self_iff.mpr hall, List.dropWhile_eq_nil_iff.mpr hall]
  rfl

/-- The word of an integer is read as its numeral: no zero stands in front of other digits. -/
theorem numeral?_toString_int (n : Int) :
    Sketch.numeral? (toString n).toList = some (numeralOf n) := by
  obtain ⟨c, cs, hcs⟩ :=
    List.exists_cons_of_ne_nil (Nat.toDigits_ne_nil (b := 10) (n := n.natAbs))
  have hsplit (negative : Bool) := split?_toDigits negative n.natAbs
  have hminus : c ≠ '-' := by
    rintro rfl
    have hmem : '-' ∈ Nat.toDigits 10 n.natAbs := hcs ▸ List.mem_cons_self
    exact absurd (Nat.isDigit_of_mem_toDigits (by decide) (by decide) hmem) (by decide)
  have hzero : c = '0' → cs = [] := by
    rintro rfl
    have habs : n.natAbs = 0 := Decimal.eq_zero_of_head?_toDigits (by rw [hcs, List.head?_cons])
    rw [habs, Nat.toDigits_zero] at hcs
    exact (List.cons.inj hcs).2.symm
  rw [toList_toString_int, Sketch.numeral?.eq_def, numeralOf]
  rw [hcs] at hsplit ⊢
  by_cases hn : n < 0
  · simpa [hn, hsplit] using hzero
  · simpa [hn, hsplit, hminus] using hzero

/-- A numeral is none of the words for other values. -/
theorem ofWord?_of_numeral? {cs : List Char} {n : Numeral} (h : Sketch.numeral? cs = some n) :
    Sketch.ofWord? cs = some (.number n) := by
  have hne {word : String} (hword : Sketch.numeral? word.toList = none) : cs ≠ word.toList := by
    rintro rfl
    cases hword.symm.trans h
  rw [Sketch.ofWord?, if_neg (hne (by decide)), if_neg (hne (by decide)), if_neg (hne (by decide)), h,
    Option.map_some]

theorem ofWord?_toString_int (n : Int) :
    Sketch.ofWord? (toString n).toList = some (.number (numeralOf n)) :=
  ofWord?_of_numeral? (numeral?_toString_int n)

/-! ### The value of a numeral -/

theorem le_ofDigitChars (cs : List Char) (n : Nat) : n ≤ Nat.ofDigitChars 10 cs n := by
  rw [Nat.ofDigitChars_eq_ofDigitChars_zero]
  exact Nat.le_add_right_of_le (Nat.le_mul_of_pos_left n (Nat.pow_pos (by decide)))

/-- Digits are appended one by one as long as the number they make fits. -/
theorem appendDigits_of_le {cs : List Char} (h : ∀ c ∈ cs, c.isDigit = true) {n : Nat}
    (hle : Nat.ofDigitChars 10 cs n ≤ maxNat64) :
    appendDigits n cs = (Nat.ofDigitChars 10 cs n, 0) := by
  induction cs generalizing n with
  | nil => rfl
  | cons c cs ih =>
    obtain ⟨hc, hcs⟩ := List.forall_mem_cons.mp h
    rw [Nat.ofDigitChars_cons] at hle ⊢
    have hstep : 10 * n + (c.toNat - '0'.toNat) ≤ maxNat64 :=
      Nat.le_trans (le_ofDigitChars _ _) hle
    rw [appendDigits, Decimal.digit?_of_isDigit hc, Option.getD_some]
    simp only [if_pos hstep]
    exact ih hcs hle

theorem ofNumeral?_numeralOf {n : Int} (h : (int n).isIntegral = true) :
    ofNumeral? (numeralOf n) = some (.int n) := by
  have hmin : Int64.minValue.toInt = -9223372036854775808 := by decide
  simp only [isIntegral, Bool.and_eq_true, decide_eq_true_eq, hmin, UInt64.size] at h
  have hdigits : appendDigits 0 (Nat.toDigits 10 n.natAbs) = (n.natAbs, 0) := by
    have hall := fun c hc =>
      Nat.isDigit_of_mem_toDigits (b := 10) (n := n.natAbs) (c := c) (by decide) (by decide) hc
    have hle : Nat.ofDigitChars 10 (Nat.toDigits 10 n.natAbs) 0 ≤ maxNat64 := by
      rw [Nat.ofDigitChars_ten_toDigits, maxNat64, UInt64.size]
      omega
    rw [appendDigits_of_le hall hle, Nat.ofDigitChars_ten_toDigits]
  rw [ofNumeral?]
  simp only [numeralOf, hdigits]
  by_cases hn : n < 0
  · have hwhole : 1 ≤ n.natAbs ∧ n.natAbs ≤ twoTo 63 := by
      have htwoTo : twoTo 63 = 9223372036854775808 := by decide
      omega
    have hneg : -(n.natAbs : Int) = n := by omega
    simp only [hn, hwhole, hneg, decide_true, Bool.not_true, Bool.false_eq_true, if_false, if_true,
      and_self]
  · have hpos : (n.natAbs : Int) = n := by omega
    simp only [hn, hpos, decide_false, Bool.not_false, if_true]

end Json

end TierSweep
