import TierSweep.Proofs.Json.Integers
import TierSweep.Proofs.Number.Numerals

/-!
# Doubles in JSON texts

In every style a finite double is written as a numeral that may stand in a JSON text. The numeral
tells the sign, it is read back as the rank, and it has a point or a power of ten, so it is no
integer. Doubles that are not finite are written as null in JSON texts.

## Main results

* `Json.exists_numeral?_render`, `Json.exists_ofWord?_realText`.
* `Json.render_finite_injective`, `Number.render_float_ne_toString_int`.
-/

namespace TierSweep

/-- The digits in front are those before the first other character. -/
theorem Numeral.whole_of_split? {negative : Bool} {cs : List Char} {n : Numeral}
    (h : split? negative cs = some n) : n.whole = cs.takeWhile Decimal.isDigit := by
  rw [split?] at h
  dsimp only at h
  split at h
  · obtain ⟨p, -, rfl⟩ := Option.map_eq_some_iff.mp h
    rfl
  · obtain ⟨p, -, rfl⟩ := Option.map_eq_some_iff.mp h
    rfl

namespace Json

/-- A numeral without a sign may stand in a JSON text with a minus sign or without. -/
theorem numeral?_of_split? {negative : Bool} {cs : List Char} {n : Numeral}
    (h : Numeral.split? negative cs = some n) (hreal : n.IsReal) :
    Sketch.numeral? ((if negative then ['-'] else []) ++ cs) = some n := by
  have hlength : ¬(n.whole.head? = some '0' ∧ n.whole.length ≠ 1) := fun hn =>
    hn.2 (hreal.length_whole hn.1)
  have hplain : ¬(n.whole = [] ∨ (n.whole.head? = some '0' ∧ n.whole.length ≠ 1) ∨
      n.fraction? = some []) := by
    rintro (hn | hn | hn)
    · exact hreal.whole_ne hn
    · exact hlength hn
    · exact hreal.fraction_ne hn
  rw [Sketch.numeral?.eq_def]
  cases negative with
  | true => simp [h, hplain]
  | false =>
    cases cs with
    | nil => simp [h, hplain]
    | cons c cs =>
      have hminus : c ≠ '-' := by
        rintro rfl
        exact hreal.whole_ne (Numeral.whole_of_split? h)
      simp [h, hplain, hminus]

theorem exists_numeral?_render (style : NumberStyle) (negative : Bool)
    (rank : Fin Binary64.finiteCount) :
    ∃ n, Sketch.numeral? (style.render (.finite negative rank)).toList = some n ∧
      n.negative = negative ∧ n.IsReal ∧ Binary64.RoundsTo n.toDecimal.value rank := by
  obtain ⟨_, ⟨n, hsplit, hnegative, hreal, rfl⟩, hrounds⟩ :=
    style.exists_writes_magnitude rank negative
  have htext : (style.render (.finite negative rank)).toList =
      (if negative then ['-'] else []) ++ (style.magnitude rank).toList := by
    cases negative <;> simp [NumberStyle.render]
  exact ⟨n, htext ▸ numeral?_of_split? hsplit hreal, hnegative, hreal, hrounds⟩

/-- The number, its sign included, can be told from the numeral. -/
theorem render_finite_injective (style : NumberStyle) {s s' : Bool}
    {r r' : Fin Binary64.finiteCount}
    (h : style.render (.finite s r) = style.render (.finite s' r')) : s = s' ∧ r = r' := by
  obtain ⟨n, hn, hs, -, hr⟩ := exists_numeral?_render style s r
  obtain ⟨n', hn', hs', -, hr'⟩ := exists_numeral?_render style s' r'
  rw [h, hn'] at hn
  obtain rfl := Option.some_inj.mp hn
  exact ⟨hs.symm.trans hs', Fin.ext (hr.rank_eq hr')⟩

theorem numeralOf_injective : Function.Injective numeralOf := by
  intro n m h
  simp only [numeralOf, Numeral.mk.injEq, decide_eq_decide] at h
  have habs : n.natAbs = m.natAbs := by
    rw [← Decimal.ofDigits_toDigits n.natAbs, h.2.1, Decimal.ofDigits_toDigits]
  omega

/-- The numeral of an integer has neither a point nor a power of ten. -/
theorem not_isReal_numeralOf (n : Int) : ¬(numeralOf n).IsReal := by
  intro h
  obtain h | h := h.marked <;> cases h

/-- No finite double is written like an integer. -/
theorem render_finite_ne_toString_int (style : NumberStyle) (negative : Bool)
    (rank : Fin Binary64.finiteCount) (n : Int) :
    style.render (.finite negative rank) ≠ toString n := by
  intro h
  obtain ⟨m, hm, -, hreal, -⟩ := exists_numeral?_render style negative rank
  rw [h, numeral?_toString_int] at hm
  exact not_isReal_numeralOf n (Option.some_inj.mp hm ▸ hreal)

/-! ### Words -/

theorem ofWord?_realText_of_not_isFinite {x : Binary64} (h : x.isFinite = false) :
    Sketch.ofWord? (realText x).toList = some .null := by
  rw [realText, if_neg (Bool.eq_false_iff.mp h)]
  rfl

/-- A finite double is read as the numeral it is written as. -/
theorem exists_ofWord?_realText (negative : Bool) (rank : Fin Binary64.finiteCount) :
    ∃ n, Sketch.ofWord? (realText (.finite negative rank)).toList = some (.number n) ∧
      n.negative = negative ∧ n.IsReal ∧ Binary64.RoundsTo n.toDecimal.value rank := by
  obtain ⟨n, hn, hfacts⟩ := exists_numeral?_render numberStyle negative rank
  exact ⟨n, ofWord?_of_numeral? hn, hfacts⟩

/-- The text of a double is always a word that stands for something. -/
theorem exists_ofWord?_realText_eq (x : Binary64) :
    ∃ s, Sketch.ofWord? (realText x).toList = some s := by
  cases x with
  | nan => exact ⟨_, ofWord?_realText_of_not_isFinite rfl⟩
  | infinity negative => exact ⟨_, ofWord?_realText_of_not_isFinite rfl⟩
  | finite negative rank =>
    obtain ⟨n, hn, -⟩ := exists_ofWord?_realText negative rank
    exact ⟨_, hn⟩

end Json

namespace Number

/-- The words for doubles that are not finite are no numerals. -/
theorem numeral?_render_of_not_isFinite {x : Binary64} (h : x.isFinite = false) :
    Json.Sketch.numeral? (float x).render.toList = none := by
  cases x with
  | nan => decide
  | infinity negative => cases negative <;> decide
  | finite negative rank => cases h

/-- No double is written like an integer. -/
theorem render_float_ne_toString_int (x : Binary64) (n : Int) :
    (Number.float x).render ≠ toString n := by
  have hword (hx : x.isFinite = false) : (Number.float x).render ≠ toString n := by
    intro h
    have hnone := numeral?_render_of_not_isFinite hx
    rw [h, Json.numeral?_toString_int] at hnone
    cases hnone
  cases x with
  | nan => exact hword rfl
  | infinity negative => exact hword rfl
  | finite negative rank => exact Json.render_finite_ne_toString_int style negative rank n

end Number

end TierSweep
