import Mathlib.Data.List.TakeWhile
import TierSweep.Number.Style
import TierSweep.Proofs.Number.Digits
import TierSweep.Proofs.Number.Shortest

/-!
# The numerals of magnitudes

A magnitude is written as a numeral, in positional notation or with a power of ten, and the numeral
stands for the shortest decimal of the magnitude. It has a point or a power, which no integer has,
and it keeps to the stricter rules for numerals in JSON texts: there is a digit on each side of a
point and no needless zero in front.

## Main definitions

* `Numeral.IsReal` — what the numerals of magnitudes have in common.
* `Numeral.Writes` — a text is that of such a numeral.

## Main results

* `NumberStyle.exists_writes_magnitude`.
-/

namespace TierSweep

namespace Numeral

/-- A numeral with a point or a power of ten, with a digit on each side of a point and no needless
zero in front. -/
structure IsReal (n : Numeral) : Prop where
  whole_ne : n.whole ≠ []
  length_whole : n.whole.head? = some '0' → n.whole.length = 1
  fraction_ne : n.fraction? ≠ some []
  marked : n.fraction?.isSome ∨ n.power?.isSome

/-- The text, with a sign in front of it or without, is a numeral of this kind for the number. -/
def Writes (negative : Bool) (cs : List Char) (x : ℚ) : Prop :=
  ∃ n, split? negative cs = some n ∧ n.negative = negative ∧ n.IsReal ∧ n.toDecimal.value = x

variable {negative : Bool} {whole fraction rest : List Char} {p : Option (Bool × List Char)}

/-- Digits end at the first character that is none. -/
theorem takeWhile_append (hwhole : ∀ c ∈ whole, Decimal.isDigit c = true)
    (hrest : ∀ c ∈ rest.head?, Decimal.isDigit c = false) :
    (whole ++ rest).takeWhile Decimal.isDigit = whole ∧
      (whole ++ rest).dropWhile Decimal.isDigit = rest := by
  rw [List.takeWhile_append_of_pos hwhole, List.dropWhile_append_of_pos hwhole]
  cases rest with
  | nil => exact ⟨List.append_nil whole, rfl⟩
  | cons c cs =>
    have hc := Bool.eq_false_iff.mp (hrest c rfl)
    rw [List.takeWhile_cons_of_neg hc, List.dropWhile_cons_of_neg hc]
    exact ⟨List.append_nil whole, rfl⟩

theorem split?_point (hwhole : ∀ c ∈ whole, Decimal.isDigit c = true)
    (hfraction : ∀ c ∈ fraction, Decimal.isDigit c = true)
    (hrest : ∀ c ∈ rest.head?, Decimal.isDigit c = false) (hp : takePower? rest = some p) :
    split? negative (whole ++ '.' :: (fraction ++ rest)) =
      some ⟨negative, whole, some fraction, p⟩ := by
  have hpoint : ∀ c ∈ ('.' :: (fraction ++ rest)).head?, Decimal.isDigit c = false :=
    fun c hc => Option.mem_some_iff.mp hc ▸ rfl
  obtain ⟨htake, hdrop⟩ := takeWhile_append hwhole hpoint
  obtain ⟨htake', hdrop'⟩ := takeWhile_append hfraction hrest
  rw [split?, htake, hdrop]
  simp only [htake', hdrop', hp, Option.map_some]

/-- A numeral that ends with its fraction. -/
theorem split?_fraction (hwhole : ∀ c ∈ whole, Decimal.isDigit c = true)
    (hfraction : ∀ c ∈ fraction, Decimal.isDigit c = true) :
    split? negative (whole ++ '.' :: fraction) = some ⟨negative, whole, some fraction, none⟩ := by
  have h : split? negative (whole ++ '.' :: (fraction ++ [])) = _ :=
    split?_point hwhole hfraction (by simp) rfl
  rwa [List.append_nil] at h

theorem split?_noPoint (hwhole : ∀ c ∈ whole, Decimal.isDigit c = true)
    (hrest : ∀ c ∈ rest.head?, Decimal.isDigit c = false ∧ c ≠ '.')
    (hp : takePower? rest = some p) :
    split? negative (whole ++ rest) = some ⟨negative, whole, none, p⟩ := by
  obtain ⟨htake, hdrop⟩ := takeWhile_append hwhole fun c hc => (hrest c hc).1
  rw [split?, htake, hdrop]
  split
  · exact absurd rfl (hrest '.' rfl).2
  · rw [hp, Option.map_some]

/-- The sign of a power of ten, where a plus sign may be left out. -/
def powerSign (minus plus : Bool) : List Char :=
  if minus then ['-'] else if plus then ['+'] else []

/-- A power of ten is read with any of the signs it may be written with. -/
theorem takePower?_mark {digits : List Char} (hne : digits ≠ [])
    (hdigits : ∀ c ∈ digits, Decimal.isDigit c = true) (minus plus : Bool) :
    takePower? ('e' :: (powerSign minus plus ++ digits)) = some (some (minus, digits)) := by
  have hall := List.all_eq_true.mpr hdigits
  have hsign : takeSign (powerSign minus plus ++ digits) = (minus, digits) := by
    cases minus with
    | true => rfl
    | false =>
      cases plus with
      | true => rfl
      | false =>
        change takeSign digits = _
        unfold takeSign
        split
        · exact absurd (hdigits '-' List.mem_cons_self) (by decide)
        · exact absurd (hdigits '+' List.mem_cons_self) (by decide)
        · rfl
  rw [takePower?]
  simp [hsign, hne, hall]

/-- Zeros in front of a power do not count. -/
theorem exponent_eq {n : Numeral} {k : ℕ} {e : ℤ}
    (h : n.power? = some (decide (e < 0), List.replicate k '0' ++ Nat.toDigits 10 e.natAbs)) :
    n.exponent = e := by
  rw [Numeral.exponent, h]
  by_cases he : e < 0
  · simp only [he, decide_true, Decimal.ofDigits_zeros_append, Decimal.ofDigits_toDigits]
    omega
  · simp only [he, decide_false, Decimal.ofDigits_zeros_append, Decimal.ofDigits_toDigits]
    omega

/-- The number a numeral stands for. -/
theorem value_toDecimal (n : Numeral) : n.toDecimal.value =
    Decimal.ofDigits (n.whole ++ n.fraction?.getD []) *
      10 ^ (n.exponent - (n.fraction?.getD []).length) := rfl

/-- A numeral with a point and no power stands for the digits on both sides of the point, scaled by
the length of its fraction. -/
theorem writes_fraction {digits : List Char} (hwhole : ∀ c ∈ whole, Decimal.isDigit c = true)
    (hfraction : ∀ c ∈ fraction, Decimal.isDigit c = true) (hne : whole ≠ [])
    (hlength : whole.head? = some '0' → whole.length = 1) (hne' : fraction ≠ [])
    (hdigits : whole ++ fraction = digits) :
    Writes negative (whole ++ '.' :: fraction)
      (Decimal.ofDigits digits * 10 ^ (-(fraction.length : ℤ))) := by
  subst hdigits
  refine ⟨_, split?_fraction hwhole hfraction, rfl,
    ⟨hne, hlength, fun h => hne' (Option.some_inj.mp h), .inl rfl⟩, ?_⟩
  rw [value_toDecimal, Numeral.exponent, zero_sub]
  rfl

end Numeral

namespace NumberStyle

open Numeral

variable {ds : List Char} {exponent : ℤ} {negative : Bool}

/-! ### Positional notation -/

/-- Below one, zeros fill the places between the point and the digits. -/
theorem toList_positional_of_neg {k : ℕ} (hk : exponent = -k - 1) :
    (positional ds exponent).toList = ['0'] ++ '.' :: (List.replicate k '0' ++ ds) := by
  have hzeros : (-exponent - 1).toNat = k := by omega
  rw [positional, if_pos (by omega), hzeros]
  simp

/-- The point stands among the digits if there are enough of them. -/
theorem toList_positional_of_lt {k : ℕ} (hk : exponent = k) (hlong : k + 1 < ds.length) :
    (positional ds exponent).toList = ds.take (k + 1) ++ '.' :: ds.drop (k + 1) := by
  subst hk
  rw [positional, if_neg (by omega), Int.toNat_natCast]
  simp [Nat.sub_eq_zero_of_le hlong.le, Nat.not_le.mpr hlong]

/-- Otherwise zeros fill the places up to the point, and a zero follows it. -/
theorem toList_positional_of_le {k : ℕ} (hk : exponent = k) (hshort : ds.length ≤ k + 1) :
    (positional ds exponent).toList =
      (ds ++ List.replicate (k + 1 - ds.length) '0') ++ '.' :: ['0'] := by
  subst hk
  rw [positional, if_neg (by omega), Int.toNat_natCast]
  simp [List.take_of_length_le hshort, List.drop_of_length_le hshort]

/-- Zeros behind the digits make up for a smaller power of ten. -/
theorem ofDigits_append_zeros_mul (hds : ∀ c ∈ ds, Decimal.isDigit c = true) (k : ℕ) (e : ℤ) :
    (Decimal.ofDigits (ds ++ List.replicate k '0') * 10 ^ (e - k) : ℚ) =
      Decimal.ofDigits ds * 10 ^ e := by
  rw [Decimal.ofDigits_append_zeros hds, zpow_sub₀ (by norm_num), zpow_natCast]
  push_cast
  field_simp

theorem writes_positional (hne : ds ≠ []) (hds : ∀ c ∈ ds, Decimal.isDigit c = true)
    (hhead : ds.head? ≠ some '0') :
    Writes negative (positional ds exponent).toList
      (Decimal.ofDigits ds * 10 ^ (exponent + 1 - ds.length)) := by
  have hzero : ∀ c ∈ ['0'], Decimal.isDigit c = true := List.forall_mem_singleton.mpr rfl
  by_cases hexponent : exponent < 0
  · obtain ⟨k, hk⟩ : ∃ k : ℕ, exponent = -k - 1 := ⟨(-exponent - 1).toNat, by omega⟩
    have hplaces : exponent + 1 - ds.length = -((List.replicate k '0' ++ ds).length : ℤ) := by
      rw [List.length_append, List.length_replicate]
      omega
    rw [toList_positional_of_neg hk, hplaces, ← Decimal.ofDigits_zeros_append (k + 1)]
    exact writes_fraction hzero
      (List.forall_mem_append.mpr ⟨Decimal.isDigit_of_mem_zeros, hds⟩) (List.cons_ne_nil _ _)
      (fun _ => rfl) (List.append_ne_nil_of_right_ne_nil _ hne) rfl
  · obtain ⟨k, hk⟩ : ∃ k : ℕ, exponent = k := ⟨exponent.toNat, by omega⟩
    rcases Nat.lt_or_ge (k + 1) ds.length with hlong | hshort
    · have hplaces : exponent + 1 - ds.length = -((ds.drop (k + 1)).length : ℤ) := by
        rw [List.length_drop]
        omega
      rw [toList_positional_of_lt hk hlong, hplaces]
      refine writes_fraction (fun c hc => hds c (List.mem_of_mem_take hc))
        (fun c hc => hds c (List.mem_of_mem_drop hc)) (by simpa using hne) ?_
        (by simpa using hlong) (List.take_append_drop _ _)
      rw [List.head?_take, if_neg k.succ_ne_zero]
      exact fun h => absurd h hhead
    · have hplaces : exponent + 1 - ds.length - (k + 1 - ds.length + 1 : ℕ) =
          -(['0'].length : ℤ) := by
        rw [List.length_singleton]
        omega
      rw [toList_positional_of_le hk hshort,
        ← ofDigits_append_zeros_mul hds (k + 1 - ds.length + 1), hplaces]
      refine writes_fraction (List.forall_mem_append.mpr ⟨hds, Decimal.isDigit_of_mem_zeros⟩) hzero
        (List.append_ne_nil_of_left_ne_nil hne _) ?_ (List.cons_ne_nil _ _) ?_
      · rw [List.head?_append_of_ne_nil _ hne]
        exact fun h => absurd h hhead
      · rw [List.append_assoc, ← List.replicate_succ']

/-! ### Scientific notation -/

/-- A scientific text is the leading digit, a point and the others if there are any, and the power
with its sign and, in front, the zeros that it needs to be wide enough. -/
theorem toList_scientific (style : NumberStyle) (d : Char) (rest : List Char) (exponent : ℤ) :
    ∃ k, style.powerWidth ≤ k + (Nat.toDigits 10 exponent.natAbs).length ∧
      (style.scientific (d :: rest) exponent).toList =
        [d] ++ ((if rest = [] then [] else '.' :: rest) ++ 'e' ::
          (powerSign (exponent < 0) style.plusSign ++
            (List.replicate k '0' ++ Nat.toDigits 10 exponent.natAbs))) := by
  have hlength : (toString exponent.natAbs).length = (Nat.toDigits 10 exponent.natAbs).length := by
    rw [Nat.toString_eq_ofList_toDigits, String.length_ofList]
  refine ⟨style.powerWidth - (toString exponent.natAbs).length, by omega, ?_⟩
  have hsign : (if exponent < 0 then "-" else if style.plusSign then "+" else "").toList =
      powerSign (exponent < 0) style.plusSign := by
    simp only [powerSign, decide_eq_true_eq]
    split
    · rfl
    · split <;> rfl
  rw [scientific.eq_def]
  change (_ ++ "e" ++ _ ++ (String.ofList (List.replicate _ '0') ++ toString _)).toList = _
  simp only [String.toList_append, hsign, String.toList_ofList, Nat.toString_eq_ofList_toDigits]
  cases rest <;> simp

theorem writes_scientific (style : NumberStyle) (hne : ds ≠ [])
    (hds : ∀ c ∈ ds, Decimal.isDigit c = true) :
    Writes negative (style.scientific ds exponent).toList
      (Decimal.ofDigits ds * 10 ^ (exponent + 1 - ds.length)) := by
  obtain ⟨d, rest, rfl⟩ := List.exists_cons_of_ne_nil hne
  obtain ⟨hd, hrest⟩ := List.forall_mem_cons.mp hds
  obtain ⟨k, -, htext⟩ := style.toList_scientific d rest exponent
  set power := List.replicate k '0' ++ Nat.toDigits 10 exponent.natAbs
  have hmark : takePower? ('e' :: (powerSign (exponent < 0) style.plusSign ++ power)) =
      some (some (decide (exponent < 0), power)) :=
    takePower?_mark (by simp) (List.forall_mem_append.mpr
      ⟨Decimal.isDigit_of_mem_zeros, Decimal.all_isDigit_toDigits _⟩) _ _
  have hmarkHead (c : Char) (hc : c ∈ some 'e') : Decimal.isDigit c = false ∧ c ≠ '.' := by
    rw [← Option.mem_some_iff.mp hc]
    decide
  have hlead : ∀ c ∈ [d], Decimal.isDigit c = true := List.forall_mem_singleton.mpr hd
  rw [htext]
  by_cases hsingle : rest = []
  · refine ⟨⟨negative, [d], none, some (decide (exponent < 0), power)⟩, ?_, rfl,
      ⟨List.cons_ne_nil _ _, fun _ => rfl, by simp, .inr rfl⟩, ?_⟩
    · rw [if_pos hsingle, List.nil_append]
      exact split?_noPoint hlead hmarkHead hmark
    · rw [value_toDecimal, exponent_eq rfl]
      simp [hsingle]
  · refine ⟨⟨negative, [d], some rest, some (decide (exponent < 0), power)⟩, ?_, rfl,
      ⟨List.cons_ne_nil _ _, fun _ => rfl, by simpa using hsingle, .inl rfl⟩, ?_⟩
    · rw [if_neg hsingle]
      exact split?_point hlead hrest (fun c hc => (hmarkHead c hc).1) hmark
    · rw [value_toDecimal, exponent_eq rfl, List.length_cons]
      congr 2
      push_cast
      change exponent - rest.length = _
      omega

/-! ### Magnitudes -/

theorem writes_zero : Writes negative "0.0".toList 0 := by
  refine ⟨⟨negative, ['0'], some ['0'], none⟩, rfl, rfl,
    ⟨by simp, fun _ => rfl, by simp, .inl rfl⟩, ?_⟩
  change (⟨0, -1⟩ : Decimal).value = 0
  rw [Decimal.value, Nat.cast_zero, zero_mul]

/-- **The numeral of a magnitude.** In every style a magnitude is written as a numeral that is read
back as its rank. -/
theorem exists_writes_magnitude (style : NumberStyle) (rank : ℕ) (negative : Bool) :
    ∃ x, Writes negative (style.magnitude rank).toList x ∧ Binary64.RoundsTo x rank := by
  rw [magnitude]
  by_cases hrank : rank = 0
  · subst hrank
    exact ⟨0, writes_zero, Binary64.roundsTo_zero⟩
  · rw [if_neg hrank]
    have hrounds := Shortest.roundsTo_ofRank style.tie rank
    set d := Shortest.ofRank style.tie rank
    refine ⟨d.value, ?_, hrounds⟩
    have hdigits : d.digits ≠ 0 := by
      intro h
      rw [Decimal.value, h, Nat.cast_zero, zero_mul] at hrounds
      exact hrank (hrounds.rank_eq Binary64.roundsTo_zero)
    have htext : (toString d.digits).toList = Nat.toDigits 10 d.digits := by
      rw [Nat.toString_eq_ofList_toDigits, String.toList_ofList]
    have hvalue : d.value = Decimal.ofDigits (Nat.toDigits 10 d.digits) * 10 ^ (d.exponent +
        (Nat.toDigits 10 d.digits).length - 1 + 1 - (Nat.toDigits 10 d.digits).length) := by
      rw [Decimal.ofDigits_toDigits, sub_add_cancel, add_sub_cancel_right, Decimal.value]
    have hne := Nat.toDigits_ne_nil (b := 10) (n := d.digits)
    have hall := Decimal.all_isDigit_toDigits d.digits
    simp only [htext, hvalue]
    split
    · exact writes_positional hne hall fun h => hdigits (Decimal.eq_zero_of_head?_toDigits h)
    · exact style.writes_scientific hne hall

end NumberStyle

end TierSweep
