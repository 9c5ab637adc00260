import TierSweep.Proofs.Json.Reals
import TierSweep.Proofs.Number.Characters

/-!
# The texts of numbers

The text of a number tells the number: whether it is an integer or a double, and which one, the two
zeros among the doubles told apart. So texts may stand for the numbers where these are compared. In
the text of a double one sees that it is none of an integer: it has a point or a power of ten with a
sign and two digits or more, or it is one of three words.

## Main definitions

* `EndsWithPower` — a text ends with a signed power of ten.

## Main results

* `NumberStyle.mem_point_or_endsWithPower`.
* `Number.render_injective`, `Value.render_number_unambiguous`.
-/

namespace TierSweep

/-- The text ends with a power of ten that has a sign and at least so many digits. -/
def EndsWithPower (width : Nat) (s : String) : Prop :=
  ∃ mantissa sign digits, s.toList = mantissa ++ 'e' :: sign :: digits ∧ (sign = '+' ∨ sign = '-') ∧
    width ≤ digits.length ∧ ∀ c ∈ digits, Decimal.isDigit c = true

theorem EndsWithPower.append {width : Nat} {s : String} (h : EndsWithPower width s)
    (front : String) : EndsWithPower width (front ++ s) := by
  obtain ⟨mantissa, sign, digits, htext, hpower⟩ := h
  exact ⟨front.toList ++ mantissa, sign, digits,
    by rw [String.toList_append, htext, List.append_assoc], hpower⟩

namespace NumberStyle

/-! ### The marks of doubles -/

theorem mem_point_positional (ds : List Char) (exponent : Int) :
    '.' ∈ (positional ds exponent).toList := by
  rw [positional]
  split
  · simp
  · simp

/-- A power that is written with a sign in any case has one, and the digits it is to have at least.
-/
theorem endsWithPower_scientific (style : NumberStyle) (hplus : style.plusSign = true)
    {ds : List Char} (hne : ds ≠ []) (exponent : Int) :
    EndsWithPower style.powerWidth (style.scientific ds exponent) := by
  obtain ⟨d, rest, rfl⟩ := List.exists_cons_of_ne_nil hne
  obtain ⟨k, hwidth, htext⟩ := style.toList_scientific d rest exponent
  obtain ⟨sign, hpower, hsign⟩ :
      ∃ sign, Numeral.powerSign (exponent < 0) style.plusSign = [sign] ∧
        (sign = '+' ∨ sign = '-') := by
    rw [hplus, Numeral.powerSign]
    split
    · exact ⟨'-', rfl, .inr rfl⟩
    · exact ⟨'+', rfl, .inl rfl⟩
  refine ⟨[d] ++ if rest = [] then [] else '.' :: rest, sign,
    List.replicate k '0' ++ Nat.toDigits 10 exponent.natAbs, ?_, hsign, ?_, ?_⟩
  · rw [htext, hpower, List.append_assoc]
    rfl
  · rwa [List.length_append, List.length_replicate]
  · exact List.forall_mem_append.mpr
      ⟨Decimal.isDigit_of_mem_zeros, Decimal.all_isDigit_toDigits _⟩

/-- A finite double is written with a point or with a power of ten. -/
theorem mem_point_or_endsWithPower (style : NumberStyle) (hplus : style.plusSign = true)
    (negative : Bool) (rank : Fin Binary64.finiteCount) :
    '.' ∈ (style.render (.finite negative rank)).toList ∨
      EndsWithPower style.powerWidth (style.render (.finite negative rank)) := by
  have hmagnitude : '.' ∈ (style.magnitude rank).toList ∨
      EndsWithPower style.powerWidth (style.magnitude rank) := by
    rw [magnitude]
    split
    · exact .inl (by decide)
    · have hne : (toString (Shortest.ofRank style.tie rank).digits).toList ≠ [] := by
        rw [Nat.toString_eq_ofList_toDigits, String.toList_ofList]
        exact Nat.toDigits_ne_nil
      simp only
      split
      · exact .inl (mem_point_positional _ _)
      · exact .inr (style.endsWithPower_scientific hplus hne _)
  rw [render]
  refine hmagnitude.imp (fun h => ?_) (·.append _)
  rw [String.toList_append]
  exact List.mem_append_right _ h

end NumberStyle

namespace Number

theorem toString_int_injective : Function.Injective (toString : Int → String) := by
  intro n m h
  have hn := Json.numeral?_toString_int n
  rw [h, Json.numeral?_toString_int] at hn
  exact (Json.numeralOf_injective (Option.some_inj.mp hn)).symm

/-- A finite double is not written as one of the words. -/
theorem render_word_ne_finite {x : Binary64} (hx : x.isFinite = false) (negative : Bool)
    (rank : Fin Binary64.finiteCount) :
    (float x).render ≠ (float (.finite negative rank)).render := by
  intro h
  have hnone := numeral?_render_of_not_isFinite hx
  obtain ⟨n, hn, -⟩ := Json.exists_numeral?_render style negative rank
  rw [h] at hnone
  exact Option.some_ne_none n (hn.symm.trans hnone)

/-- Different doubles are written differently. -/
theorem render_float_injective : Function.Injective fun x => (float x).render := by
  have hnan : ∀ s, (float .nan).render ≠ (float (.infinity s)).render := by decide
  have hinfinity : ∀ s s',
      (float (.infinity s)).render = (float (.infinity s')).render → s = s' := by
    decide
  intro x y h
  cases x with
  | nan =>
    cases y with
    | nan => rfl
    | infinity s => exact absurd h (hnan s)
    | finite s r => exact absurd h (render_word_ne_finite rfl s r)
  | infinity s =>
    cases y with
    | nan => exact absurd h.symm (hnan s)
    | infinity s' => rw [hinfinity s s' h]
    | finite s' r => exact absurd h (render_word_ne_finite rfl s' r)
  | finite s r =>
    cases y with
    | nan => exact absurd h.symm (render_word_ne_finite rfl s r)
    | infinity s' => exact absurd h.symm (render_word_ne_finite rfl s r)
    | finite s' r' =>
      obtain ⟨rfl, rfl⟩ := Json.render_finite_injective style h
      rfl

theorem render_injective : Function.Injective render := by
  intro a b h
  cases a with
  | int n =>
    cases b with
    | int m => rw [Int64.toInt_inj.mp (toString_int_injective h)]
    | float y => exact absurd h.symm (render_float_ne_toString_int y n.toInt)
  | float x =>
    cases b with
    | int m => exact absurd h (render_float_ne_toString_int x m.toInt)
    | float y => rw [render_float_injective h]

end Number

/-- **Numbers and their texts**: two numbers have the same text only if they are the same, an
integer never being a double, and the zeros being two numbers. The text of a double has a point or a
power of ten with a sign and two digits or more, or is one of three words. No number is written with
the separator of identifiers, a character that identifiers replace, or a space. -/
theorem Value.render_number_unambiguous :
    (∀ a b : Number, (number a).render = (number b).render ↔ a = b) ∧
      (∀ x : Binary64, '.' ∈ (float x).render.toList ∨ EndsWithPower 2 (float x).render ∨
        (float x).render ∈ ["nan", "inf", "-inf"]) ∧
      ∀ (n : Number) (c : Char), c ∈ (number n).render.toList →
        c ∉ ['_', ' ', ',', '/', '\\', '\t'] := by
  refine ⟨fun a b => Number.render_injective.eq_iff, fun x => ?_, fun n c hc hmem => ?_⟩
  · cases x with
    | nan => exact .inr (.inr (by decide))
    | infinity negative => exact .inr (.inr (by cases negative <;> decide))
    | finite negative rank =>
      exact (Number.style.mem_point_or_endsWithPower rfl negative rank).imp_right .inl
  · have hothers : ['_', ' ', ',', '/', '\\', '\t'].all (!isNumeral ·) = true := by decide
    have hother := List.all_eq_true.mp hothers c hmem
    rw [n.ofNumerals_render c hc] at hother
    cases hother

end TierSweep
