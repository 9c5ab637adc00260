import TierSweep.Proofs.Json.Reals
import TierSweep.Proofs.Spec.Normalization

/-!
# Integers of a specification

An integer of a mapping becomes a value that is spelled with the same digits if it is an `i64`, and
only then: any other integer becomes a double, and no double is spelled like an integer.

## Main results

* `Spec.Denotes.render_eq_iff`, `Spec.render_integer_iff`.
-/

namespace TierSweep

open Traversal

namespace Spec

/-- A value that an integer denotes is spelled like the integer exactly if that is an `i64`. -/
theorem Denotes.render_eq_iff {n : Int} {v : Value} (h : Denotes (.int n) v) :
    v.render = toString n ↔ Int64.minValue.toInt ≤ n ∧ n ≤ Int64.maxValue.toInt := by
  cases h with
  | int n => exact iff_of_true rfl ⟨n.minValue_le_toInt, n.toInt_le⟩
  | beyond hrange =>
    rw [Value.float, Value.render]
    exact iff_of_false (Number.render_float_ne_toString_int _ n) hrange

variable {entries : List (Yaml.Node × Yaml.Node)} {s : Spec}

/-- **Integers survive normalization as long as they are `i64`.** Where an item of a mapping's entry
is an integer, the parameter of the entry has a value in its place that is spelled with the digits of
the integer if the integer has sixty-four signed bits, and is spelled differently otherwise. -/
theorem render_integer_iff (h : ofMapping entries = .ok s) {i j : Nat} {e : Yaml.Node × Yaml.Node}
    {n : Int} (he : entries[i]? = some e) (hn : e.2.items[j]? = some (.int n)) :
    ∃ p v, s.params[i]? = some p ∧ e.1 = .text p.name ∧ p.values[j]? = some v ∧
      (v.render = toString n ↔ Int64.minValue.toInt ≤ n ∧ n ≤ Int64.maxValue.toInt) := by
  obtain ⟨p, hp, hspecifies⟩ := exists_getElem?_of_forall₂ (ofMapping_eq_ok_iff.mp h) he
  obtain ⟨v, hv, hdenotes⟩ := exists_getElem?_of_forall₂ hspecifies.items hn
  exact ⟨p, v, hp, hspecifies.key, hv, hdenotes.render_eq_iff⟩

/-- The greatest `i64` and the integer after it. -/
def aroundMax : List (Yaml.Node × Yaml.Node) :=
  [(.text "buffer_size", .sequence [.int 9223372036854775807, .int 9223372036854775808])]

theorem ofMapping_aroundMax : ofMapping aroundMax = .ok
    ⟨[⟨"buffer_size", [.int 9223372036854775807, .float (.ofInt 9223372036854775808)]⟩]⟩ :=
  ofMapping_eq_ok_iff.mpr
    (.cons ⟨rfl, .cons (.int 9223372036854775807) (.cons (.beyond (by decide)) .nil)⟩ .nil)

theorem render_integer_iff_aroundMax : ∃ s p kept lost,
    ofMapping aroundMax = .ok s ∧ s.params[0]? = some p ∧
      p.values[0]? = some kept ∧ kept.render = "9223372036854775807" ∧
      p.values[1]? = some lost ∧ lost.render ≠ "9223372036854775808" := by
  obtain ⟨p, kept, hp, -, hkept, hspelled⟩ :=
    render_integer_iff ofMapping_aroundMax (i := 0) (j := 0) rfl rfl
  obtain ⟨q, lost, hq, -, hlost, hdiffers⟩ :=
    render_integer_iff ofMapping_aroundMax (i := 0) (j := 1) rfl rfl
  obtain rfl := Option.some_inj.mp (hp.symm.trans hq)
  exact ⟨_, p, kept, lost, ofMapping_aroundMax, hp, hkept, hspelled.mpr (by decide), hlost,
    fun h => absurd (hdiffers.mp h) (by decide)⟩

/-- An integer that is no `i64` is spelled with sixteen digits and a power of ten. -/
theorem unsigned_spelled_otherwise : ∃ s p v,
    ofMapping aroundMax = .ok s ∧ s.params[0]? = some p ∧ p.values[1]? = some v ∧
      v.render = "9.223372036854776e+18" ∧ v.render ≠ toString (9223372036854775808 : Int) :=
  ⟨_, _, _, ofMapping_aroundMax, rfl, rfl, by decide +kernel, by decide +kernel⟩

end Spec

end TierSweep
