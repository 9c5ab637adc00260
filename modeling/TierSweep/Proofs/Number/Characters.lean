import TierSweep.Value

/-!
# The characters of written numbers

A natural number is written with decimal digits alone. An integer or a double is written with digits
and a few further characters (`isNumeral`), whatever its value. Neither the separator of identifiers
nor any character that identifiers replace is among them.

## Main results

* `isDigit_of_mem_toString`.
* `Number.ofNumerals_render` — the characters of a written number.
-/

namespace TierSweep

/-- A natural number is written with digits. -/
theorem isDigit_of_mem_toString {n : Nat} {c : Char} (h : c ∈ (toString n).toList) :
    c.isDigit = true := by
  rw [Nat.toString_eq_ofList_toDigits, String.toList_ofList] at h
  exact Nat.isDigit_of_mem_toDigits (by decide) (by decide) h

/-- The characters of written numbers: digits, signs, the point, the mark of a power of ten, and the
letters of the words for values without digits. -/
def isNumeral (c : Char) : Bool :=
  c.isDigit || ['-', '+', '.', 'e', 'n', 'a', 'i', 'f'].contains c

/-- A text with characters of written numbers only. -/
def OfNumerals (s : String) : Prop := ∀ c ∈ s.toList, isNumeral c = true

instance (s : String) : Decidable (OfNumerals s) :=
  decidable_of_iff (s.toList.all isNumeral = true) List.all_eq_true

namespace OfNumerals

theorem toString (n : Nat) : OfNumerals (toString n) := fun c h => by
  rw [isNumeral, isDigit_of_mem_toString h, Bool.true_or]

theorem append {s t : String} (hs : OfNumerals s) (ht : OfNumerals t) : OfNumerals (s ++ t) := by
  intro c hc
  rw [String.toList_append, List.mem_append] at hc
  exact hc.elim (hs c) (ht c)

theorem ofList {cs : List Char} (h : ∀ c ∈ cs, isNumeral c = true) :
    OfNumerals (String.ofList cs) := by
  intro c hc
  rw [String.toList_ofList] at hc
  exact h c hc

end OfNumerals

private theorem isNumeral_zeros (k : Nat) : ∀ c ∈ List.replicate k '0', isNumeral c = true :=
  fun _ hc => by rw [(List.mem_replicate.mp hc).2]; rfl

private theorem isNumeral_append {cs ds : List Char} (hcs : ∀ c ∈ cs, isNumeral c = true)
    (hds : ∀ c ∈ ds, isNumeral c = true) : ∀ c ∈ cs ++ ds, isNumeral c = true :=
  fun c hc => (List.mem_append.mp hc).elim (hcs c) (hds c)

namespace NumberStyle

theorem ofNumerals_positional {ds : List Char} (h : ∀ c ∈ ds, isNumeral c = true) (exponent : Int) :
    OfNumerals (positional ds exponent) := by
  rw [positional]
  split
  · have hzero : OfNumerals "0." := by decide
    exact hzero.append (.ofList (isNumeral_append (isNumeral_zeros _) h))
  · have hpoint : OfNumerals "." := by decide
    have hwhole := fun n k => OfNumerals.ofList
      (isNumeral_append (fun c hc => h c (List.mem_of_mem_take (i := n) hc)) (isNumeral_zeros k))
    refine ((hwhole _ _).append hpoint).append ?_
    split
    · decide
    · exact .ofList fun c hc => h c (List.mem_of_mem_drop hc)

theorem ofNumerals_scientific (style : NumberStyle) {ds : List Char}
    (h : ∀ c ∈ ds, isNumeral c = true) (exponent : Int) :
    OfNumerals (style.scientific ds exponent) := by
  have hdigit (d : Char) (hd : d ∈ ds) : OfNumerals d.toString := by
    intro c hc
    rw [Char.toString, String.toList_singleton, List.mem_singleton] at hc
    exact hc ▸ h d hd
  have hsign : OfNumerals (if exponent < 0 then "-" else if style.plusSign then "+" else "") := by
    split
    · decide
    · split <;> decide
  have hmark : OfNumerals "e" := by decide
  rw [scientific.eq_def]
  refine (((?_ : OfNumerals _).append hmark).append hsign).append
    ((OfNumerals.ofList (isNumeral_zeros _)).append (.toString _))
  split
  · decide
  · exact hdigit _ List.mem_cons_self
  · have hpoint : OfNumerals "." := by decide
    exact ((hdigit _ List.mem_cons_self).append hpoint).append
      (.ofList fun c hc => h c (List.mem_cons_of_mem _ hc))

theorem ofNumerals_magnitude (style : NumberStyle) (rank : Nat) :
    OfNumerals (style.magnitude rank) := by
  rw [magnitude]
  split
  · decide
  · have hdigits := OfNumerals.toString (Shortest.ofRank style.tie rank).digits
    simp only
    split
    · exact ofNumerals_positional hdigits _
    · exact style.ofNumerals_scientific hdigits _

/-- A style whose words keep to the characters of numbers keeps to them altogether. -/
theorem ofNumerals_render {style : NumberStyle} (hnan : OfNumerals style.nan)
    (hinfinity : OfNumerals style.infinity) (x : Binary64) : OfNumerals (style.render x) := by
  have hsign (negative : Bool) : OfNumerals (if negative then "-" else "") := by
    cases negative <;> decide
  cases x with
  | nan => exact hnan
  | infinity negative => exact (hsign negative).append hinfinity
  | finite negative rank => exact (hsign negative).append (style.ofNumerals_magnitude rank)

end NumberStyle

theorem ofNumerals_toString_int (n : Int) : OfNumerals (toString n) := by
  rw [Int.toString_eq_repr, Int.repr_eq_if]
  split
  · rw [← Nat.toString_eq_repr]
    exact .toString _
  · have hsign : OfNumerals "-" := by decide
    rw [← Nat.toString_eq_repr]
    exact hsign.append (.toString _)

/-- Whatever its value, a number is written with the characters of numbers alone. -/
theorem Number.ofNumerals_render (n : Number) : OfNumerals n.render := by
  cases n with
  | int n => exact ofNumerals_toString_int n.toInt
  | float x => exact NumberStyle.ofNumerals_render (by decide) (by decide) x

end TierSweep
