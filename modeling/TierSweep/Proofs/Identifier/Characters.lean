import TierSweep.Identifier
import TierSweep.Proofs.Number.Characters
import TierSweep.Proofs.Text.Lines

/-!
# The characters of identifiers

A text is *clean* when it contains no character that identifiers replace (`Identifier.IsClean`).
Cleaning makes every text clean and leaves clean texts as they are. Written numbers are clean, and
so is the identifier of every run, whatever texts its parameters have
(`Identifier.isClean_ofSetup`): it contains no blank, comma, slash, backslash or tabulator.

## Main results

* `Identifier.isClean_iff`, `Identifier.isClean_clean`, `Identifier.clean_of_isClean`.
* `Identifier.isClean_ofSetup`.
-/

namespace TierSweep

namespace Identifier

/-- A text without the characters that identifiers replace. -/
def IsClean (s : String) : Prop := ∀ c ∈ s.toList, cleanChar c = c

instance (s : String) : Decidable (IsClean s) :=
  decidable_of_iff (s.toList.all (fun c => cleanChar c = c) = true) (by simp [IsClean])

theorem cleanChar_cleanChar (c : Char) : cleanChar (cleanChar c) = cleanChar c := by
  by_cases h : c = ' ' ∨ c = ',' ∨ c = '/' ∨ c = '\\' ∨ c = '\t'
  · have hc : cleanChar c = '-' := if_pos h
    rw [hc]
    rfl
  · have hc : cleanChar c = c := if_neg h
    rw [hc, hc]

/-- The characters that identifiers replace. -/
theorem cleanChar_eq_self_iff {c : Char} :
    cleanChar c = c ↔ c ∉ [' ', ',', '/', '\\', '\t'] := by
  simp only [cleanChar, List.mem_cons, List.not_mem_nil, or_false]
  split
  · next h =>
    refine iff_of_false (fun heq => ?_) (not_not_intro h)
    subst heq
    revert h
    decide
  · next h => exact iff_of_true rfl h

/-- A text is clean when none of the replaced characters occurs in it. -/
theorem isClean_iff {s : String} :
    IsClean s ↔ ∀ c ∈ [' ', ',', '/', '\\', '\t'], c ∉ s.toList :=
  ⟨fun h c hc hmem => cleanChar_eq_self_iff.mp (h c hmem) hc,
    fun h c hmem => cleanChar_eq_self_iff.mpr fun hc => h c hc hmem⟩

/-- A character that is replaced is none of those of written numbers. -/
theorem cleanChar_of_isNumeral {c : Char} (h : isNumeral c = true) : cleanChar c = c := by
  refine if_neg fun hc => ?_
  rcases hc with rfl | rfl | rfl | rfl | rfl <;> exact absurd h (by decide)

theorem toList_clean (s : String) : (clean s).toList = s.toList.map cleanChar := by
  rw [clean, String.toList_ofList]

/-- Cleaning makes a text clean. -/
theorem isClean_clean (s : String) : IsClean (clean s) := by
  intro c hc
  rw [toList_clean] at hc
  obtain ⟨d, -, rfl⟩ := List.mem_map.mp hc
  exact cleanChar_cleanChar d

/-- A clean text is left as it is. -/
theorem clean_of_isClean {s : String} (h : IsClean s) : clean s = s := by
  rw [clean, List.map_congr_left h, List.map_id', String.ofList_toList]

theorem IsClean.append {s t : String} (hs : IsClean s) (ht : IsClean t) : IsClean (s ++ t) := by
  intro c hc
  rw [String.toList_append, List.mem_append] at hc
  exact hc.elim (hs c) (ht c)

/-- Written numbers are clean. -/
theorem isClean_of_ofNumerals {s : String} (h : OfNumerals s) : IsClean s :=
  fun c hc => cleanChar_of_isNumeral (h c hc)

theorem isClean_name (p : Policy) : IsClean p.name := by cases p <;> decide

theorem isClean_mark (f : TuningField) : IsClean f.mark := by cases f <;> decide

/-- Every part of an identifier is clean. -/
theorem isClean_of_mem_parts {r : RunSetup} {part : String} (h : part ∈ parts r) :
    IsClean part := by
  rw [parts] at h
  rcases List.mem_append.mp h with h | h
  · simp only [List.mem_cons, List.not_mem_nil, or_false] at h
    rcases h with rfl | rfl | rfl | rfl | rfl | rfl | rfl
    · exact isClean_clean r.pattern
    · exact isClean_clean r.clientTierSizes
    · exact isClean_clean r.serverMemSizes
    · have hmark : IsClean "buf" := by decide
      exact hmark.append (isClean_of_ofNumerals (.toString r.bufferSize))
    · exact isClean_clean _
    · exact isClean_clean _
    · exact isClean_name r.policy
  · obtain ⟨p, -, rfl⟩ := List.mem_map.mp h
    exact isClean_clean _

/-- The identifier of a run is clean, whatever texts its parameters have. -/
theorem isClean_ofSetup (r : RunSetup) : IsClean (ofSetup r) := by
  intro c hc
  rw [ofSetup, String.toList_intercalate] at hc
  by_cases hsep : c ∈ separator.toString.toList
  · rw [List.mem_singleton.mp hsep]
    rfl
  · obtain ⟨part, hpart, hc⟩ := (mem_intercalate_iff hsep).mp hc
    obtain ⟨s, hs, rfl⟩ := List.mem_map.mp hpart
    exact isClean_of_mem_parts hs c hc

end Identifier

end TierSweep
