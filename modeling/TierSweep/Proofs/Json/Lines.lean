import TierSweep.Proofs.Json.Tokens
import TierSweep.Proofs.Text.Lines

/-!
# JSON texts in one line

Control characters are written as escapes inside strings and do not occur elsewhere, so the compact
text of a tree contains none, whatever its strings and keys are (`Json.isVisible_chars`). In
particular it is a single line (`Json.isLine_canonical`).

## Main results

* `Json.isVisible_chars`, `Json.isLine_canonical`.
-/

namespace TierSweep.Json

/-- Characters without control characters. -/
def IsVisible (cs : List Char) : Prop := ∀ c ∈ cs, 0x20 ≤ c.toNat

instance (cs : List Char) : Decidable (IsVisible cs) :=
  decidable_of_iff (cs.all (fun c => 0x20 ≤ c.toNat) = true) (by simp [IsVisible])

theorem IsVisible.append {cs ds : List Char} (hcs : IsVisible cs) (hds : IsVisible ds) :
    IsVisible (cs ++ ds) :=
  List.forall_mem_append.mpr ⟨hcs, hds⟩

theorem IsVisible.cons {c : Char} {cs : List Char} (hc : 0x20 ≤ c.toNat) (hcs : IsVisible cs) :
    IsVisible (c :: cs) :=
  List.forall_mem_cons.mpr ⟨hc, hcs⟩

/-- Written numbers contain no control character. -/
theorem isVisible_of_ofNumerals {s : String} (h : OfNumerals s) : IsVisible s.toList := by
  intro c hc
  have hnumeral := h c hc
  rw [isNumeral, Bool.or_eq_true] at hnumeral
  rcases hnumeral with hdigit | hother
  · simp only [Char.isDigit, Bool.and_eq_true, decide_eq_true_eq] at hdigit
    have hzero : 48 ≤ c.toNat := hdigit.1
    omega
  · have hall : IsVisible ['-', '+', '.', 'e', 'n', 'a', 'i', 'f'] := by decide
    exact hall c (List.contains_iff_mem.mp hother)

theorem isVisible_pad (width n : Nat) : IsVisible (Hex.pad width n) := by
  have hdigit : ∀ d < 16, 0x20 ≤ (Hex.digit d).toNat := by decide
  induction width generalizing n with
  | zero => exact fun _ hc => absurd hc List.not_mem_nil
  | succ width ih =>
    rw [Hex.pad]
    exact (ih _).append (List.forall_mem_singleton.mpr (hdigit _ (Nat.mod_lt n (by decide))))

/-- No character is written with control characters. -/
theorem isVisible_escape (c : Char) : IsVisible (escape c) := by
  obtain ⟨e, he, -, hletter⟩ | ⟨-, hc⟩ | ⟨hc, -, -, hc'⟩ := escape_cases c
  · rw [he]
    refine .cons (by decide) (List.forall_mem_singleton.mpr ?_)
    rw [RawText.escaped?.eq_def] at hletter
    split at hletter <;> first | decide | cases hletter
  · rw [hc]
    exact IsVisible.append (by decide) (isVisible_pad 4 c.toNat)
  · rw [hc']
    exact List.forall_mem_singleton.mpr (Nat.not_lt.mp hc)

theorem isVisible_quoted (s : String) : IsVisible (quoted s) := by
  have hcontent : IsVisible (s.toList.flatMap escape) := fun d hd => by
    obtain ⟨c, -, hd⟩ := List.mem_flatMap.mp hd
    exact isVisible_escape c d hd
  exact .cons (by decide) (hcontent.append (by decide))

theorem isVisible_realText (x : Binary64) : IsVisible (realText x).toList := by
  have hnull : IsVisible "null".toList := by decide
  cases x with
  | nan => exact hnull
  | infinity negative => exact hnull
  | finite negative rank =>
    have hsign : OfNumerals (if negative then "-" else "") := by cases negative <;> decide
    exact isVisible_of_ofNumerals (hsign.append (numberStyle.ofNumerals_magnitude rank))

theorem isVisible_charsOfItems {items : List Json} (h : ∀ v ∈ items, IsVisible v.chars) :
    IsVisible (charsOfItems items) := by
  induction items with
  | nil => exact fun _ hc => absurd hc List.not_mem_nil
  | cons v items ih =>
    obtain ⟨hv, hitems⟩ := List.forall_mem_cons.mp h
    cases items with
    | nil => exact hv
    | cons w items => exact hv.append (.cons (by decide) (ih hitems))

theorem isVisible_charsOfFields {fields : List (String × Json)}
    (h : ∀ p ∈ fields, IsVisible p.2.chars) : IsVisible (charsOfFields fields) := by
  induction fields with
  | nil => exact fun _ hc => absurd hc List.not_mem_nil
  | cons p fields ih =>
    obtain ⟨hv, hfields⟩ := List.forall_mem_cons.mp h
    have hp : IsVisible (quoted p.1 ++ ':' :: p.2.chars) :=
      (isVisible_quoted p.1).append (.cons (by decide) hv)
    cases fields with
    | nil => exact hp
    | cons q fields => exact hp.append (.cons (by decide) (ih hfields))

/-- The compact text of a tree contains no control character, whatever its strings and keys are. -/
theorem isVisible_chars (v : Json) : IsVisible v.chars := by
  induction v with
  | null => decide
  | bool b => cases b <;> decide
  | int n => exact isVisible_of_ofNumerals (ofNumerals_toString_int n)
  | real x => exact isVisible_realText x
  | text s => exact isVisible_quoted s
  | array items ih => exact .cons (by decide) ((isVisible_charsOfItems ih).append (by decide))
  | object fields ih => exact .cons (by decide) ((isVisible_charsOfFields ih).append (by decide))

/-- The canonical text of a tree is a single line. -/
theorem isLine_canonical (v : Json) : IsLine v.canonical := fun h => by
  rw [canonical, write, String.toList_ofList] at h
  exact absurd (isVisible_chars v.sorted '\n' h) (by decide)

end TierSweep.Json
