import Mathlib.Data.List.Basic
import TierSweep.Proofs.Text.Encoding

/-!
# Texts of lines

A text of lines ends every line, the last one included, with a newline. Its lines are found again by
splitting at the newlines, provided that no line contains one: a line that does is read as several
(`Lines.ofText?_text`, `Lines.isLine_of_ofText?_text`).

## Main definitions

* `IsLine` — a text without newlines.
* `Lines.text`, `Lines.ofText?` — writing lines and reading them.

## Main results

* `isLine_append`, `isLine_intercalate`, `isLine_decodeLossy`.
* `Lines.ofText?_text`, `Lines.isLine_of_ofText?_text`.
-/

namespace TierSweep

/-- What lies in a joined list and not in the separator lies in one of the parts. -/
theorem mem_intercalate_iff {α : Type} {sep : List α} {parts : List (List α)} {a : α}
    (ha : a ∉ sep) : a ∈ sep.intercalate parts ↔ ∃ part ∈ parts, a ∈ part := by
  induction parts with
  | nil => exact ⟨fun h => absurd h List.not_mem_nil, fun ⟨_, h, _⟩ => absurd h List.not_mem_nil⟩
  | cons part parts ih =>
    rw [List.exists_mem_cons_iff, ← ih]
    cases parts with
    | nil =>
      rw [List.intercalate_singleton]
      exact (or_iff_left List.not_mem_nil).symm
    | cons next parts =>
      rw [List.intercalate_cons_cons, List.mem_append, List.mem_append, or_iff_left ha]

/-- A text without newlines. -/
def IsLine (s : String) : Prop := '\n' ∉ s.toList

instance (s : String) : Decidable (IsLine s) := inferInstanceAs (Decidable ('\n' ∉ s.toList))

theorem isLine_append {s t : String} : IsLine (s ++ t) ↔ IsLine s ∧ IsLine t := by
  rw [IsLine, String.toList_append, List.mem_append, not_or]
  rfl

theorem isLine_intercalate {sep : String} (hsep : IsLine sep) {parts : List String} :
    IsLine (sep.intercalate parts) ↔ ∀ part ∈ parts, IsLine part := by
  rw [IsLine, String.toList_intercalate, mem_intercalate_iff hsep]
  simp only [not_exists, not_and, List.forall_mem_map]
  rfl

/-- Bytes without the newline's are read as a text without newlines. -/
theorem isLine_decodeLossy {bytes : Bytes} (h : 0x0A ∉ bytes) : IsLine (Utf8.decodeLossy bytes) := by
  rw [IsLine, Utf8.decodeLossy, String.toList_ofList, List.mem_map]
  rintro ⟨unit, hunit, heq⟩
  cases unit with
  | none => exact absurd heq (by decide)
  | some c =>
    obtain rfl : c = '\n' := heq
    exact h (Utf8.mem_of_mem_units (by decide) (by decide) hunit)

namespace Lines

/-- The text of some lines, each ended by a newline. -/
def text (lines : List String) : String := String.join (lines.map (· ++ "\n"))

/-- The lines of a text that ends with a newline or is empty. -/
def ofText? (s : String) : Option (List String) :=
  let pieces := s.toList.splitOn '\n'
  if pieces.getLast? = some [] then some (pieces.dropLast.map String.ofList) else none

theorem text_cons (line : String) (lines : List String) :
    text (line :: lines) = line ++ "\n" ++ text lines := by
  rw [text, List.map_cons, String.join_cons, text]

theorem toList_text_cons (line : String) (lines : List String) :
    (text (line :: lines)).toList = line.toList ++ '\n' :: (text lines).toList := by
  rw [text_cons, String.toList_append, String.toList_append, List.append_assoc]
  rfl

theorem splitOn_text {lines : List String} (h : ∀ line ∈ lines, IsLine line) :
    (text lines).toList.splitOn '\n' = lines.map String.toList ++ [[]] := by
  induction lines with
  | nil => rfl
  | cons line lines ih =>
    obtain ⟨hline, hlines⟩ := List.forall_mem_cons.mp h
    rw [toList_text_cons, List.splitOn_append_cons_self_of_not_mem hline, ih hlines,
      List.map_cons, List.cons_append]

/-- Lines are read back from their text. -/
theorem ofText?_text {lines : List String} (h : ∀ line ∈ lines, IsLine line) :
    ofText? (text lines) = some lines := by
  simp only [ofText?, splitOn_text h, List.getLast?_concat, if_true, List.dropLast_concat,
    List.map_map]
  exact congrArg some (List.map_id'' (fun _ => String.ofList_toList) lines)

/-- Splitting cuts at every occurrence. -/
theorem length_splitOn (c : Char) (cs : List Char) : (cs.splitOn c).length = cs.count c + 1 := by
  induction cs with
  | nil => rfl
  | cons d cs ih =>
    rw [List.splitOn_cons_eq_if_modifyHead, List.count_cons]
    split
    · rw [List.length_cons, ih]
    · rw [List.length_modifyHead, ih, Nat.add_zero]

/-- A text has as many lines as newlines. -/
theorem length_of_ofText? {s : String} {lines : List String} (h : ofText? s = some lines) :
    lines.length = s.toList.count '\n' := by
  rw [ofText?] at h
  split at h
  · rw [← Option.some.inj h, List.length_map, List.length_dropLast, length_splitOn,
      Nat.add_sub_cancel]
  · cases h

theorem count_text_cons (line : String) (lines : List String) :
    (text (line :: lines)).toList.count '\n'
      = line.toList.count '\n' + ((text lines).toList.count '\n' + 1) := by
  rw [toList_text_cons, List.count_append, List.count_cons_self]

/-- Every line ends with a newline of its own. -/
theorem length_le_count_text (lines : List String) :
    lines.length ≤ (text lines).toList.count '\n' := by
  induction lines with
  | nil => exact Nat.zero_le _
  | cons line lines ih =>
    rw [count_text_cons, List.length_cons]
    omega

/-- If there are no more newlines than lines, none lies within a line. -/
theorem isLine_of_count_text_le {lines : List String}
    (h : (text lines).toList.count '\n' ≤ lines.length) : ∀ line ∈ lines, IsLine line := by
  induction lines with
  | nil => exact fun _ hline => absurd hline List.not_mem_nil
  | cons line lines ih =>
    rw [count_text_cons, List.length_cons] at h
    have hlength := length_le_count_text lines
    exact List.forall_mem_cons.mpr ⟨List.count_eq_zero.mp (by omega), ih (by omega)⟩

/-- A text that is read as no more lines than were written has no newlines within them. -/
theorem isLine_of_ofText?_text {lines found : List String} (h : ofText? (text lines) = some found)
    (hlength : found.length = lines.length) : ∀ line ∈ lines, IsLine line :=
  isLine_of_count_text_le (Nat.le_of_eq ((length_of_ofText? h).symm.trans hlength))

end Lines

end TierSweep
