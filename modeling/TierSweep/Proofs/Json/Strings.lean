import TierSweep.Json.Token
import TierSweep.Json.Tree

/-!
# Escaped strings

A string is written with some of its characters escaped. What stands between its quotes
(`Json.rawText`) has the shape of a string's content and is decoded to the string again, whatever
its characters are: control characters, quotes and backslashes as well as characters of any plane.

## Main definitions

* `Json.rawText` — what is written between the quotes of a string.

## Main results

* `Json.escape_cases` — the three ways a character is written.
* `Json.text?_rawText`.
-/

namespace TierSweep

/-! ### Hexadecimal digits -/

namespace Hex

theorem digit?_digit : ∀ n < 16, digit? (digit n) = some n := by decide

theorem value?_append (cs : List Char) (c : Char) :
    value? (cs ++ [c]) = (value? cs).bind fun n => (digit? c).map (16 * n + ·) := by
  simp [value?, List.foldlM_append, Option.bind_eq_bind]

/-- Padded digits are read as the number again, less the digits that were dropped. -/
theorem value?_pad (width n : Nat) : value? (pad width n) = some (n % Nat.pow 16 width) := by
  induction width generalizing n with
  | zero => simp [pad, value?, Nat.mod_one]
  | succ width ih =>
    have hdigit := digit?_digit (n % 16) (Nat.mod_lt n (by decide))
    have hpow : Nat.pow 16 (width + 1) = 16 * Nat.pow 16 width := Nat.pow_succ'
    rw [pad, value?_append, ih, Option.bind_some, hdigit, Option.map_some, hpow, Nat.mod_mul]
    rw [Nat.add_comm]

end Hex

namespace Json

/-- What is written between the quotes of a string. -/
def rawText (s : String) : RawText := (s.toList.flatMap escape).map some

/-- A character is written as a backslash and a letter, as a backslash, a `u` and the four
hexadecimal digits of a control character, or as itself. -/
theorem escape_cases (c : Char) :
    (∃ e, escape c = ['\\', e] ∧ e ≠ 'u' ∧ RawText.escaped? e = some c) ∨
      (c < ' ' ∧ escape c = ['\\', 'u'] ++ Hex.pad 4 c.toNat) ∨
      (¬c < ' ' ∧ c ≠ '"' ∧ c ≠ '\\' ∧ escape c = [c]) := by
  rw [escape.eq_def]
  split
  · exact .inl ⟨'"', by decide⟩
  · exact .inl ⟨'\\', by decide⟩
  · exact .inl ⟨'b', by decide⟩
  · exact .inl ⟨'t', by decide⟩
  · exact .inl ⟨'n', by decide⟩
  · exact .inl ⟨'f', by decide⟩
  · exact .inl ⟨'r', by decide⟩
  · next hquote hslash _ _ _ _ _ =>
    by_cases hcontrol : c < ' '
    · exact .inr (.inl ⟨hcontrol, if_pos hcontrol⟩)
    · exact .inr (.inr ⟨hcontrol, hquote, hslash, if_neg hcontrol⟩)

private theorem pad_four (n : Nat) : ∃ a b c d, Hex.pad 4 n = [a, b, c, d] := by
  simp [Hex.pad]

/-- The four digits of a control character are read as its number. -/
private theorem value?_control {c : Char} (hc : c < ' ') {w x y z : Char}
    (h : Hex.pad 4 c.toNat = [w, x, y, z]) : Hex.value? [w, x, y, z] = some c.toNat := by
  have hlt : c.toNat < Nat.pow 16 4 := Nat.lt_trans (show c.toNat < 32 from hc) (by decide)
  rw [← h, Hex.value?_pad, Nat.mod_eq_of_lt hlt]

/-- The letters that stand for a character after a backslash. -/
private theorem mem_of_escaped? {e c : Char} (h : RawText.escaped? e = some c) :
    ['"', '\\', '/', 'b', 'f', 'n', 'r', 't'].contains e = true := by
  rw [RawText.escaped?.eq_def] at h
  split at h <;> first | decide | cases h

theorem wellFormed_escape (c : Char) (rest : RawText) :
    RawText.wellFormed ((escape c).map some ++ rest) = RawText.wellFormed rest := by
  obtain ⟨e, he, hu, hletter⟩ | ⟨hc, hc'⟩ | ⟨hc, -, hslash, hc'⟩ := escape_cases c
  · simp only [he, List.map_cons, List.map_nil, List.cons_append, List.nil_append]
    rw [RawText.wellFormed, mem_of_escaped? hletter, Bool.true_and]
    exact fun _ _ _ _ _ _ h => hu h
  · obtain ⟨w, x, y, z, hpad⟩ := pad_four c.toNat
    simp [hc', hpad, RawText.wellFormed, value?_control hc hpad]
  · simp [hc', RawText.wellFormed, hslash, hc]

theorem decode?_escape (c : Char) (rest : RawText) :
    RawText.decode? ((escape c).map some ++ rest) = (c :: ·) <$> RawText.decode? rest := by
  obtain ⟨e, he, hu, hletter⟩ | ⟨hc, hc'⟩ | ⟨hc, -, hslash, hc'⟩ := escape_cases c
  · simp [he, RawText.decode?, hletter, hu]
  · obtain ⟨w, x, y, z, hpad⟩ := pad_four c.toNat
    have hlt : c.toNat < 32 := hc
    simp only [hc', hpad, List.cons_append, List.nil_append, List.map_cons, List.map_nil,
      RawText.decode?, value?_control hc hpad]
    have hsecond : ¬(0xDC00 ≤ c.toNat ∧ c.toNat < 0xE000) := by omega
    have hfirst : ¬(0xD800 ≤ c.toNat ∧ c.toNat < 0xDC00) := by omega
    simp only [Option.bind_eq_bind, Option.bind_some, if_neg hsecond, if_neg hfirst,
      Char.ofNat_toNat]
  · simp [hc', RawText.decode?, hslash, hc]

theorem wellFormed_rawText (s : String) : RawText.wellFormed (rawText s) = true := by
  rw [rawText]
  induction s.toList with
  | nil => rfl
  | cons c cs ih => rw [List.flatMap_cons, List.map_append, wellFormed_escape, ih]

/-- A string is decoded from what is written between its quotes. -/
@[simp] theorem text?_rawText (s : String) : RawText.text? (rawText s) = some s := by
  have hdecode (cs : List Char) :
      RawText.decode? ((cs.flatMap escape).map some) = some cs := by
    induction cs with
    | nil => rfl
    | cons c cs ih => rw [List.flatMap_cons, List.map_append, decode?_escape, ih, Option.map_eq_map,
        Option.map_some]
  rw [RawText.text?, rawText, hdecode, Option.map_some, String.ofList_toList]

end Json

end TierSweep
