import Mathlib.Data.String.Basic
import TierSweep.Text.Utf8

/-!
# The order of texts and of their bytes

Comparing two texts character by character gives the same answer as comparing their UTF-8 bytes: the
first bytes of longer characters are larger, and among characters of one length the bits are spread
over the bytes from the most significant one on.

## Main results

* `Utf8.encode_lt_encode`.
-/

namespace TierSweep.Utf8

/-- Byte sequences are compared at the first bytes that differ. -/
private theorem cons_lt_cons {m n : Nat} {xs ys : Bytes} (hn : n < 256) (h : m ≤ n)
    (h' : m = n → xs < ys) : UInt8.ofNat m :: xs < UInt8.ofNat n :: ys := by
  rw [List.cons_lt_cons_iff]
  rcases Nat.lt_or_eq_of_le h with h | rfl
  · left
    rw [UInt8.lt_iff_toNat_lt, UInt8.toNat_ofNat_of_lt' hn,
      UInt8.toNat_ofNat_of_lt' (Nat.lt_trans h hn)]
    exact h
  · exact .inr ⟨rfl, h' rfl⟩

/-- Characters in increasing order have increasing bytes, whatever follows them. -/
theorem encodeChar_lt_encodeChar {c d : Char} (h : c < d) (xs ys : Bytes) :
    String.utf8EncodeChar c ++ xs < String.utf8EncodeChar d ++ ys := by
  have hd : d.val.toNat < 0x110000 := by
    rcases d.valid with hd | hd <;> omega
  have h : c.val.toNat < d.val.toNat := h
  rw [String.utf8EncodeChar, String.utf8EncodeChar]
  generalize c.val.toNat = v at h
  generalize d.val.toNat = w at h hd
  -- characters of different lengths differ in the first byte, those of one length in some byte
  by_cases hv₁ : v ≤ 0x7F
  · rw [if_pos hv₁]
    split_ifs <;> exact cons_lt_cons (by omega) (by omega) (by omega)
  by_cases hv₂ : v ≤ 0x7FF
  · rw [if_neg hv₁, if_pos hv₂, if_neg (by omega)]
    split_ifs
    · exact cons_lt_cons (by omega) (by omega) fun _ =>
        cons_lt_cons (by omega) (by omega) (by omega)
    all_goals exact cons_lt_cons (by omega) (by omega) (by omega)
  by_cases hv₃ : v ≤ 0xFFFF
  · rw [if_neg hv₁, if_neg hv₂, if_pos hv₃, if_neg (by omega), if_neg (by omega)]
    split_ifs
    · exact cons_lt_cons (by omega) (by omega) fun _ =>
        cons_lt_cons (by omega) (by omega) fun _ => cons_lt_cons (by omega) (by omega) (by omega)
    · exact cons_lt_cons (by omega) (by omega) (by omega)
  · rw [if_neg hv₁, if_neg hv₂, if_neg hv₃, if_neg (by omega), if_neg (by omega),
      if_neg (by omega)]
    exact cons_lt_cons (by omega) (by omega) fun _ =>
      cons_lt_cons (by omega) (by omega) fun _ =>
        cons_lt_cons (by omega) (by omega) fun _ => cons_lt_cons (by omega) (by omega) (by omega)

/-- Texts in increasing order have increasing bytes. -/
theorem encode_lt_encode {s t : String} (h : s < t) : encode s < encode t := by
  rw [String.lt_iff_toList_lt] at h
  rw [encode, encode]
  generalize s.toList = cs, t.toList = ds at h
  induction h with
  | nil =>
    rw [List.flatMap_nil, List.flatMap_cons]
    obtain ⟨b, bs, hbs⟩ := List.exists_cons_of_ne_nil (String.utf8EncodeChar_ne_nil (c := _))
    rw [hbs]
    exact List.nil_lt_cons b _
  | rel h => exact encodeChar_lt_encodeChar h _ _
  | cons _ ih => exact List.append_left_lt ih

end TierSweep.Utf8
