import TierSweep.Text.Utf8

/-!
# Octet texts

Programs exchange bytes. An octet text writes them as a text: each character stands for the byte of
its number, so that bytes which are no well-formed text can be held and compared like any other.
-/

namespace TierSweep.Octets

/-- The octet text of some bytes. -/
def ofBytes (bytes : Bytes) : String := String.ofList (bytes.map fun b => Char.ofNat b.toNat)

/-- The bytes of an octet text. -/
def toBytes (s : String) : Bytes := s.toList.map fun c => UInt8.ofNat c.toNat

/-- The octet text of a text. -/
def ofText (s : String) : String := ofBytes (Utf8.encode s)

/-- The text of an octet text, malformed bytes replaced. -/
def toText (s : String) : String := Utf8.decodeLossy (toBytes s)

/-- A byte is the number of the character that stands for it. -/
theorem toNat_ofNat_toNat (b : UInt8) : (Char.ofNat b.toNat).toNat = b.toNat := by
  have h : b.toNat.isValidChar := Or.inl (Nat.lt_of_lt_of_le b.toNat_lt (by decide))
  exact (congrArg Char.toNat (dif_pos h)).trans rfl

/-- No byte is lost in an octet text. -/
theorem toBytes_ofBytes (bytes : Bytes) : toBytes (ofBytes bytes) = bytes := by
  simp only [toBytes, ofBytes, String.toList_ofList, List.map_map]
  conv => rhs; rw [← List.map_id bytes]
  refine List.map_congr_left fun b _ => ?_
  simp [toNat_ofNat_toNat]

end TierSweep.Octets
