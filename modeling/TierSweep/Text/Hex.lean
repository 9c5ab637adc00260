import TierSweep.Text.Utf8

/-!
# Hexadecimal digits

Single digits, and byte sequences written with two lower-case digits a byte.
-/

namespace TierSweep.Hex

/-- The value of a hexadecimal digit in either case. -/
def digit? (c : Char) : Option Nat :=
  if '0' ≤ c ∧ c ≤ '9' then some (c.toNat - '0'.toNat)
  else if 'a' ≤ c ∧ c ≤ 'f' then some (c.toNat - 'a'.toNat + 10)
  else if 'A' ≤ c ∧ c ≤ 'F' then some (c.toNat - 'A'.toNat + 10)
  else none

/-- The lower-case digit of a value below sixteen. -/
def digit (n : Nat) : Char :=
  if n < 10 then Char.ofNat ('0'.toNat + n) else Char.ofNat ('a'.toNat + (n - 10))

/-- The number written by a run of hexadecimal digits; every character must be one. -/
def value? (cs : List Char) : Option Nat :=
  cs.foldlM (fun n c => (digit? c).map (16 * n + ·)) 0

/-- A number as exactly `width` digits, higher ones dropped. -/
def pad : Nat → Nat → List Char
  | 0, _ => []
  | width + 1, n => pad width (n / 16) ++ [digit (n % 16)]

/-- A byte sequence, two digits a byte. -/
def ofBytes (bytes : Bytes) : String :=
  String.ofList (bytes.flatMap fun b => pad 2 b.toNat)

/-- The byte sequence written by pairs of digits. -/
def toBytes? : List Char → Option Bytes
  | [] => some []
  | a :: b :: rest => do
    let n ← value? [a, b]
    let bytes ← toBytes? rest
    pure (UInt8.ofNat n :: bytes)
  | [_] => none

end TierSweep.Hex
