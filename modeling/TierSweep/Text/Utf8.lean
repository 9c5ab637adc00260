/-!
# UTF-8

A sequence of bytes is read as a sequence of characters and malformed pieces. A malformed piece is
the longest run of bytes that begins a character without finishing it, or one byte that can begin
none. Reading is strict when no piece may be malformed, and lossy when each malformed piece becomes
the replacement character.
-/

namespace TierSweep

/-- A sequence of bytes. -/
abbrev Bytes := List UInt8

namespace Utf8

/-- The bytes of a text. -/
def encode (s : String) : Bytes := s.toList.flatMap String.utf8EncodeChar

/-- How many bytes some characters take. -/
def size (cs : List Char) : Nat := cs.foldl (fun n c => n + c.utf8Size) 0

/-- A character that has begun: the bounds on its next byte, how many bytes follow that one, and the
bits collected so far. -/
structure Open where
  low : UInt8
  high : UInt8
  more : Nat
  bits : Nat
  deriving DecidableEq, Repr

/-- What a byte means where a character may begin. -/
inductive Start where
  | char (c : Char)
  | opens (o : Open)
  | malformed

/-- Reads a byte where a character may begin. -/
def start (b : UInt8) : Start :=
  let n := b.toNat
  if n < 0x80 then .char (Char.ofNat n)
  else if n < 0xC2 then .malformed
  else if n < 0xE0 then .opens ⟨0x80, 0xBF, 0, n - 0xC0⟩
  else if n = 0xE0 then .opens ⟨0xA0, 0xBF, 1, 0⟩
  else if n = 0xED then .opens ⟨0x80, 0x9F, 1, 0xD⟩
  else if n < 0xF0 then .opens ⟨0x80, 0xBF, 1, n - 0xE0⟩
  else if n = 0xF0 then .opens ⟨0x90, 0xBF, 2, 0⟩
  else if n < 0xF4 then .opens ⟨0x80, 0xBF, 2, n - 0xF0⟩
  else if n = 0xF4 then .opens ⟨0x80, 0x8F, 2, 4⟩
  else .malformed

/-- The bits of an open character after one more byte. -/
def Open.push (o : Open) (b : UInt8) : Nat := o.bits * 64 + (b.toNat - 0x80)

mutual

/-- The characters and malformed pieces of a byte sequence, the latter as `none`. -/
def units : Bytes → List (Option Char)
  | [] => []
  | b :: rest =>
    match start b with
    | .char c => some c :: units rest
    | .opens o => unitsAfter o rest
    | .malformed => none :: units rest

/-- The same, inside a character that has begun. -/
def unitsAfter (o : Open) : Bytes → List (Option Char)
  | [] => [none]
  | b :: rest =>
    if o.low ≤ b ∧ b ≤ o.high then
      match o.more with
      | 0 => some (Char.ofNat (o.push b)) :: units rest
      | more + 1 => unitsAfter ⟨0x80, 0xBF, more, o.push b⟩ rest
    else
      match start b with
      | .char c => none :: some c :: units rest
      | .opens o => none :: unitsAfter o rest
      | .malformed => none :: none :: units rest

end

/-- The text of a byte sequence, if it is well formed throughout. -/
def decode? (bytes : Bytes) : Option String :=
  ((units bytes).mapM id).map String.ofList

/-- The text of a byte sequence with every malformed piece replaced by `U+FFFD`. -/
def decodeLossy (bytes : Bytes) : String :=
  String.ofList ((units bytes).map (·.getD '\uFFFD'))

end Utf8

end TierSweep
