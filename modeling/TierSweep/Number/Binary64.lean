import TierSweep.Number.Power

/-!
# Double-precision numbers

A finite double of either sign is named by the rank of its magnitude among the finite magnitudes,
in increasing order. Every magnitude is a whole number of units of `2 ^ -1074`, so all questions
about order, rounding and decimal digits are questions about natural numbers.

Rounding is stated once, for an arbitrary ratio of natural numbers, and is to nearest with ties to
the even rank; integers, decimal texts, products and quotients all go through it.
-/

namespace TierSweep

/-- The number of finite magnitudes: ranks from here on are at or beyond infinity. -/
abbrev Binary64.finiteCount : Nat := 2047 * twoTo 52

/-- A double-precision number. All not-a-number patterns are one value, and zero has two signs. -/
inductive Binary64 where
  | nan
  | infinity (negative : Bool)
  | finite (negative : Bool) (rank : Fin Binary64.finiteCount)
  deriving DecidableEq

namespace Binary64

/-- The magnitude of a rank, counted in units of `2 ^ -1074`. -/
def units (rank : Nat) : Nat :=
  if rank < twoTo 52 then rank
  else (twoTo 52 + rank % twoTo 52) * twoTo (rank / twoTo 52 - 1)

/-- The rank nearest to `num / den` units; a tie goes to the even rank. The result may lie at or
beyond `finiteCount`, which is how overflow shows. -/
def nearestRank (num den : Nat) : Nat :=
  let shift := Nat.log2 (num / den) - 52
  let scale := den * twoTo shift
  let quotient := num / scale
  let remainder := num % scale
  let up := scale < 2 * remainder ∨ (2 * remainder = scale ∧ quotient % 2 = 1)
  shift * twoTo 52 + quotient + if up then 1 else 0

/-- The double of the given sign at `rank`, infinite when there is no such finite magnitude. -/
def ofRank (negative : Bool) (rank : Nat) : Binary64 :=
  if h : rank < finiteCount then .finite negative ⟨rank, h⟩ else .infinity negative

/-- The double nearest to `± num / den`. -/
def ofRatio (negative : Bool) (num den : Nat) : Binary64 :=
  ofRank negative (nearestRank (num * twoTo 1074) den)

/-- The double nearest to an integer. -/
def ofInt (n : Int) : Binary64 :=
  ofRatio (n < 0) n.natAbs 1

/-- The zero of the given sign. -/
def zero (negative : Bool) : Binary64 := ofRank negative 0

/-- Neither infinite nor not a number. -/
def isFinite : Binary64 → Bool
  | .finite _ _ => true
  | _ => false

/-- The same magnitude with the opposite sign. -/
def neg : Binary64 → Binary64
  | .nan => .nan
  | .infinity s => .infinity (!s)
  | .finite s r => .finite (!s) r

/-- Place of a number in the order of the doubles: the two zeros share one place, and a value that
is not a number has none. -/
def place? : Binary64 → Option Int
  | .nan => none
  | .infinity s => some (if s then -finiteCount else finiteCount)
  | .finite s r => some (if s then -(r.val : Int) else r.val)

/-- Numeric comparison; false when either side is not a number. -/
def le (x y : Binary64) : Bool :=
  match x.place?, y.place? with
  | some a, some b => a ≤ b
  | _, _ => false

/-- Numeric equality: the zeros are equal to each other. -/
def eqNumeric (x y : Binary64) : Bool := x.le y && y.le x

/-- The 64-bit pattern of a number; not-a-number has no single pattern. -/
def bits? : Binary64 → Option Nat
  | .nan => none
  | .infinity s => some ((if s then twoTo 63 else 0) + finiteCount)
  | .finite s r => some ((if s then twoTo 63 else 0) + r.val)

/-- Correctly rounded product of two magnitudes given by rank. -/
def mulRank (a b : Nat) : Nat := nearestRank (units a * units b) (twoTo 1074)

/-- Correctly rounded quotient of two magnitudes given by rank, the second not zero. -/
def divRank (a b : Nat) : Nat := nearestRank (units a * twoTo 1074) (units b)

end Binary64

end TierSweep
