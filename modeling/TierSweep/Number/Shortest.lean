import TierSweep.Number.Decimal

/-!
# The shortest decimal that reads back

Among the decimals that round to a given double, the shortest have the fewest digits, and of those
the nearest to the double is taken. Only the two neighbours of the double on the grid of each length
need to be tried: if any point of a grid lies in the rounding interval, one of those two does.
-/

namespace TierSweep

/-- What happens when the two nearest candidates are equally near. -/
inductive Tie where
  /-- The larger one. -/
  | up
  /-- The one whose last digit is even. -/
  | toEven
  deriving DecidableEq, Repr

namespace Shortest

/-- The rounding interval of a magnitude, with both ends counted in half units: the midpoints to its
neighbours. The ends belong to it exactly when the rank is even. -/
structure Interval where
  low : Nat
  high : Nat
  closed : Bool
  deriving DecidableEq, Repr

/-- The reals that round to the magnitude of a positive rank. -/
def Interval.ofRank (rank : Nat) : Interval where
  low := Binary64.units (rank - 1) + Binary64.units rank
  high := Binary64.units rank + Binary64.units (rank + 1)
  closed := rank % 2 = 0

/-- Whether the ratio `num / den`, in half units, lies in the interval. -/
def Interval.holds (i : Interval) (num den : Nat) : Bool :=
  if i.closed then i.low * den ≤ num ∧ num ≤ i.high * den
  else i.low * den < num ∧ num < i.high * den

/-- One step of the decimal grid `10 ^ exponent`, in half units, as a ratio. -/
def gridStep (exponent : Int) : Nat × Nat :=
  if 0 ≤ exponent then (tenTo exponent.toNat * twoTo 1075, 1)
  else (twoTo 1075, tenTo (-exponent).toNat)

/-- The point of the grid `10 ^ exponent` to take for a magnitude of `half` half units, if a
neighbour of the magnitude on that grid lies in the interval. -/
def onGrid? (tie : Tie) (i : Interval) (half : Nat) (exponent : Int) : Option Nat :=
  let (step, den) := gridStep exponent
  let below := half * den / step
  let above := below + 1
  match i.holds (below * step) den, i.holds (above * step) den with
  | true, false => some below
  | false, true => some above
  | false, false => none
  | true, true =>
    let middle := (below + above) * step
    if 2 * (half * den) < middle then some below
    else if middle < 2 * (half * den) then some above
    else match tie with
      | .up => some above
      | .toEven => some (if below % 2 = 0 then below else above)

/-- The decimal exponent of the leading digit of a positive magnitude of `units` units. -/
def leadingExponent (units : Nat) : Int :=
  Decimal.length (units * tenTo 324 / twoTo 1074) - 325

/-- Tries grids of more and more digits, `fuel` of them. -/
def search (tie : Tie) (i : Interval) (half : Nat) : Int → Nat → Decimal
  | exponent, 0 => ⟨half, exponent⟩
  | exponent, fuel + 1 =>
    match onGrid? tie i half exponent with
    | some digits => ⟨digits, exponent⟩
    | none => search tie i half (exponent - 1) fuel

/-- Drops trailing zeros, at most `fuel` of them. -/
def trim : Nat → Decimal → Decimal
  | 0, d => d
  | fuel + 1, d =>
    if d.digits ≠ 0 ∧ d.digits % 10 = 0 then trim fuel ⟨d.digits / 10, d.exponent + 1⟩ else d

/-- The shortest decimal that reads back as the magnitude of `rank`. Seventeen digits always
suffice. -/
def ofRank (tie : Tie) (rank : Nat) : Decimal :=
  if rank = 0 then ⟨0, 0⟩
  else
    let units := Binary64.units rank
    trim 20 (search tie (.ofRank rank) (2 * units) (leadingExponent units) 18)

end Shortest

end TierSweep
