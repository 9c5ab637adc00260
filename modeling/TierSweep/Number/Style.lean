import TierSweep.Number.Shortest

/-!
# Writing a double

How a double is written is a handful of choices, gathered in one record: where positional writing
ends, how the power of ten is written, how a tie between two shortest decimals is broken, and the
words for the values that have no digits.
-/

namespace TierSweep

/-- The choices of one way of writing doubles. -/
structure NumberStyle where
  /-- Which of two equally near shortest decimals is written. -/
  tie : Tie
  /-- The least exponent of the leading digit that is still written positionally. -/
  leastPositional : Int
  /-- The first exponent of the leading digit that is no longer written positionally. -/
  positionalEnd : Int
  /-- Whether a power of ten that is not negative carries a plus sign. -/
  plusSign : Bool
  /-- The least number of digits of a written power of ten. -/
  powerWidth : Nat
  /-- The word for a value that is not a number. -/
  nan : String
  /-- The word for positive infinity; the negative one has a minus sign in front. -/
  infinity : String

namespace NumberStyle

/-- Pads a text with zeros on the left. -/
private def padZeros (width : Nat) (s : String) : String :=
  String.ofList (List.replicate (width - s.length) '0') ++ s

/-- The digits `ds`, of which the leading one has the given exponent, in positional notation with at
least one digit on each side of the point. -/
def positional (ds : List Char) (exponent : Int) : String :=
  if exponent < 0 then
    "0." ++ String.ofList (List.replicate (-exponent - 1).toNat '0' ++ ds)
  else
    let places := exponent.toNat + 1
    let whole := ds.take places ++ List.replicate (places - ds.length) '0'
    let fraction := ds.drop places
    String.ofList whole ++ "." ++ (if fraction.isEmpty then "0" else String.ofList fraction)

/-- The digits `ds` with one digit before the point, then the power of ten. -/
def scientific (style : NumberStyle) (ds : List Char) (exponent : Int) : String :=
  let sign := if exponent < 0 then "-" else if style.plusSign then "+" else ""
  let mantissa := match ds with
    | [] => ""
    | [d] => d.toString
    | d :: rest => d.toString ++ "." ++ String.ofList rest
  mantissa ++ "e" ++ sign ++ padZeros style.powerWidth (toString exponent.natAbs)

/-- The text of a magnitude given by rank. -/
def magnitude (style : NumberStyle) (rank : Nat) : String :=
  if rank = 0 then "0.0"
  else
    let d := Shortest.ofRank style.tie rank
    let ds := (toString d.digits).toList
    let exponent := d.exponent + ds.length - 1
    if style.leastPositional ≤ exponent ∧ exponent < style.positionalEnd then
      positional ds exponent
    else style.scientific ds exponent

/-- The text of a double. -/
def render (style : NumberStyle) : Binary64 → String
  | .nan => style.nan
  | .infinity negative => (if negative then "-" else "") ++ style.infinity
  | .finite negative rank => (if negative then "-" else "") ++ style.magnitude rank

end NumberStyle

end TierSweep
