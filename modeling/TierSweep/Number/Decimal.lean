import TierSweep.Number.Binary64

/-!
# Decimal texts of numbers

A decimal numeral is a whole part, an optional fraction and an optional power of ten. It denotes a
rational number, and reading it as a double rounds that number once.
-/

namespace TierSweep

/-- The number `digits * 10 ^ exponent`. -/
structure Decimal where
  digits : Nat
  exponent : Int
  deriving DecidableEq, Repr

namespace Decimal

/-- The digit a character stands for. -/
def digit? (c : Char) : Option Nat :=
  if '0' ≤ c ∧ c ≤ '9' then some (c.toNat - '0'.toNat) else none

/-- A decimal digit. -/
def isDigit (c : Char) : Bool := (digit? c).isSome

/-- The number written by a run of digits, most significant first. -/
def ofDigits (cs : List Char) : Nat :=
  cs.foldl (fun n c => 10 * n + (digit? c).getD 0) 0

/-- How many decimal digits a number has; zero has one. -/
def length (n : Nat) : Nat :=
  if n < 10 then 1 else length (n / 10) + 1

/-- The double nearest to the decimal. Powers of ten far outside the range of the doubles are
answered without being computed: below `10 ^ -325` everything rounds to zero, and from `10 ^ 310` on
everything is infinite. -/
def toBinary64 (negative : Bool) (d : Decimal) : Binary64 :=
  let top := d.exponent + length d.digits
  if d.digits = 0 ∨ top < -324 then .zero negative
  else if 310 < top then .infinity negative
  else if 0 ≤ d.exponent then .ofRatio negative (d.digits * tenTo d.exponent.toNat) 1
  else .ofRatio negative d.digits (tenTo (-d.exponent).toNat)

end Decimal

/-- A decimal numeral taken apart: the digits of its whole part, of its fraction if it has a point,
and of its power of ten if it has one, each as written. -/
structure Numeral where
  negative : Bool
  whole : List Char
  fraction? : Option (List Char)
  power? : Option (Bool × List Char)
  deriving DecidableEq, Repr

namespace Numeral

/-- A sign at the head of a text, whether it is a minus, and what follows it. -/
def takeSign : List Char → Bool × List Char
  | '-' :: cs => (true, cs)
  | '+' :: cs => (false, cs)
  | cs => (false, cs)

/-- The power of ten that ends a numeral: a mark, an optional sign and at least one digit. -/
def takePower? : List Char → Option (Option (Bool × List Char))
  | [] => some none
  | c :: cs =>
    if c = 'e' ∨ c = 'E' then
      let (negative, digits) := takeSign cs
      if digits ≠ [] ∧ digits.all Decimal.isDigit then some (some (negative, digits)) else none
    else none

/-- Takes apart an unsigned numeral. Any of the parts may be empty here. -/
def split? (negative : Bool) (cs : List Char) : Option Numeral :=
  let whole := cs.takeWhile Decimal.isDigit
  match cs.dropWhile Decimal.isDigit with
  | '.' :: rest =>
    let fraction := rest.takeWhile Decimal.isDigit
    (takePower? (rest.dropWhile Decimal.isDigit)).map fun p => ⟨negative, whole, some fraction, p⟩
  | rest => (takePower? rest).map fun p => ⟨negative, whole, none, p⟩

/-- The power of ten as an integer. -/
def exponent (n : Numeral) : Int :=
  match n.power? with
  | none => 0
  | some (true, ds) => -(Decimal.ofDigits ds : Int)
  | some (false, ds) => Decimal.ofDigits ds

/-- The number a numeral denotes, up to its sign. -/
def toDecimal (n : Numeral) : Decimal :=
  let fraction := n.fraction?.getD []
  ⟨Decimal.ofDigits (n.whole ++ fraction), n.exponent - fraction.length⟩

end Numeral

namespace Binary64

/-- Whether a text spells `word`, letter case aside. -/
private def spells (word : String) (cs : List Char) : Bool :=
  cs.map Char.toLower = word.toList

/-- Reads a double: an optional sign, then a decimal numeral with a digit before or after its point,
or a word for infinity or for not-a-number in any letter case. -/
def parse? (text : String) : Option Binary64 :=
  let (negative, cs) := Numeral.takeSign text.toList
  if spells "inf" cs || spells "infinity" cs then some (.infinity negative)
  else if spells "nan" cs then some .nan
  else
    match Numeral.split? negative cs with
    | none => none
    | some n =>
      if n.whole = [] ∧ n.fraction?.getD [] = [] then none
      else some (n.toDecimal.toBinary64 negative)

end Binary64

end TierSweep
