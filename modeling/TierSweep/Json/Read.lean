import TierSweep.Json.Sketch
import TierSweep.Json.Tree

/-!
# Reading JSON values

The strings and numbers of a sketch are given their meaning here. A number without point and power is
an integer as long as it fits in sixty-four bits; every other number is a double, found by scaling
its leading digits by a power of ten in double arithmetic, which may differ from the nearest double
in the last place. A number too large for a double is refused, and so are values nested more than
127 deep.
-/

namespace TierSweep.Json

/-- The largest unsigned integer of sixty-four bits. -/
abbrev maxNat64 : Nat := UInt64.size - 1

/-- Appends digits to a number as long as it fits in sixty-four bits, and counts the digits left
over. -/
def appendDigits : Nat → List Char → Nat × Nat
  | n, [] => (n, 0)
  | n, c :: rest =>
    let m := 10 * n + (Decimal.digit? c).getD 0
    if m ≤ maxNat64 then appendDigits m rest else (n, rest.length + 1)

/-- The rank of a power of ten up to `10 ^ 308`. -/
def tenPowRank (n : Nat) : Nat := Binary64.nearestRank (tenTo n * twoTo 1074) 1

/-- Divides by `10 ^ n`, at most 308 places at a time. -/
def scaleDown : Nat → Nat → Nat → Nat
  | 0, rank, _ => rank
  | fuel + 1, rank, n =>
    if n ≤ 308 then Binary64.divRank rank (tenPowRank n)
    else if rank = 0 then 0
    else scaleDown fuel (Binary64.divRank rank (tenPowRank 308)) (n - 308)

/-- The double for `± digits * 10 ^ exponent`, in double arithmetic. -/
def scaled? (negative : Bool) (digits : Nat) (exponent : Int) : Option Binary64 :=
  let rank := Binary64.nearestRank (digits * twoTo 1074) 1
  if exponent < 0 then
    some (.ofRank negative (scaleDown 5 rank (-exponent).toNat))
  else if exponent ≤ 308 then
    let result := Binary64.mulRank rank (tenPowRank exponent.toNat)
    if result < Binary64.finiteCount then some (.ofRank negative result) else none
  else if rank = 0 then some (.zero negative)
  else none

/-- The value of a numeral. A negative zero is a double, as are integers that do not fit. -/
def ofNumeral? (n : Numeral) : Option Json :=
  let (whole, dropped) := appendDigits 0 n.whole
  match n.fraction?, n.power?, dropped with
  | none, none, 0 =>
    if !n.negative then some (.int whole)
    else if 1 ≤ whole ∧ whole ≤ twoTo 63 then some (.int (-whole))
    else some (.real (.ofRatio true whole 1))
  | fraction?, _, _ =>
    let fraction := fraction?.getD []
    let (digits, left) := appendDigits whole fraction
    let exponent := dropped - (fraction.length - left : Int) + n.exponent
    (scaled? n.negative digits exponent).map .real

namespace Sketch

mutual

/-- The value of a sketch nested at most `depth` deep. -/
def resolve? (depth : Nat) : Sketch → Option Json
  | .null => some .null
  | .bool b => some (.bool b)
  | .number n => ofNumeral? n
  | .text raw => (RawText.text? raw).map .text
  | .array items =>
    match depth with
    | 0 => none
    | d + 1 => (resolveItems? d items).map .array
  | .object fields =>
    match depth with
    | 0 => none
    | d + 1 => (resolveFields? d fields).map .object

/-- The values of the items of an array. -/
def resolveItems? (depth : Nat) : List Sketch → Option (List Json)
  | [] => some []
  | s :: rest => do
    let v ← resolve? depth s
    let vs ← resolveItems? depth rest
    pure (v :: vs)

/-- The keys and values of the fields of an object. -/
def resolveFields? (depth : Nat) : List (RawText × Sketch) → Option (List (String × Json))
  | [] => some []
  | (k, s) :: rest => do
    let key ← RawText.text? k
    let v ← resolve? depth s
    let vs ← resolveFields? depth rest
    pure ((key, v) :: vs)

end

/-- The greatest nesting of values that are read. -/
def maxDepth : Nat := 127

/-- The value of a sketch. -/
def toJson? (s : Sketch) : Option Json := resolve? maxDepth s

/-- The text of a string. -/
def text? : Sketch → Option String
  | .text raw => RawText.text? raw
  | _ => none

/-- The name of a choice that carries nothing: a string, or an object with the name as its only key and
null as the value. -/
def choice? : Sketch → Option String
  | .text raw => RawText.text? raw
  | .object [(key, .null)] => RawText.text? key
  | _ => none

/-- The fields of an object with their keys read; values stay as they are. -/
def keyed? (fields : List (RawText × Sketch)) : Option (List (String × Sketch)) :=
  fields.mapM fun p => (RawText.text? p.1).map (·, p.2)

/-- The value of a named field, which must not occur twice: nothing at all if it does, and an inner
nothing if it does not occur. -/
def field? (name : String) (fields : List (String × Sketch)) : Option (Option Sketch) :=
  match fields.filter (·.1 = name) with
  | [] => some none
  | [p] => some (some p.2)
  | _ => none

end Sketch

/-- Reads a JSON text. -/
def ofBytes? (bytes : Bytes) : Option Json := Sketch.ofBytes? bytes >>= Sketch.toJson?

end TierSweep.Json
