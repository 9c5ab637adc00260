import TierSweep.Text.Hex
import TierSweep.Yaml.Form
import TierSweep.Yaml.Node

/-!
# What a scalar stands for

A plain scalar may be null, a truth value, an integer, a double or a text, tried in this order. An
integer of more than 64 but at most 128 bits is refused; longer ones are doubles. A number with a
needless leading zero is a text. A standard tag asks for one kind whatever the quotes.
-/

namespace TierSweep.Yaml.Scalar

/-- The spellings of null. -/
def isNull (s : String) : Bool := s = "null" || s = "Null" || s = "NULL" || s = "~"

/-- The truth value of a spelling. -/
def bool? (s : String) : Option Bool :=
  if s = "true" ∨ s = "True" ∨ s = "TRUE" then some true
  else if s = "false" ∨ s = "False" ∨ s = "FALSE" then some false
  else none

/-- Digits in a base up to sixteen as a number; there must be one. -/
def digits? (base : Nat) (cs : List Char) : Option Nat :=
  if cs.isEmpty then none
  else cs.foldlM (fun n c => do
    let d ← Hex.digit? c
    if d < base then some (base * n + d) else none) 0

/-- A base marked by its letter. -/
def baseOf? : Char → Option Nat
  | 'x' => some 16
  | 'o' => some 8
  | 'b' => some 2
  | _ => none

/-- Whether a text is a decimal number with a needless zero in front. -/
def hasLeadingZero (cs : List Char) : Bool :=
  let cs := match cs with
    | '-' :: rest => rest
    | '+' :: rest => rest
    | _ => cs
  match cs with
  | '0' :: c :: rest => (c :: rest).all Decimal.isDigit
  | _ => false

/-- The magnitude of an unsigned integer: after a zero and a base letter in that base, otherwise in
base ten. -/
def magnitude? (cs : List Char) : Option Nat :=
  let based := match cs with
    | '0' :: b :: rest => baseOf? b >>= fun base => digits? base rest
    | _ => none
  based.or (digits? 10 cs)

/-- The sign and magnitude of an integer. -/
def integer? (cs : List Char) : Option (Bool × Nat) :=
  if hasLeadingZero cs then none
  else match cs with
    | '-' :: rest => (magnitude? rest).map (true, ·)
    | '+' :: rest => (magnitude? rest).map (false, ·)
    | _ => (magnitude? cs).map (false, ·)

/-- The integer a text spells, if it spells one that is not treated as a double. -/
def int? (s : String) : Option (Except Fault Int) :=
  match integer? s.toList with
  | none => none
  | some (false, n) =>
    if n < twoTo 64 then some (.ok n)
    else if n < twoTo 128 then some (.error .integerRange)
    else none
  | some (true, n) =>
    if n ≤ twoTo 63 then some (.ok (-n))
    else if n ≤ twoTo 127 then some (.error .integerRange)
    else none

/-- The double a text spells. Infinity and not-a-number have a point in front; a numeral must denote a
finite double. -/
def real? (s : String) : Option Binary64 :=
  let unsigned? := match s.toList with
    | '+' :: '+' :: _ => none
    | '+' :: '-' :: _ => none
    | '+' :: rest => some (String.ofList rest)
    | _ => some s
  match unsigned? with
  | none => none
  | some u =>
    if u = ".inf" ∨ u = ".Inf" ∨ u = ".INF" then some (.infinity false)
    else if s = "-.inf" ∨ s = "-.Inf" ∨ s = "-.INF" then some (.infinity true)
    else if s = ".nan" ∨ s = ".NaN" ∨ s = ".NAN" then some .nan
    else (Binary64.parse? u).filter Binary64.isFinite

/-- What a plain scalar without a standard tag stands for. -/
def resolve (s : String) : Except Fault Node :=
  if s.isEmpty || isNull s then .ok .null
  else match bool? s with
    | some b => .ok (.bool b)
    | none =>
      match int? s with
      | some n => n.map .int
      | none =>
        if hasLeadingZero s.toList then .ok (.text s)
        else match real? s with
          | some x => .ok (.real x)
          | none => .ok (.text s)

/-- What a scalar under a tag that is not local stands for. A tag whose bytes begin with an exclamation
mark but are no text counts as none. -/
def resolveTagged (tag : Bytes) (s : String) (isPlain : Bool) : Except Fault Node :=
  if tag = Form.ascii "tag:yaml.org,2002:bool" then
    match bool? s with
    | some b => .ok (.bool b)
    | none => .error .tagValue
  else if tag = Form.ascii "tag:yaml.org,2002:int" then
    match int? s with
    | some n => n.map .int
    | none => .error .tagValue
  else if tag = Form.ascii "tag:yaml.org,2002:float" then
    match real? s with
    | some x => .ok (.real x)
    | none => .error .tagValue
  else if tag = Form.ascii "tag:yaml.org,2002:null" then
    if isNull s then .ok .null else .error .tagValue
  else if tag.head? = some Lexer.bang && isPlain then resolve s
  else .ok (.text s)

end TierSweep.Yaml.Scalar
