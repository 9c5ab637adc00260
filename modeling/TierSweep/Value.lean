import TierSweep.Json.Read

/-!
# Parameter values

A parameter takes a truth value, a number or a text. Integers and doubles are different numbers even
where they are equal, and their texts tell them apart.
-/

namespace TierSweep

/-- An integer of sixty-four bits or a double. -/
inductive Number where
  | int (n : Int64)
  | float (x : Binary64)
  deriving DecidableEq

/-- A value of a parameter. -/
inductive Value where
  | bool (b : Bool)
  | number (n : Number)
  | text (s : String)
  deriving DecidableEq

namespace Number

/-- Doubles as they are spelled in result names and command lines: positional from `1e-4` up to below
`1e16`, otherwise with a signed power of ten of at least two digits; of two equally near shortest
decimals the larger one is written. -/
def style : NumberStyle where
  tie := .up
  leastPositional := -4
  positionalEnd := 16
  plusSign := true
  powerWidth := 2
  nan := "nan"
  infinity := "inf"

/-- The text of a number. -/
def render : Number → String
  | .int n => toString n.toInt
  | .float x => style.render x

/-- The number as a double; an integer is rounded to the nearest one. -/
def toBinary64 : Number → Binary64
  | .int n => .ofInt n.toInt
  | .float x => x

/-- The number in JSON. -/
def toJson : Number → Json
  | .int n => .int n.toInt
  | .float x => .real x

end Number

namespace Value

/-- The integer value `n`. -/
def int (n : Int64) : Value := .number (.int n)

/-- The double value `x`. -/
def float (x : Binary64) : Value := .number (.float x)

/-- The text of a value, which for a text is itself. -/
def render : Value → String
  | .bool b => if b then "true" else "false"
  | .number n => n.render
  | .text s => s

/-- The number of a numeric value. -/
def number? : Value → Option Number
  | .number n => some n
  | _ => none

/-- A numeric value as a double. -/
def binary64? (v : Value) : Option Binary64 := v.number?.map Number.toBinary64

/-- The value of an integer that is not negative. -/
def nat? : Value → Option Nat
  | .number (.int n) => if 0 ≤ n.toInt then some n.toInt.toNat else none
  | _ => none

/-- The content of a text value. -/
def text? : Value → Option String
  | .text s => some s
  | _ => none

/-- Whether the value is a number. -/
def isNumber (v : Value) : Bool := v.number?.isSome

/-- The word for the kind of a value in messages. -/
def kind : Value → String
  | .bool _ => "bool"
  | .number (.int _) => "int"
  | .number (.float _) => "float"
  | .text _ => "text"

/-- The value in JSON. -/
def toJson : Value → Json
  | .bool b => .bool b
  | .number n => n.toJson
  | .text s => .text s

/-- The value of an integer. Outside the range of sixty-four signed bits it is the nearest double. -/
def ofInteger (n : Int) : Value :=
  if Int64.minValue.toInt ≤ n ∧ n ≤ Int64.maxValue.toInt then int (Int64.ofInt n)
  else float (.ofInt n)

/-- The value a JSON scalar stands for. -/
def ofJson? : Json → Option Value
  | .bool b => some (.bool b)
  | .int n => some (ofInteger n)
  | .real x => some (float x)
  | .text s => some (.text s)
  | _ => none

end Value

end TierSweep
