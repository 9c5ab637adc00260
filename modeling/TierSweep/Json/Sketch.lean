import TierSweep.Json.Token

/-!
# The shape of a JSON text

A sketch has the arrays and objects of a JSON text in place, but its strings are still as written and
its numbers are still numerals. It is built from the tokens one at a time, with the containers that
are not finished held in a stack, so no text is nested too deeply to be sketched.
-/

namespace TierSweep.Json

/-- A JSON text read for its shape. -/
inductive Sketch where
  | null
  | bool (b : Bool)
  | number (n : Numeral)
  | text (raw : RawText)
  | array (items : List Sketch)
  | object (fields : List (RawText × Sketch))

namespace Sketch

/-- The numeral a word writes: no plus sign in front, no needless leading zero, and at least one
digit on each side of a point. -/
def numeral? (cs : List Char) : Option Numeral := do
  let (negative, rest) := match cs with
    | '-' :: rest => (true, rest)
    | rest => (false, rest)
  let n ← Numeral.split? negative rest
  if n.whole = [] ∨ (n.whole.head? = some '0' ∧ n.whole.length ≠ 1) ∨ n.fraction? = some [] then none
  else some n

/-- The value a bare word stands for. -/
def ofWord? (cs : List Char) : Option Sketch :=
  if cs = "null".toList then some .null
  else if cs = "true".toList then some (.bool true)
  else if cs = "false".toList then some (.bool false)
  else (numeral? cs).map .number

/-- A container that is not finished: its contents so far in reverse, and for an object the key whose
value is due. -/
inductive Frame where
  | array (items : List Sketch)
  | object (fields : List (RawText × Sketch)) (key : RawText)

/-- What may come next. -/
inductive State where
  /-- A value. -/
  | value (stack : List Frame)
  /-- The first item of an array, or its end. -/
  | firstItem (stack : List Frame)
  /-- The first key of an object, or its end. -/
  | firstKey (stack : List Frame)
  /-- A further key of an object. -/
  | key (fields : List (RawText × Sketch)) (stack : List Frame)
  /-- The colon after a key. -/
  | colon (fields : List (RawText × Sketch)) (key : RawText) (stack : List Frame)
  /-- A comma or the end of an array. -/
  | afterItem (items : List Sketch) (stack : List Frame)
  /-- A comma or the end of an object. -/
  | afterField (fields : List (RawText × Sketch)) (stack : List Frame)
  /-- Nothing more. -/
  | done (v : Sketch)

/-- What comes after a finished value. -/
def State.finish (v : Sketch) : List Frame → State
  | [] => .done v
  | .array items :: stack => .afterItem (v :: items) stack
  | .object fields k :: stack => .afterField ((k, v) :: fields) stack

/-- Reads the beginning of a value. -/
def State.begin? (stack : List Frame) : Token → Option State
  | .openArray => some (.firstItem stack)
  | .openObject => some (.firstKey stack)
  | .text raw => some (.finish (.text raw) stack)
  | .word cs => (ofWord? cs).map (State.finish · stack)
  | _ => none

/-- Reads one token. -/
def State.step? : State → Token → Option State
  | .value stack, t => begin? stack t
  | .firstItem stack, .closeArray => some (finish (.array []) stack)
  | .firstItem stack, t => begin? (.array [] :: stack) t
  | .firstKey stack, .closeObject => some (finish (.object []) stack)
  | .firstKey stack, .text k => some (.colon [] k stack)
  | .key fields stack, .text k => some (.colon fields k stack)
  | .colon fields k stack, .colon => some (.value (.object fields k :: stack))
  | .afterItem items stack, .comma => some (.value (.array items :: stack))
  | .afterItem items stack, .closeArray => some (finish (.array items.reverse) stack)
  | .afterField fields stack, .comma => some (.key fields stack)
  | .afterField fields stack, .closeObject => some (finish (.object fields.reverse) stack)
  | _, _ => none

/-- Reads the tokens of one value and nothing after it. -/
def ofTokens? (ts : List Token) : Option Sketch :=
  match ts.foldlM State.step? (.value []) with
  | some (.done v) => some v
  | _ => none

/-- The shape of a JSON text. -/
def ofBytes? (bytes : Bytes) : Option Sketch :=
  Token.tokens? .between (Utf8.units bytes) >>= ofTokens?

end Sketch

end TierSweep.Json
