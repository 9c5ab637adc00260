import TierSweep.Entries
import TierSweep.Number.Style
import TierSweep.Text.Hex

/-!
# JSON trees and their canonical text

A tree keeps the fields of an object in the order they were given. Its canonical form sorts the
fields of every object by key and keeps only the last of several fields with one key; its compact
text is then the same for all trees that differ in the order of fields alone.
-/

namespace TierSweep

/-- A JSON value. Integers and doubles are kept apart. -/
inductive Json where
  | null
  | bool (b : Bool)
  | int (n : Int)
  | real (x : Binary64)
  | text (s : String)
  | array (items : List Json)
  | object (fields : List (String × Json))

namespace Json

/-- Doubles in JSON text: positional from `1e-5` up to below `1e16`, otherwise with a signed power of
ten; a tie goes to the even digit. A double that is not finite has no JSON text of its own and is
written as null. -/
def numberStyle : NumberStyle where
  tie := .toEven
  leastPositional := -5
  positionalEnd := 16
  plusSign := true
  powerWidth := 1
  nan := "null"
  infinity := "null"

/-- The text of a double. -/
def realText (x : Binary64) : String :=
  if x.isFinite then numberStyle.render x else "null"

/-- The escape of a character inside a string: only the quote, the backslash and the control
characters below a space are escaped. -/
def escape (c : Char) : List Char :=
  match c with
  | '"' => ['\\', '"']
  | '\\' => ['\\', '\\']
  | '\x08' => ['\\', 'b']
  | '\t' => ['\\', 't']
  | '\n' => ['\\', 'n']
  | '\x0c' => ['\\', 'f']
  | '\r' => ['\\', 'r']
  | c => if c < ' ' then ['\\', 'u'] ++ Hex.pad 4 c.toNat else [c]

/-- A string with its quotes. -/
def quoted (s : String) : List Char :=
  '"' :: s.toList.flatMap escape ++ ['"']

mutual

/-- The compact text of a tree. -/
def chars : Json → List Char
  | .null => "null".toList
  | .bool b => (if b then "true" else "false").toList
  | .int n => (toString n).toList
  | .real x => (realText x).toList
  | .text s => quoted s
  | .array items => '[' :: charsOfItems items ++ [']']
  | .object fields => '{' :: charsOfFields fields ++ ['}']

/-- Items separated by commas. -/
def charsOfItems : List Json → List Char
  | [] => []
  | [v] => chars v
  | v :: rest => chars v ++ ',' :: charsOfItems rest

/-- Fields separated by commas. -/
def charsOfFields : List (String × Json) → List Char
  | [] => []
  | [(k, v)] => quoted k ++ ':' :: chars v
  | (k, v) :: rest => quoted k ++ ':' :: chars v ++ ',' :: charsOfFields rest

end

/-- The compact text of a tree. -/
def write (v : Json) : String := String.ofList v.chars

mutual

/-- The tree with the fields of every object in key order. -/
def sorted : Json → Json
  | .array items => .array (sortedItems items)
  | .object fields => .object (Entries.ofList (sortedFields fields))
  | .null => .null
  | .bool b => .bool b
  | .int n => .int n
  | .real x => .real x
  | .text s => .text s

/-- Items, each in canonical form. -/
def sortedItems : List Json → List Json
  | [] => []
  | v :: rest => sorted v :: sortedItems rest

/-- Fields in the order given, each value in canonical form. -/
def sortedFields : List (String × Json) → List (String × Json)
  | [] => []
  | (k, v) :: rest => (k, sorted v) :: sortedFields rest

end

/-- The canonical text of a tree. -/
def canonical (v : Json) : String := v.sorted.write

/-- A text or, if there is none, null. -/
def ofText? (s : Option String) : Json := (s.map text).getD null

end Json

end TierSweep
