import TierSweep.Number.Style
import TierSweep.Text.Printable

/-!
# YAML values

A YAML value is a scalar, a sequence, a mapping, or any of these under a local tag. Two values are the
same when they look the same after reading: the order of a mapping's entries does not matter, zero has
no sign and not-a-number equals itself.
-/

namespace TierSweep.Yaml

/-- A YAML value. -/
inductive Node where
  | null
  | bool (b : Bool)
  | int (n : Int)
  | real (x : Binary64)
  | text (s : String)
  | sequence (items : List Node)
  | mapping (entries : List (Node × Node))
  | tagged (tag : String) (value : Node)

namespace Node

/-- A tag without the exclamation mark in front, unless it is nothing else. -/
def bareTag (tag : String) : String :=
  match tag.toList with
  | '!' :: c :: rest => String.ofList (c :: rest)
  | _ => tag

/-- The word for the kind of a value in messages. -/
def kind : Node → String
  | .null => "null"
  | .bool _ => "bool"
  | .int _ => "number"
  | .real _ => "number"
  | .text _ => "string"
  | .sequence _ => "sequence"
  | .mapping _ => "mapping"
  | .tagged .. => "tagged"

mutual

/-- Whether two values are the same. -/
def same : Node → Node → Bool
  | .null, .null => true
  | .bool a, .bool b => a = b
  | .int a, .int b => a = b
  | .real x, .real y => (x = .nan && y = .nan) || x.eqNumeric y
  | .text s, .text t => s = t
  | .sequence a, .sequence b => sameItems a b
  | .mapping a, .mapping b => a.length = b.length && within a b
  | .tagged s a, .tagged t b => bareTag s = bareTag t && same a b
  | _, _ => false

/-- Whether two sequences have the same items in the same order. -/
def sameItems : List Node → List Node → Bool
  | [], [] => true
  | a :: as, b :: bs => same a b && sameItems as bs
  | _, _ => false

/-- Whether every entry of a mapping is found in another. -/
def within : List (Node × Node) → List (Node × Node) → Bool
  | [], _ => true
  | (k, v) :: rest, entries =>
    (entries.any fun e => same k e.1 && same v e.2) && within rest entries

end

/-- Whether a mapping has a key. -/
def hasKey (key : Node) (entries : List (Node × Node)) : Bool := entries.any (same key ·.1)

/-- Sets the value of a key; a key that is there already keeps its place. -/
def setEntry (key value : Node) : List (Node × Node) → List (Node × Node)
  | [] => [(key, value)]
  | (k, v) :: rest =>
    if same key k then (k, value) :: rest else (k, v) :: setEntry key value rest

/-- Doubles in a displayed value. -/
def numberStyle : NumberStyle where
  tie := .toEven
  leastPositional := -5
  positionalEnd := 16
  plusSign := false
  powerWidth := 1
  nan := ".nan"
  infinity := ".inf"

/-- The text of a number in a displayed value. -/
def numberText : Node → String
  | .int n => toString n
  | .real x => numberStyle.render x
  | _ => ""

mutual

/-- A value displayed with the kinds of its parts, for messages. -/
def display : Node → String
  | .null => "Null"
  | .bool b => "Bool(" ++ toString b ++ ")"
  | .int n => "Number(" ++ numberText (.int n) ++ ")"
  | .real x => "Number(" ++ numberText (.real x) ++ ")"
  | .text s => "String(" ++ Printable.quoted s ++ ")"
  | .sequence items => "Sequence [" ++ ", ".intercalate (displayItems items) ++ "]"
  | .mapping entries => "Mapping \x7b" ++ ", ".intercalate (displayEntries entries) ++ "\x7d"
  | .tagged tag v =>
    "TaggedValue \x7b tag: !" ++ bareTag tag ++ ", value: " ++ display v ++ " \x7d"

/-- The items of a sequence. -/
def displayItems : List Node → List String
  | [] => []
  | v :: rest => display v :: displayItems rest

/-- The entries of a mapping. -/
def displayEntries : List (Node × Node) → List String
  | [] => []
  | (k, v) :: rest => (displayKey k ++ ": " ++ display v) :: displayEntries rest

/-- A key of a mapping: truth values, numbers and texts stand without their kind. -/
def displayKey : Node → String
  | .bool b => toString b
  | .int n => numberText (.int n)
  | .real x => numberText (.real x)
  | .text s => Printable.quoted s
  | .null => "Null"
  | .sequence items => "Sequence [" ++ ", ".intercalate (displayItems items) ++ "]"
  | .mapping entries => "Mapping \x7b" ++ ", ".intercalate (displayEntries entries) ++ "\x7d"
  | .tagged tag v =>
    "TaggedValue \x7b tag: !" ++ bareTag tag ++ ", value: " ++ display v ++ " \x7d"

end

end Node

end TierSweep.Yaml
