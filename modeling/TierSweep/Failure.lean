import TierSweep.Json.Read
import TierSweep.Policy

/-!
# Failures

A failure is reported with the family it belongs to, a stable code, a message, named facts about it,
and possibly advice on the remedy. The facts are a map: they are shown in the order of their names,
and a name given twice keeps the last fact.
-/

namespace TierSweep

/-- The part of the work in which a failure arose. -/
inductive Family where
  | specification
  | configuration
  | files
  | launching
  | encoding
  deriving DecidableEq, Repr

namespace Family

/-- All families. -/
def all : List Family := [specification, configuration, files, launching, encoding]

/-- The name of the family. -/
def name : Family → String
  | specification => "spec"
  | configuration => "config"
  | files => "io"
  | launching => "launch"
  | encoding => "serde"

/-- The family of a given name. -/
def ofName? (s : String) : Option Family := all.find? (·.name = s)

end Family

/-- What is known about a failure. -/
structure Detail where
  /-- The stable code. -/
  code : String
  /-- The message for people. -/
  message : String
  /-- The named facts, in the order of their names. -/
  facts : List (String × String)
  /-- Advice on the remedy. -/
  advice? : Option String
  deriving DecidableEq, Repr

namespace Detail

/-- A code and a message alone. -/
def new (code message : String) : Detail := ⟨code, message, [], none⟩

/-- Adds a named fact. -/
def noting (d : Detail) (key value : String) : Detail :=
  { d with facts := Entries.insert key value d.facts }

/-- Sets the advice. -/
def advising (d : Detail) (advice : String) : Detail := { d with advice? := some advice }

/-- The facts in parentheses, if there are any. -/
def renderFacts (d : Detail) : String :=
  if d.facts.isEmpty then ""
  else " (" ++ ", ".intercalate (d.facts.map fun p => p.1 ++ "=" ++ p.2) ++ ")"

/-- The whole text. -/
def render (d : Detail) : String :=
  "[" ++ d.code ++ "] " ++ d.message ++ d.renderFacts
    ++ (match d.advice? with | some h => "; hint: " ++ h | none => "")

/-- In JSON, facts and advice are left out when there are none. -/
def toJson (d : Detail) : Json :=
  .object ([("code", .text d.code), ("message", .text d.message)]
    ++ (if d.facts.isEmpty then []
        else [("context", .object (d.facts.map fun p => (p.1, .text p.2)))])
    ++ (match d.advice? with | some h => [("hint", .text h)] | none => []))

/-- Reads the facts: an object of texts. -/
def factsOfSketch? : Json.Sketch → Option (List (String × String))
  | .object fields => do
    let keyed ← Json.Sketch.keyed? fields
    let pairs ← keyed.mapM fun p => p.2.text?.map (p.1, ·)
    pure (Entries.ofList pairs)
  | _ => none

/-- Reads the advice: a text or null. -/
def adviceOfSketch? : Json.Sketch → Option (Option String)
  | .null => some none
  | s => s.text?.map some

/-- Reads a detail from an object, whose unknown fields are skipped, or from an array of its parts in
order. Facts and advice may be missing. -/
def ofSketch? : Json.Sketch → Option Detail
  | .object fields => do
    let keyed ← Json.Sketch.keyed? fields
    let code ← (← Json.Sketch.field? "code" keyed) >>= Json.Sketch.text?
    let message ← (← Json.Sketch.field? "message" keyed) >>= Json.Sketch.text?
    let facts ← match ← Json.Sketch.field? "context" keyed with
      | none => some []
      | some s => factsOfSketch? s
    let advice ← match ← Json.Sketch.field? "hint" keyed with
      | none => some none
      | some s => adviceOfSketch? s
    pure ⟨code, message, facts, advice⟩
  | .array (code :: message :: rest) => do
    let code ← code.text?
    let message ← message.text?
    match rest with
    | [] => pure ⟨code, message, [], none⟩
    | [c] => do pure ⟨code, message, ← factsOfSketch? c, none⟩
    | [c, h] => do pure ⟨code, message, ← factsOfSketch? c, ← adviceOfSketch? h⟩
    | _ => none
  | _ => none

end Detail

/-- A failure: its family and what is known about it. -/
structure Failure where
  family : Family
  detail : Detail
  deriving DecidableEq, Repr

namespace Failure

/-- A failure with a code and a message alone. -/
def new (family : Family) (code message : String) : Failure := ⟨family, .new code message⟩

/-- Adds a named fact. -/
def noting (f : Failure) (key value : String) : Failure :=
  { f with detail := f.detail.noting key value }

/-- Sets the advice. -/
def advising (f : Failure) (advice : String) : Failure :=
  { f with detail := f.detail.advising advice }

/-- The stable code. -/
def code (f : Failure) : String := f.detail.code

/-- The whole text. -/
def render (f : Failure) : String := f.family.name ++ " error " ++ f.detail.render

/-- In JSON, the family stands beside the detail. -/
def toJson (f : Failure) : Json :=
  .object [("family", .text f.family.name), ("detail", f.detail.toJson)]

/-- Reads a failure from an object with the two fields in either order, or from an array of the two.
A detail that comes before its family must be readable as a whole, unknown fields included. -/
def ofSketch? : Json.Sketch → Option Failure
  | .array [family, detail] => do
    let f ← family.choice? >>= Family.ofName?
    let d ← Detail.ofSketch? detail
    pure ⟨f, d⟩
  | .object fields => do
    let keyed ← Json.Sketch.keyed? fields
    match keyed.filter fun p => p.1 = "family" ∨ p.1 = "detail" with
    | [("family", family), ("detail", detail)] => do
      let f ← family.choice? >>= Family.ofName?
      let d ← Detail.ofSketch? detail
      pure ⟨f, d⟩
    | [("detail", detail), ("family", family)] => do
      let _ ← detail.resolve? (Json.Sketch.maxDepth - 1)
      let f ← family.choice? >>= Family.ofName?
      let d ← Detail.ofSketch? detail
      pure ⟨f, d⟩
    | _ => none
  | _ => none

/-- The failure to read a JSON text. -/
def notReadable : Failure := .new .encoding "json_deserialize" "the text does not have this form"

/-- The failure to write a value with a path that is not a text. -/
def notWritable : Failure :=
  .new .encoding "json_serialize" "path contains invalid UTF-8 characters"

end Failure

namespace Policy

/-- Reads a policy. -/
def ofSketch? (s : Json.Sketch) : Option Policy := s.choice? >>= ofName?

/-- The failure to recognize the name of a policy. -/
def unknownFailure (s : String) : Failure :=
  (Failure.new .configuration "unknown_policy_type" "unsupported policy type")
    |>.noting "policy_type" s
    |>.advising ("expected one of " ++ ", ".intercalate (all.map name))

/-- The policy of a given name, or the failure to recognize it. -/
def parse (s : String) : Except Failure Policy :=
  match ofName? s with
  | some p => .ok p
  | none => .error (unknownFailure s)

end Policy

end TierSweep
