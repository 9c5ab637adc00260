import TierSweep.FileTree.Rearrangement
import TierSweep.Host.Executable
import TierSweep.Shell.Arithmetic
import TierSweep.Shell.Run
import TierSweep.Text.Glob

/-!
# Expanding words

When a command is carried out, the parts of its words are replaced by text. What comes from outside
quotes is then cut into fields, and a field that is a pattern gives way to the names of the files that
fit it.
-/

namespace TierSweep.Shell

/-- A piece of an expanded word. -/
inductive Piece where
  /-- A character; whether it is quoted, and whether it may separate fields. -/
  | char (c : Char) (quoted splits : Bool)
  /-- A place where something is quoted, which makes a field even if it is empty. -/
  | mark
  /-- A place between two arguments. -/
  | gap

/-- How a word is expanded. -/
structure Manner where
  /-- Whether the word is cut into fields. -/
  fields : Bool
  /-- Whether text outside quotes may separate fields, as in the braces of a parameter. -/
  textSplits : Bool
  /-- Whether a tilde may come behind a colon. -/
  assignment : Bool

namespace Piece

/-- The pieces of a text. -/
def ofText (text : String) (quoted splits : Bool) : List Piece :=
  text.toList.map fun c => .char c quoted splits

/-- The text of some pieces. -/
def text (ps : List Piece) : String :=
  String.ofList (ps.filterMap fun
    | .char c _ _ => some c
    | .gap => some ' '
    | .mark => none)

/-- The pattern that some pieces write. -/
def marks (ps : List Piece) : List Glob.Mark :=
  ps.filterMap fun
    | .char c quoted _ => some (c, quoted)
    | _ => none

/-- Cuts pieces into fields. `begun` holds what the present field has so far, last first, if it has
begun; `after` tells that white space has just ended one. -/
def cut (separators : List Char) :
    Option (List Glob.Mark) → Bool → List Piece → List (List Glob.Mark)
  | none, _, [] => []
  | some field, _, [] => [field.reverse]
  | none, after, .mark :: ps => cut separators (some []) after ps
  | some field, after, .mark :: ps => cut separators (some field) after ps
  | none, _, .gap :: ps => cut separators none false ps
  | some field, _, .gap :: ps => field.reverse :: cut separators none false ps
  | begun, after, .char c quoted splits :: ps =>
    if splits && separators.contains c then
      let white := c = ' ' || c = '\t' || c = '\n'
      match begun with
      | some field => field.reverse :: cut separators none white ps
      | none =>
        if white then cut separators none after ps
        else if after then cut separators none false ps
        else [] :: cut separators none false ps
    else cut separators (some ((c, quoted) :: begun.getD [])) false ps

end Piece

/-- The text of a field, its quotes taken away. -/
def fieldText (field : List Glob.Mark) : String := String.ofList (field.map (·.1))

/-- The places where a path may go on, and the texts that lead there. -/
def pathsOf (t : FileTree) : String → List (List Glob.Mark) → List String
  | before, [] => [before]
  | before, [last] =>
    if last.isEmpty then [before]
    else match names before last with
      | none =>
        let p := before ++ fieldText last
        if (t.findItself (.ofOctets p)).isOk then [p] else []
      | some found => found.map (before ++ ·)
  | before, segment :: next :: rest =>
    match names before segment with
    | none => pathsOf t (before ++ fieldText segment ++ "/") (next :: rest)
    | some found =>
      (found.filter fun n => t.hasDirectory (.ofOctets (before ++ n))).flatMap fun n =>
        pathsOf t (before ++ n ++ "/") (next :: rest)
where
  /-- The names in a directory that fit a pattern, if it is one. -/
  names (before : String) (segment : List Glob.Mark) : Option (List String) :=
    let steps := Glob.ofMarks segment
    if !Glob.isPattern steps then none
    else match t.find (.ofOctets (if before.isEmpty then "." else before)) with
      | .ok (place, .directory) =>
        let found := (t.namesIn place).map Octets.ofBytes
        some (("." :: ".." :: found).filter fun n =>
          (n.toList.head? ≠ some '.' || segment.head?.map (·.1) = some '.') && Glob.fits steps n.toList)
      | _ => some []

/-- Cuts a pattern at its slashes. -/
def segments : List Glob.Mark → List (List Glob.Mark)
  | [] => [[]]
  | m :: ms =>
    if m.1 = '/' then [] :: segments ms
    else match segments ms with
      | [] => [[m]]
      | s :: more => (m :: s) :: more

/-- The texts that a field becomes: the files that fit it, if it is a pattern and there are any. -/
def filesOf (t : FileTree) (field : List Glob.Mark) : List String :=
  if !Glob.isPattern (Glob.ofMarks field) then [fieldText field]
  else match (pathsOf t "" (segments field)).mergeSort (fun a b => decide (a ≤ b)) with
    | [] => [fieldText field]
    | found => found

namespace Expansion

/-- The value of a parameter that is no list of arguments, if it is set. -/
def scalar? (s : State) (name : String) : Option String :=
  match name with
  | "#" => some (toString s.arguments.length)
  | "?" => some (toString s.status)
  | "-" => some s.flags
  | "$" => some (toString s.shell)
  | "!" => s.lastJob?.map toString
  | _ =>
    match name.toList with
    | c :: _ =>
      if c.isDigit then
        match name.toNat? with
        | some 0 => some s.self
        | some n => s.arguments[n - 1]?
        | none => none
      else s.value? name
    | [] => none

/-- Whether a parameter is the list of arguments. -/
def isList (name : String) : Bool := name = "@" || name = "*"

/-- The pieces of the list of arguments. -/
def listPieces (s : State) (name : String) (m : Manner) (quoted : Bool) : List Piece :=
  let separator := match s.value? "IFS" with
    | none => [' ']
    | some ifs => ifs.toList.take 1
  let joined (between : List Piece) (marked : Bool) : List Piece :=
    (s.arguments.map fun a =>
      (if marked then [.mark] else []) ++ Piece.ofText a quoted (!quoted)).intersperse between |>.flatten
  if m.fields && (!quoted || name = "@") then joined [.gap] quoted
  else
    (if quoted then [.mark] else [])
      ++ joined (separator.map fun c => .char c quoted (!quoted)) false

/-- The user's directory, if a tilde at the beginning of a text stands for one, and what follows. -/
def tilde? (s : State) (cs : List Char) (alone : Bool) : Option (String × List Char) :=
  match cs with
  | '~' :: rest =>
    let name := rest.takeWhile fun c => c ≠ '/' && c ≠ ':'
    let after := rest.drop name.length
    if after.isEmpty && !alone then none
    else if name.isEmpty then (s.value? "HOME").map (·, after)
    else if name = "root".toList then some ("/root", after)
    else none
  | _ => none

/-- The pieces of text outside quotes, tildes replaced. -/
def plainPieces (s : State) (m : Manner) (begins alone : Bool) (text : String) : List Piece :=
  let ofChars (cs : List Char) : List Piece := cs.map fun c => .char c false m.textSplits
  let one (begins alone : Bool) (cs : List Char) : List Piece :=
    match if begins then tilde? s cs alone else none with
    | some (home, rest) => Piece.ofText home true false ++ ofChars rest
    | none => ofChars cs
  if !m.assignment then one begins alone text.toList
  else
    let parts := text.splitOn ":"
    let count := parts.length
    let pieces := (parts.zip (List.range count)).map fun (p, i) =>
      one (begins || 0 < i) (alone || i + 1 < count) p.toList
    (pieces.intersperse [.char ':' false m.textSplits]).flatten

/-- What is needed to expand parts: expanding the words inside them, and the output of commands. -/
structure Tools where
  word : Manner → Word → Run (List Piece)
  output : Command → Run String

/-- The report of a parameter that is not set. -/
def notSet {α : Type} (name : String) : Run α := Run.fail (name ++ ": parameter not set")

/-- The value of an expression. -/
def calculate (text : String) : Run String := do
  let fault {α : Type} (what : String) : Run α :=
    Run.fail ("arithmetic expression: " ++ what ++ ": \"" ++ text ++ "\"")
  match Arithmetic.read text with
  | .error what => fault what
  | .ok e =>
    let s ← get
    match e.value ⟨[], scalar? s⟩ with
    | .error .divisionByZero => fault "division by zero"
    | .error (.notNumber value) => Run.fail ("Illegal number: " ++ value)
    | .ok (n, values) =>
      values.given.reverse.forM fun (name, n) => Run.assign name (toString n.toInt)
      return toString n.toInt

/-- Expands a parameter. -/
def expandValue (tools : Tools) (m : Manner) (name : String) (use : Use) (quoted : Bool) :
    Run (List Piece) := do
  let s ← get
  let marked (ps : List Piece) : List Piece := if quoted then .mark :: ps else ps
  let ofText (text : String) : List Piece := marked (Piece.ofText text quoted (!quoted))
  let checked : Run Unit := do
    if s.has 'u' && !isList name && (scalar? s name).isNone then notSet name
  let value : List Piece :=
    if isList name then listPieces s name m quoted else ofText ((scalar? s name).getD "")
  let text : String :=
    if isList name then Piece.text (listPieces s name ⟨false, false, false⟩ true)
    else (scalar? s name).getD ""
  match use with
  | .senseless => Run.fail "Bad substitution"
  | .itself =>
    checked
    return value
  | .size =>
    checked
    return ofText (toString (if isList name then text.length else text.length))
  | .trim atEnd longest pattern =>
    checked
    let steps := Glob.ofMarks (Piece.marks (← tools.word ⟨false, false, false⟩ pattern))
    return ofText (String.ofList (Glob.trim steps atEnd longest text.toList))
  | .orElse fallback emptyToo word =>
    let isSet :=
      if isList name then !s.arguments.isEmpty && !(emptyToo && text.isEmpty)
      else match scalar? s name with
        | some v => !(emptyToo && v.isEmpty)
        | none => false
    let other : Run (List Piece) := do
      let ps ← tools.word { m with textSplits := !quoted, assignment := false } word
      return marked ps
    match fallback, isSet with
    | .alternative, true => other
    | .alternative, false => return marked []
    | _, true => return value
    | .substitute, false => other
    | .assign, false =>
      if !(name.toList.all (fun c => c.isAlphanum || c = '_')) || (name.toList.head?.all Char.isDigit) then
        Run.fail (name ++ ": bad variable name")
      let v := Piece.text (← tools.word ⟨false, false, false⟩ word)
      Run.assign name v
      return ofText v
    | .complain, false =>
      let v := Piece.text (← tools.word ⟨false, false, false⟩ word)
      Run.fail (name ++ ": " ++ if word.isEmpty then
        (if emptyToo then "parameter not set or null" else "parameter not set") else v)

/-- A text without the ends of lines at its end. -/
def withoutNewlines (text : String) : String :=
  String.ofList (text.toList.reverse.dropWhile (· = '\n')).reverse

/-- Expands a part of a word. -/
def expandPart (tools : Tools) (m : Manner) (begins alone : Bool) : Part → Run (List Piece)
  | .plain text => do return plainPieces (← get) m begins alone text
  | .quoted text => return .mark :: Piece.ofText text true false
  | .value name use quoted => expandValue tools m name use quoted
  | .output c quoted => do
    let text := withoutNewlines (← tools.output c)
    let ps := Piece.ofText (String.ofList (text.toList.filter (· ≠ '\x00'))) quoted (!quoted)
    return if quoted then .mark :: ps else ps
  | .number e quoted => do
    let text := Piece.text (← tools.word ⟨false, false, false⟩ e)
    let ps := Piece.ofText (← calculate text) quoted (!quoted)
    return if quoted then .mark :: ps else ps

/-- Expands the parts of a word one after another. -/
def expandParts (tools : Tools) (m : Manner) : Bool → Word → Run (List Piece)
  | _, [] => return []
  | begins, p :: rest => do
    let ps ← expandPart tools m begins rest.isEmpty p
    return ps ++ (← expandParts tools m false rest)

/-- Expands a word in which words are nested at most so deep. -/
def expandWithin (output : Command → Run String) : Nat → Manner → Word → Run (List Piece)
  | 0, _, _ => Run.fail "Bad substitution"
  | depth + 1, m, w => expandParts ⟨expandWithin output depth, output⟩ m true w

/-- How deep words may be nested. -/
def maxDepth : Nat := 1000

variable (output : Command → Run String)

/-- Expands a word. -/
def expand (m : Manner) (w : Word) : Run (List Piece) := expandWithin output maxDepth m w

/-- The fields that a word becomes. -/
def fields (w : Word) : Run (List String) := do
  match w with
  | [.plain text] =>
    if text.toList.all fun c => c.isAlphanum || c = '-' || c = '_' || c = '.' || c = '/' then return [text]
  | _ => pure ()
  let ps ← expand output ⟨true, false, false⟩ w
  let s ← get
  let cutInto := Piece.cut s.separators none false ps
  if s.has 'f' || !cutInto.any (fun f => Glob.isPattern (Glob.ofMarks f)) then return cutInto.map fieldText
  let t ← Run.ask Act.files
  return cutInto.flatMap (filesOf t)

/-- The text that a word becomes where it is not cut into fields. -/
def text (w : Word) : Run String := do
  return Piece.text (← expand output ⟨false, false, false⟩ w)

/-- The text that a word becomes as the value of a parameter. -/
def assigned (w : Word) : Run String := do
  return Piece.text (← expand output ⟨false, false, true⟩ w)

/-- The pattern that a word becomes. -/
def pattern (w : Word) : Run (List Glob.Step) := do
  return Glob.ofMarks (Piece.marks (← expand output ⟨false, false, false⟩ w))

end Expansion

end TierSweep.Shell
