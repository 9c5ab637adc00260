import TierSweep.Text.Hex
import TierSweep.Yaml.Cursor

/-!
# Texts in YAML

The four ways to write a text: plain, in single or double quotes, and as an indented block. Line
breaks inside a text are folded: a single break becomes a space, and of several breaks the first is
dropped. Block texts keep or fold their breaks, and their tail is clipped, stripped or kept.
-/

namespace TierSweep.Yaml

/-- The space between two runs of characters: blanks in one line, or a first line break and further
ones. All are in reverse. -/
inductive Gap where
  | blanks (reversed : List Char)
  | breaks (first : Option Char) (reversed : List Char)

namespace Gap

/-- No space. -/
def none : Gap := .blanks []

/-- The characters a gap contributes to a text, in reverse. -/
def fold : Gap → List Char
  | .blanks cs => cs
  | .breaks (some '\n') [] => [' ']
  | .breaks (some '\n') more => more
  | .breaks first more => more ++ first.toList

/-- Whether a line break is in the gap. -/
def hasBreak : Gap → Bool
  | .blanks _ => false
  | .breaks _ _ => true

/-- The gap with one more break. -/
def addBreak (c : Char) : Gap → Gap
  | .blanks _ => .breaks (some c) []
  | .breaks first more => .breaks first (c :: more)

end Gap

/-- Reads blanks and line breaks into a gap. A tab must not stand in the indentation of a further line,
which is as wide as the given column. The fuel bounds the number of characters. -/
def takeGap (indent : Nat) : Nat → Gap → Cursor → Except Fault (Gap × Cursor)
  | 0, gap, c => .ok (gap, c)
  | fuel + 1, gap, c =>
    match c.lineBreak? with
    | some (b, c') => takeGap indent fuel (gap.addBreak b) c'
    | none =>
      match c.peek with
      | some x =>
        if isBlank x then
          match gap with
          | .blanks cs => takeGap indent fuel (.blanks (x :: cs)) (c.skip 1)
          | .breaks .. =>
            if x = '\t' ∧ c.column < indent then .error .tabIndentation
            else takeGap indent fuel gap (c.skip 1)
        else .ok (gap, c)
      | .none => .ok (gap, c)

/-- Brackets, braces and commas, which end a plain text inside a flow collection. -/
def isFlowIndicator (c : Char) : Bool :=
  c = ',' || c = '[' || c = ']' || c = '{' || c = '}'

/-- Reads the characters of a plain text up to a blank, a line end or an indicator, in reverse. -/
def plainRun (inFlow : Bool) : List Char → List Char → Except Fault (List Char)
  | reversed, [] => .ok reversed
  | reversed, x :: rest =>
    if isBlank x || isBreak x then .ok reversed
    else if inFlow && x = ':' && rest.head?.any (fun y => isFlowIndicator y || y = '?') then
      .error .plainColon
    else if x = ':' && rest.head?.all (fun y => isBlank y || isBreak y) then .ok reversed
    else if inFlow && isFlowIndicator x then .ok reversed
    else plainRun inFlow (x :: reversed) rest

/-- Reads a plain text, of which further lines must be indented by at least `indent` in block context.
The result is the text in reverse, whether a line break was read last, and the place after it. -/
def plainLoop (inFlow : Bool) (indent : Nat) :
    Nat → List Char → Gap → Cursor → Except Fault (List Char × Bool × Cursor)
  | 0, text, gap, c => .ok (text, gap.hasBreak, c)
  | fuel + 1, text, gap, c => do
    if c.atDocumentMarker || c.sees '#' then return (text, gap.hasBreak, c)
    let run ← plainRun inFlow [] c.rest
    let (text, gap) := if run.isEmpty then (text, gap) else (run ++ gap.fold ++ text, Gap.none)
    let c := c.skip run.length
    if !(c.peek.any fun x => isBlank x || isBreak x) then return (text, gap.hasBreak, c)
    let (gap, c) ← takeGap indent (c.rest.length + 1) gap c
    if !inFlow && c.column < indent then return (text, gap.hasBreak, c)
    plainLoop inFlow indent fuel text gap c

/-- Reads a plain text. -/
def plain (inFlow : Bool) (indent : Nat) (c : Cursor) :
    Except Fault (List Char × Bool × Cursor) := do
  let (text, broke, c) ← plainLoop inFlow indent (c.rest.length + 1) [] Gap.none c
  pure (text.reverse, broke, c)

/-- The character of an escape of one letter. -/
def escapedChar? : Char → Option Char
  | '0' => some '\x00'
  | 'a' => some '\x07'
  | 'b' => some '\x08'
  | 't' => some '\t'
  | '\t' => some '\t'
  | 'n' => some '\n'
  | 'v' => some '\x0b'
  | 'f' => some '\x0c'
  | 'r' => some '\r'
  | 'e' => some '\x1b'
  | ' ' => some ' '
  | '"' => some '"'
  | '/' => some '/'
  | '\\' => some '\\'
  | 'N' => some '\u0085'
  | '_' => some '\u00a0'
  | 'L' => some '\u2028'
  | 'P' => some '\u2029'
  | _ => none

/-- How many hexadecimal digits follow the letter of a numeric escape. -/
def escapeWidth? : Char → Option Nat
  | 'x' => some 2
  | 'u' => some 4
  | 'U' => some 8
  | _ => none

/-- Reads what follows a backslash in double quotes: the character it stands for and how many
characters it takes. -/
def escape (cs : List Char) : Except Fault (Char × Nat) :=
  match cs with
  | [] => .error .escape
  | x :: rest =>
    match escapedChar? x with
    | some c => .ok (c, 1)
    | none =>
      match escapeWidth? x with
      | none => .error .escape
      | some width =>
        if rest.length < width then .error .escape
        else match Hex.value? (rest.take width) with
          | none => .error .escape
          | some n =>
            if h : n.isValidChar then .ok (Char.ofNatAux n h, width + 1) else .error .escape

/-- Reads the characters of a quoted text up to a blank, a line end or the closing quote. The result is
the run in reverse, whether it ended at an escaped line break, and the place after it. -/
def quotedRun (single : Bool) : Nat → List Char → Cursor → Except Fault (List Char × Bool × Cursor)
  | 0, run, c => .ok (run, false, c)
  | fuel + 1, run, c =>
    match c.rest with
    | [] => .ok (run, false, c)
    | x :: rest =>
      if isBlank x || isBreak x then .ok (run, false, c)
      else if single then
        if x = '\'' then
          if rest.head? = some '\'' then quotedRun single fuel ('\'' :: run) (c.skip 2)
          else .ok (run, false, c)
        else quotedRun single fuel (x :: run) (c.skip 1)
      else if x = '"' then .ok (run, false, c)
      else if x = '\\' then
        if rest.head?.any isBreak then .ok (run, true, (c.skip 1).skipBreak)
        else do
          let (y, n) ← escape rest
          quotedRun single fuel (y :: run) (c.skip (n + 1))
      else quotedRun single fuel (x :: run) (c.skip 1)

/-- Reads a quoted text after its opening quote, in reverse, and the place after its closing quote. -/
def quotedLoop (single : Bool) : Nat → List Char → Cursor → Except Fault (List Char × Cursor)
  | 0, _, _ => .error .unfinished
  | fuel + 1, text, c => do
    if c.atDocumentMarker || c.atEnd then throw .unclosedQuote
    let (run, escapedBreak, c) ← quotedRun single (c.rest.length + 1) [] c
    let text := run ++ text
    if c.sees (if single then '\'' else '"') then return (text, c.skip 1)
    let gap := if escapedBreak then Gap.breaks none [] else Gap.none
    let (gap, c) ← takeGap 0 (c.rest.length + 1) gap c
    quotedLoop single fuel (gap.fold ++ text) c

/-- Reads a quoted text. -/
def quoted (single : Bool) (c : Cursor) : Except Fault (List Char × Cursor) := do
  let (text, c) ← quotedLoop single (c.rest.length + 1) [] (c.skip 1)
  pure (text.reverse, c)

/-- What becomes of the line breaks at the end of a block text. -/
inductive Chomp where
  | strip
  | clip
  | keep
  deriving DecidableEq, Repr

/-- The chomping a character asks for. -/
def Chomp.ofChar? : Char → Option Chomp
  | '-' => some .strip
  | '+' => some .keep
  | _ => none

/-- The indentation a digit asks for; zero is refused. -/
def indentOfChar? (c : Char) : Option (Except Fault Nat) :=
  if '1' ≤ c ∧ c ≤ '9' then some (.ok (c.toNat - '0'.toNat))
  else if c = '0' then some (.error .blockHeader)
  else none

/-- Reads the header of a block text after its indicator: chomping and indentation in either order. -/
def blockHeader (c : Cursor) : Except Fault (Chomp × Nat × Cursor) :=
  match c.peek >>= Chomp.ofChar? with
  | some chomp =>
    let c := c.skip 1
    match c.peek >>= indentOfChar? with
    | some n => do pure (chomp, ← n, c.skip 1)
    | none => .ok (chomp, 0, c)
  | none =>
    match c.peek >>= indentOfChar? with
    | some n => do
      let n ← n
      let c := c.skip 1
      match c.peek >>= Chomp.ofChar? with
      | some chomp => pure (chomp, n, c.skip 1)
      | none => pure (.clip, n, c)
    | none => .ok (.clip, 0, c)

/-- Reads the indentation and the empty lines in front of a line of a block text. While the
indentation is not known, which zero stands for, all leading spaces count to it, and the result gives
the widest. The line breaks are in reverse. -/
def blockBreaks (indent : Nat) :
    Nat → Nat → List Char → Cursor → Except Fault (Nat × List Char × Cursor)
  | 0, widest, breaks, c => .ok (widest, breaks, c)
  | fuel + 1, widest, breaks, c =>
    let spaces := (c.rest.takeWhile (· = ' ')).length
    let c := c.skip (if indent = 0 then spaces else min spaces (indent - c.column))
    let widest := max widest c.column
    if (indent = 0 || c.column < indent) && c.sees '\t' then .error .tabIndentation
    else match c.lineBreak? with
      | some (b, c) => blockBreaks indent fuel widest (b :: breaks) c
      | none => .ok (widest, breaks, c)

/-- Reads the lines of a block text. `first` is the break before the present line if it is not written
yet, `breaks` are the empty lines after it in reverse, and `afterBlank` tells whether the line before
began with a blank. The result is the text in reverse with the breaks that end it. -/
def blockLines (literal : Bool) (indent : Nat) :
    Nat → List Char → Option Char → List Char → Bool → Cursor →
      Except Fault (List Char × Option Char × List Char × Cursor)
  | 0, text, first, breaks, _, c => .ok (text, first, breaks, c)
  | fuel + 1, text, first, breaks, afterBlank, c => do
    if c.column ≠ indent || c.atEnd then return (text, first, breaks, c)
    let blank := c.peek.any isBlank
    let joined :=
      if !literal && first = some '\n' && !afterBlank && !blank then
        if breaks.isEmpty then [' '] else []
      else first.toList
    let (line, c) := c.takeWhile (!isBreak ·)
    let text := line.reverse ++ (breaks ++ (joined ++ text))
    let (first, c) := match c.lineBreak? with
      | some (b, c) => (some b, c)
      | none => (none, c)
    let (_, breaks, c) ← blockBreaks indent (c.rest.length + 1) 0 [] c
    blockLines literal indent fuel text first breaks blank c

/-- Reads a block text whose parent is indented by `parent`, or by nothing if it is negative. -/
def block (literal : Bool) (parent : Int) (c : Cursor) : Except Fault (List Char × Cursor) := do
  let (chomp, increment, c) ← blockHeader (c.skip 1)
  let c := c.skipBlanks.skipComment
  if !c.atLineEnd then throw .blockHeader
  let c := c.skipBreak
  let given := if increment = 0 then 0 else (max parent 0).toNat + increment
  let (widest, breaks, c) ← blockBreaks given (c.rest.length + 1) 0 [] c
  let indent := if given = 0 then max (max widest (parent + 1).toNat) 1 else given
  let (text, first, breaks, c) ←
    blockLines literal indent (c.rest.length + 1) [] none breaks false c
  let text := match chomp with
    | .strip => text
    | .clip => first.toList ++ text
    | .keep => breaks ++ (first.toList ++ text)
  pure (text.reverse, c)

end TierSweep.Yaml
