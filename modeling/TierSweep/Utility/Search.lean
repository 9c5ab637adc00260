import TierSweep.Text.Regex
import TierSweep.Utility.Files

/-!
# Looking for lines

Lines that fit a pattern are looked for in files and written, counted, or only noticed.
-/

namespace TierSweep.Utility

/-- How lines are looked for. -/
structure LineSearch where
  patterns : List Regex
  folds : Bool
  inverted : Bool
  /-- Whether only whole words or whole lines count. -/
  words : Bool
  wholeLines : Bool

namespace LineSearch

/-- The first match of a pattern at or after a position, if only words count then one that is a word. -/
def matchFrom (g : LineSearch) (r : Regex) : Nat → Nat → Option Char → List Char → Option (Nat × Nat)
  | 0, _, _, _ => none
  | fuel + 1, position, before?, cs =>
    match r.find? g.folds position before? cs with
    | none => none
    | some m =>
      let start := position + m.before.length
      let previous? := match m.before.getLast? with
        | some c => some c
        | none => before?
      let isWord (c? : Option Char) : Bool := (c?.map Regex.isWord).getD false
      let fits := (!g.words || (!isWord previous? && !isWord m.after.head?))
        && (!g.wholeLines || (start = 0 && m.after.isEmpty))
      if fits then some (start, m.matched.length)
      else
        match cs.drop m.before.length with
        | [] => none
        | c :: rest => matchFrom g r fuel (start + 1) (some c) rest

/-- The first match of any pattern from a position on: where it begins and how long it is. -/
def first? (g : LineSearch) (position : Nat) (before? : Option Char) (cs : List Char) : Option (Nat × Nat) :=
  g.patterns.foldl (fun best? r =>
    match best?, g.matchFrom r (cs.length + 2) position before? cs with
    | some (a, m), some (b, n) => if b < a || (b = a && m < n) then some (b, n) else some (a, m)
    | none, found => found
    | found, none => found) none

/-- Whether a line is one of those that are looked for. -/
def selects (g : LineSearch) (line : String) : Bool :=
  (g.first? 0 none line.toList).isSome ≠ g.inverted

/-- The parts of a line that match. -/
def parts (g : LineSearch) : Nat → Nat → Option Char → List Char → List String
  | 0, _, _, _ => []
  | fuel + 1, position, before?, cs =>
    match g.first? position before? cs with
    | none => []
    | some (start, n) =>
      let skipped := start - position
      let matched := (cs.drop skipped).take n
      let taken := max 1 (skipped + n)
      let rest := cs.drop taken
      let more := if cs.length < taken then [] else parts g fuel (position + taken) (cs[taken - 1]?) rest
      if n = 0 then more else String.ofList matched :: more

end LineSearch

/-- The options of a search for lines, each with its letter. -/
def searchOptions : Options :=
  ⟨"EFGPe:f:iyvwxcLlm:oqshHnbA:B:C:rRaIzTU", [("extended-regexp", 'E'), ("fixed-strings", 'F'), ("basic-regexp", 'G'),
    ("perl-regexp", 'P'), ("regexp", 'e'), ("file", 'f'), ("ignore-case", 'i'), ("invert-match", 'v'), ("word-regexp", 'w'),
    ("line-regexp", 'x'), ("count", 'c'), ("files-without-match", 'L'), ("files-with-matches", 'l'), ("max-count", 'm'),
    ("only-matching", 'o'), ("quiet", 'q'), ("silent", 'q'), ("no-messages", 's'), ("no-filename", 'h'),
    ("with-filename", 'H'), ("line-number", 'n'), ("byte-offset", 'b'), ("after-context", 'A'), ("before-context", 'B'),
    ("context", 'C'), ("recursive", 'r'), ("text", 'a')], true⟩

/-- Which lines around those that are selected are written with them, and where a gap is marked: the numbers
of lines, counted from zero, and whether each is selected. -/
def withContext (before after : Nat) (selected : List Nat) (count : Nat) : List (Nat × Bool) :=
  (List.range count).filterMap fun i =>
    if selected.contains i then some (i, true)
    else if selected.any fun s => (i < s && s ≤ i + before) || (s < i && i ≤ s + after) then some (i, false)
    else none

/-- Searches a text and writes what was asked for; how many lines were selected. -/
def searchText (p : Parsed) (g : LineSearch) (title : String) (named : Bool) (text : String) : Act Nat := do
  let ls := linesOf text
  let most := (p.value? 'm').bind digits?
  let hits := ((ls.zip (List.range ls.length)).filter fun (l, _) => g.selects l).map (·.2)
  let hits := match most with
    | some n => hits.take n
    | none => hits
  let name (separator : String) : String := if named then title ++ separator else ""
  if p.has 'q' || p.has 'l' || p.has 'L' then
    if !p.has 'q' && (hits.isEmpty = p.has 'L') then Act.print (title ++ "\n")
  else if p.has 'c' then Act.print (name ":" ++ toString hits.length ++ "\n")
  else
    let context (c : Char) : Nat := (((p.value? c).bind digits?).orElse fun _ => (p.value? 'C').bind digits?).getD 0
    let lead (separator : String) (i : Nat) : String :=
      name separator ++ if p.has 'n' then toString (i + 1) ++ separator else ""
    if p.has 'o' then
      if !g.inverted then
        Act.print (unlines (hits.flatMap fun i =>
          let l := ls[i]?.getD ""
          (g.parts (l.length + 2) 0 none l.toList).map (lead ":" i ++ ·)))
    else if context 'A' = 0 && context 'B' = 0 then
      Act.print (unlines (hits.map fun i => lead ":" i ++ ls[i]?.getD ""))
    else
      let shown := withContext (context 'B') (context 'A') hits ls.length
      let (out, _) := shown.foldl (fun (acc : List String × Option Nat) (i, hit) =>
        let gap := match acc.2 with
          | some j => if j + 1 < i then ["--"] else []
          | none => []
        ((lead (if hit then ":" else "-") i ++ ls[i]?.getD "") :: gap ++ acc.1, some i)) ([], none)
      Act.print (unlines out.reverse)
  return hits.length

/-- Whether a line of the input is selected; it is not read any further then. -/
def noticeInput (g : LineSearch) : Act Bool := do
  let step (_ : Unit) : Act (Except Unit Bool) := do
    match ← Act.readLine Act.input with
    | .error _ => return .ok false
    | .ok line =>
      if line.isEmpty then return .ok false
      let line := if line.endsWith "\n" then takeChars (line.length - 1) line else line
      return if g.selects line then .ok true else .error ()
  return (← Act.settleWithin step Act.patience ()).getD false

/-- Looks for lines. -/
def grepAs (standard : Char) : Body := fun x _ => do
  let arguments := x.arguments.filter fun a => !a.startsWith "--color" && !a.startsWith "--colour"
  let arguments := arguments.flatMap fun a =>
    match a.toList with
    | '-' :: d :: ds => if d.isDigit && (d :: ds).all Char.isDigit then ["-C", String.ofList (d :: ds)] else [a]
    | _ => [a]
  withOptions searchOptions 2 { x with arguments } fun p => do
    let t ← Act.files
    let listed := p.options.filterMap fun (c, v) =>
      if c = 'e' then some (v.splitOn "\n")
      else if c = 'f' then
        match t.read (.ofOctets v) with
        | .ok bytes => some (linesOf (Octets.ofBytes bytes))
        | .error _ => none
      else none
    let isGiven := p.has 'e' || p.has 'f'
    let missingFile? := p.options.find? fun (c, v) => c = 'f' && !(t.read (.ofOctets v)).isOk
    let wrong? := p.options.find? fun (c, v) =>
      ['A', 'B', 'C', 'm'].contains c && (digits? (if c = 'm' && v.startsWith "-" then dropChars 1 v else v)).isNone
    if let some (c, v) := wrong? then
      complain x (if c = 'm' then "invalid max count" else v ++ ": invalid context length argument")
      return 2
    match isGiven, p.operands, missingFile? with
    | _, _, some (_, name) =>
      complain x (name ++ ": No such file or directory")
      return 2
    | false, [], none =>
      Act.complain ("Usage: " ++ x.self ++ " [OPTION]... PATTERNS [FILE]...\nTry '" ++ x.self
        ++ " --help' for more information.\n")
      return 2
    | _, _, none =>
      let texts := if isGiven then listed.flatten else (p.operands.headD "").splitOn "\n"
      let names := if isGiven then p.operands else p.operands.tail
      let style := ((p.options.filter fun o => ['E', 'F', 'G', 'P'].contains o.1).getLast?.map (·.1)).getD standard
      let compiled := texts.mapM fun s =>
        if style = 'F' then some (Regex.ofText s) else Regex.read? (style = 'E' || style = 'P') s
      match compiled with
      | none =>
        complain x "Unmatched [, [^, [:, [., or [="
        return 2
      | some patterns =>
        let g : LineSearch := ⟨patterns, p.has 'i' || p.has 'y', p.has 'v', p.has 'w', p.has 'x'⟩
        let recursive := p.has 'r' || p.has 'R'
        let names := if names.isEmpty then [if recursive then "." else "-"] else names
        let expanded := if recursive then names.flatMap fun n =>
            if isDirectory t n then (allBelow t (t.entries.length + 1) n).filter (!isDirectory t ·) else [n]
          else names
        let shorten (n : String) : String :=
          if recursive && names = ["."] && p.operands.length ≤ (if isGiven then 0 else 1) then
            dropChars (if n.startsWith "./" then 2 else 0) n
          else n
        let named := (1 < names.length || recursive || p.has 'H') && !p.has 'h'
        let step (acc : Bool × Bool) (name : String) : Act (Bool × Bool) := do
          if acc.1 && p.has 'q' then return acc
          if name = "-" && p.has 'q' then
            return (acc.1 || (← noticeInput g), acc.2)
          let answer ← if name = "-" then Act.readAll Act.input else Act.readFile name
          match answer with
          | .ok text =>
            let n ← searchText p g (if name = "-" then "(standard input)" else shorten name) named text
            return (acc.1 || (if p.has 'L' then n = 0 else 0 < n), acc.2)
          | .error fault =>
            if !p.has 's' then complain x (name ++ ": " ++ fault.words)
            return (acc.1, false)
        let (found, fine) ← expanded.foldlM step (false, true)
        return if found && (fine || p.has 'q') then 0 else if !fine then 2 else 1

/-- Looks for lines that fit a basic regular expression. -/
def grep : Body := grepAs 'G'

/-- Looks for lines that fit an extended regular expression. -/
def egrep : Body := grepAs 'E'

/-- Looks for lines that hold a text. -/
def fgrep : Body := grepAs 'F'

end TierSweep.Utility
