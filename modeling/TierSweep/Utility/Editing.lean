import TierSweep.Text.Regex
import TierSweep.Utility.Files

/-!
# Editing lines as they pass

A script is a list of commands, each of which may be limited to some lines. For every line of the input
the commands are carried out one after another on the line and on a second text that is kept between
lines; then the line is written.
-/

namespace TierSweep.Utility

namespace Edit

/-- An expression, or the one that was used last. -/
structure Pattern where
  regex? : Option Regex
  folds : Bool

/-- Which lines a command begins or ends with. -/
inductive Address where
  | line (n : Nat)
  | last
  | fits (p : Pattern)
  /-- Every so many lines from one on. -/
  | every (first step : Nat)
  /-- So many lines after the first. -/
  | further (n : Nat)

/-- How letters are changed. -/
inductive Case where
  | keep
  | upper
  | lower

/-- A part of what is put in the place of a match. -/
inductive Insert where
  | text (s : String)
  | group (n : Nat)
  /-- Changes letters from here on. -/
  | case (c : Case)
  /-- Changes the next letter only. -/
  | next (c : Case)

/-- A substitution. -/
structure Substitution where
  pattern : Pattern
  parts : List Insert
  every : Bool
  /-- The number of the first match that is replaced. -/
  first : Nat
  prints : Bool
  target? : Option String

/-- What a command does. -/
inductive Deed where
  /-- Begins commands that are passed over up to an index when the address does not apply. -/
  | block (after : Nat)
  | nothing
  | append (text : String)
  | insert (text : String)
  | change (text : String)
  | jump (label : String)
  | jumpIf (changed : Bool) (label : String)
  | delete
  | deleteFirst
  | get (adds : Bool)
  | hold (adds : Bool)
  | exchange
  | show_
  | next (adds : Bool)
  | print
  | printFirst
  | quit (prints : Bool) (code : Nat)
  | readFile (name : String)
  | writeFile (name : String)
  | substitute (s : Substitution)
  | transliterate (pairs : List (Char × Char))
  | number
  | label (name : String)

/-- A command with the lines that it is limited to. -/
structure Command where
  first? : Option Address
  second? : Option Address
  negated : Bool
  deed : Deed

/-! ## Reading scripts -/

/-- The deed of a command that is read, and the rest of the script, or what is wrong with it. -/
abbrev Reading := Except String (Deed × List Char)

/-- Reads up to a delimiter; a backslash before it or a newline is resolved, and one before anything else
is kept. -/
def readUpTo (regex : Bool) (delimiter : Char) : Nat → List Char → Option (List Char × List Char)
  | 0, _ => none
  | _ + 1, [] => none
  | fuel + 1, '\\' :: c :: cs =>
    let kept := if c = delimiter then (if regex && c ≠ '/' && c.isAlphanum then ['\\', c] else [c])
      else if c = 'n' then ['\n'] else ['\\', c]
    (readUpTo regex delimiter fuel cs).map fun (more, rest) => (kept ++ more, rest)
  | fuel + 1, c :: cs =>
    if c = delimiter then some ([], cs)
    else if c = '[' && regex then
      let (head, tail) := match cs with
        | '^' :: ']' :: more => (['^', ']'], more)
        | ']' :: more => ([']'], more)
        | more => ([], more)
      let body := tail.takeWhile (· ≠ ']')
      let closes := body.length < tail.length
      let list := if closes then c :: head ++ body ++ [']'] else [c]
      let behind := if closes then tail.drop (body.length + 1) else cs
      (readUpTo regex delimiter fuel behind).map fun (more, rest) => (list ++ more, rest)
    else (readUpTo regex delimiter fuel cs).map fun (more, rest) => (c :: more, rest)

/-- The expression that a text writes. -/
def pattern (extended folds : Bool) (cs : List Char) : Except String Pattern :=
  if cs.isEmpty then .ok ⟨none, folds⟩
  else match Regex.read? extended (String.ofList cs) with
    | some r => .ok ⟨some r, folds⟩
    | none => .error "unterminated address regex"

/-- Reads a number. -/
def readNumber (cs : List Char) : Nat × List Char :=
  let ds := cs.takeWhile Char.isDigit
  ((String.ofList ds).toNat?.getD 0, cs.drop ds.length)

/-- Passes over blanks. -/
def blanks (cs : List Char) : List Char := cs.dropWhile fun c => c = ' ' || c = '\t'

/-- Reads an address if there is one. -/
def readAddress (extended : Bool) (cs : List Char) : Except String (Option Address × List Char) :=
  match cs with
  | '$' :: rest => .ok (some .last, rest)
  | '+' :: rest =>
    let (n, rest) := readNumber rest
    .ok (some (.further n), rest)
  | '/' :: rest => expression '/' rest
  | '\\' :: d :: rest => expression d rest
  | c :: _ =>
    if c.isDigit then
      let (n, rest) := readNumber cs
      match rest with
      | '~' :: rest =>
        let (step, rest) := readNumber rest
        .ok (some (.every n step), rest)
      | rest => .ok (some (.line n), rest)
    else .ok (none, cs)
  | [] => .ok (none, [])
where
  /-- An expression up to a delimiter. -/
  expression (d : Char) (cs : List Char) : Except String (Option Address × List Char) :=
    match readUpTo true d (cs.length + 1) cs with
    | none => .error "unterminated address regex"
    | some (text, rest) => do
      let folds := rest.head? = some 'I'
      let p ← pattern extended folds text
      pure (some (.fits p), if folds then rest.drop 1 else rest)

/-- The parts of what is put in the place of a match. -/
def insertsWithin : Nat → List Char → List Insert
  | 0, _ => []
  | _ + 1, [] => []
  | fuel + 1, '&' :: cs => .group 0 :: insertsWithin fuel cs
  | fuel + 1, '\\' :: c :: cs =>
    if c.isDigit then .group (c.toNat - '0'.toNat) :: insertsWithin fuel cs
    else
      let part : Insert := match c with
        | 'U' => .case .upper
        | 'L' => .case .lower
        | 'E' => .case .keep
        | 'u' => .next .upper
        | 'l' => .next .lower
        | c => .text (String.singleton ((Format.named? c).getD c))
      part :: insertsWithin fuel cs
  | fuel + 1, c :: cs => .text (String.singleton c) :: insertsWithin fuel cs

/-- Reads the text of a command that adds lines. -/
def readText (cs : List Char) : String × List Char :=
  let cs := blanks cs
  let cs := match cs with
    | '\\' :: rest =>
      match blanks rest with
      | '\n' :: more => more
      | _ => rest
    | cs => cs
  let (text, rest) := go (cs.length + 1) cs
  (String.ofList text ++ "\n", rest)
where
  /-- The text up to a newline that no backslash quotes. -/
  go : Nat → List Char → List Char × List Char
    | 0, cs => ([], cs)
    | _ + 1, [] => ([], [])
    | _ + 1, '\n' :: cs => ([], cs)
    | fuel + 1, '\\' :: c :: cs =>
      let (more, rest) := go fuel cs
      (c :: more, rest)
    | fuel + 1, c :: cs =>
      let (more, rest) := go fuel cs
      (c :: more, rest)

/-- Reads the rest of a line. -/
def readLine (cs : List Char) : String × List Char :=
  let text := cs.takeWhile (· ≠ '\n')
  (String.ofList (blanks text), cs.drop (text.length + 1))

/-- Reads a label. -/
def readLabel (cs : List Char) : String × List Char :=
  let cs := blanks cs
  let name := cs.takeWhile fun c => c ≠ '\n' && c ≠ ';' && c ≠ '}'
  (String.ofList ((name.reverse.dropWhile fun c => c = ' ' || c = '\t').reverse), cs.drop name.length)

/-- Reads a substitution behind its letter. -/
def readSubstitution (extended : Bool) (cs : List Char) : Except String (Deed × List Char) :=
  match cs with
  | [] => .error "unterminated 's' command"
  | d :: rest =>
    match readUpTo true d (rest.length + 1) rest with
    | none => .error "unterminated 's' command"
    | some (text, rest) =>
      match replacement d (rest.length + 1) rest with
      | none => .error "unterminated 's' command"
      | some (by_, rest) => do
        let flags := rest.takeWhile fun c => c.isDigit || ['g', 'p', 'i', 'I', 'm', 'M', 'e'].contains c
        let rest := rest.drop flags.length
        let folds := flags.contains 'i' || flags.contains 'I'
        let p ← pattern extended folds text
        let (target?, rest) := match rest with
          | 'w' :: more =>
            let (name, rest) := readLine more
            (some name, '\n' :: rest)
          | rest => (none, rest)
        let first := (String.ofList (flags.filter Char.isDigit)).toNat?.getD 1
        pure (.substitute ⟨p, insertsWithin (by_.length + 1) by_, flags.contains 'g', first, flags.contains 'p', target?⟩, rest)
where
  /-- The text that is put in the place of a match. -/
  replacement (d : Char) : Nat → List Char → Option (List Char × List Char)
    | 0, _ => none
    | _ + 1, [] => none
    | fuel + 1, '\\' :: c :: cs =>
      (replacement d fuel cs).map fun (more, rest) =>
        ((if c = d && c ≠ '&' then [c] else if c = '\n' then ['\n'] else ['\\', c]) ++ more, rest)
    | fuel + 1, c :: cs =>
      if c = d then some ([], cs) else (replacement d fuel cs).map fun (more, rest) => (c :: more, rest)

/-- Reads what a command does. -/
def readDeed (extended : Bool) (cs : List Char) : Reading :=
  match cs with
  | [] => .error "missing command"
  | c :: rest =>
    match c with
    | '{' => .ok (.block 0, rest)
    | '}' => .ok (.nothing, rest)
    | 'a' => texted .append rest
    | 'i' => texted .insert rest
    | 'c' => texted .change rest
    | 'b' => labelled .jump rest
    | 't' => labelled (.jumpIf true) rest
    | 'T' => labelled (.jumpIf false) rest
    | ':' => labelled .label rest
    | 'd' => .ok (.delete, rest)
    | 'D' => .ok (.deleteFirst, rest)
    | 'g' => .ok (.get false, rest)
    | 'G' => .ok (.get true, rest)
    | 'h' => .ok (.hold false, rest)
    | 'H' => .ok (.hold true, rest)
    | 'x' => .ok (.exchange, rest)
    | 'l' => .ok (.show_, rest)
    | 'n' => .ok (.next false, rest)
    | 'N' => .ok (.next true, rest)
    | 'p' => .ok (.print, rest)
    | 'P' => .ok (.printFirst, rest)
    | 'q' => coded true rest
    | 'Q' => coded false rest
    | 'r' => named .readFile rest
    | 'w' => named .writeFile rest
    | '=' => .ok (.number, rest)
    | 's' => readSubstitution extended rest
    | 'y' =>
      match rest with
      | [] => .error "unterminated 'y' command"
      | d :: rest =>
        let step (cs : List Char) : Option (List Char × List Char) := readUpTo false d (cs.length + 1) cs
        match step rest with
        | none => .error "unterminated 'y' command"
        | some (a, rest) =>
          match step rest with
          | none => .error "unterminated 'y' command"
          | some (b, rest) =>
            if (single a).length = (single b).length then .ok (.transliterate ((single a).zip (single b)), rest)
            else .error "strings for 'y' command are different lengths"
    | c => .error ("unknown command: '" ++ String.singleton c ++ "'")
where
  /-- A command with a text. -/
  texted (f : String → Deed) (cs : List Char) : Reading :=
    if (blanks cs).isEmpty then .error "expected \\ after 'a', 'c' or 'i'"
    else
      let (text, rest) := readText cs
      .ok (f text, '\n' :: rest)
  /-- A command with a label. -/
  labelled (f : String → Deed) (cs : List Char) : Reading :=
    let (name, rest) := readLabel cs
    .ok (f name, rest)
  /-- A command with a file. -/
  named (f : String → Deed) (cs : List Char) : Reading :=
    let (name, rest) := readLine cs
    if name.isEmpty then .error "missing filename in r/R/w/W commands" else .ok (f name, '\n' :: rest)
  /-- A command with a code. -/
  coded (prints : Bool) (cs : List Char) : Reading :=
    let (n, rest) := readNumber (blanks cs)
    .ok (.quit prints n, rest)
  /-- Characters with the notations resolved. -/
  single : List Char → List Char
    | '\\' :: c :: cs => (Format.named? c).getD c :: single cs
    | c :: cs => c :: single cs
    | [] => []

/-- Reads commands, at most so many. The indices at which blocks begin that are not closed are kept, the
last one first. -/
def readCommands (extended : Bool) : Nat → List Nat → List Command → List Char → Except String (List Command)
  | 0, _, _, _ => .error "the script is too long"
  | fuel + 1, blocks, before, cs =>
    match cs.dropWhile fun c => c = ' ' || c = '\t' || c = '\n' || c = ';' with
    | [] => if blocks.isEmpty then .ok before.reverse else .error "unmatched '\x7b'"
    | '#' :: rest => readCommands extended fuel blocks before (rest.dropWhile (· ≠ '\n'))
    | cs => do
      let (first?, rest) ← readAddress extended cs
      let (second?, rest) ← match first?, blanks rest with
        | some _, ',' :: more => do
          let (a?, rest) ← readAddress extended (blanks more)
          if a?.isNone then throw "unexpected ','"
          pure (a?, rest)
        | _, _ => pure (none, rest)
      let rest := blanks rest
      let negated := rest.head? = some '!'
      let rest := rest.dropWhile fun c => c = '!' || c = ' '
      let (deed, rest) ← readDeed extended rest
      let closing := cs.head? = some '}'
      let command : Command := ⟨first?, second?, negated, deed⟩
      let opens := match deed with
        | .block _ => true
        | _ => false
      if opens then readCommands extended fuel (before.length :: blocks) (command :: before) rest
      else
        let rest ← terminated rest
        if !closing then readCommands extended fuel blocks (command :: before) rest
        else match blocks with
          | [] => throw "unexpected '\x7d'"
          | b :: blocks =>
            let index := before.length
            let before := ((before.reverse.zip (List.range index)).map fun (c, i) =>
              if i = b then { c with deed := .block index } else c).reverse
            readCommands extended fuel blocks (command :: before) rest
where
  /-- Checks that nothing else follows a command on its line. -/
  terminated (cs : List Char) : Except String (List Char) :=
    match blanks cs with
    | [] => .ok []
    | c :: rest =>
      if c = ';' || c = '\n' || c = '}' || c = '#' then .ok (c :: rest)
      else .error "extra characters after command"

/-! ## Carrying out scripts -/

/-- What is known while a script is carried out. -/
structure Progress where
  line : String
  /-- Whether the line ends with a newline. -/
  ended : Bool
  held : String
  number : Nat
  /-- Lines that were read ahead, with whether they end with a newline. -/
  ahead : List (String × Bool)
  /-- The files that are still to be read. -/
  sources : List String
  /-- Whether the input is being read. -/
  reading : Bool
  /-- What has been written. -/
  written : List String
  /-- What is written behind the line. -/
  behind : List String
  /-- For each command with two addresses, the number of the line where it began to apply, if it does, and
  that of the last line, if it is known. -/
  active : List (Nat × Nat × Option Nat)
  changed : Bool
  lastPattern? : Option Pattern
  /-- The files that were written to. -/
  files : List (String × String)
  /-- The code for files that could not be read. -/
  worst : Nat

/-- How a round through the commands ends. -/
inductive Outcome where
  /-- The line is written, unless that is switched off. -/
  | done
  /-- Nothing is written. -/
  | dropped
  /-- The commands begin again without another line. -/
  | again
  | quit (prints : Bool) (code : Nat)

/-- What does not change while a script is carried out. -/
structure Setting where
  commands : Array Command
  quiet : Bool
  complainer : Executable

/-- Makes sure that a line is read ahead if there is any left. -/
def look (x : Executable) : Nat → Progress → Act Progress
  | 0, p => return p
  | fuel + 1, p => do
    if 0 < p.ahead.length then return p
    if p.reading then
      match ← Act.readLine Act.input with
      | .ok text =>
        if text.isEmpty then look x fuel { p with reading := false }
        else if text.endsWith "\n" then return { p with ahead := [(takeChars (text.length - 1) text, true)] }
        else return { p with ahead := [(text, false)] }
      | .error _ => look x fuel { p with reading := false }
    else match p.sources with
      | [] => return p
      | "-" :: rest => look x fuel { p with sources := rest, reading := true }
      | name :: rest =>
        match ← Act.readFile name with
        | .ok text =>
          let whole := text.endsWith "\n" || text.isEmpty
          let ls := linesOf text
          let ahead := (ls.zip (List.range ls.length)).map fun (l, i) => (l, whole || i + 1 < ls.length)
          look x fuel { p with sources := rest, ahead }
        | .error fault =>
          if fault = .isDirectory then complain x ("read error on " ++ name ++ ": " ++ fault.words)
          else complain x ("can't read " ++ name ++ ": " ++ fault.words)
          look x fuel { p with sources := rest, worst := max p.worst (if fault = .isDirectory then 4 else 2) }

/-- Whether the line is the last one. -/
def isLast (p : Progress) : Bool := p.ahead.isEmpty

/-- Takes the next line if there is one. -/
def take (x : Executable) (p : Progress) : Act (Option (String × Progress)) := do
  match p.ahead with
  | [] => return none
  | (l, ended) :: rest =>
    let p ← look x (p.sources.length + 3) { p with ahead := rest }
    return some (l, { p with ended, number := p.number + 1 })

/-- Writes a text. -/
def Progress.write (p : Progress) (text : String) : Progress := { p with written := text :: p.written }

/-- Writes a line. -/
def Progress.writeLine (p : Progress) (l : String) : Progress :=
  p.write (l ++ if p.ended then "\n" else "")

/-- Writes what is to be written behind the line. -/
def flushBehind (p : Progress) : Progress :=
  let p := if !p.ended && !p.behind.isEmpty then p.write "\n" else p
  { p with written := p.behind.reverse ++ p.written, behind := [] }

/-- Hands what has been written to the output. -/
def flush (p : Progress) : Act Progress := do
  Act.print (String.join p.written.reverse)
  return { p with written := [] }

/-- The first match of an expression in a line, and what is known then. -/
def matched (p : Progress) (q : Pattern) (position : Nat) (before? : Option Char) (cs : List Char) :
    Option Regex.Match × Progress :=
  let used := match q.regex? with
    | some _ => some q
    | none => p.lastPattern?
  match used with
  | none => (none, p)
  | some u =>
    ((u.regex?.bind fun r => r.find? (u.folds || q.folds) position before? cs), { p with lastPattern? := some u })

/-- Whether an address is that of the line. -/
def isAt (p : Progress) : Address → Bool × Progress
  | .line n => (p.number = n, p)
  | .last => (isLast p, p)
  | .every first step =>
    (if step = 0 then p.number = first else first ≤ p.number && (p.number - first) % step = 0, p)
  | .further _ => (false, p)
  | .fits q =>
    let (m?, p) := matched p q 0 none p.line.toList
    (m?.isSome, p)

/-- Whether a command applies to the line. -/
def applies (index : Nat) (c : Command) (p : Progress) : Bool × Progress :=
  let (b, p) : Bool × Progress := match c.first?, c.second? with
    | none, _ => (true, p)
    | some a, none => isAt p a
    | some a, some z =>
      match p.active.lookup index with
      | some (_, last?) =>
        let leave (p : Progress) : Progress := { p with active := p.active.filter (·.1 ≠ index) }
        match last? with
        | some n => if p.number < n then (true, p) else if p.number = n then (true, leave p) else leaveOr a z (leave p)
        | none =>
          let (ends, p) := isAt p z
          (true, if ends then leave p else p)
      | none => leaveOr a z p
  (b ≠ c.negated, p)
where
  /-- Begins to apply if the first address is that of the line. -/
  leaveOr (a z : Address) (p : Progress) : Bool × Progress :=
    let (begins, p) : Bool × Progress := match a with
      | .line 0 => (p.number = 1, p)
      | a => isAt p a
    if !begins then (false, p)
    else
      let enter (last? : Option Nat) : Progress := { p with active := (index, p.number, last?) :: p.active }
      match a, z with
      | _, .line n => (true, if n ≤ p.number then p else enter (some n))
      | _, .further n => (true, if n = 0 then p else enter (some (p.number + n)))
      | .line 0, z =>
        let (ends, p) := isAt p z
        (true, if ends then p else enter none)
      | _, .last => (true, if isLast p then p else enter none)
      | _, _ => (true, enter none)

/-- A text with its letters changed. -/
def inCase (c : Case) (s : String) : String :=
  match c with
  | .keep => s
  | .upper => s.toUpper
  | .lower => s.toLower

/-- What is put in the place of a match. -/
def inserted (m : Regex.Match) (parts : List Insert) : String :=
  let (out, _, _) := parts.foldl (fun (acc : List String × Case × Option Case) part =>
    let (out, case, next?) := acc
    let add (s : String) : List String × Case × Option Case :=
      if s.isEmpty then acc
      else
        let s := inCase case s
        match next? with
        | some c => ((inCase c (takeChars 1 s) ++ dropChars 1 s) :: out, case, none)
        | none => (s :: out, case, none)
    match part with
    | .text s => add s
    | .group 0 => add (String.ofList m.matched)
    | .group n => add (String.ofList ((m.groups.lookup n).getD []))
    | .case c => (out, c, none)
    | .next c => (out, case, some c)) ([], .keep, none)
  String.join out.reverse

/-- Replaces matches in the rest of a line. -/
def replace (s : Substitution) : Nat → Nat → Nat → Option Char → List Char → List String → Bool → Progress →
    List String × Bool × Progress
  | 0, _, _, _, cs, out, changed, p => (String.ofList cs :: out, changed, p)
  | fuel + 1, count, position, before?, cs, out, changed, p =>
    match matched p s.pattern position before? cs with
    | (none, p) => (String.ofList cs :: out, changed, p)
    | (some m, p) =>
      let out := String.ofList m.before :: out
      let replaces := s.first ≤ count
      let out := (if replaces then inserted m s.parts else String.ofList m.matched) :: out
      let changed := changed || replaces
      if replaces && !s.every then (String.ofList m.after :: out, changed, p)
      else
        let passed := m.before ++ m.matched
        let position := position + passed.length
        if m.matched.isEmpty then
          match m.after with
          | [] => (out, changed, p)
          | c :: rest =>
            replace s fuel (count + 1) (position + 1) (some c) rest (String.singleton c :: out) changed p
        else
          match m.after with
          | [] => (out, changed, p)
          | after =>
            -- an empty match right behind another match does not count
            match matched p s.pattern position m.matched.getLast? after with
            | (some e, p) =>
              if e.before.isEmpty && e.matched.isEmpty then
                match after with
                | c :: rest =>
                  replace s fuel (count + 1) (position + 1) (some c) rest (String.singleton c :: out) changed p
                | [] => (out, changed, p)
              else replace s fuel (count + 1) position m.matched.getLast? after out changed p
            | (none, p) => (String.ofList after :: out, changed, p)

/-- A line as it is shown when every character is to be seen. -/
def shown (l : String) : String :=
  String.join (l.toList.map fun c =>
    match c with
    | '\\' => "\\\\"
    | '\n' => "\\n"
    | '\t' => "\\t"
    | '\r' => "\\r"
    | '\x07' => "\\a"
    | '\x08' => "\\b"
    | '\x0c' => "\\f"
    | '\x0b' => "\\v"
    | c => if 32 ≤ c.toNat && c.toNat < 127 then String.singleton c
        else "\\" ++ Format.padded 3 false '0' (Format.digitsOf 8 c.toNat false)) ++ "$"

/-- Appends a text to what is to be written to a file. -/
def Progress.toFile (p : Progress) (name text : String) : Progress :=
  match p.files.lookup name with
  | some old => { p with files := p.files.map fun e => if e.1 = name then (name, old ++ text) else e }
  | none => { p with files := p.files ++ [(name, text)] }

/-- The index behind a label, or the end of the script. -/
def indexOf (g : Setting) (label : String) : Nat :=
  if label.isEmpty then g.commands.size
  else ((g.commands.toList.findIdx? fun c => match c.deed with
    | .label name => name = label
    | _ => false).map (· + 1)).getD g.commands.size

/-- Carries out commands from an index on, at most so many. -/
def execute (g : Setting) : Nat → Nat → Progress → Act (Outcome × Progress)
  | 0, _, p => return (.done, p)
  | fuel + 1, index, p => do
    match g.commands[index]? with
    | none => return (.done, p)
    | some c =>
      let (b, p) := applies index c p
      let go (p : Progress) : Act (Outcome × Progress) := execute g fuel (index + 1) p
      match b, c.deed with
      | false, .block after => execute g fuel (after + 1) p
      | false, _ => go p
      | true, deed =>
        match deed with
        | .block _ | .nothing | .label _ => go p
        | .append text => go { p with behind := p.behind ++ [text] }
        | .insert text => go (p.write text)
        | .change text =>
          let inRange := (p.active.lookup index).isSome && !c.negated
          return (.dropped, if inRange then p else p.write text)
        | .jump label => execute g fuel (indexOf g label) p
        | .jumpIf changed label =>
          if p.changed = changed then execute g fuel (indexOf g label) { p with changed := false }
          else go { p with changed := false }
        | .delete => return (.dropped, p)
        | .deleteFirst =>
          match p.line.splitOn "\n" with
          | _ :: l :: ls => return (.again, { p with line := "\n".intercalate (l :: ls) })
          | _ => return (.dropped, p)
        | .get adds => go { p with line := if adds then p.line ++ "\n" ++ p.held else p.held }
        | .hold adds => go { p with held := if adds then p.held ++ "\n" ++ p.line else p.line }
        | .exchange => go { p with line := p.held, held := p.line }
        | .show_ => go (p.write (shown p.line ++ "\n"))
        | .number => go (p.write (toString p.number ++ "\n"))
        | .print => go (p.write (p.line ++ "\n"))
        | .printFirst => go (p.write ((p.line.splitOn "\n").headD "" ++ "\n"))
        | .quit prints code => return (.quit prints code, p)
        | .readFile name =>
          match ← Act.readFile name with
          | .ok text => go { p with behind := p.behind ++ [text] }
          | .error _ => go p
        | .writeFile name =>
          if name = "/dev/stdout" then go (p.write (p.line ++ "\n"))
          else go (p.toFile name (p.line ++ "\n"))
        | .transliterate pairs =>
          go { p with line := String.ofList (p.line.toList.map fun c => (pairs.lookup c).getD c) }
        | .substitute s =>
          let cs := p.line.toList
          let (out, changed, p) := replace s (cs.length + 2) 1 0 none cs [] false p
          if !changed then go p
          else
            let p := { p with line := String.join out.reverse, changed := true }
            let p := if s.prints then p.write (p.line ++ "\n") else p
            let p := match s.target? with
              | some "/dev/stdout" => p.write (p.line ++ "\n")
              | some name => p.toFile name (p.line ++ "\n")
              | none => p
            go p
        | .next adds =>
          let p := if adds || g.quiet then p else p.writeLine p.line
          let p := flushBehind p
          match ← take g.complainer p with
          | none => return (.quit adds 0, if adds then p else { p with line := "" })
          | some (l, p) => go { p with line := if adds then p.line ++ "\n" ++ l else l }

/-- How many commands may be carried out for one line. -/
def maxCommands : Nat := 10000000

/-- Carries out a script on all lines; the code with which it ends. -/
def run (g : Setting) (holdsBack : Bool) : Nat → Bool → Progress → Act (Nat × Progress)
  | 0, _, p => return (0, p)
  | fuel + 1, keeps, p => do
    let taken ← if keeps then pure (some (p.line, p)) else take g.complainer p
    match taken with
    | none => return (0, p)
    | some (l, p) =>
      let (outcome, p) ← execute g maxCommands 0 { p with line := l, changed := keeps && p.changed }
      let writes (p : Progress) : Progress := flushBehind (if g.quiet then p else p.writeLine p.line)
      let pass (p : Progress) : Act Progress := if holdsBack then pure p else flush p
      match outcome with
      | .done =>
        let p ← pass (writes p)
        run g holdsBack fuel false p
      | .dropped =>
        let p ← pass (flushBehind p)
        run g holdsBack fuel false p
      | .again =>
        let p ← pass (flushBehind p)
        run g holdsBack fuel true p
      | .quit prints code =>
        let p ← pass (if prints then writes p else p)
        return (code, p)

/-- What is known before the first line is read. -/
def begin_ (sources : List String) : Progress :=
  { line := "", ended := true, held := "", number := 0, ahead := [], sources, reading := false, written := [],
    behind := [], active := [], changed := false, lastPattern? := none, files := [], worst := 0 }

end Edit

/-- Edits lines by a script. -/
def sed : Body := fun x _ => do
  let (inPlace, arguments) := x.arguments.partition fun a =>
    a = "--in-place" || a.startsWith "--in-place=" || (a.startsWith "-i" && !a.startsWith "-ie")
  let suffix := match inPlace.getLast? with
    | some a => if a.startsWith "--in-place=" then dropChars 11 a else if a.startsWith "-i" then dropChars 2 a else ""
    | none => ""
  let quietPlace := arguments.any fun a => a.startsWith "-ni" || a.startsWith "-Ei"
  withOptions ⟨"ne:f:Erisuzl:", [("quiet", 'n'), ("silent", 'n'), ("expression", 'e'), ("file", 'f'), ("regexp-extended", 'E'),
    ("separate", 's'), ("unbuffered", 'u'), ("null-data", 'z')], true⟩ 1 { x with arguments } fun p => do
    let t ← Act.files
    let isGiven := p.has 'e' || p.has 'f'
    let pieces := p.options.filterMap fun (c, v) =>
      if c = 'e' then some v
      else if c = 'f' then (t.read (.ofOctets v)).toOption.map Octets.ofBytes
      else none
    let missingScript? := p.options.find? fun (c, v) => c = 'f' && !(t.read (.ofOctets v)).isOk
    if let some (_, name) := missingScript? then
      complain x ("couldn't open file " ++ name ++ ": No such file or directory")
      return 4
    match isGiven, p.operands with
    | false, [] =>
      Act.complain ("Usage: " ++ x.self ++ " [OPTION]... \x7bscript-only-if-no-other-script\x7d [input-file]...\n")
      return 1
    | _, _ =>
      let script := if isGiven then "\n".intercalate pieces else p.operands.headD ""
      let names := if isGiven then p.operands else p.operands.tail
      let cs := script.toList
      let (quiet, cs) := match cs with
        | '#' :: 'n' :: '\n' :: rest => (true, rest)
        | cs => (p.has 'n', cs)
      match Edit.readCommands (p.has 'E' || p.has 'r') (cs.length + 2) [] [] cs with
      | .error fault =>
        complain x ("-e expression #1, char " ++ toString cs.length ++ ": " ++ fault)
        return 1
      | .ok commands =>
        let labels := commands.filterMap fun c => match c.deed with
          | .label name => some name
          | _ => none
        let missing? := commands.findSome? fun c => match c.deed with
          | .jump l | .jumpIf _ l => if l.isEmpty || labels.contains l then none else some l
          | _ => none
        let g : Edit.Setting := ⟨commands.toArray, quiet, x⟩
        let save (files : List (String × String)) : Act Unit := files.forM fun (name, text) => do
          match ← Act.openFile name .write with
          | .ok d =>
            let _ ← Act.write d text
            Act.close d
          | .error fault => complain x ("couldn't open file " ++ name ++ ": " ++ fault.words)
        let begin_ (sources : List String) : Act Edit.Progress :=
          Edit.look x (sources.length + 3) (Edit.begin_ sources)
        match missing? with
        | some l =>
          complain x ("can't find label for jump to '" ++ l ++ "'")
          return 4
        | none =>
          if inPlace.isEmpty && !p.has 'i' && !quietPlace then
            let q ← begin_ (if names.isEmpty then ["-"] else names)
            let (code, q) ← Edit.run g false Act.patience false q
            save q.files
            return if code = 0 then q.worst else code
          else
            names.foldlM (fun worst name => do
              let q ← begin_ [name]
              if 0 < q.worst then return 4
              let (code, q) ← Edit.run g true Act.patience false q
              if !suffix.isEmpty then
                let old := (t.read (.ofOctets name)).toOption.getD []
                save [(name ++ suffix, Octets.ofBytes old)]
              let rest := String.join (q.ahead.map fun (l, ended) => l ++ if ended then "\n" else "")
              save (q.files ++ [(name, String.join q.written.reverse ++ rest)])
              return max worst code) 0

end TierSweep.Utility
