import TierSweep.Host.Machine
import TierSweep.Utility.Reading

/-!
# Programs that start others

These programs start a program that they are given by name: with another environment, with arguments read
from the input, or for a limited time. The name is looked for as usual, and a file that names no interpreter
is carried out by a shell.
-/

namespace TierSweep.Utility

/-- Becomes the first of some programs that can be executed; why none can be is told. -/
def becomeFirst (words : List String) (environment : Environment) : FileFault → List String → Act FileFault
  | fault, [] => return fault
  | fault, path :: paths => do
    match ← Act.become path words environment with
    | .unknownFormat => Act.become "/bin/sh" ("/bin/sh" :: path :: words.tail) environment
    | .denied => becomeFirst words environment .denied paths
    | .notFound | .notDirectory => becomeFirst words environment fault paths
    | other => return other

/-- Becomes the program that the first of some words calls. Only a fault comes back. -/
def becomeNamed (words : List String) (environment : Environment) : Act FileFault := do
  let name := words.headD ""
  let directories := (environment.lookup "PATH").getD "/bin:/usr/bin"
  becomeFirst words environment .notFound
    (if name.isEmpty then [] else if name.toList.contains '/' then [name]
      else Path.candidates directories name)

/-- The code that tells why a program cannot be executed. -/
def faultCode (fault : FileFault) : Nat := if fault = .notFound then 127 else 126

/-- Becomes a program, or reports that this cannot be done. -/
def becomeOrReport (x : Executable) (shown : String → String) (words : List String)
    (environment : Environment) : Act Nat := do
  let fault ← becomeNamed words environment
  complain x (shown (words.headD "") ++ ": " ++ fault.words)
  return faultCode fault

/-- How a command is called in the report that it cannot be run. -/
def commandTitle (name : String) : String := "failed to run command " ++ quoted name

/-- Waits for a child. -/
def await (id : Nat) : Act Ending := do
  let once : Act (Option Ending) := do
    match ← Act.wait id false with
    | .ended how => return some how
    | .disturbed => return none
    | .unknown => return some (.exited 127)
  return (← Act.repeatWithin once Act.patience).getD (.exited 127)

/-- The power of ten that a number is to be multiplied by, whether it is to be divided instead, and what
follows. -/
def exponent (cs : List Char) : Nat × Bool × List Char :=
  match cs with
  | e :: rest =>
    let (negative, digits) := match rest with
      | '-' :: more => (true, more)
      | '+' :: more => (false, more)
      | more => (false, more)
    let ds := digits.takeWhile Char.isDigit
    if (e = 'e' || e = 'E') && !ds.isEmpty then
      (min 30 ((String.ofList ds).toNat?.getD 0), negative, digits.drop ds.length)
    else (0, false, cs)
  | [] => (0, false, [])

/-- A span of time: a decimal number with a unit. It may be endless. -/
def span? (s : String) : Option Duration :=
  let cs := s.toList
  let whole := cs.takeWhile Char.isDigit
  let (fraction, rest) := match cs.drop whole.length with
    | '.' :: more => (more.takeWhile Char.isDigit, more.dropWhile Char.isDigit)
    | rest => ([], rest)
  let (power, divides, rest) := exponent rest
  let unit? : Option Nat := match rest with
    | [] | ['s'] => some 1
    | ['m'] => some 60
    | ['h'] => some 3600
    | ['d'] => some 86400
    | _ => none
  if s.toLower = "infinity" || s.toLower = "inf" then some .max
  else if whole.isEmpty && fraction.isEmpty then none
  else
    let n : Nat := (whole ++ fraction).foldl (fun n c => 10 * n + (c.toNat - '0'.toNat)) 0
    let n := n * if divides then 1 else tenTo power
    unit?.map fun unit =>
      .ofNanos (n * unit * nanosPerSecond / tenTo (fraction.length + if divides then power else 0))

/-- Does nothing for some time. -/
def sleep : Body := fun x _ =>
  withOptions ⟨"", [], true⟩ 1 x fun p => do
    match p.operands with
    | [] => misuse x 1 "missing operand"
    | spans =>
      let wrong := spans.filter fun s => (span? s).isNone
      if wrong.isEmpty then
        Act.sleep (spans.foldl (fun sum s => sum.saturatingAdd ((span? s).getD .zero)) .zero)
        return 0
      else
        wrong.forM fun s => complain x ("invalid time interval " ++ quoted s)
        Act.complain ("Try '" ++ x.self ++ " --help' for more information.\n")
        return 1

/-! ## Environments -/

/-- The name and the value in an assignment. -/
def assignment? (s : String) : Option (String × String) :=
  let name := s.toList.takeWhile (· ≠ '=')
  if name.isEmpty || name.length = s.length then none
  else some (String.ofList name, dropChars (name.length + 1) s)

/-- Sets a name in an environment. -/
def setIn (environment : Environment) (p : String × String) : Environment :=
  if (environment.lookup p.1).isSome then environment.map fun q => if q.1 = p.1 then p else q
  else environment ++ [p]

/-- An environment as text. -/
def environmentText (ending : String) (environment : Environment) : String :=
  String.join (environment.map fun p => p.1 ++ "=" ++ p.2 ++ ending)

/-- The words of a line in which quotes keep words together. -/
def wordsOf : Option Char → Bool → List Char → List Char → List String
  | _, inside, word, [] => if inside then [String.ofList word.reverse] else []
  | none, inside, word, c :: cs =>
    if c = '\'' || c = '"' then wordsOf (some c) true word cs
    else if c = ' ' || c = '\t' || c = '\n' then
      if inside then String.ofList word.reverse :: wordsOf none false [] cs else wordsOf none false [] cs
    else match c, cs with
      | '\\', d :: cs => wordsOf none true (d :: word) cs
      | c, cs => wordsOf none true (c :: word) cs
  | some q, _, word, c :: cs =>
    if c = q then wordsOf none true word cs else wordsOf (some q) true (c :: word) cs

/-- Starts a program with another environment, or writes the environment. -/
def env : Body := fun x environment =>
  withOptions ⟨"iu:0C:S:v", [("ignore-environment", 'i'), ("unset", 'u'), ("null", '0'), ("chdir", 'C'),
    ("split-string", 'S'), ("debug", 'v')], false⟩ 125 x fun p => do
    let split := (p.options.filter (·.1 = 'S')).flatMap fun o => wordsOf none false [] o.2.toList
    let operands := split ++ p.operands
    let (clears, operands) := match operands with
      | "-" :: rest => (true, rest)
      | rest => (p.has 'i', rest)
    let kept := if clears then [] else environment.filter fun e =>
      !(p.options.any fun o => o.1 = 'u' && o.2 = e.1)
    let settings := (operands.takeWhile fun a => (assignment? a).isSome).filterMap assignment?
    let words := operands.drop settings.length
    let environment := settings.foldl setIn kept
    let moved ← match p.value? 'C' with
      | none => pure (.ok ())
      | some d => Act.enter d
    match moved, words with
    | .error fault, _ =>
      complain x ("cannot change directory to " ++ quoted ((p.value? 'C').getD "") ++ ": " ++ fault.words)
      return 125
    | .ok _, [] =>
      Act.print (environmentText (if p.has '0' then "\x00" else "\n") environment)
      return 0
    | .ok _, words => becomeOrReport x quoted words environment

/-- Writes values of the environment. -/
def printenv : Body := fun x environment =>
  withOptions ⟨"0", [("null", '0')], false⟩ 2 x fun p => do
    let ending := if p.has '0' then "\x00" else "\n"
    if p.operands.isEmpty then
      Act.print (environmentText ending environment)
      return 0
    else
      let found := p.operands.filterMap fun name => environment.lookup name
      Act.print (String.join (found.map (· ++ ending)))
      return if found.length = p.operands.length then 0 else 1

/-! ## Arguments from the input -/

/-- How often a program is to be started and with which of some words. -/
def batches (size : Nat) : Nat → List String → List (List String)
  | 0, _ => []
  | _, [] => []
  | fuel + 1, words => words.take size :: batches size fuel (words.drop size)

/-- A text in which another takes the place of a mark. -/
def fillIn (mark text word : String) : String :=
  if mark.isEmpty then word else text.intercalate (word.splitOn mark)

/-- Starts a program with words of the input as arguments. -/
def xargs : Body := fun x environment =>
  withOptions ⟨"0rtn:I:L:d:P:a:s:pxoE:", [("null", '0'), ("no-run-if-empty", 'r'), ("verbose", 't'), ("max-args", 'n'),
    ("replace", 'I'), ("max-lines", 'L'), ("delimiter", 'd'), ("max-procs", 'P'), ("arg-file", 'a')], false⟩ 1 x fun p => do
    let answer ← match p.value? 'a' with
      | some name => Act.readFile name
      | none => Act.readAll Act.input
    match answer with
    | .error fault =>
      complain x ("Cannot open input file " ++ quoted ((p.value? 'a').getD "-") ++ ": " ++ fault.words)
      return 1
    | .ok text =>
      let command := if p.operands.isEmpty then ["echo"] else p.operands
      let trimmed (s : String) : String :=
        String.ofList (s.toList.dropWhile fun c => c = ' ' || c = '\t')
      let items :=
        if p.has '0' then separated "\x00" text
        else match p.value? 'd' with
          | some d =>
            let (d, _) := Format.unescape Format.formatEscapes d
            separated d text
          | none =>
            if p.has 'I' then (linesOf text).filterMap fun l =>
              let l := trimmed l
              if l.isEmpty then none else some l
            else if p.has 'L' then (linesOf text).filter fun l => !(wordsOf none false [] l.toList).isEmpty
            else wordsOf none false [] text.toList
      let count := ((p.value? 'n').bind digits?).getD ((p.value? 'L').bind digits? |>.getD (items.length + 1))
      let calls := match p.value? 'I' with
        | some mark => items.map fun i => command.map (fillIn mark i)
        | none =>
          let groups := batches (max 1 count) (items.length + 1) items
          let groups := if p.has 'L' && !p.has 'n' then
            groups.map fun (g : List String) => g.flatMap fun (l : String) => wordsOf none false [] l.toList
            else groups
          if groups.isEmpty then (if p.has 'r' then [] else [command])
          else groups.map (command ++ ·)
      let step (acc : Nat × Bool) (words : List String) : Act (Nat × Bool) := do
        if acc.2 then return acc
        if p.has 't' then Act.complain (" ".intercalate words ++ "\n")
        let child ← Act.fork do
          match ← Act.openFile "/dev/null" .read with
          | .ok d =>
            let _ ← Act.copy d Act.input
            Act.close d
          | .error _ => pure ()
          becomeOrReport x id words environment
        match ← await child with
        | .exited 0 => return acc
        | .exited 255 =>
          complain x (words.headD "" ++ ": exited with status 255; aborting")
          return (124, true)
        | .exited 126 => return (126, true)
        | .exited 127 => return (127, true)
        | .exited _ => return (123, false)
        | .killed s =>
          complain x (words.headD "" ++ ": terminated by signal " ++ toString s.number)
          return (125, true)
      let (code, _) ← calls.foldlM step (0, false)
      return code
where
  /-- The items that a separator ends. -/
  separated (separator text : String) : List String :=
    let parts := text.splitOn separator
    if parts.getLast? = some "" then parts.dropLast else parts

/-! ## Limits -/

/-- The signal that a name or a number calls. -/
def signalOf? (s : String) : Option Signal :=
  match digits? s with
  | some n => if n ≤ Signal.last then some ⟨n⟩ else none
  | none =>
    let name := s.toUpper
    Signal.ofName? (if name.startsWith "SIG" then dropChars 3 name else name)

/-- Starts a program and ends it when its time is over. -/
def timeout : Body := fun x environment =>
  withOptions ⟨"k:s:vfp", [("kill-after", 'k'), ("signal", 's'), ("verbose", 'v'), ("foreground", 'f'),
    ("preserve-status", 'p')], false⟩ 125 x fun p => do
    match p.operands with
    | [] => misuse x 125 "missing operand"
    | [_] => misuse x 125 "missing operand"
    | limit :: words =>
      match span? limit, (p.value? 's').map signalOf?, (p.value? 'k').map span? with
      | none, _, _ => misuse x 125 ("invalid time interval " ++ quoted limit)
      | _, some none, _ => misuse x 125 (quoted ((p.value? 's').getD "") ++ ": invalid signal")
      | _, _, some none => misuse x 125 ("invalid time interval " ++ quoted ((p.value? 'k').getD ""))
      | some limit, signal?, after? =>
        let signal := (signal?.getD none).getD .terminate
        if !p.has 'f' then Act.lead
        let child ← Act.fork (becomeOrReport x commandTitle words environment)
        if limit.nanos = 0 then return (← await child).status
        let timer (time : Duration) : Act Nat := do
          let (_, self) ← Act.identify
          Act.sleep time
          let _ ← Act.signal self alarm
          return 0
        Act.react alarm .note
        Act.react .terminate .note
        let clock ← Act.fork (timer limit)
        let strike (s : Signal) : Act Unit := do
          let _ ← Act.signal child s
          if !p.has 'f' then
            Act.react s .ignore
            let _ ← Act.signal 0 s
            Act.react s .note
        let rec watch : Nat → List (Signal × Option Duration) → Bool → Act (Ending × Bool)
          | 0, _, late => return (.exited 125, late)
          | fuel + 1, plan, late => do
            match ← Act.wait child true with
            | .ended how => return (how, late)
            | .unknown => return (.exited 125, late)
            | .disturbed =>
              let noted ← Act.pause
              match plan with
              | (s, next?) :: rest =>
                let s := if noted.contains alarm then s else (noted.head?).getD s
                strike s
                if s ≠ .kill then
                  let _ ← Act.signal child .resume
                match next? with
                | some time => do
                  let _ ← Act.fork (timer time)
                | none => pure ()
                watch fuel rest true
              | [] => watch fuel [] late
        let plan := (signal, after?.getD none) :: match after?.getD none with
          | some _ => [(.kill, none)]
          | none => []
        let (how, late) ← watch Act.patience plan false
        let _ ← Act.signal clock .kill
        match how with
        | .killed s =>
          if !late then
            let (self, _) ← Act.identify
            Act.react s .usual
            let _ ← Act.signal self s
          return if late && s ≠ .kill && !p.has 'p' then 124 else 128 + s.number
        | .exited code => return if late && !p.has 'p' then 124 else code
where
  /-- The signal by which the time is known to be over. -/
  alarm : Signal := ⟨14⟩

/-- Starts a program that a hangup does not end. -/
def nohup : Body := fun x environment =>
  withOptions ⟨"", [], false⟩ 125 x fun p => do
    if p.operands.isEmpty then misuse x 125 "missing operand"
    else
      Act.react ⟨1⟩ .ignore
      becomeOrReport x commandTitle p.operands environment

/-- Starts a program with another priority, which makes no difference. -/
def nice : Body := fun x environment =>
  let modern := match x.arguments with
    | a :: rest =>
      match a.toList with
      | '-' :: d :: ds => if d.isDigit || (d = '-' && (ds.head?.map Char.isDigit).getD false) then
          "-n" :: String.ofList (d :: ds) :: rest else x.arguments
      | _ => x.arguments
    | [] => []
  withOptions ⟨"n:", [("adjustment", 'n')], false⟩ 125 { x with arguments := modern } fun p => do
    let adjustment := ((p.value? 'n').getD "0").toList
    let digits := match adjustment with
      | '-' :: ds | '+' :: ds => ds
      | ds => ds
    if digits.isEmpty || !digits.all Char.isDigit then
      complain x ("invalid adjustment " ++ quoted (String.ofList adjustment))
      return 125
    else if p.operands.isEmpty then
      if p.has 'n' then misuse x 125 "a command must be given with an adjustment"
      else
        Act.print "0\n"
        return 0
    else becomeOrReport x quoted p.operands environment

/-- Starts a program whose output is not held back, which it never is. -/
def stdbuf : Body := fun x environment =>
  withOptions ⟨"i:o:e:", [("input", 'i'), ("output", 'o'), ("error", 'e')], false⟩ 125 x fun p => do
    if p.operands.isEmpty then misuse x 125 "missing operand"
    else if p.options.isEmpty then misuse x 125 "you must specify a buffering mode option"
    else becomeOrReport x commandTitle p.operands environment

/-- Starts a program in a group of its own. -/
def setsid : Body := fun x environment =>
  withOptions ⟨"cfw", [("ctty", 'c'), ("fork", 'f'), ("wait", 'w')], false⟩ 1 x fun p => do
    if p.operands.isEmpty then misuse x 1 "no command specified"
    else
      let begin : Act Nat := do
        Act.lead
        becomeOrReport x id p.operands environment
      if p.has 'f' then
        let child ← Act.fork begin
        if p.has 'w' then return (← await child).status
        return 0
      else begin

end TierSweep.Utility
