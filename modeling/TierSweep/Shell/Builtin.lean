import TierSweep.FileTree.Mode
import TierSweep.Shell.CommandReader
import TierSweep.Shell.Redirection
import TierSweep.Utility.Condition
import TierSweep.Utility.Format

/-!
# Builtins

Commands that a shell carries out itself because they concern its own state, or because they are used
often. Each is given its arguments and comes back with a code.
-/

namespace TierSweep.Shell.Builtin

/-- What a builtin does with its arguments. -/
abbrev Body := List String → Run Nat

/-- Takes options off the front of some arguments. In `allowed`, a colon follows the letter of an option
that has an argument of its own. -/
def takeOptions (allowed : List Char) : Nat → List String → Run (List (Char × String) × List String)
  | 0, as => return ([], as)
  | _ + 1, [] => return ([], [])
  | fuel + 1, a :: rest =>
    match a.toList with
    | ['-', '-'] => return ([], rest)
    | '-' :: c :: cs => do
      if c = ':' || !allowed.contains c then Run.fail ("Illegal option -" ++ String.singleton c)
      let behind := (allowed.dropWhile (· ≠ c)).drop 1
      if behind.head? = some ':' then
        match cs, rest with
        | [], [] => Run.fail ("No arg for -" ++ String.singleton c ++ " option")
        | [], value :: rest =>
          let (os, as) ← takeOptions allowed fuel rest
          return ((c, value) :: os, as)
        | cs, rest =>
          let (os, as) ← takeOptions allowed fuel rest
          return ((c, String.ofList cs) :: os, as)
      else
        let more := if cs.isEmpty then rest else String.ofList ('-' :: cs) :: rest
        let (os, as) ← takeOptions allowed fuel more
        return ((c, "") :: os, as)
    | _ => return ([], a :: rest)

/-- The options and the other arguments of a builtin. -/
def options (allowed : String) (as : List String) : Run (List (Char × String) × List String) :=
  let size := as.foldl (fun n a => n + a.length + 1) 1
  takeOptions allowed.toList size as

/-- A text in quotes. A quote in it is put in quotes of the other kind. -/
def inQuotes (s : String) : String :=
  let parts := s.splitOn "'"
  "'" ++ "'\"'\"'".intercalate parts ++ "'"

/-- A name and the value assigned to it. -/
def splitAssignment (s : String) : String × Option String :=
  let cs := s.toList
  let name := cs.takeWhile (· ≠ '=')
  if name.length = cs.length then (s, none)
  else (String.ofList name, some (String.ofList (cs.drop (name.length + 1))))

/-! ## Output and conditions -/

/-- Writes its arguments. -/
def echo : Body := fun as => do
  let (ends, words) := match as with
    | "-n" :: rest => (false, rest)
    | _ => (true, as)
  let (text, isCut) := Format.unescape Format.argumentEscapes (" ".intercalate words)
  Run.print (text ++ if ends && !isCut then "\n" else "")

/-- Writes its arguments by a format. -/
def printf : Body := fun as => do
  let (_, as) ← options "" as
  match as with
  | [] => Run.fail "usage: printf format [arg ...]"
  | format :: as =>
    let p := Format.write Format.formatEscapes Format.argumentEscapes format as
    let code ← Run.print p.text
    p.complaints.forM Run.report
    let isInvalid := p.complaints.any (·.endsWith ": invalid directive")
    return if isInvalid then 2 else if p.failed then 1 else code

/-- The dialect of conditions in a shell. -/
def dialect : Condition.Dialect := ⟨["=="], "Illegal number: "⟩

/-- Whether a condition holds. -/
def test (closed : Bool) : Body := fun as => do
  if closed && as.getLast? ≠ some "]" then Run.fail "missing ]"
  let words := if closed then as.dropLast else as
  let t ← Run.ask Act.files
  match Condition.holds dialect t words with
  | .ok b => return if b then 0 else 1
  | .error fault => Run.fail fault

/-! ## Directories -/

/-- A path without names that do not move. -/
def normalized (path : String) : String :=
  let names := (path.splitOn "/").foldl (fun names n =>
    if n.isEmpty || n = "." then names else if n = ".." then names.drop 1 else n :: names) []
  "/" ++ "/".intercalate names.reverse

/-- The working directory. -/
def workingDirectory : Run String := do
  match (← get).value? "PWD" with
  | some p => return p
  | none => return Octets.ofBytes (Path.slash :: Path.unsegments (← Run.ask Act.files).working)

/-- Changes the working directory. -/
def cd : Body := fun as => do
  let (os, as) ← options "LP" as
  let before ← workingDirectory
  let s ← get
  let (target, shows) := match as.head? with
    | none => ((s.value? "HOME").getD "", false)
    | some "-" => ((s.value? "OLDPWD").getD "", true)
    | some d => (d, false)
  if target.isEmpty then
    if shows then Run.print (before ++ "\n") else return 0
  else
    let path := if target.startsWith "/" then target else before ++ "/" ++ target
    let isPhysical := (os.getLast?.map (·.1)) = some 'P'
    match ← Run.ask (Act.enter (if isPhysical then path else normalized path)) with
    | .error _ => Run.fail ("can't cd to " ++ target)
    | .ok _ =>
      let after ← if isPhysical then do
          pure (Octets.ofBytes (Path.slash :: Path.unsegments (← Run.ask Act.files).working))
        else pure (normalized path)
      Run.assign "OLDPWD" before
      Run.assign "PWD" after
      if shows then Run.print (after ++ "\n") else return 0

/-- Writes the working directory. -/
def pwd : Body := fun as => do
  let (os, _) ← options "LP" as
  let t ← Run.ask Act.files
  if os.any (·.1 = 'P') then
    Run.print (Octets.ofBytes (Path.slash :: Path.unsegments t.working) ++ "\n")
  else Run.print ((← workingDirectory) ++ "\n")

/-! ## Parameters and options -/

/-- Drops arguments of the script. -/
def shift : Body := fun as => do
  let n ← match as.head? with
    | some a => Run.number a
    | none => pure 1
  let s ← get
  if s.arguments.length < n then Run.fail "can't shift that many"
  set { s with arguments := s.arguments.drop n }
  return 0

/-- The options that have names. -/
def optionNames : List (String × Char) :=
  [("errexit", 'e'), ("noglob", 'f'), ("ignoreeof", 'I'), ("interactive", 'i'), ("monitor", 'm'),
    ("noexec", 'n'), ("stdin", 's'), ("xtrace", 'x'), ("verbose", 'v'), ("vi", 'V'), ("emacs", 'E'),
    ("noclobber", 'C'), ("allexport", 'a'), ("notify", 'b'), ("nounset", 'u'), ("nolog", 'L'),
    ("debug", 'D')]

/-- Sets an option or takes it back. -/
def setOption (on : Bool) (c : Char) : Run Unit :=
  modify fun s =>
    let others := s.options.filter (· ≠ c)
    { s with options := if on then c :: others else others }

/-- The option of a letter. -/
def letterOption (on : Bool) (c : Char) : Run Unit := do
  if !(optionNames.any (·.2 = c)) || c = 'L' || c = 'D' then
    Run.fail ("Illegal option -" ++ String.singleton c)
  setOption on c

/-- The option of a name. -/
def namedOption (on : Bool) (name : String) : Run Unit := do
  match optionNames.lookup name with
  | some c => setOption on c
  | none => Run.fail ("Illegal option " ++ (if on then "-" else "+") ++ "o " ++ name)

/-- Writes which options are set. -/
def showOptions (reusable : Bool) : Run Nat := do
  let s ← get
  let lines := optionNames.map fun (name, c) =>
    if reusable then "set " ++ (if s.has c then "-" else "+") ++ "o " ++ name ++ "\n"
    else Format.padded 15 true ' ' name ++ " " ++ (if s.has c then "on" else "off") ++ "\n"
  Run.print ((if reusable then "" else "Current option settings\n") ++ String.join lines)

/-- Takes settings of options off the front of some arguments. What comes back tells whether they were
ended by a sign for it, and whether the settings are to be written. -/
def takeSettings : Nat → List String → Run (List String × Bool × Option Bool)
  | 0, as => return (as, false, none)
  | _ + 1, [] => return ([], false, none)
  | fuel + 1, a :: rest => do
    match a.toList with
    | ['-', '-'] => return (rest, true, none)
    | ['-'] =>
      setOption false 'x'
      setOption false 'v'
      return (rest, !rest.isEmpty, none)
    | ['+'] => return (a :: rest, false, none)
    | sign :: letters =>
      if sign ≠ '-' && sign ≠ '+' then return (a :: rest, false, none)
      let on := sign = '-'
      (letters.filter (· ≠ 'o')).forM (letterOption on)
      if letters.contains 'o' then
        match rest with
        | [] => return ([], false, some (!on))
        | name :: rest =>
          namedOption on name
          takeSettings fuel rest
      else takeSettings fuel rest
    | [] => return (a :: rest, false, none)

/-- Sets options and arguments, or writes the parameters. -/
def setCommand : Body := fun as => do
  if as.isEmpty then
    let vs := (← get).parameters.filterMap fun p => p.2.value?.map (p.1, ·)
    let sorted := vs.mergeSort fun a b => decide (a.1 ≤ b.1)
    Run.print (String.join (sorted.map fun p => p.1 ++ "=" ++ inQuotes p.2 ++ "\n"))
  else
    let (rest, ended, shows?) ← takeSettings (as.length + 1) as
    if ended || !rest.isEmpty then modify fun s => { s with arguments := rest }
    match shows? with
    | some reusable => showOptions reusable
    | none => return 0

/-- Takes away parameters or functions. -/
def unset : Body := fun as => do
  let (os, names) ← options "vf" as
  let ofFunctions := (os.getLast?.map (·.1)) = some 'f'
  names.forM fun n => do
    if ofFunctions then modify fun s => { s with functions := s.functions.filter (·.1 ≠ n) }
    else if !isName n then Run.fail (n ++ ": bad variable name")
    else Run.unassign n
  return 0

/-- Marks parameters. -/
def mark (word : String) (isMarked : Parameter → Bool) (f : Parameter → Parameter) : Body := fun as => do
  let (os, names) ← options "p" as
  if names.isEmpty || os.any (·.1 = 'p') then
    let vs := (← get).parameters.filter fun p => isMarked p.2
    let sorted := vs.mergeSort fun a b => decide (a.1 ≤ b.1)
    Run.print (String.join (sorted.map fun p =>
      word ++ " " ++ p.1 ++ (match p.2.value? with
        | some v => "=" ++ inQuotes v
        | none => "") ++ "\n"))
  else
    names.forM fun n => do
      let (name, value?) := splitAssignment n
      if !isName name then Run.fail (name ++ ": bad variable name")
      match value? with
      | some v => Run.assign name v
      | none => pure ()
      modify fun s => s.put name (f ((s.lookup? name).getD ⟨none, false, false⟩))
    return 0

/-- Makes parameters local to a function. -/
def local_ : Body := fun as => do
  match (← get).saved with
  | [] => Run.fail "not in a function"
  | _ =>
    as.forM fun a => do
      let (name, value?) := splitAssignment a
      if name = "-" then return
      if !isName name then Run.fail (name ++ ": bad variable name")
      modify fun s =>
        match s.saved with
        | [] => s
        | frame :: frames =>
          if (frame.lookup name).isSome then s
          else { s with saved := ((name, s.lookup? name) :: frame) :: frames }
      match value? with
      | some v => Run.assign name v
      | none => pure ()
    return 0

/-- Cuts a line into at most so many fields; the last takes what is left. -/
def splitLine (separators : List Char) : Nat → List Glob.Mark → List String
  | 0, _ => []
  | n + 1, ms =>
    let separates (m : Glob.Mark) : Bool := !m.2 && separators.contains m.1
    let white (m : Glob.Mark) : Bool := separates m && (m.1 = ' ' || m.1 = '\t' || m.1 = '\n')
    let ms := ms.dropWhile white
    let field := ms.takeWhile fun m => !separates m
    let rest := (ms.drop field.length).dropWhile white
    let rest := match rest with
      | m :: more => if separates m && !white m then more.dropWhile white else rest
      | [] => []
    if n = 0 then
      if rest.isEmpty then [fieldText field] else [fieldText (ms.reverse.dropWhile white).reverse]
    else fieldText field :: splitLine separators n rest

/-- Reads a line, which a backslash at its end continues, at most so many lines. -/
def readMarks (raw : Bool) : Nat → Run (List Glob.Mark × Bool)
  | 0 => return ([], false)
  | fuel + 1 => do
    match ← Run.ask (Act.readLine Act.input) with
    | .error _ => return ([], false)
    | .ok line =>
      let cs := line.toList
      let ended := cs.getLast? = some '\n'
      let body := if ended then cs.dropLast else cs
      if raw then return (body.map (·, false), ended)
      else
        let ms := Glob.marksOfChars body
        if ended && ms.getLast? = some ('\\', false) then
          let (more, ended) ← readMarks raw fuel
          return (ms.dropLast ++ more, ended)
        else return (ms, ended)

/-- Reads a line into parameters. -/
def read : Body := fun as => do
  let (os, names) ← options "rp:" as
  if names.isEmpty then Run.fail "arg count"
  match os.lookup 'p' with
  | some prompt => Run.ask (Act.complain prompt)
  | none => pure ()
  let (ms, ended) ← readMarks (os.any (·.1 = 'r')) 1000
  let s ← get
  let fields := splitLine s.separators names.length ms
  (names.zip (fields ++ List.replicate names.length "")).forM fun (name, v) => do
    if !isName name then Run.fail (name ++ ": bad variable name")
    Run.assign name v
  return if ended then 0 else 1

/-- Takes the next option off some arguments and puts it into parameters. -/
def getopts : Body := fun as => do
  match as with
  | allowed :: name :: given =>
    let s ← get
    let words := if given.isEmpty then s.arguments else given
    let index := ((s.value? "OPTIND").bind String.toNat?).getD 1
    let quiet := allowed.startsWith ":"
    let letters := if quiet then allowed.toList.drop 1 else allowed.toList
    let finish (index offset code : Nat) (value : String) : Run Nat := do
      Run.assign "OPTIND" (toString index)
      modify fun s => { s with optionOffset := offset }
      Run.assign name value
      return code
    let current := if index ≤ 1 then [] else ((words[index - 2]?.getD "").toList).drop s.optionOffset
    let continues := 0 < s.optionOffset && !current.isEmpty && 1 < index
    let begun : Option (List Char × Nat) :=
      if continues then some (current, index)
      else match words[index - 1]? with
        | some w =>
          match w.toList with
          | '-' :: c :: cs => if c = '-' && cs.isEmpty then none else some (c :: cs, index + 1)
          | _ => none
        | none => none
    match begun with
    | none =>
      let isEnd := !continues && words[index - 1]? = some "--"
      finish (if isEnd then index + 1 else index) 0 1 "?"
    | some ([], index) => finish index 0 1 "?"
    | some (c :: rest, index) =>
      let length := ((words[index - 2]?.getD "").toList).length
      let offset := if rest.isEmpty then 0 else length - rest.length
      if c = ':' || !letters.contains c then
        if quiet then Run.assign "OPTARG" (String.singleton c)
        else
          Run.ask (Act.complain ("Illegal option -" ++ String.singleton c ++ "\n"))
          Run.unassign "OPTARG"
        finish index offset 0 "?"
      else if ((letters.dropWhile (· ≠ c)).drop 1).head? = some ':' then
        if !rest.isEmpty then
          Run.assign "OPTARG" (String.ofList rest)
          finish index 0 0 (String.singleton c)
        else match words[index - 1]? with
          | some value =>
            Run.assign "OPTARG" value
            finish (index + 1) 0 0 (String.singleton c)
          | none =>
            if quiet then
              Run.assign "OPTARG" (String.singleton c)
              finish index 0 0 ":"
            else
              Run.ask (Act.complain ("No arg for -" ++ String.singleton c ++ " option\n"))
              Run.unassign "OPTARG"
              finish index 0 0 "?"
      else
        Run.assign "OPTARG" ""
        finish index offset 0 (String.singleton c)
  | _ => Run.fail "Usage: getopts optstring var [arg]"

/-! ## Names of commands -/

/-- The path of a program that is looked for by name, if there is one that can be executed. -/
def programPath? (t : FileTree) (directories name : String) : Option String :=
  (Path.candidates directories name).find? fun p =>
    match t.find (.ofOctets p) with
    | .ok (_, e) => e.isExecutable
    | .error _ => false

/-- The directories in which programs are looked for. -/
def directories (s : State) : String := (s.value? "PATH").getD ""

/-- The directories in which programs are looked for if nothing else is said. -/
def standardDirectories : String := ":".intercalate Machine.searchPath

/-- The builtins that are not special. -/
def regularBuiltins : List String :=
  ["alias", "bg", "cd", "chdir", "command", "echo", "false", "fg", "getopts", "hash", "jobs", "kill",
    "printf", "pwd", "read", "test", "[", "true", "type", "ulimit", "umask", "unalias", "wait"]

/-- Whether a shell carries out a command itself. -/
def isBuiltin (name : String) : Bool :=
  specialBuiltins.contains name || regularBuiltins.contains name

/-- What a name means, in words or in short. -/
def meaning (verbose : Bool) (path name : String) : Run (Option String) := do
  let s ← get
  let words (long short : String) : Option String := some (if verbose then name ++ long else short)
  if reservedWords.contains name then return words " is a shell keyword" name
  match s.aliases.lookup name with
  | some text => return words (" is an alias for " ++ text) ("alias " ++ name ++ "=" ++ inQuotes text)
  | none =>
    if specialBuiltins.contains name then return words " is a special shell builtin" name
    else if (s.functions.lookup name).isSome then return words " is a shell function" name
    else if regularBuiltins.contains name then return words " is a shell builtin" name
    else
      let t ← Run.ask Act.files
      if name.toList.contains '/' then
        match t.find (.ofOctets name) with
        | .ok _ => return words (" is " ++ name) name
        | .error _ => return none
      else match programPath? t path name with
        | some p => return words (" is " ++ p) p
        | none => return none

/-- Writes what names mean. -/
def typeOf : Body := fun names => do
  let path := directories (← get)
  let codes ← names.mapM fun n => do
    match ← meaning true path n with
    | some text => Run.print (text ++ "\n")
    | none =>
      let _ ← Run.print (n ++ ": not found\n")
      return 127
  return codes.foldl (fun a b => if a = 0 then b else a) 0

/-- Looks for programs. -/
def hash : Body := fun as => do
  let (_, names) ← options "rv" as
  let t ← Run.ask Act.files
  let s ← get
  let codes ← names.mapM fun n => do
    if isBuiltin n || (s.functions.lookup n).isSome || n.toList.contains '/'
        || (programPath? t (directories s) n).isSome then
      return 0
    else
      Run.report (n ++ ": not found")
      return 1
  return codes.foldl max 0

/-- Defines or writes aliases. -/
def aliasText : Body := fun as => do
  let line (p : String × String) : String := p.1 ++ "=" ++ inQuotes p.2 ++ "\n"
  if as.isEmpty then Run.print (String.join ((← get).aliases.map line))
  else
    let codes ← as.mapM fun a => do
      match splitAssignment a with
      | (name, some text) =>
        modify fun s => { s with aliases := State.putEntry name text s.aliases }
        return 0
      | (name, none) =>
        match (← get).aliases.lookup name with
        | some text => Run.print (line (name, text))
        | none =>
          Run.ask (Act.complain ("alias: " ++ name ++ " not found\n"))
          return 1
    return codes.foldl max 0

/-- Takes aliases away. -/
def unalias : Body := fun as => do
  let (os, names) ← options "a" as
  if os.any (·.1 = 'a') then modify fun s => { s with aliases := [] }
  let codes ← names.mapM fun n => do
    if ((← get).aliases.lookup n).isSome then
      modify fun s => { s with aliases := s.aliases.filter (·.1 ≠ n) }
      return 0
    else
      Run.ask (Act.complain ("unalias: " ++ n ++ " not found\n"))
      return 1
  return codes.foldl max 0

/-! ## Signals and processes -/

/-- The signal of a name or number. Number zero is allowed. -/
def signal? (s : String) : Option Signal :=
  if !s.isEmpty && s.toList.all Char.isDigit then
    match s.toNat? with
    | some n => if n ≤ Signal.last then some ⟨n⟩ else none
    | none => none
  else if s.toUpper = "EXIT" then some ⟨0⟩
  else Signal.ofName? s.toUpper

/-- The number of a process that is called by its number or as a job. -/
def target? (s : State) (a : String) : Option Int :=
  match a.toList with
  | '%' :: ds =>
    match (String.ofList ds).toNat? with
    | some n => (s.jobs[n - 1]?).map fun j => (j.id : Int)
    | none => s.lastJob?.map fun (id : Nat) => (id : Int)
  | '-' :: ds => (String.ofList ds).toNat?.map fun n => -(n : Int)
  | _ => a.toNat?.map fun n => (n : Int)

/-- Sends signals. -/
def kill : Body := fun as => do
  let usage {α : Type} : Run α :=
    Run.fail ("Usage: kill [-s sigspec | -signum | -sigspec] [pid | job]... or\n"
      ++ "kill -l [exitstatus]")
  let sendTo (sig : Signal) (targets : List String) : Run Nat := do
    if targets.isEmpty then usage
    let s ← get
    let codes ← targets.mapM fun a => do
      match target? s a with
      | none => Run.fail ("Illegal number: " ++ a)
      | some id =>
        if ← Run.ask (Act.signal id sig) then return 0
        else
          Run.report "No such process\n"
          return 1
    return codes.foldl max 0
  match as with
  | [] => usage
  | "-l" :: [] =>
    Run.print (String.join (("0" :: Signal.names).map (· ++ "\n")))
  | "-l" :: n :: _ =>
    let n ← Run.number n
    match (Signal.mk (if 128 < n then n - 128 else n)).name? with
    | some name => Run.print (name ++ "\n")
    | none => Run.fail ("Illegal number: " ++ toString n)
  | "-s" :: [] => Run.fail "No arg for -s option"
  | "-s" :: name :: rest =>
    match signal? name with
    | some sig => sendTo sig (if rest.head? = some "--" then rest.drop 1 else rest)
    | none => Run.fail ("invalid signal number or name: " ++ name)
  | "--" :: rest => sendTo .terminate rest
  | a :: rest =>
    match a.toList with
    | '-' :: c :: cs =>
      match signal? (String.ofList (c :: cs)) with
      | some sig => sendTo sig (if rest.head? = some "--" then rest.drop 1 else rest)
      | none => Run.fail ("Illegal option -" ++ String.singleton c)
    | _ => sendTo .terminate as

/-- The words for the end of a process by a signal, if it is told at all. -/
def deathNotice? (s : Signal) : Option String :=
  match s.number with
  | 1 => some "Hangup"
  | 3 => some "Quit"
  | 4 => some "Illegal instruction"
  | 5 => some "Trace/breakpoint trap"
  | 6 => some "Aborted"
  | 7 => some "Bus error"
  | 8 => some "Floating point exception"
  | 9 => some "Killed"
  | 10 => some "User defined signal 1"
  | 11 => some "Segmentation fault"
  | 12 => some "User defined signal 2"
  | 14 => some "Alarm clock"
  | 15 => some "Terminated"
  | _ => none

/-- Waits for processes, one after another, and gives the code of the last. It is given up when a signal
is noted. -/
def awaitAll (hurried : Bool) : List Nat → Nat → Run (Option Nat)
  | [], code => return some code
  | id :: rest, _ => do
    match ← Run.ask (Act.wait id hurried) with
    | .ended how =>
      match how with
      | .killed sig =>
        match if rest.isEmpty then deathNotice? sig else none with
        | some words => Run.ask (Act.complain (words ++ "\n"))
        | none => pure ()
      | .exited _ => pure ()
      awaitAll hurried rest how.status
    | .disturbed => return none
    | .unknown => awaitAll hurried rest 127

/-- Waits for a job and remembers its code. -/
def awaitJob (j : Job) : Run (Option Nat) := do
  match j.code? with
  | some code => return some code
  | none =>
    match ← awaitAll true j.processes 0 with
    | none => return none
    | some code =>
      modify fun s =>
        { s with jobs := s.jobs.map fun k => if k.id = j.id then { k with code? := some code } else k }
      return some code

/-- Learns which signals were noted. -/
def takeNoted : Run (List Signal) := do
  let noted ← Run.ask Act.pause
  if !noted.isEmpty then modify fun s => { s with pending := s.pending ++ noted }
  return (← get).pending

/-- The code of a builtin that was disturbed by the first of the signals that were noted. -/
def disturbedCode : Run Nat := do
  return 128 + ((← takeNoted).head?.map (·.number)).getD 0

/-- Waits for jobs one after another. -/
def awaitJobs : List Job → Run (Option Unit)
  | [] => return some ()
  | j :: rest => do
    match ← awaitJob j with
    | none => return none
    | some _ => awaitJobs rest

/-- Waits for jobs. -/
def wait : Body := fun as => do
  match as with
  | [] =>
    match ← awaitJobs (← get).jobs with
    | none => disturbedCode
    | some _ =>
      modify fun s => { s with jobs := [] }
      return 0
  | as =>
    let codes ← as.mapM fun a => do
      let s ← get
      match target? s a with
      | none => Run.fail ("Illegal number: " ++ a)
      | some id =>
        match s.jobs.find? fun j => j.processes.contains id.toNat with
        | none => return 127
        | some j =>
          match ← awaitJob j with
          | none => disturbedCode
          | some code => return code
    return codes.getLast?.getD 0

/-- Sets what is done on signals, or writes it. -/
def trap : Body := fun as => do
  let (_, as) ← options "" as
  let s ← get
  match as with
  | [] =>
    let sorted := s.traps.mergeSort fun a b => decide (a.1 ≤ b.1)
    Run.print (String.join (sorted.map fun p =>
      "trap -- " ++ inQuotes p.2 ++ " " ++ (if p.1 = 0 then "EXIT"
        else ((Signal.mk p.1).name?.getD (toString p.1))) ++ "\n"))
  | first :: rest =>
    let isReset := rest.isEmpty || (!first.isEmpty && first.toList.all Char.isDigit)
    let (action?, names) :=
      if isReset then (none, as) else if first = "-" then (none, rest) else (some first, rest)
    setEach action? names
where
  /-- Sets what is done on each of some signals, up to the first that is none. -/
  setEach (action? : Option String) : List String → Run Nat
    | [] => return 0
    | name :: rest => do
      match signal? name with
      | none =>
        Run.ask (Act.complain ("trap: " ++ name ++ ": bad trap\n"))
        return 1
      | some sig =>
        modify fun s =>
          let others := s.traps.filter (·.1 ≠ sig.number)
          { s with traps := match action? with
              | some action => (sig.number, action) :: others
              | none => others }
        if sig.number ≠ 0 then
          Run.ask (Act.react sig (match action? with
            | none => .usual
            | some action => if action.isEmpty then .ignore else .note))
        setEach action? rest

/-! ## Others -/

/-- Sets or writes which rights are withheld from new files. -/
def umask : Body := fun as => do
  let (os, rest) ← options "S" as
  let mask := (← get).mask
  match rest with
  | [] =>
    if os.isEmpty then Run.print (Format.padded 4 false '0' (Format.digitsOf 8 mask false) ++ "\n")
    else Run.print (Mode.letters (Mode.without 0o777 mask) ++ "\n")
  | text :: _ =>
    let isNumber := (text.toList.head?.map Char.isDigit).getD false
    match Mode.change? 0 text with
    | none => Run.fail ((if isNumber then "Illegal number: " else "Illegal mode: ") ++ text)
    | some change =>
      let mask := if isNumber then change false 0 &&& 0o777
        else Mode.without 0o777 (change false (Mode.without 0o777 mask))
      modify fun s => { s with mask }
      return 0

/-- Sets or writes limits. -/
def ulimit : Body := fun as => do
  let (_, rest) ← options "HSatfdsmcnpvlwr" as
  if rest.isEmpty then Run.print "unlimited\n" else return 0

/-- Writes the times used. -/
def times : Body := fun _ => Run.print "0m0.000000s 0m0.000000s\n0m0.000000s 0m0.000000s\n"

/-- What a builtin does that needs nothing but the state of the shell. -/
def body? (name : String) : Option Body :=
  match name with
  | ":" | "true" => some fun _ => pure 0
  | "false" => some fun _ => pure 1
  | "echo" => some echo
  | "printf" => some printf
  | "test" => some (test false)
  | "[" => some (test true)
  | "cd" | "chdir" => some cd
  | "pwd" => some pwd
  | "shift" => some shift
  | "set" => some setCommand
  | "unset" => some unset
  | "export" => some (mark "export" Parameter.exported fun v => { v with exported := true })
  | "readonly" => some (mark "readonly" Parameter.fixed fun v => { v with fixed := true })
  | "local" => some local_
  | "read" => some read
  | "getopts" => some getopts
  | "type" => some typeOf
  | "hash" => some hash
  | "alias" => some aliasText
  | "unalias" => some unalias
  | "kill" => some kill
  | "wait" => some wait
  | "trap" => some trap
  | "umask" => some umask
  | "ulimit" => some ulimit
  | "times" => some times
  | "jobs" => some fun _ => pure 0
  | "bg" | "fg" => some fun _ => Run.fail "No current job"
  | _ => none

end TierSweep.Shell.Builtin
