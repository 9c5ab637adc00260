import TierSweep.Shell.Builtin

/-!
# Carrying out commands

Commands are carried out by recursion on how deep they may be nested; loops and functions count as
nesting only while they last. A command that is the last thing a shell does may take the place of the
shell instead of being waited for.
-/

namespace TierSweep.Shell

/-- What is known about a command when it is carried out. -/
structure Setting where
  /-- Whether something looks at its code, so that a failure does not end the shell. -/
  tested : Bool
  /-- Whether the shell ends with it. -/
  last : Bool

namespace Setting

/-- The setting of a command of which nothing is known. -/
def plain : Setting := ⟨false, false⟩

/-- The setting of a command that comes before others. -/
def before (g : Setting) : Setting := { g with last := false }

end Setting

/-- Carries out commands. -/
abbrev Evaluator := Setting → Command → Run Unit

namespace Evaluation

/-- Goes on at most so many times. -/
def repeatWithin (step : Run Bool) : Nat → Run Unit
  | 0 => return
  | fuel + 1 => do
    if ← step then repeatWithin step fuel

/-- Ends a shell that calls itself too deep. -/
def overflow : Run Unit := do
  let _ ← Run.ask (Act.signal (← get).shell .segmentation)
  Run.exit (128 + Signal.segmentation.number)

/-- Carries out a script line by line, at most so many lines. -/
def runLines (self : Evaluator) (g : Setting) : Nat → Source → Run Unit
  | 0, _ => return
  | fuel + 1, source => do
    let s ← get
    match CommandReader.readLine.run { source with aliases := s.aliases } with
    | .error fault =>
      modify fun s => { s with line := fault.line }
      Run.fail fault.text
    | .ok (none, _) => return
    | .ok (some c, source) =>
      if s.has 'n' then runLines self g fuel source
      else
        let isLast := match source.ahead? with
          | some .finish => true
          | _ => false
        self { g with last := g.last && isLast } c
        runLines self g fuel source

/-- Carries out a text as a script. -/
def runText (self : Evaluator) (g : Setting) (text : String) : Run Unit := do
  runLines self g (text.length + 2) (.ofText text 1 [])

/-- Does what is to be done on a signal. The code of the last command stays what it was. -/
def handle (self : Evaluator) (sig : Signal) : Run Unit := do
  let s ← get
  match s.traps.lookup sig.number with
  | none => return
  | some action =>
    runText self .plain action
    Run.setStatus s.status

/-- Does what is to be done on the signals that were noted. -/
def poll (self : Evaluator) : Run Unit := do
  let noted ← Builtin.takeNoted
  if noted.isEmpty then return
  modify fun s => { s with pending := [] }
  noted.forM (handle self)

/-- Ends the shell if its last command failed and that is to end it. -/
def checked (g : Setting) : Run Unit := do
  let s ← get
  if s.status ≠ 0 && s.has 'e' && !g.tested then throw .exits

/-- What is done at the end of a shell. -/
def farewell (self : Evaluator) : Run Unit := do
  let s ← get
  match s.traps.lookup 0 with
  | none => return
  | some action =>
    set { s with traps := s.traps.filter (·.1 ≠ 0), options := s.options.filter (· ≠ 'e'), builtin? := none }
    match ← Run.attempt (runText self .plain action) with
    | .error .exits | .error .fails => return
    | _ => Run.setStatus s.status

/-- What a process does that is a shell: its work and its end. -/
def toAct (self : Evaluator) (work : Run Unit) (s : State) : Act Nat := do
  let whole : Run Unit := do
    let _ ← Run.attempt work
    let _ ← Run.attempt (farewell self)
  let (_, s) ← whole.run.run s
  return s.status

/-- Takes back what was to be done on signals, except to ignore them. -/
def resetTraps : Run Unit := do
  let s ← get
  (s.traps.filter fun p => p.1 ≠ 0 && !p.2.isEmpty).forM fun p =>
    Run.ask (Act.react ⟨p.1⟩ .usual)
  set { s with traps := s.traps.filter fun p => p.1 ≠ 0 && p.2.isEmpty }

/-- Starts a process that is a copy of the shell. -/
def fork (self : Evaluator) (work : Run Unit) : Run Nat := do
  let s ← get
  Run.ask (Act.fork (toAct self (do resetTraps; work) { s with jobs := [], pending := [] }))

/-- Waits for processes and takes over the code of the last. -/
def await (ids : List Nat) : Run Unit := do
  Run.setStatus ((← Builtin.awaitAll false ids 0).getD 0)

/-- What a command writes. -/
def capture (self : Evaluator) (c : Command) : Run String := do
  let (reading, writing) ← Run.ask Act.pipe
  let id ← fork self do
    Run.ask (Act.close reading)
    Rerouting.moveTo writing Act.output
    self ⟨false, true⟩ c
  Run.ask (Act.close writing)
  let text ← Run.ask (Act.readAll reading)
  Run.ask (Act.close reading)
  let code := (← Builtin.awaitAll false [id] 0).getD 0
  modify fun s => { s with expansionStatus := code }
  return text.toOption.getD ""

/-- The redirections of a command, expanded. -/
def reroutings (self : Evaluator) (rs : List Redirection) : Run (List Rerouting) :=
  rs.mapM (Rerouting.ofRedirection (capture self))

/-- Does something while redirections are in effect. If one of them fails, the code is two. -/
def within (self : Evaluator) (rs : List Redirection) (work : Run Unit) : Run Unit := do
  if rs.isEmpty then work
  else
    let rs ← reroutings self rs
    let (kept, fine) ← Rerouting.performAll rs []
    if fine then Run.andThen work (Rerouting.restore kept)
    else
      Rerouting.restore kept
      Run.setStatus 2

/-- Puts redirections into effect for good, and leaves the shell if one of them fails. -/
def forGood (self : Evaluator) (rs : List Redirection) : Run Unit := do
  let rs ← reroutings self rs
  let (kept, fine) ← Rerouting.performAll rs []
  Rerouting.forget kept
  if !fine then
    Run.setStatus 2
    throw .fails

/-! ## Programs -/

/-- The code and the words for a program that cannot be executed. -/
def cannotExecute (fault : FileFault) : Nat × String :=
  if fault = .notFound ∨ fault = .notDirectory then (127, "not found")
  else if fault = .tooManyLinks ∨ fault = .nameTooLong then (127, fault.words)
  else (126, fault.words)

/-- Becomes a program. A file that names no interpreter is carried out by a shell. It comes back only if
that cannot be done. -/
def become (path : String) (words : List String) : Run FileFault := do
  let environment := (← get).environment
  let fault ← Run.ask (Act.become path words environment)
  if fault = .unknownFormat then
    Run.ask (Act.become "/bin/sh" ("/bin/sh" :: path :: words.tail) environment)
  else return fault

/-- Becomes a program that lies in one of the directories in which programs are looked for. -/
def becomeNamed (path? : Option String) (words : List String) : Run Unit := do
  let name := words.headD ""
  let t ← Run.ask Act.files
  let path := path?.getD (Builtin.directories (← get))
  let place? := if name.toList.contains '/' then some name else Builtin.programPath? t path name
  let fault ← match place? with
    | some place => become place words
    | none => pure .notFound
  let (code, text) := cannotExecute fault
  Run.report (name ++ ": " ++ text)
  Run.exit code

/-- Why a name that is no path is no program: whether something lies there that cannot be executed. -/
def missing (t : FileTree) (path name : String) : String :=
  let found := (Path.candidates path name).any fun p => t.has (.ofOctets p)
  if found then "Permission denied" else "not found"

/-- Calls a program. -/
def callProgram (self : Evaluator) (g : Setting) (path? : Option String) (words : List String) :
    Run Unit := do
  let s ← get
  let name := words.headD ""
  let t ← Run.ask Act.files
  let path := path?.getD (Builtin.directories s)
  if !name.toList.contains '/' && (Builtin.programPath? t path name).isNone then
    Run.report (name ++ ": " ++ missing t path name)
    Run.setStatus 127
  else if g.last && s.traps.isEmpty then becomeNamed path? words
  else
    let id ← fork self (becomeNamed path? words)
    await [id]

/-! ## Functions and builtins -/

/-- How deep functions may call one another. -/
def maxCalls : Nat := 5000

/-- Gives parameters back that were local to a function. -/
def giveBack (frame : List (String × Option Parameter)) : Run Unit :=
  modify fun s => frame.foldl (fun s (name, v?) =>
    match v? with
    | some v => s.put name v
    | none => s.unset name) s

/-- Calls a function. -/
def callFunction (self : Evaluator) (g : Setting) (body : Command) (arguments : List String) :
    Run Unit := do
  let s ← get
  if maxCalls ≤ s.depth then overflow
  set { s with arguments, saved := [] :: s.saved, loops := 0, depth := s.depth + 1 }
  let r ← Run.attempt (self { g with last := false } body)
  match (← get).saved with
  | frame :: _ => giveBack frame
  | [] => pure ()
  modify fun t => { t with
    arguments := s.arguments, saved := s.saved, loops := s.loops, depth := s.depth }
  match r with
  | .error .returns => return
  | r => Run.resume r

/-- Carries out a script in the shell itself. -/
def source (self : Evaluator) (arguments : List String) : Run Unit := do
  match arguments with
  | [] => Run.setStatus 0
  | name :: _ =>
    let t ← Run.ask Act.files
    let s ← get
    let place? := if name.toList.contains '/' then some name
      else (Path.candidates (Builtin.directories s) name).find? fun p => t.has (.ofOctets p)
    match place? with
    | none => Run.fail (name ++ ": not found")
    | some place =>
      match ← Run.ask (readScript place) with
      | .error fault => Run.fail (Rerouting.openFault false place fault)
      | .ok text =>
        modify fun s => { s with builtin? := none }
        Run.setStatus 0
        match ← Run.attempt (runText self .plain text) with
        | .error .returns => return
        | r => Run.resume r

/-- Leaves loops, or goes on with the next time in one. -/
def leaveLoops (jump : Nat → Jump) (arguments : List String) : Run Unit := do
  let n ← match arguments.head? with
    | some a => Run.number a
    | none => pure 1
  if n = 0 then Run.fail "Illegal number: 0"
  Run.setStatus 0
  let loops := (← get).loops
  if 0 < loops then throw (jump (min n loops))

/-- Takes over the code that is given to a builtin which leaves something. -/
def takeCode (arguments : List String) : Run Unit := do
  match arguments with
  | a :: _ => Run.setStatus ((← Run.number a) % 256)
  | [] => return

/-- Carries out a builtin. Redirections of `exec` have taken effect for good before. -/
def callBuiltin (self : Evaluator) (g : Setting) (path? : Option String) (name : String)
    (arguments : List String) : Run Unit := do
  modify fun s => { s with builtin? := some name }
  match name with
  | "eval" =>
    modify fun s => { s with status := if arguments.all String.isEmpty then 0 else s.status }
    runText self { g with last := false } (" ".intercalate arguments)
  | "." => source self arguments
  | "exec" => if !arguments.isEmpty then becomeNamed path? arguments else Run.setStatus 0
  | "break" => leaveLoops .breaks arguments
  | "continue" => leaveLoops .continues arguments
  | "return" =>
    takeCode arguments
    throw .returns
  | "exit" =>
    takeCode arguments
    throw .exits
  | "command" =>
    let (os, names) ← Builtin.options "pvV" arguments
    let s ← get
    let path := if os.any (·.1 = 'p') then Builtin.standardDirectories else Builtin.directories s
    let verbose := os.any (·.1 = 'V')
    match names with
    | [] => Run.setStatus 0
    | n :: _ =>
      match ← Builtin.meaning verbose path n with
      | some text => Run.setStatus (← Run.print (text ++ "\n"))
      | none =>
        if verbose then
          let _ ← Run.print (n ++ ": not found\n")
        Run.setStatus 127
  | _ =>
    match Builtin.body? name with
    | some body => Run.setStatus (← body arguments)
    | none => return

/-- Carries out a builtin to its end. An error in one that is not special leaves the shell as it was,
with code two. -/
def finishBuiltin (self : Evaluator) (g : Setting) (isSpecial : Bool) (path? : Option String)
    (name : String) (arguments : List String) : Run Unit := do
  let before := (← get).builtin?
  let r ← Run.attempt (callBuiltin self g path? name arguments)
  modify fun s => { s with builtin? := before }
  match r, isSpecial with
  | .error .fails, false => Run.setStatus 2
  | r, _ => Run.resume r

/-! ## Simple commands -/

/-- What a simple command calls. -/
inductive Callee where
  /-- Nothing: it has assignments and redirections only. -/
  | nothing
  | builtin (name : String) (isSpecial : Bool)
  | function (body : Command)
  | program

/-- The words of a command behind `command` and its options. Nothing comes back if `command` itself is
to be called. -/
def behindCommand? : Nat → Bool → List String → Option (Bool × List String)
  | 0, standard, words => some (standard, words)
  | _ + 1, standard, [] => some (standard, [])
  | fuel + 1, standard, w :: rest =>
    match w.toList with
    | ['-', '-'] => some (standard, rest)
    | '-' :: letters =>
      if letters.isEmpty then some (standard, w :: rest)
      else if letters.all (· = 'p') then behindCommand? fuel true rest
      else none
    | _ => some (standard, w :: rest)

/-- What a simple command calls, its words, and whether it was called through `command`. -/
structure Call where
  callee : Callee
  words : List String
  /-- The directories in which programs are looked for, if they are not the usual ones. -/
  path? : Option String
  plain : Bool

/-- Finds out what words call, at most so many times through `command`. -/
def callOf (s : State) : Nat → Bool → Option String → List String → Call
  | _, plain, path?, [] => ⟨.nothing, [], path?, plain⟩
  | 0, plain, path?, words => ⟨.program, words, path?, plain⟩
  | fuel + 1, plain, path?, name :: rest =>
    if name = "command" && (plain || (s.functions.lookup name).isNone) then
      match behindCommand? (rest.length + 1) false rest with
      | none => ⟨.builtin name false, name :: rest, path?, plain⟩
      | some (_, []) => ⟨.builtin "true" false, ["true"], path?, plain⟩
      | some (standard, words) =>
        callOf s fuel true (if standard then some Builtin.standardDirectories else path?) words
    else if specialBuiltins.contains name then ⟨.builtin name (!plain), name :: rest, path?, plain⟩
    else match if plain then none else s.functions.lookup name with
      | some body => ⟨.function body, name :: rest, path?, plain⟩
      | none =>
        if Builtin.isBuiltin name then ⟨.builtin name false, name :: rest, path?, plain⟩
        else ⟨.program, name :: rest, path?, plain⟩

/-- The builtins whose arguments may be assignments. -/
def assigningBuiltins : List String := ["export", "readonly", "local", "alias"]

/-- Expands the words of a simple command. Behind a builtin whose arguments may be assignments, a word
that is one is not cut into fields. -/
def expandWords (self : Evaluator) : List String → List Word → Run (List String)
  | before, [] => return before
  | before, w :: rest => do
    let assigns := assigningBuiltins.contains ((before.dropWhile (· = "command")).headD "")
    match if assigns then CommandReader.assignment? w else none with
    | some (name, value) =>
      let v ← Expansion.assigned (capture self) value
      expandWords self (before ++ [name ++ "=" ++ v]) rest
    | none =>
      let fields ← Expansion.fields (capture self) w
      expandWords self (before ++ fields) rest

/-- Carries out assignments and gives them back as words. -/
def assignAll (self : Evaluator) (exported : Bool) (assignments : List (String × Word)) :
    Run (List String) :=
  assignments.mapM fun (name, value) => do
    let v ← Expansion.assigned (capture self) value
    Run.assign name v
    if exported then
      modify fun s => s.put name { (s.lookup? name).getD ⟨some v, false, false⟩ with exported := true }
    return name ++ "=" ++ v

/-- Does something with parameters that are given back afterwards. -/
def withAssignments (self : Evaluator) (assignments : List (String × Word))
    (work : List String → Run Unit) : Run Unit := do
  if assignments.isEmpty then work []
  else
    let s ← get
    let frame := assignments.map fun (name, _) => (name, s.lookup? name)
    Run.andThen (do work (← assignAll self true assignments)) (giveBack frame.reverse)

/-- Does something that is to tell what is carried out, if that is asked for, where errors were reported
before. -/
def traced (work : (List String → Run Unit) → Run Unit) : Run Unit := do
  if !(← get).has 'x' then work fun _ => pure ()
  else match ← Run.ask (Act.keep Act.errors) with
    | .error _ => work fun _ => pure ()
    | .ok d =>
      let tell (words : List String) : Run Unit := do
        let lead := ((← get).value? "PS4").getD "+ "
        if !words.isEmpty then
          let _ ← Run.ask (Act.write d (lead ++ " ".intercalate words ++ "\n"))
      Run.andThen (work tell) (Run.ask (Act.close d))

/-- Carries out a simple command. -/
def evaluateSimple (self : Evaluator) (g : Setting) (line : Nat) (assignments : List (String × Word))
    (words : List Word) (redirections : List Redirection) : Run Unit := do
  modify fun s => { s with line, expansionStatus := 0 }
  let words ← expandWords self [] words
  let c := callOf (← get) 10 false none words
  traced fun trace =>
    match c.callee with
    | .nothing =>
      within self redirections (do
        trace (← assignAll self false assignments)
        Run.setStatus (← get).expansionStatus)
    | .builtin "exec" isSpecial => do
      forGood self redirections
      let assigned ← assignAll self (1 < c.words.length) assignments
      trace (assigned ++ c.words)
      finishBuiltin self g isSpecial c.path? "exec" c.words.tail
    | .builtin name isSpecial => do
      let rs ← reroutings self redirections
      let (kept, fine) ← Rerouting.performAll rs []
      let work (assigned : List String) : Run Unit := do
        trace (assigned ++ c.words)
        finishBuiltin self g isSpecial c.path? name c.words.tail
      let failed : Run Unit := do
        Run.setStatus 2
        if isSpecial then throw .fails
      Run.andThen (if !fine then failed
        else if isSpecial then (do work (← assignAll self false assignments))
        else withAssignments self assignments work) (Rerouting.restore kept)
    | .function body =>
      within self redirections (withAssignments self assignments fun assigned => do
        trace (assigned ++ c.words)
        callFunction self g body c.words.tail)
    | .program =>
      within self redirections (withAssignments self assignments fun assigned => do
        trace (assigned ++ c.words)
        callProgram self g c.path? c.words)

/-! ## Compound commands -/

/-- Does the work of one time in a loop; whether the loop goes on. -/
def inLoop (body : Run Unit) : Run Bool := do
  match ← Run.attempt body with
  | .ok _ => return true
  | .error (.breaks n) => if n ≤ 1 then return false else throw (.breaks (n - 1))
  | .error (.continues n) => if n ≤ 1 then return true else throw (.continues (n - 1))
  | .error j => throw j

/-- Does something that counts as a loop. -/
def counted (work : Run Unit) : Run Unit := do
  let loops := (← get).loops
  modify fun s => { s with loops := loops + 1 }
  Run.andThen work (modify fun s => { s with loops })

/-- Carries out a loop. Its code is that of the last command in its body. -/
def evaluateLoop (self : Evaluator) (g : Setting) (stopsAt : Bool) (condition body : Command) :
    Run Unit := do
  let once (code : Nat) : Run (Option Nat) := do
    let goes ← inLoop (self ⟨true, false⟩ condition)
    if !goes then return none
    if decide ((← get).status = 0) = stopsAt then
      Run.setStatus code
      return none
    let goes ← inLoop (self g.before body)
    let s ← get
    return if goes then some s.status else none
  counted (go once Act.patience 0)
where
  /-- Goes on with the code of the last command, at most so many times. -/
  go (once : Nat → Run (Option Nat)) : Nat → Nat → Run Unit
    | 0, _ => return
    | fuel + 1, code => do
      match ← once code with
      | some code => go once fuel code
      | none => return

/-- Carries out a command once for each of some words. -/
def evaluateEach (self : Evaluator) (g : Setting) (name : String) (body : Command) :
    List String → Run Unit
  | [] => return
  | v :: rest => do
    Run.assign name v
    if ← inLoop (self g.before body) then evaluateEach self g name body rest

/-- The command of the first arm that a text fits. -/
def chooseArm (self : Evaluator) (subject : List Char) :
    List (List Word × Command) → Run (Option Command)
  | [] => return none
  | (patterns, c) :: rest => do
    if ← fitsAny patterns then return some c else chooseArm self subject rest
where
  /-- Whether the text fits one of some patterns. -/
  fitsAny : List Word → Run Bool
    | [] => return false
    | w :: rest => do
      let steps ← Expansion.pattern (capture self) w
      if Glob.fits steps subject then return true else fitsAny rest

/-- Carries out commands one after another. -/
def evaluateSequence (self : Evaluator) (g : Setting) : List Command → Run Unit
  | [] => Run.setStatus 0
  | [c] => self g c
  | c :: rest => do
    self g.before c
    evaluateSequence self g rest

/-- What a process of a pipeline does first: it reads from the process before and writes to the next. -/
def plumb (source? sink? : Option Nat) (others : List Nat) : Run Unit := do
  match source? with
  | some d => Rerouting.moveTo d Act.input
  | none => pure ()
  match sink? with
  | some d => Rerouting.moveTo d Act.output
  | none => pure ()
  others.forM fun d => Run.ask (Act.close d)

/-- Starts the processes of a pipeline. -/
def startPipeline (self : Evaluator) (first : Run Unit) : Option Nat → List Command → Run (List Nat)
  | _, [] => return []
  | source?, [c] => do
    let id ← fork self (do
      if source?.isNone then first
      plumb source? none []
      self ⟨false, true⟩ c)
    closeAll source?
    return [id]
  | source?, c :: rest => do
    let (reading, writing) ← Run.ask Act.pipe
    let id ← fork self (do
      if source?.isNone then first
      plumb source? (some writing) [reading]
      self ⟨false, true⟩ c)
    closeAll source?
    Run.ask (Act.close writing)
    return id :: (← startPipeline self first (some reading) rest)
where
  /-- Closes a descriptor that the shell itself does not need. -/
  closeAll (d? : Option Nat) : Run Unit :=
    match d? with
    | some d => Run.ask (Act.close d)
    | none => return

/-- What a process in the background does first: it does not take notice of the keyboard. -/
def detach : Run Unit := do
  Run.ask (Act.react .interrupt .ignore)
  Run.ask (Act.react .quit .ignore)
  match ← Run.ask (Act.openFile "/dev/null" .read) with
  | .ok d => Rerouting.moveTo d Act.input
  | .error _ => return

/-- Starts a command in the background. -/
def startJob (self : Evaluator) (c : Command) : Run Unit := do
  let ids ← match c with
    | .pipeline cs => startPipeline self detach none cs
    | .subshell _ c redirections => do
      let id ← fork self (do
        detach
        forGood self redirections
        self ⟨false, true⟩ c)
      pure [id]
    | c => do
      let id ← fork self (do
        detach
        self ⟨false, true⟩ c)
      pure [id]
  match ids.getLast? with
  | none => return
  | some id =>
    modify fun s => { s with
      jobs := s.jobs ++ [⟨id, ids, none⟩]
      lastJob? := some id
      status := 0 }

/-- Carries out a command by means of an evaluator for what lies inside it. -/
def evaluate (self : Evaluator) (g : Setting) : Command → Run Unit
  | .simple line assignments words redirections => do
    evaluateSimple self g line assignments words redirections
    poll self
    checked g
  | .sequence cs => evaluateSequence self g cs
  | .pipeline cs => do
    let ids ← startPipeline self (pure ()) none cs
    await ids
    poll self
    checked g
  | .background c => startJob self c
  | .both a b => do
    self ⟨true, false⟩ a
    if (← get).status = 0 then self g b
  | .either a b => do
    self ⟨true, false⟩ a
    if (← get).status ≠ 0 then self g b
  | .negated c => do
    self ⟨true, false⟩ c
    modify fun s => { s with status := if s.status = 0 then 1 else 0 }
  | .choose c a b => do
    self ⟨true, false⟩ c
    if (← get).status = 0 then self g a else self g b
  | .loop stopsAt c body => evaluateLoop self g stopsAt c body
  | .each line name words? body => do
    modify fun s => { s with line }
    let values ← match words? with
      | some words => List.flatten <$> words.mapM (Expansion.fields (capture self))
      | none => State.arguments <$> get
    Run.setStatus 0
    counted (evaluateEach self g name body values)
  | .select line subject arms => do
    modify fun s => { s with line }
    let text ← Expansion.assigned (capture self) subject
    match ← chooseArm self text.toList arms with
    | some c => if c.isNothing then Run.setStatus 0 else self g c
    | none => Run.setStatus 0
  | .subshell line c redirections => do
    modify fun s => { s with line }
    if g.last && (← get).traps.isEmpty then
      forGood self redirections
      self ⟨g.tested, true⟩ c
      throw .exits
    else
      let rs ← reroutings self redirections
      let id ← fork self (do
        let (kept, fine) ← Rerouting.performAll rs []
        Rerouting.forget kept
        if !fine then Run.exit 2
        self ⟨g.tested, true⟩ c)
      await [id]
      poll self
      checked g
  | .redirected line c redirections => do
    modify fun s => { s with line }
    within self redirections (self g.before c)
  | .define _ name body => do
    modify fun s => { s with functions := State.putEntry name body s.functions }
    Run.setStatus 0

/-- Carries out commands that are nested at most so deep, unless the shell is to do nothing any more. -/
def evaluateAt : Nat → Evaluator
  | 0 => fun _ _ => overflow
  | depth + 1 => fun g c => do
    if !(← get).has 'n' then evaluate (fun g c => evaluateAt depth g c) g c

/-- How deep commands may be nested, the functions they call counted. -/
def maxDepth : Nat := 1000000

/-- Carries out commands. -/
def evaluator : Evaluator := evaluateAt maxDepth

end Evaluation

end TierSweep.Shell
