import TierSweep.Host.Executable

/-!
# Turns of processes

The machine answers the requests of processes. A process whose request cannot be answered yet waits, and
the others go on. Processes take turns, so none of them can keep the others from going on.
-/

namespace TierSweep.Machine

/-- What the programs of the operating system do. -/
abbrev Programs := Executable → Environment → Procedure

/-- How many bytes a pipe holds before those who write to it have to wait. -/
def pipeSize : Nat := 65536

/-- The first line, if it has an end, and what follows. -/
def firstLine? (cs : List Char) : Option (List Char × List Char) :=
  let line := cs.takeWhile (· ≠ '\n')
  match cs.drop line.length with
  | [] => none
  | c :: rest => some (line ++ [c], rest)

/-- Whether files opened in a mode can be read. -/
def canRead : OpenMode → Bool
  | .read | .update => true
  | _ => false

/-- Whether files opened in a mode can be written. -/
def canWrite : OpenMode → Bool
  | .read => false
  | _ => true

/-- How many zero bytes are read at once. -/
def zerosLength : Nat := 4096

/-- What a process reads from a stream, or nothing if it has to wait for it. -/
def readStream (m : Machine) (id : Nat) (s : Stream) (portion : Portion) :
    Option (Machine × Except FileFault String) :=
  match s.endpoint with
  | .nowhere => some (m, .ok "")
  | .zeros =>
    let length := match portion with
      | .atMost bytes => min bytes zerosLength
      | _ => zerosLength
    some (m, .ok (String.ofList (List.replicate length '\x00')))
  | .directory => some (m, .error .isDirectory)
  | .common | .reports | .inlet _ => some (m, .error .badDescriptor)
  | .file place mode =>
    if !canRead mode then some (m, .error .badDescriptor)
    else match m.tree.entry? place with
      | some (.file content _) =>
        let rest := content.drop s.offset
        let taken := match portion with
          | .available => rest
          | .line => if rest.contains 0x0A then rest.takeWhile (· ≠ 0x0A) ++ [0x0A] else rest
          | .atMost bytes => rest.take bytes
        some (m.setStream id { s with offset := s.offset + taken.length }, .ok (Octets.ofBytes taken))
      | _ => some (m, .ok "")
  | .outlet pipe =>
    let cs := m.held pipe
    let (taken?, rest) := match portion with
      | .available => (some cs, [])
      | .atMost bytes => (some (cs.take bytes), cs.drop bytes)
      | .line =>
        match firstLine? cs with
        | some (first, rest) => (some first, rest)
        | none => (none, [])
    if (taken?.isNone || cs.isEmpty) && m.hasEnd (.inlet pipe) then none
    else some (m.setHeld pipe rest, .ok (String.ofList (taken?.getD cs)))

/-- Writes bytes over those from some place on. -/
def overwrite (content text : Bytes) (offset : Nat) : Bytes :=
  content.take offset ++ List.replicate (offset - content.length) 0 ++ text
    ++ content.drop (offset + text.length)

/-- What becomes of writing to a stream. -/
inductive Written where
  | done (m : Machine)
  | fault (f : FileFault)
  /-- Nobody will ever read it. -/
  | unread
  /-- There is no room for it yet. -/
  | full

/-- Writes to a stream. -/
def writeStream (m : Machine) (id : Nat) (s : Stream) (text : String) : Written :=
  match s.endpoint with
  | .nowhere | .zeros | .reports => .done m
  | .directory | .outlet _ => .fault .badDescriptor
  | .common => .done { m with output := m.output ++ text }
  | .file place mode =>
    if !canWrite mode then .fault .badDescriptor
    else
      let bytes := Octets.toBytes text
      match m.tree.entry? place with
      | some (.file content _) =>
        let offset := if mode = .append then content.length else s.offset
        let m := { m with tree := m.tree.edit place fun content => overwrite content bytes offset }
        .done (m.setStream id { s with offset := offset + bytes.length })
      | _ => .done m
  | .inlet pipe =>
    if !m.hasEnd (.outlet pipe) then .unread
    else if pipeSize ≤ (m.held pipe).length then .full
    else .done (m.setHeld pipe (m.held pipe ++ text.toList))

/-- The descriptor that a path stands for. -/
def descriptorPath? (path : String) : Option Nat :=
  match path with
  | "/dev/stdin" => some 0
  | "/dev/stdout" => some 1
  | "/dev/stderr" => some 2
  | _ =>
    let cs := path.toList
    if "/dev/fd/".toList.isPrefixOf cs then (String.ofList (cs.drop 8)).toNat? else none

/-- Where a file that is opened leads, and the tree in which it is there. -/
def opened (t : FileTree) (path : String) (mode : OpenMode) : Except FileFault (FileTree × Endpoint) := do
  let p := Path.ofOctets path
  match mode with
  | .read =>
    match ← t.find p with
    | (_, .directory) => pure (t, .directory)
    | (place, .file _ _) => pure (t, .file place mode)
    | (_, .zeros) => pure (t, .zeros)
    | _ => pure (t, .nowhere)
  | _ =>
    if mode = .fresh then
      match t.find p with
      | .ok (_, .file _ _) | .ok (_, .directory) => throw .alreadyExists
      | _ => pure ()
    let (t, place) ← t.obtainFile p
    match t.entry? place with
    | some (.file _ _) =>
      pure (if mode = .write then t.edit place fun _ => [] else t, .file place mode)
    | _ => pure (t, .nowhere)

/-- Gives a process a new stream. -/
def addStream (m : Machine) (p : Process) (e : Endpoint) : Machine × Process × Nat :=
  let descriptor := p.freeDescriptor
  let p := p.setStream descriptor m.unused
  let m := { m with streams := (m.unused, ⟨e, 0⟩) :: m.streams, unused := m.unused + 1 }
  (m.setProcess p, p, descriptor)

/-- Answers the request of a process. Nothing comes back if the process has to wait. -/
def answer (m : Machine) (programs : Programs) (p : Process) : Option Machine :=
  let go (m : Machine) (next : Procedure) : Option Machine :=
    some (m.setProcess { p with procedure := next })
  let done {ε : Type} : Except ε Unit := .ok ()
  match p.procedure with
  | .ended code => some (m.updateProcess p (p.ending (.exited (code % 256))))
  | .fork child next =>
    let born := { p with
      id := m.unused, parent := p.id, procedure := child, noted := [], wakes? := none }
    let m := { m with processes := m.processes ++ [born], unused := m.unused + 1 }
    go m (next born.id)
  | .pause next => some (m.setProcess { p with procedure := next p.noted, noted := [] })
  | .read descriptor portion next =>
    match p.stream? descriptor with
    | none => go m (next (.error .badDescriptor))
    | some id =>
      match m.stream? id with
      | none => go m (next (.error .badDescriptor))
      | some s =>
        match m.readStream id s portion with
        | none => none
        | some (m, answer) => go m (next answer)
  | .write descriptor text next =>
    match p.stream? descriptor with
    | none => go m (next (.error .badDescriptor))
    | some id =>
      match m.stream? id with
      | none => go m (next (.error .badDescriptor))
      | some s =>
        match m.writeStream id s text with
        | .full => none
        | .fault f => go m (next (.error f))
        | .done m => go m (next done)
        | .unread =>
          match p.reaction .pipe with
          | .usual => some (m.send p.id .pipe).1
          | _ => go m (next (.error .brokenPipe))
  | .open path mode next =>
    match descriptorPath? path with
    | some n =>
      match p.stream? n with
      | none => go m (next (.error .notFound))
      | some id =>
        let descriptor := p.freeDescriptor
        some (m.setProcess { p.setStream descriptor id with procedure := next (.ok descriptor) })
    | none =>
      match opened (m.treeOf p) path mode with
      | .error f => go m (next (.error f))
      | .ok (tree, e) =>
        let m := { m with tree := { tree with working := m.tree.working } }
        let (m, p, descriptor) := m.addStream p e
        some (m.setProcess { p with procedure := next (.ok descriptor) })
  | .close descriptor next =>
    let descriptors := p.descriptors.filter (·.1 ≠ descriptor)
    some (m.setProcess { p with descriptors, procedure := next () }).tidied
  | .copy descriptor target next =>
    match p.stream? descriptor with
    | none => go m (next (.error .badDescriptor))
    | some id => some (m.setProcess { p.setStream target id with procedure := next done }).tidied
  | .keep descriptor next =>
    match p.stream? descriptor with
    | none => go m (next (.error .badDescriptor))
    | some id =>
      let target := p.freeDescriptor
      some (m.setProcess { p.setStream target id with procedure := next (.ok target) })
  | .pipe next =>
    let pipe := m.unused
    let m := { m with pipes := (pipe, []) :: m.pipes, unused := pipe + 1 }
    let (m, p, reading) := m.addStream p (.outlet pipe)
    let (m, p, writing) := m.addStream p (.inlet pipe)
    some (m.setProcess { p with procedure := next (reading, writing) })
  | .sleep time next =>
    match p.wakes? with
    | none => some (m.setProcess { p with wakes? := some (m.clock.saturatingAdd time) })
    | some wake =>
      if wake.nanos ≤ m.clock.nanos || !p.noted.isEmpty then
        some (m.setProcess { p with wakes? := none, procedure := next () })
      else none
  | .wait child hurried next =>
    match m.process? child with
    | none => go m (next .unknown)
    | some c =>
      if c.parent ≠ p.id then go m (next .unknown)
      else match c.ended? with
        | some how =>
          go { m with processes := m.processes.filter (·.id ≠ child) } (next (.ended how))
        | none => if hurried && !p.noted.isEmpty then go m (next .disturbed) else none
  | .signal target s next =>
    let (m, found) :=
      if 0 < target then m.send target.toNat s
      else m.sendGroup (if target = 0 then p.group else target.natAbs) s
    match m.process? p.id with
    | none => some m
    | some p => some (if p.isAlive then m.setProcess { p with procedure := next found } else m)
  | .lead next => some (m.setProcess { p with group := p.id, procedure := next () })
  | .react s reaction next => some (m.setProcess { p.reactTo s reaction with procedure := next () })
  | .files next => go m (next (m.treeOf p))
  | .change edit next =>
    match edit (m.treeOf p) with
    | .error f => go m (next (.error f))
    | .ok tree => go { m with tree := { tree with working := m.tree.working } } (next done)
  | .enter path next =>
    match (m.treeOf p).find (.ofOctets path) with
    | .error f => go m (next (.error f))
    | .ok (place, .directory) =>
      some (m.setProcess { p with working := place, procedure := next done })
    | .ok _ => go m (next (.error .notDirectory))
  | .identify next => go m (next (p.id, p.parent))
  | .measure descriptor next =>
    let size? : Option Nat := do
      let s ← m.stream? (← p.stream? descriptor)
      match s.endpoint with
      | .file place _ =>
        match m.tree.entry? place with
        | some (.file content _) => some content.length
        | _ => none
      | _ => none
    go m (next size?)
  | .clock next => go m (next m.clock)
  | .become path arguments environment next =>
    match Executable.ofFile (m.treeOf p) (.ofOctets path) (arguments.headD "") arguments.tail with
    | .error f => go m (next f)
    | .ok x =>
      some (m.setProcess { p with
        procedure := programs x environment
        descriptors := p.descriptors.filter (·.1 < Process.firstFree)
        reactions := p.reactions.filter (·.2 ≠ .note)
        noted := [] }).tidied

/-- Lets a process go on until it waits, at most for so many requests, and tells how many of them are
left. -/
def turn (programs : Programs) (id : Nat) : Nat → Machine → Machine × Nat
  | 0, m => (m, 0)
  | requests + 1, m =>
    match m.process? id with
    | none => (m, requests + 1)
    | some p =>
      if !p.isAlive || p.stopped then (m, requests + 1)
      else match m.answer programs p with
        | none => (m, requests + 1)
        | some m => turn programs id requests m

/-- How many requests of a process are answered in one turn. -/
def turnLength : Nat := 100

/-- Lets each process take a turn and tells whether any went on. -/
def round (m : Machine) (programs : Programs) : Machine × Bool :=
  m.processes.foldl (fun (m, moved) p =>
    let (m, left) := turn programs p.id turnLength m
    (m, moved || left < turnLength)) (m, false)

/-- Lets the processes take turns until all wait, at most so many times, and tells whether they do. -/
def settle (programs : Programs) : Nat → Machine → Machine × Bool
  | 0, m => (m, false)
  | rounds + 1, m =>
    match m.round programs with
    | (m, true) => settle programs rounds m
    | (m, false) => (m, true)

/-- The time that a round takes when processes never come to wait. -/
def roundNanos : Nat := 500000

/-- Lets the processes go on until a time on the clock, waking those that sleep at most so many times. -/
def goOn (programs : Programs) (time : Duration) : Nat → Machine → Machine
  | 0, m => { m with clock := time }
  | wakes + 1, m =>
    match settle programs ((time.nanos - m.clock.nanos) / roundNanos + 1) m with
    | (m, false) => { m with clock := time }
    | (m, true) =>
      match m.nextWake? with
      | some wake =>
        if wake.nanos ≤ time.nanos then
          goOn programs time wakes { m with clock := if wake.nanos < m.clock.nanos then m.clock else wake }
        else { m with clock := time }
      | none => { m with clock := time }

/-- How often processes may take turns before they are given up. -/
def maxRounds : Nat := 100000

/-- Lets the processes go on until none is left that could write to the common output or report an error,
waking those that sleep at most so many times. -/
def drain (programs : Programs) : Nat → Machine → Machine
  | 0, m => m
  | wakes + 1, m =>
    let (m, quiet) := settle programs maxRounds m
    if !quiet || !(m.hasEnd .common || m.hasEnd .reports) then m
    else match m.nextWake? with
      | some wake => drain programs wakes { m with clock := if wake.nanos < m.clock.nanos then m.clock else wake }
      | none => m

end TierSweep.Machine
