import TierSweep.FileTree.Rearrangement
import TierSweep.Host.Procedure
import TierSweep.Text.Octets

/-!
# The machine on which benchmarks run

A machine has files, a clock, an output that people read, and processes. A process reads and writes
through streams, which it knows by its descriptors; processes that were started by one another may
share a stream. Only sleeping takes time. A process can interrupt the sweep that started it.
-/

namespace TierSweep

/-- Where a stream leads. -/
inductive Endpoint where
  /-- To the output that people read. -/
  | common
  /-- To where errors are reported, which nobody keeps. -/
  | reports
  /-- To a file that takes everything and holds nothing. -/
  | nowhere
  /-- To a file that takes everything and gives zero bytes. -/
  | zeros
  | directory
  | file (place : Place) (mode : OpenMode)
  /-- The end of a pipe from which it is read. -/
  | outlet (pipe : Nat)
  /-- The end of a pipe to which it is written. -/
  | inlet (pipe : Nat)
  deriving DecidableEq

/-- Something from which can be read or to which can be written. -/
structure Stream where
  endpoint : Endpoint
  /-- How many bytes of a file come before the next to be read or written. -/
  offset : Nat

/-- A process. -/
structure Process where
  id : Nat
  /-- The process that started it. -/
  parent : Nat
  /-- The group it belongs to, which has the number of the process that began it. -/
  group : Nat
  procedure : Procedure
  /-- The descriptors and the streams they mean. -/
  descriptors : List (Nat × Nat)
  working : Place
  /-- The signals to which it does not react in their usual way. -/
  reactions : List (Signal × Reaction)
  /-- The signals it noted and was not asked about yet. -/
  noted : List Signal
  /-- When it wakes, if it sleeps. -/
  wakes? : Option Duration
  stopped : Bool
  ended? : Option Ending

namespace Process

/-- How a process reacts to a signal. -/
def reaction (p : Process) (s : Signal) : Reaction :=
  if s.isFinal then .usual else (p.reactions.lookup s).getD .usual

/-- Sets how a process reacts to a signal. -/
def reactTo (p : Process) (s : Signal) (r : Reaction) : Process :=
  let others := p.reactions.filter (·.1 ≠ s)
  { p with reactions := if r = .usual then others else (s, r) :: others }

/-- The stream a descriptor means. -/
def stream? (p : Process) (descriptor : Nat) : Option Nat := p.descriptors.lookup descriptor

/-- Makes a descriptor mean a stream. -/
def setStream (p : Process) (descriptor stream : Nat) : Process :=
  { p with descriptors := (descriptor, stream) :: p.descriptors.filter (·.1 ≠ descriptor) }

/-- The first descriptor that is given to something newly opened. -/
def firstFree : Nat := 10

/-- The least descriptor from ten on that means nothing. -/
def freeDescriptor (p : Process) : Nat :=
  let candidates := (List.range (p.descriptors.length + 1)).map (· + firstFree)
  (candidates.find? fun n => (p.stream? n).isNone).getD firstFree

/-- Ends a process, which lets go of all its streams. -/
def ending (p : Process) (how : Ending) : Process :=
  { p with descriptors := [], ended? := some how, noted := [], wakes? := none }

/-- Whether a process has not ended. -/
def isAlive (p : Process) : Bool := p.ended?.isNone

/-- What a signal does to a process. -/
def receive (p : Process) (s : Signal) : Process :=
  if !p.isAlive || s.number = 0 then p
  else
    let p := if s = .resume then { p with stopped := false } else p
    match p.reaction s, s.effect with
    | .ignore, _ => p
    | .note, _ => { p with noted := p.noted.filter (· ≠ s) ++ [s] }
    | .usual, .ends => p.ending (.killed s)
    | .usual, .stops => { p with stopped := true }
    | .usual, .resumes => p
    | .usual, .nothing => p

end Process

/-- What processes share. -/
structure Machine where
  tree : FileTree
  /-- All that was written to the common output, as an octet text. -/
  output : String
  clock : Duration
  /-- Whether the sweep has been interrupted. -/
  interrupted : Bool
  processes : List Process
  streams : List (Nat × Stream)
  /-- The pipes and what was written to them and not yet read. -/
  pipes : List (Nat × List Char)
  /-- A number that no process, stream or pipe has. -/
  unused : Nat

namespace Machine

/-- The number of the process that carries out a sweep. -/
def sweepProcess : Nat := 1000

/-- The number of the process that was there before all others. -/
def firstProcess : Nat := 1

/-- The programs that interpret scripts. -/
def shells : List String := ["sh", "dash", "bash"]

/-- The programs of the operating system that are no shells. -/
def utilities : List String :=
  ["[", "basename", "cat", "chmod", "cmp", "comm", "cp", "cut", "date", "dd", "diff", "dirname", "du", "echo",
    "egrep", "env", "expr", "false", "fgrep", "find", "fold", "grep", "head", "hostname", "id",
    "install", "link", "ln", "ls", "mkdir", "mktemp", "mv", "nice", "nl", "nohup", "nproc", "paste",
    "printenv", "printf", "pwd", "readlink", "realpath", "rev", "rm", "rmdir", "sed", "seq", "setsid",
    "sha256sum", "sleep", "sort", "stat", "stdbuf", "sync", "tac", "tail", "tee", "test", "timeout",
    "touch", "tr", "true", "truncate", "uname", "uniq", "unlink", "wc", "which", "whoami", "xargs",
    "yes"]

/-- The place a list of names leads to. -/
def place (names : List String) : Place := names.map Utf8.encode

/-- The directories in which programs are looked for by name. -/
def searchPath : List String :=
  ["/usr/local/sbin", "/usr/local/bin", "/usr/sbin", "/usr/bin", "/sbin", "/bin"]

/-- The directories of the operating system. -/
def systemDirectories : List (List String) :=
  [["usr"], ["usr", "local"], ["usr", "local", "sbin"], ["usr", "local", "bin"], ["usr", "sbin"],
    ["usr", "bin"], ["usr", "lib"], ["dev"], ["etc"], ["home"], ["proc"], ["root"], ["tmp"], ["var"],
    ["var", "tmp"]]

/-- What there is on a machine from the beginning. -/
def systemEntries : List (Place × FileEntry) :=
  systemDirectories.map (fun names => (place names, .directory))
    ++ [(place ["bin"], .link (Utf8.encode "usr/bin")), (place ["sbin"], .link (Utf8.encode "usr/sbin")),
      (place ["lib"], .link (Utf8.encode "usr/lib"))]
    ++ ["null", "stdin", "stdout", "stderr", "tty"].map (fun name => (place ["dev", name], .sink))
    ++ ["zero", "random", "urandom"].map (fun name => (place ["dev", name], .zeros))
    ++ [(place ["etc", "passwd"], .file (Utf8.encode "root:x:0:0:root:/root:/bin/bash\n") FileEntry.plainMode)]
    ++ (shells ++ utilities).map fun name => (place ["usr", "bin", name], .program name)

/-- A machine with an empty working directory. -/
def fresh : Machine where
  tree := ⟨systemEntries ++ [(place ["tmp", "work"], .directory)], place ["tmp", "work"]⟩
  output := ""
  clock := .zero
  interrupted := false
  processes := []
  streams := []
  pipes := []
  unused := sweepProcess + 1

/-- Prints a text on the common output. -/
def print (m : Machine) (text : String) : Machine :=
  { m with output := m.output ++ Octets.ofText text }

/-- What people read on the common output. -/
def outputText (m : Machine) : String := Octets.toText m.output

/-- The process of a number. -/
def process? (m : Machine) (id : Nat) : Option Process := m.processes.find? (·.id = id)

/-- Puts a process in the place of the one that had its number. -/
def setProcess (m : Machine) (p : Process) : Machine :=
  { m with processes := m.processes.map fun q => if q.id = p.id then p else q }

/-- Whether a process that has not ended holds a stream. -/
def isHeld (m : Machine) (stream : Nat) : Bool :=
  m.processes.any fun p => p.descriptors.any (·.2 = stream)

/-- Whether a process holds a stream that leads to an endpoint. -/
def hasEnd (m : Machine) (e : Endpoint) : Bool :=
  m.streams.any fun s => s.2.endpoint = e && m.isHeld s.1

/-- Forgets the streams that nobody holds and the pipes to which none leads. -/
def tidied (m : Machine) : Machine :=
  let streams := m.streams.filter fun s => m.isHeld s.1
  let leadsTo (pipe : Nat) (s : Nat × Stream) : Bool :=
    s.2.endpoint = .outlet pipe || s.2.endpoint = .inlet pipe
  { m with streams, pipes := m.pipes.filter fun e => streams.any (leadsTo e.1) }

/-- The stream of a number. -/
def stream? (m : Machine) (stream : Nat) : Option Stream := m.streams.lookup stream

/-- Puts a stream in the place of the one that had its number. -/
def setStream (m : Machine) (stream : Nat) (s : Stream) : Machine :=
  { m with streams := m.streams.map fun e => if e.1 = stream then (stream, s) else e }

/-- What a pipe holds. -/
def held (m : Machine) (pipe : Nat) : List Char := (m.pipes.lookup pipe).getD []

/-- Changes what a pipe holds. -/
def setHeld (m : Machine) (pipe : Nat) (cs : List Char) : Machine :=
  { m with pipes := m.pipes.map fun e => if e.1 = pipe then (pipe, cs) else e }

/-- The file tree as a process sees it. -/
def treeOf (m : Machine) (p : Process) : FileTree := { m.tree with working := p.working }

/-- Puts a process in its place that has changed. Streams that nobody holds any more are forgotten, and if
the process has just ended, the one that started it is told by a signal. -/
def updateProcess (m : Machine) (before after : Process) : Machine :=
  let m := (m.setProcess after).tidied
  if before.isAlive && !after.isAlive then
    match m.process? after.parent with
    | some q => m.setProcess (q.receive .childEnded)
    | none => m
  else m

/-- Sends a signal to a process and tells whether it is there. The sweep takes notice of an interrupt
only, and the first process of all of nothing. -/
def send (m : Machine) (id : Nat) (s : Signal) : Machine × Bool :=
  if id = sweepProcess then
    ({ m with interrupted := m.interrupted || s == .interrupt }, true)
  else if id = firstProcess then (m, true)
  else match m.process? id with
    | some p => (m.updateProcess p (p.receive s), true)
    | none => (m, false)

/-- Sends a signal to all processes of a group and tells whether there are any. -/
def sendGroup (m : Machine) (group : Nat) (s : Signal) : Machine × Bool :=
  let members := (if group = sweepProcess then [sweepProcess] else [])
    ++ (m.processes.filter (·.group = group)).map (·.id)
  (members.foldl (fun m id => (m.send id s).1) m, !members.isEmpty)

/-- The earliest time at which a process wakes that sleeps now. -/
def nextWake? (m : Machine) : Option Duration :=
  m.processes.foldl (fun earliest p =>
    match earliest, if p.stopped then none else p.wakes? with
    | some a, some b => some (if b.nanos < a.nanos then b else a)
    | none, later => later
    | earlier, none => earlier) none

end Machine

end TierSweep
