import TierSweep.Host.Programs
import TierSweep.Session
import TierSweep.Supervision

/-!
# Launching benchmarks

A launch starts the program of an invocation on the machine and supervises it. The first look comes
before the process has done anything, and the others follow one poll interval apart. Looks that
could show nothing new, because the process sleeps through them, are left out.
-/

namespace TierSweep

/-- Why a program could not be started. -/
inductive SpawnFault where
  | file (fault : FileFault)
  /-- The program or an argument contains a zero byte. -/
  | zeroByte
  deriving DecidableEq, Repr

namespace SpawnFault

/-- The words for a fault. -/
def message : SpawnFault → String
  | file fault => fault.message
  | zeroByte => "nul byte found in provided data"

/-- The report of a fault. -/
def toFailure (i : Invocation) (fault : SpawnFault) : Failure :=
  (Failure.new .launching "spawn_failed" "failed to start benchmark executable")
    |>.noting "program" i.program.display
    |>.advising fault.message

end SpawnFault

namespace Machine

/-- Whether a program or its arguments contain a zero byte. -/
def hasZeroByte (i : Invocation) : Bool :=
  i.program.bytes.contains 0 || i.arguments.any fun a => a.toList.contains '\x00'

/-- What executing the first of some files comes to that can be executed. A file that is missing or
may not be executed is passed over. -/
def firstExecutable (t : FileTree) (self : String) (arguments : List String) :
    FileFault → List Path → Except FileFault Executable
  | fault, [] => .error fault
  | fault, p :: ps =>
    match Executable.ofFile t p self arguments with
    | .ok x => .ok x
    | .error .denied => firstExecutable t self arguments .denied ps
    | .error .notFound | .error .notDirectory => firstExecutable t self arguments fault ps
    | .error other => .error other

/-- What executing an invocation comes to. A program without a slash is looked for in the search
path. -/
def executable (t : FileTree) (i : Invocation) : Except SpawnFault Executable :=
  let self := Octets.ofBytes i.program.bytes
  let arguments := i.arguments.map Octets.ofText
  if hasZeroByte i then .error .zeroByte
  else
    let found :=
      if i.program.bytes.contains Path.slash then Executable.ofFile t i.program self arguments
      else if i.program.bytes.isEmpty then .error .notFound
      else if FileTree.maxName < i.program.bytes.length then .error .nameTooLong
      else
        firstExecutable t self arguments .notFound
          (searchPath.map fun d => (Path.ofString d).join i.program)
    found.mapError .file

/-- The environment in which benchmarks run. -/
def environment : Environment :=
  [("HOME", "/root"), ("PATH", ":".intercalate searchPath)]

/-- Starts a process in the working directory. Its input is empty, its output is the common one, and
nobody keeps what it reports on errors. -/
def start (m : Machine) (x : Executable) : Machine × Nat :=
  let id := m.unused
  let streams := [(id + 1, ⟨.nowhere, 0⟩), (id + 2, ⟨.common, 0⟩), (id + 3, ⟨.reports, 0⟩)]
  let p : Process :=
    { id
      parent := sweepProcess
      group := sweepProcess
      procedure := programs x environment
      descriptors := [(Act.input, id + 1), (Act.output, id + 2), (Act.errors, id + 3)]
      working := m.tree.working
      reactions := []
      noted := []
      wakes? := none
      stopped := false
      ended? := none }
  ({ m with
    processes := m.processes ++ [p], streams := streams ++ m.streams, unused := id + 4 }, id)

/-- The exit status of a process, if it has ended. -/
def exitOf? (m : Machine) (id : Nat) : Option ExitStatus :=
  (m.process? id).bind fun p => p.ended?.map fun
    | .exited code => .exited (Int32.ofNat code)
    | .killed _ => .signalled

/-- Forgets a process. -/
def forget (m : Machine) (id : Nat) : Machine :=
  { m with processes := m.processes.filter (·.id ≠ id) }

/-- The nanoseconds between two looks, of which there is at least one. -/
def interval (b : LaunchBounds) : Nat := max 1 b.interval.nanos

/-- The first of the looks from a given time on that comes no earlier than a sleeper wakes or its
time is used up. -/
def lookAfter (b : LaunchBounds) (since first wake : Duration) : Duration :=
  let awaited := match b.time? with
    | some limit => min wake.nanos (since.nanos + limit.nanos)
    | none => wake.nanos
  .ofNanos (first.nanos + (awaited - first.nanos + interval b - 1) / interval b * interval b)

/-- How many times processes may be woken between two looks. -/
def maxWakes : Nat := 1000000

/-- Whether all processes wait. -/
def isIdle (m : Machine) : Bool := !(m.round programs).2

/-- What a look at a process shows. -/
def look (m : Machine) (b : LaunchBounds) (since : Duration) (id : Nat) : Observation :=
  ⟨m.exitOf? id, b.cancelled || m.interrupted, m.clock.since since⟩

/-- Lets the processes go on until the next look. -/
def goOnToLook (b : LaunchBounds) (since : Duration) (id : Nat) (m : Machine) : Machine :=
  let m := m.goOn programs (.ofNanos (m.clock.nanos + interval b)) maxWakes
  match (m.exitOf? id).isSome || m.interrupted, m.nextWake? with
  | false, some wake =>
    if m.isIdle then m.goOn programs (lookAfter b since m.clock wake) maxWakes else m
  | _, _ => m

/-- Does what the supervisor of a process does. -/
def perform (b : LaunchBounds) (since : Duration) (id : Nat) (m : Machine) :
    SupervisorAction → Machine
  | .pause => m.goOnToLook b since id
  | .kill => (m.send id .kill).1
  | .reap => m.forget id

/-- Supervises a process until a look ends the wait, at most for `fuel` looks. -/
def attend (b : LaunchBounds) (since : Duration) (id : Nat) :
    Nat → Machine → Machine × Option Outcome
  | 0, m => (m, none)
  | fuel + 1, m =>
    let seen := m.look b since id
    match Supervision.judge b.time? seen with
    | some outcome => ((Supervision.closing seen).foldl (perform b since id) m, some outcome)
    | none => attend b since id fuel (m.perform b since id .pause)

/-- How many times a process is looked at before it is given up. -/
def maxLooks : Nat := 100000

/-- The failure to see the end of a benchmark. -/
def unobserved (i : Invocation) : Failure :=
  (Failure.new .launching "wait_failed" "failed to observe benchmark process")
    |>.noting "program" i.program.display

/-- Launches an invocation and waits for it. Processes that it started itself may go on afterwards.
-/
def launch (i : Invocation) (b : LaunchBounds) (m : Machine) : Machine × LaunchAnswer :=
  match executable m.tree i with
  | .error fault => (m, ⟨.error (fault.toFailure i), false⟩)
  | .ok x =>
    let (started, id) := m.start x
    match attend b m.clock id maxLooks started with
    | (after, some outcome) => (after.forget id, ⟨.ok outcome, after.interrupted⟩)
    | (after, none) =>
      (([.kill, .reap] : List SupervisorAction).foldl (perform b m.clock id) after,
        ⟨.error (unobserved i), after.interrupted⟩)

/-- A text with at least so many digits. -/
def padded (width n : Nat) : String :=
  let digits := toString n
  String.ofList (List.replicate (width - digits.length) '0') ++ digits

/-- The time on the clock, counted from midnight of the first day of 1970. -/
def timeOfDay (m : Machine) : String :=
  let s := m.clock.seconds
  "1970-01-01T" ++ padded 2 (s / 3600 % 24) ++ ":" ++ padded 2 (s / 60 % 60) ++ ":"
    ++ padded 2 (s % 60) ++ "." ++ padded 9 m.clock.subsecNanos ++ "+00:00"

/-- The machine as the world of a session. -/
def world : World Machine where
  makeDirectories p m :=
    let (tree, fault?) := m.tree.makeDirectories p
    ({ m with tree }, fault?)
  launch := launch
  clock := Machine.clock
  timeOfDay := timeOfDay

end Machine

end TierSweep
