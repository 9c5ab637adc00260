import TierSweep.Duration
import TierSweep.FileTree
import TierSweep.Host.Signal

/-!
# Procedures

A procedure is what a process will do. It ends with a code, or it asks the machine for something and goes on
with the answer, so a machine can stop it between any two requests and look at it again later. Procedures are
written as actions, each of which gives a value to what comes after it.

Texts that procedures exchange with the machine are octet texts. Open files, pipes and the common output are
known to a process by small numbers, its descriptors.
-/

namespace TierSweep

/-- How a file is opened. -/
inductive OpenMode where
  | read
  /-- For writing, from the beginning and with nothing in it. -/
  | write
  /-- For writing at the end. -/
  | append
  /-- For reading and writing. -/
  | update
  /-- For writing, if there is nothing at the path yet. -/
  | fresh
  deriving DecidableEq

/-- How much is read. -/
inductive Portion where
  /-- What there is. -/
  | available
  /-- One line. -/
  | line
  /-- At most so many bytes of what there is. -/
  | atMost (bytes : Nat)
  deriving DecidableEq

/-- What a process does on a signal. -/
inductive Reaction where
  /-- What the signal does by itself. -/
  | usual
  | ignore
  /-- It takes note and is asked about it later. -/
  | note
  deriving DecidableEq

/-- How a process ended. -/
inductive Ending where
  | exited (code : Nat)
  | killed (signal : Signal)
  deriving DecidableEq

namespace Ending

/-- The code under which a shell knows an ending. -/
def status : Ending → Nat
  | exited code => code
  | killed signal => 128 + signal.number

end Ending

/-- What waiting for a process comes to. -/
inductive Awaited where
  | ended (how : Ending)
  /-- A signal that was noted came first. -/
  | disturbed
  /-- The process is no child of the one that waits. -/
  | unknown

/-- The environment of a process: names and their values. -/
abbrev Environment := List (String × String)

/-- What a process will do. -/
inductive Procedure where
  /-- Ends with a code. -/
  | ended (code : Nat)
  /-- Starts another process and learns its number. -/
  | fork (child : Procedure) (next : Nat → Procedure)
  /-- Lets others go on and learns which signals were noted. -/
  | pause (next : List Signal → Procedure)
  /-- Reads a portion. Nothing is left to read when the answer is empty. -/
  | read (descriptor : Nat) (portion : Portion) (next : Except FileFault String → Procedure)
  | write (descriptor : Nat) (text : String) (next : Except FileFault Unit → Procedure)
  /-- Opens a file and learns its descriptor. -/
  | open (path : String) (mode : OpenMode) (next : Except FileFault Nat → Procedure)
  | close (descriptor : Nat) (next : Unit → Procedure)
  /-- Makes a descriptor mean the same as another. -/
  | copy (descriptor target : Nat) (next : Except FileFault Unit → Procedure)
  /-- Finds a free descriptor from ten on that means the same as another. -/
  | keep (descriptor : Nat) (next : Except FileFault Nat → Procedure)
  /-- Makes a pipe and learns the descriptors from which it is read and to which it is written. -/
  | pipe (next : Nat × Nat → Procedure)
  /-- Does nothing for some time, or until a signal is noted. -/
  | sleep (time : Duration) (next : Unit → Procedure)
  /-- Waits until a child ends; if `hurried`, only until a signal is noted. -/
  | wait (child : Nat) (hurried : Bool) (next : Awaited → Procedure)
  /-- Sends a signal to a process, or to a group of them if the number is negative or zero, and learns
  whether any is there. -/
  | signal (target : Int) (signal : Signal) (next : Bool → Procedure)
  /-- Begins a group of its own. -/
  | lead (next : Unit → Procedure)
  | react (signal : Signal) (reaction : Reaction) (next : Unit → Procedure)
  /-- Learns what lies where; the working directory is that of the process. -/
  | files (next : FileTree → Procedure)
  | change (edit : FileTree → Except FileFault FileTree) (next : Except FileFault Unit → Procedure)
  /-- Changes the working directory. -/
  | enter (path : String) (next : Except FileFault Unit → Procedure)
  /-- Learns the numbers of the process and of the one that started it. -/
  | identify (next : Nat × Nat → Procedure)
  /-- Learns how long a file is, if a descriptor means one. -/
  | measure (descriptor : Nat) (next : Option Nat → Procedure)
  /-- Learns the time on the clock. -/
  | clock (next : Duration → Procedure)
  /-- Becomes the program at a path, or learns why this cannot be done. -/
  | become (path : String) (arguments : List String) (environment : Environment)
      (next : FileFault → Procedure)

instance : Inhabited Procedure := ⟨.ended 0⟩

/-- A part of a procedure that gives a value to what comes after it. -/
def Act (α : Type) : Type := (α → Procedure) → Procedure

namespace Act

instance : Monad Act where
  pure a := fun next => next a
  bind x f := fun next => x fun a => f a next

instance {α : Type} : Inhabited (Act α) := ⟨fun _ => default⟩

instance : LawfulMonad Act :=
  LawfulMonad.mk' Act (fun _ => rfl) (fun _ _ => rfl) (fun _ _ _ => rfl)

/-- Ends the process with a code. -/
def finish {α : Type} (code : Nat) : Act α := fun _ => .ended code

/-- The procedure that an action is. -/
def toProcedure (x : Act Nat) : Procedure := x .ended

def fork (child : Act Nat) : Act Nat := Procedure.fork (toProcedure child)
def pause : Act (List Signal) := Procedure.pause
def read (descriptor : Nat) : Act (Except FileFault String) := Procedure.read descriptor .available
def readLine (descriptor : Nat) : Act (Except FileFault String) := Procedure.read descriptor .line
def readAtMost (descriptor bytes : Nat) : Act (Except FileFault String) :=
  Procedure.read descriptor (.atMost bytes)
def write (descriptor : Nat) (text : String) : Act (Except FileFault Unit) := Procedure.write descriptor text
def openFile (path : String) (mode : OpenMode) : Act (Except FileFault Nat) := Procedure.open path mode
def close (descriptor : Nat) : Act Unit := Procedure.close descriptor
def copy (descriptor target : Nat) : Act (Except FileFault Unit) := Procedure.copy descriptor target
def keep (descriptor : Nat) : Act (Except FileFault Nat) := Procedure.keep descriptor
def pipe : Act (Nat × Nat) := Procedure.pipe
def sleep (time : Duration) : Act Unit := Procedure.sleep time
def wait (child : Nat) (hurried : Bool) : Act Awaited := Procedure.wait child hurried
def signal (target : Int) (s : Signal) : Act Bool := Procedure.signal target s
def lead : Act Unit := Procedure.lead
def react (s : Signal) (reaction : Reaction) : Act Unit := Procedure.react s reaction
def files : Act FileTree := Procedure.files
def change (edit : FileTree → Except FileFault FileTree) : Act (Except FileFault Unit) := Procedure.change edit
def enter (path : String) : Act (Except FileFault Unit) := Procedure.enter path
def identify : Act (Nat × Nat) := Procedure.identify
def measure (descriptor : Nat) : Act (Option Nat) := Procedure.measure descriptor
def clock : Act Duration := Procedure.clock

/-- Becomes the program at a path; only a fault comes back. -/
def become (path : String) (arguments : List String) (environment : Environment) : Act FileFault :=
  Procedure.become path arguments environment

/-- The descriptor of the standard input. -/
def input : Nat := 0

/-- The descriptor of the standard output. -/
def output : Nat := 1

/-- The descriptor on which errors are reported. -/
def errors : Nat := 2

/-- Writes to the standard output, and ends the process if that cannot be done. -/
def print (text : String) : Act Unit := do
  if text.isEmpty then return
  match ← write output text with
  | .ok _ => pure ()
  | .error _ => finish 1

/-- Reports an error. -/
def complain (text : String) : Act Unit := do
  let _ ← write errors text

/-- How many times a procedure may do the same thing before it is given up. -/
def patience : Nat := 1000000000

/-- Does something again and again while it gives nothing, at most so many times. -/
def repeatWithin {α : Type} (step : Act (Option α)) : Nat → Act (Option α)
  | 0 => pure none
  | fuel + 1 => do
    match ← step with
    | some a => pure (some a)
    | none => repeatWithin step fuel

/-- Changes a value again and again until it is settled, at most so many times. -/
def settleWithin {σ α : Type} (step : σ → Act (Except σ α)) : Nat → σ → Act (Option α)
  | 0, _ => pure none
  | fuel + 1, s => do
    match ← step s with
    | .ok a => pure (some a)
    | .error s => settleWithin step fuel s

/-- Reads everything up to the end. -/
def readAll (descriptor : Nat) : Act (Except FileFault String) := do
  let step (text : String) : Act (Except String (Except FileFault String)) := do
    match ← read descriptor with
    | .error fault => pure (.ok (.error fault))
    | .ok more => pure (if more.isEmpty then .ok (.ok text) else .error (text ++ more))
  pure ((← settleWithin step patience "").getD (.ok ""))

/-- Reads the file at a path. -/
def readFile (path : String) : Act (Except FileFault String) := do
  match ← openFile path .read with
  | .error fault => pure (.error fault)
  | .ok descriptor => do
    let answer ← readAll descriptor
    close descriptor
    pure answer

end Act

end TierSweep
