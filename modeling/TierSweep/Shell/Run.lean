import TierSweep.Shell.State
import TierSweep.Text.Octets

/-!
# Running a shell

What a shell does reads and changes its state, asks the machine, and may jump: out of a loop, a function,
or the shell itself.
-/

namespace TierSweep.Shell

/-- What makes a shell leave what it is doing. The code is in its state. -/
inductive Jump where
  /-- Out of so many loops. -/
  | breaks (levels : Nat)
  /-- To the next time in the last of so many loops. -/
  | continues (levels : Nat)
  /-- Out of a function or a script that is carried out inside another. -/
  | returns
  /-- Out of the shell. -/
  | exits
  /-- Out of the shell because of an error. -/
  | fails

/-- What a shell does. -/
abbrev Run := ExceptT Jump (StateT State Act)

/-- The text of a script. Zero bytes in it do not count. -/
def scriptText (text : String) : String := String.ofList (text.toList.filter (· ≠ '\x00'))

/-- Reads a script. A directory counts as an empty one. -/
def readScript (path : String) : Act (Except FileFault String) := do
  match ← Act.readFile path with
  | .error .isDirectory => return .ok ""
  | answer => return answer.map scriptText

namespace Run

/-- Asks the machine. -/
def ask {α : Type} (x : Act α) : Run α := liftM x

/-- What a shell does, together with how it was left. -/
def attempt {α : Type} (x : Run α) : Run (Except Jump α) := ExceptT.mk (do return .ok (← x.run))

/-- Goes on as it was left. -/
def resume {α : Type} (r : Except Jump α) : Run α := ExceptT.mk (pure r)

/-- Does something afterwards, however the first was left. -/
def andThen {α : Type} (x : Run α) (after : Run Unit) : Run α := do
  let r ← attempt x
  after
  resume r

/-- Reports something to the user. -/
def report (text : String) : Run Unit := do
  let s ← get
  let about := match s.builtin? with
    | some name => name ++ ": "
    | none => ""
  ask (Act.complain (s.self ++ ": " ++ toString s.line ++ ": " ++ about ++ text ++ "\n"))

/-- Sets the code of the last command. -/
def setStatus (code : Nat) : Run Unit := modify fun s => { s with status := code }

/-- Reports an error and leaves the shell. -/
def fail {α : Type} (text : String) : Run α := do
  report text
  setStatus 2
  throw .fails

/-- Leaves the shell. -/
def exit {α : Type} (code : Nat) : Run α := do
  setStatus code
  throw .exits

/-- Gives a parameter a value. -/
def assign (name value : String) : Run Unit := do
  match (← get).lookup? name with
  | some ⟨_, _, true⟩ => fail (name ++ ": is read only")
  | _ => modify fun s => s.setValue name value

/-- Takes a parameter away. -/
def unassign (name : String) : Run Unit := do
  match (← get).lookup? name with
  | some ⟨_, _, true⟩ => fail (name ++ ": is read only")
  | _ => modify fun s => s.unset name

/-- The number that digits write. -/
def number (text : String) : Run Nat := do
  let cs := text.toList
  if cs.isEmpty || !cs.all Char.isDigit || 2147483647 < (text.toNat?.getD 0) then
    fail ("Illegal number: " ++ text)
  return text.toNat?.getD 0

/-- Writes to the standard output: code zero, or one if that cannot be done. -/
def print (text : String) : Run Nat := do
  if text.isEmpty then return 0
  match ← ask (Act.write Act.output text) with
  | .ok _ => return 0
  | .error _ =>
    report "I/O error"
    return 1

end Run

end TierSweep.Shell
