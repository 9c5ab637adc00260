import TierSweep.Host.Procedure
import TierSweep.Shell.Command

/-!
# The state of a shell

A shell remembers its parameters, functions and options, what it does on signals, and the processes it
started and did not wait for.
-/

namespace TierSweep.Shell

/-- A parameter with a name. -/
structure Parameter where
  /-- Its value, if it is set. -/
  value? : Option String
  /-- Whether programs that are called get it in their environment. -/
  exported : Bool
  /-- Whether it cannot be set again. -/
  fixed : Bool

/-- The processes of a command that was started in the background. -/
structure Job where
  /-- They are told apart by the number of the last one. -/
  id : Nat
  processes : List Nat
  /-- The code of the last one, if it was waited for. -/
  code? : Option Nat

/-- The state of a shell. -/
structure State where
  /-- The name under which it was called. -/
  self : String
  arguments : List String
  parameters : List (String × Parameter)
  /-- What parameters were before they became local, for each function that is being carried out. -/
  saved : List (List (String × Option Parameter))
  functions : List (String × Command)
  aliases : List (String × String)
  /-- The letters of the options that are set. -/
  options : List Char
  /-- The code of the last command. -/
  status : Nat
  /-- The number of the process it was in the beginning. -/
  shell : Nat
  parent : Nat
  lastJob? : Option Nat
  jobs : List Job
  /-- What is done on signals. Number zero stands for the end of the shell, and nothing is done for an
  empty text. -/
  traps : List (Nat × String)
  /-- How many loops are being carried out. -/
  loops : Nat
  line : Nat
  /-- How many characters of an argument with options were used. -/
  optionOffset : Nat
  /-- The code that a command in the last expansion ended with. -/
  expansionStatus : Nat
  /-- How deep functions call one another. -/
  depth : Nat
  /-- The signals that were noted and on which nothing was done yet. -/
  pending : List Signal
  /-- The rights that are withheld from new files. -/
  mask : Nat
  /-- The name of the builtin that is being carried out. -/
  builtin? : Option String

namespace State

/-- Whether an option is set. -/
def has (s : State) (option : Char) : Bool := s.options.contains option

/-- A parameter with a name. -/
def lookup? (s : State) (name : String) : Option Parameter := s.parameters.lookup name

/-- The value of a parameter with a name, if it is set. -/
def value? (s : State) (name : String) : Option String := s.lookup? name >>= Parameter.value?

/-- Puts an entry in the place of one that has the same name. -/
def putEntry {α : Type} (name : String) (a : α) : List (String × α) → List (String × α)
  | [] => [(name, a)]
  | (n, b) :: rest => if n = name then (n, a) :: rest else (n, b) :: putEntry name a rest

/-- Puts a parameter. -/
def put (s : State) (name : String) (v : Parameter) : State :=
  { s with parameters := putEntry name v s.parameters }

/-- Gives a parameter a value, whether or not it can be set. -/
def setValue (s : State) (name value : String) : State :=
  let v := (s.lookup? name).getD ⟨none, false, false⟩
  s.put name { v with value? := some value, exported := v.exported || s.has 'a' }

/-- Takes a parameter away. -/
def unset (s : State) (name : String) : State :=
  { s with parameters := s.parameters.filter (·.1 ≠ name) }

/-- What programs that are called get as their environment. -/
def environment (s : State) : Environment :=
  s.parameters.filterMap fun p =>
    if p.2.exported then p.2.value?.map (p.1, ·) else none

/-- The characters that separate fields. -/
def separators (s : State) : List Char := ((s.value? "IFS").getD " \t\n").toList

/-- The options that are set, as their letters. -/
def flags (s : State) : String :=
  String.ofList ("pubaCEVvxsnmiIfe".toList.filter s.options.contains)

end State

end TierSweep.Shell
