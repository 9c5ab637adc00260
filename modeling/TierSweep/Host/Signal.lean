/-!
# Signals

A signal is a number that one process sends another. What it does, unless the process says otherwise,
is to end the process, to stop it, to let it go on, or nothing.
-/

namespace TierSweep

/-- A signal. -/
structure Signal where
  number : Nat
  deriving DecidableEq

namespace Signal

/-- The names of the signals from number one on. -/
def names : List String :=
  ["HUP", "INT", "QUIT", "ILL", "TRAP", "ABRT", "BUS", "FPE", "KILL", "USR1", "SEGV", "USR2", "PIPE",
    "ALRM", "TERM", "STKFLT", "CHLD", "CONT", "STOP", "TSTP", "TTIN", "TTOU", "URG", "XCPU", "XFSZ",
    "VTALRM", "PROF", "WINCH", "IO", "PWR", "SYS"]

/-- The greatest number of a signal. -/
def last : Nat := 64

def interrupt : Signal := ⟨2⟩
def quit : Signal := ⟨3⟩
def kill : Signal := ⟨9⟩
def segmentation : Signal := ⟨11⟩
def pipe : Signal := ⟨13⟩
def terminate : Signal := ⟨15⟩
def childEnded : Signal := ⟨17⟩
def resume : Signal := ⟨18⟩

/-- What a signal does to a process that has not said otherwise. -/
inductive Effect where
  | ends
  | stops
  | resumes
  | nothing
  deriving DecidableEq

/-- The effect of a signal. Number zero is no signal and only asks whether the process is there. -/
def effect (s : Signal) : Effect :=
  if s.number = 0 then .nothing
  else if s = resume then .resumes
  else if [19, 20, 21, 22].contains s.number then .stops
  else if [17, 23, 28].contains s.number then .nothing
  else .ends

/-- Whether a process can neither ignore nor catch the signal. -/
def isFinal (s : Signal) : Bool := [9, 19].contains s.number

/-- The signal of a name, which is written in capitals. -/
def ofName? (name : String) : Option Signal :=
  (names.idxOf? name).map fun i => ⟨i + 1⟩

/-- The name of a signal. -/
def name? (s : Signal) : Option String :=
  if s.number = 0 then none else names[s.number - 1]?

end Signal

end TierSweep
