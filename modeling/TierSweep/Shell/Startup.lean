import TierSweep.Host.Turn
import TierSweep.Shell.Evaluation

/-!
# Starting a shell

A shell is given options and then a script: as an argument, in a file, or on its input. The arguments
that are left are those of the script.
-/

namespace TierSweep.Shell.Startup

/-- Where the script is. -/
inductive Origin where
  | argument
  | file
  | input
  deriving DecidableEq

/-- The state of a shell that has done nothing. -/
def fresh (self : String) (environment : Environment) (id parent : Nat) (working : Place) : State :=
  let inherited := environment.filter fun p => isName p.1 && p.1 ≠ "IFS"
  let parameters := inherited.map fun p => (p.1, (⟨some p.2, true, false⟩ : Parameter))
  let own (vs : List (String × Parameter)) (p : String × String) : List (String × Parameter) :=
    match vs.lookup p.1 with
    | some v => State.putEntry p.1 { v with value? := some p.2 } vs
    | none => vs ++ [(p.1, ⟨some p.2, false, false⟩)]
  { self
    arguments := []
    parameters := [("IFS", " \t\n"), ("OPTIND", "1"), ("PPID", toString parent), ("PS1", "# "), ("PS2", "> "),
      ("PS4", "+ "), ("PWD", Octets.ofBytes (Path.slash :: Path.unsegments working))].foldl own parameters
    saved := []
    functions := []
    aliases := []
    options := []
    status := 0
    shell := id
    parent := parent
    lastJob? := none
    jobs := []
    traps := []
    loops := 0
    line := 0
    optionOffset := 0
    expansionStatus := 0
    depth := 0
    pending := []
    mask := Mode.usualMask
    builtin? := none }

/-- Takes options off the front of the arguments of a shell: whether the script is an argument, and what
is left. -/
def takeOptions : Nat → Bool → List String → Run (Bool × List String)
  | 0, isArgument, as => return (isArgument, as)
  | _ + 1, isArgument, [] => return (isArgument, [])
  | fuel + 1, isArgument, a :: rest => do
    match a.toList with
    | ['-'] | ['-', '-'] => return (isArgument, rest)
    | ['+'] => return (isArgument, a :: rest)
    | sign :: letters =>
      if sign ≠ '-' && sign ≠ '+' then return (isArgument, a :: rest)
      let on := sign = '-'
      letters.forM fun c => do
        if c = 'l' || c = 'o' || (c = 'c' && on) then return
        Builtin.letterOption on c
      let isArgument := isArgument || (on && letters.contains 'c')
      if letters.contains 'o' then
        match rest with
        | name :: rest =>
          Builtin.namedOption on name
          takeOptions fuel isArgument rest
        | [] => takeOptions fuel isArgument []
      else takeOptions fuel isArgument rest
    | [] => return (isArgument, a :: rest)

/-- Carries out the script that a shell is given. -/
def work (arguments : List String) : Run Unit := do
  let (isArgument, rest) ← takeOptions (arguments.length + 1) false arguments
  let s ← get
  if isArgument then
    match rest with
    | [] => Run.fail "-c requires an argument"
    | text :: rest =>
      match rest with
      | self :: rest => set { s with self, arguments := rest, line := 1 }
      | [] => set { s with arguments := [], line := 1 }
      Evaluation.runText Evaluation.evaluator ⟨false, true⟩ text
  else match if s.has 's' then none else rest.head? with
    | some name =>
      match ← Run.ask (readScript name) with
      | .error fault => Run.fail (Rerouting.openFault false name fault)
      | .ok text =>
        set { s with self := name, arguments := rest.tail, line := 1 }
        Evaluation.runText Evaluation.evaluator .plain text
    | none =>
      set { s with options := 's' :: s.options.filter (· ≠ 's'), arguments := rest, line := 1 }
      let text ← Run.ask (Act.readAll Act.input)
      Evaluation.runText Evaluation.evaluator .plain (scriptText (text.toOption.getD ""))

/-- What a shell does. -/
def shell (x : Executable) (environment : Environment) : Act Nat := do
  let (id, parent) ← Act.identify
  let t ← Act.files
  Evaluation.toAct Evaluation.evaluator (work x.arguments) (fresh x.self environment id parent t.working)

end TierSweep.Shell.Startup
