import TierSweep.Session

/-!
# The command line

A command line names an action, an experiment and options. An option that takes a value has it after
an equals sign or as the next argument, which must not look like an option itself. No option may be
given twice, and nothing may be left over.
-/

namespace TierSweep

/-- Why a command line leads to no action. -/
inductive UsageFault where
  /-- Help was asked for. -/
  | help
  | wrong
  deriving DecidableEq, Repr

/-- What the value of an option must be. -/
inductive ValueKind where
  /-- A path, which must not be empty. -/
  | path
  /-- A number of sixty-four bits. -/
  | count
  deriving DecidableEq, Repr

/-- An option of an action by name. -/
inductive OptionForm where
  | flag (name : String)
  | valued (name : String) (kind : ValueKind)
  deriving DecidableEq, Repr

/-- The name of an option. -/
def OptionForm.name : OptionForm → String
  | flag name => name
  | valued name _ => name

/-- What was given on a command line. -/
structure GivenArguments where
  flags : List String
  values : List (String × String)
  /-- The arguments that belong to no option. -/
  operands : List String
  deriving DecidableEq, Repr

namespace GivenArguments

/-- Nothing. -/
def empty : GivenArguments := ⟨[], [], []⟩

/-- Adds a flag, which must be new. -/
def addFlag (g : GivenArguments) (name : String) : Except UsageFault GivenArguments :=
  if g.flags.contains name then .error .wrong else .ok { g with flags := name :: g.flags }

/-- The number that digits write, with an optional plus sign in front. -/
def count? (s : String) : Option Nat :=
  let digits := match s.toList with
    | '+' :: rest => rest
    | rest => rest
  if digits.isEmpty ∨ !digits.all Char.isDigit then none
  else
    let n := digits.foldl (fun n c => 10 * n + (c.toNat - '0'.toNat)) 0
    if n ≤ Json.maxNat64 then some n else none

/-- Whether a text can be the value of an option. -/
def fits (kind : ValueKind) (value : String) : Bool :=
  match kind with
  | .path => !value.isEmpty
  | .count => (count? value).isSome

/-- Adds an option with its value, which must be new. -/
def addValue (g : GivenArguments) (name : String) (kind : ValueKind) (value : String) :
    Except UsageFault GivenArguments :=
  if (g.values.lookup name).isSome ∨ !fits kind value then .error .wrong
  else .ok { g with values := (name, value) :: g.values }

/-- Adds an operand. There must be no more than one. -/
def addOperand (g : GivenArguments) (operand : String) : Except UsageFault GivenArguments :=
  if g.operands.isEmpty then .ok { g with operands := [operand] } else .error .wrong

/-- The flag that is spelled with one letter. -/
def verbose : String := "verbose"

/-- Adds flags spelled with one letter each. -/
def addLetters (g : GivenArguments) : List Char → Except UsageFault GivenArguments
  | [] => .ok g
  | c :: rest =>
    if c = 'v' then do addLetters (← g.addFlag verbose) rest
    else if c = 'h' then .error .help
    else .error .wrong

/-- How an argument looks. -/
inductive Shape where
  | separator
  /-- A named option with the value attached to it, if there is one. -/
  | long (name : String) (value? : Option String)
  | letters (cs : List Char)
  | plain
  deriving DecidableEq

/-- The look of an argument. -/
def shape (argument : String) : Shape :=
  match argument.toList with
  | ['-', '-'] => .separator
  | '-' :: '-' :: rest =>
    let name := rest.takeWhile (· ≠ '=')
    match rest.drop name.length with
    | _ :: value => .long (String.ofList name) (some (String.ofList value))
    | [] => .long (String.ofList name) none
  | ['-'] => .plain
  | '-' :: rest => .letters rest
  | _ => .plain

/-- Reads the arguments of an action. -/
def read (forms : List OptionForm) : List String → GivenArguments → Except UsageFault GivenArguments
  | [], g => .ok g
  | [a], g =>
    match shape a with
    | .separator => .ok g
    | .letters cs => g.addLetters cs
    | .plain => g.addOperand a
    | .long name value? =>
      match forms.find? (·.name = name), value? with
      | some (.flag _), none => g.addFlag name
      | some (.valued _ kind), some value => g.addValue name kind value
      | none, none => .error (if name = "help" then .help else .wrong)
      | _, _ => .error .wrong
  | a :: b :: rest, g =>
    match shape a with
    | .separator => (b :: rest).foldlM addOperand g
    | .letters cs => do read forms (b :: rest) (← g.addLetters cs)
    | .plain => do read forms (b :: rest) (← g.addOperand a)
    | .long name value? =>
      match forms.find? (·.name = name), value? with
      | some (.flag _), none => do read forms (b :: rest) (← g.addFlag name)
      | some (.valued _ kind), some value => do read forms (b :: rest) (← g.addValue name kind value)
      | some (.valued _ kind), none =>
        if shape b = .plain then do read forms rest (← g.addValue name kind b)
        else .error .wrong
      | none, none => .error (if name = "help" then .help else .wrong)
      | _, _ => .error .wrong

/-- The value of an option as a path, or a standard one. -/
def pathOr (g : GivenArguments) (name standard : String) : Path :=
  .ofString ((g.values.lookup name).getD standard)

/-- The value of an option as a number. -/
def number? (g : GivenArguments) (name : String) : Option Nat := g.values.lookup name >>= count?

end GivenArguments

/-- Where the specification of an experiment is. -/
structure SpecSource where
  experiment : String
  directory : Path
  file? : Option Path
  deriving DecidableEq

namespace SpecSource

/-- The file of the specification: the one given, or the expected one. -/
def path (s : SpecSource) : Path := s.file?.getD (specFile s.directory s.experiment)

end SpecSource

/-- What a command line asks for. -/
inductive Action where
  /-- To run a sweep. -/
  | sweep (source : SpecSource) (options : SweepOptions) (report? : Option Path)
      (failOnError : Bool)
  /-- To print what a sweep would do. -/
  | plan (source : SpecSource) (experiment : Experiment) (benchmark : Path) (asJson : Bool)
  /-- To print what the identifiers leave out. -/
  | check (source : SpecSource)

namespace Action

open GivenArguments

/-- The options of all actions. -/
def sourceForms : List OptionForm :=
  [.flag verbose, .valued "experiment-dir" .path, .valued "spec" .path]

/-- The options that say what is launched and where results go. -/
def launchForms : List OptionForm := [.valued "executable" .path, .valued "result-root" .path]

/-- The options of planning. -/
def planForms : List OptionForm := sourceForms ++ launchForms ++ [.flag "json"]

/-- The options of running. -/
def runForms : List OptionForm :=
  sourceForms ++ launchForms
    ++ [.valued "timeout-secs" .count, .valued "timeout-grace-secs" .count, .valued "poll-ms" .count,
      .valued "report" .path, .flag "fail-on-error"]

/-- The source of the specification, which needs an experiment. -/
def sourceOf (g : GivenArguments) : Except UsageFault SpecSource :=
  match g.operands with
  | [experiment] =>
    .ok ⟨experiment, g.pathOr "experiment-dir" "experiment", (g.values.lookup "spec").map .ofString⟩
  | _ => .error .wrong

/-- The experiment with the root of its results. -/
def experimentOf (g : GivenArguments) (source : SpecSource) : Experiment :=
  ⟨g.pathOr "result-root" SweepOptions.standardRoot, source.experiment⟩

/-- The benchmark. -/
def benchmarkOf (g : GivenArguments) : Path :=
  g.pathOr "executable" SweepOptions.standardBenchmark

/-- How long a run may take: a fixed time, of which zero means as long as it likes, or the running time
and a grace period. -/
def timeLimitOf (g : GivenArguments) : TimeLimit :=
  match g.number? "timeout-secs" with
  | some 0 => .unlimited
  | some n => .uniform (.ofSeconds n)
  | none =>
    .beyondRunningTime
      (.ofSeconds ((g.number? "timeout-grace-secs").getD TimeLimit.standardGraceSeconds))

/-- The time between two looks at the benchmark, which is at least a millisecond. -/
def intervalOf (g : GivenArguments) : Duration :=
  .ofMillis (max 1 ((g.number? "poll-ms").getD SweepOptions.standardIntervalMillis))

/-- The names of the actions. -/
def names : List String := ["run", "plan", "check"]

/-- What a request for help comes to: there is help in general and for each action. -/
def helpFor : List String → UsageFault
  | [] => .help
  | [name] => if name = "help" ∨ names.contains name then .help else .wrong
  | _ => .wrong

/-- The action of a name with its arguments. -/
def ofName (name : String) (arguments : List String) : Except UsageFault Action :=
  match name with
  | "run" => do
    let g ← read runForms arguments GivenArguments.empty
    let source ← sourceOf g
    pure (.sweep source
      { experiment := experimentOf g source
        benchmark := benchmarkOf g
        timeLimit := timeLimitOf g
        interval := intervalOf g
        constraints := .standard }
      ((g.values.lookup "report").map .ofString) (g.flags.contains "fail-on-error"))
  | "plan" => do
    let g ← read planForms arguments GivenArguments.empty
    let source ← sourceOf g
    pure (.plan source (experimentOf g source) (benchmarkOf g) (g.flags.contains "json"))
  | "check" => do
    let g ← read sourceForms arguments GivenArguments.empty
    pure (.check (← sourceOf g))
  | "help" => .error (helpFor arguments)
  | _ => .error .wrong

/-- The action after what was given in front of its name. -/
def after (g : GivenArguments) : List String → Except UsageFault Action
  | [] => .error .wrong
  | a :: rest =>
    match shape a with
    | .separator => .error .wrong
    | .plain => ofName a rest
    | .letters cs => do after (← g.addLetters cs) rest
    | .long name value? =>
      if name = verbose ∧ value? = none then do after (← g.addFlag verbose) rest
      else .error (if name = "help" ∧ value? = none then .help else .wrong)

/-- The action a command line asks for. -/
def ofArguments (arguments : List String) : Except UsageFault Action :=
  after GivenArguments.empty arguments

end Action

end TierSweep
