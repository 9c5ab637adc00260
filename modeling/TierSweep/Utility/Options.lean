import TierSweep.Host.Executable

/-!
# Options of programs

The arguments of a program are options and operands. An option is a letter behind a dash, or a name
behind two; it may have an argument of its own. Options may come behind operands, but not behind two
dashes that stand alone.
-/

namespace TierSweep.Utility

/-- What a program does, with its arguments and its environment. -/
abbrev Body := Executable → Environment → Act Nat

/-- Which options a program has. -/
structure Options where
  /-- The letters of options. A colon follows a letter whose option has an argument. -/
  letters : String
  /-- The names of options and the letters that mean the same. -/
  names : List (String × Char)
  /-- Whether options may come behind operands. -/
  mixed : Bool

/-- The options and operands among some arguments. -/
structure Parsed where
  options : List (Char × String)
  operands : List String

namespace Parsed

/-- Whether an option is given. -/
def has (p : Parsed) (c : Char) : Bool := p.options.any (·.1 = c)

/-- The argument of an option that is given, the last time if it is given more than once. -/
def value? (p : Parsed) (c : Char) : Option String := p.options.reverse.lookup c

/-- Adds an option. -/
def withOption (p : Parsed) (c : Char) (value : String) : Parsed :=
  { p with options := (c, value) :: p.options }

/-- What only asks a program what it is. -/
def question : Parsed := ⟨[('?', "")], []⟩

/-- Adds an operand. -/
def withOperand (p : Parsed) (a : String) : Parsed := { p with operands := a :: p.operands }

end Parsed

namespace Options

/-- Whether the option of a letter has an argument, if there is such an option. -/
def argument? (o : Options) (c : Char) : Option Bool :=
  if c = ':' then none
  else
    let behind := o.letters.toList.dropWhile (· ≠ c)
    if behind.isEmpty then none else some ((behind.drop 1).head? = some ':')

/-- The letter of an option that is called by its name or the beginning of it. -/
def ofName? (o : Options) (name : String) : Option Char :=
  match o.names.lookup name with
  | some c => some c
  | none =>
    match (o.names.filter fun p => name.toList.isPrefixOf p.1.toList).map (·.2) with
    | c :: cs => if cs.all (· = c) then some c else none
    | [] => none

/-- The names of options by which any program is asked what it is. -/
def questions : List String := ["help", "version"]

/-- Sorts some arguments into options and operands, or tells what is wrong with them. -/
def parseWithin (o : Options) : Nat → List String → Except String Parsed
  | 0, as => .ok ⟨[], as⟩
  | _ + 1, [] => .ok ⟨[], []⟩
  | fuel + 1, a :: rest =>
    match a.toList with
    | ['-', '-'] => .ok ⟨[], rest⟩
    | '-' :: '-' :: cs =>
      let name := String.ofList (cs.takeWhile (· ≠ '='))
      let value? := if cs.contains '=' then some (String.ofList (cs.drop (name.length + 1))) else none
      match o.ofName? name with
      | none =>
        if questions.contains name then .ok .question else .error ("unrecognized option '" ++ a ++ "'")
      | some c =>
        match o.argument? c, value?, rest with
        | some true, some value, rest => (parseWithin o fuel rest).map (·.withOption c value)
        | some true, none, value :: rest => (parseWithin o fuel rest).map (·.withOption c value)
        | some true, none, [] => .error ("option '--" ++ name ++ "' requires an argument")
        | _, value?, rest => (parseWithin o fuel rest).map (·.withOption c (value?.getD ""))
    | '-' :: c :: cs =>
      match o.argument? c with
      | none => .error ("invalid option -- '" ++ String.singleton c ++ "'")
      | some false =>
        let more := if cs.isEmpty then rest else String.ofList ('-' :: cs) :: rest
        (parseWithin o fuel more).map (·.withOption c "")
      | some true =>
        match cs, rest with
        | [], [] => .error ("option requires an argument -- '" ++ String.singleton c ++ "'")
        | [], value :: rest => (parseWithin o fuel rest).map (·.withOption c value)
        | cs, rest => (parseWithin o fuel rest).map (·.withOption c (String.ofList cs))
    | _ =>
      if o.mixed then (parseWithin o fuel rest).map (·.withOperand a) else .ok ⟨[], a :: rest⟩

/-- Sorts the arguments of a program into options and operands. -/
def parse (o : Options) (as : List String) : Except String Parsed :=
  parseWithin o (as.foldl (fun n a => n + a.length + 1) 1) as

end Options

/-- A name in quotes. -/
def quoted (s : String) : String := "'" ++ s ++ "'"

/-- Reports an error of a program. -/
def complain (x : Executable) (text : String) : Act Unit :=
  Act.complain (x.self ++ ": " ++ text ++ "\n")

/-- Reports a wrong use of a program. -/
def misuse (x : Executable) (code : Nat) (text : String) : Act Nat := do
  complain x text
  Act.complain ("Try '" ++ x.self ++ " --help' for more information.\n")
  return code

/-- Tells what a program is. -/
def introduce (x : Executable) : Act Nat := do
  Act.print ("Usage: " ++ x.self ++ " [OPTION]... [ARG]...\n")
  return 0

/-- Does what a program does with its options, or reports that they are wrong. -/
def withOptions (o : Options) (wrong : Nat) (x : Executable) (body : Parsed → Act Nat) : Act Nat := do
  match o.parse x.arguments with
  | .ok p => if p.has '?' then introduce x else body p
  | .error fault => misuse x wrong fault

/-- Asks a question and reads the answer; whether it is yes. -/
def confirms (x : Executable) (question : String) : Act Bool := do
  Act.complain (x.self ++ ": " ++ question ++ "? ")
  match ← Act.readLine Act.input with
  | .ok answer => return answer.startsWith "y" || answer.startsWith "Y"
  | .error _ => return false

/-- Reports operands where there should be none. -/
def withoutOperands (x : Executable) (p : Parsed) (body : Act Nat) : Act Nat :=
  match p.operands with
  | [] => body
  | extra :: _ => misuse x 1 ("extra operand " ++ quoted extra)

/-- Does something for each of some operands; whether all went well. -/
def forEach (as : List String) (body : String → Act Bool) : Act Bool :=
  as.foldlM (fun fine a => do return (← body a) && fine) true

/-- The code for success or failure. -/
def codeOf (fine : Bool) : Nat := if fine then 0 else 1

/-- Does something with each of some files, of which a dash is the standard input, and reports those
that cannot be read. Without any, it is the standard input. -/
def withInputs (x : Executable) (names : List String) (body : String → String → Act Bool) : Act Bool :=
  forEach (if names.isEmpty then ["-"] else names) fun name => do
    let answer ← if name = "-" then Act.readAll Act.input else Act.readFile name
    match answer with
    | .ok text => body name text
    | .error fault => do
      complain x (name ++ ": " ++ fault.words)
      return false

/-- The lines of a text without their ends. What comes behind the last end is a line if there is
anything. -/
def linesOf (text : String) : List String :=
  let parts := text.splitOn "\n"
  if parts.getLast? = some "" then parts.dropLast else parts

/-- A text made of lines. -/
def unlines (ls : List String) : String := String.join (ls.map (· ++ "\n"))

end TierSweep.Utility
