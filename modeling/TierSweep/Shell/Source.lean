import TierSweep.Shell.Command

/-!
# Reading scripts: the source

The source of a script is the text that is left to be read. A here-document is taken out of the source
as soon as it is announced, so that what follows its announcement is read as if it were not there.
-/

namespace TierSweep.Shell

/-- A script that cannot be read, and the line in which this shows. -/
structure Misreading where
  line : Nat
  text : String

/-- What a script is made of. -/
inductive Token where
  | word (w : Word)
  | operator (text : String)
  /-- The beginning of a redirection, which may name a descriptor. -/
  | redirection (descriptor? : Option Nat) (operator : String)
  | newline
  | finish

/-- A script that is being read. -/
structure Source where
  rest : List Char
  line : Nat
  /-- How many lines were taken out behind the present one. -/
  hidden : Nat
  /-- A token that was read but not used yet. -/
  ahead? : Option Token
  aliases : List (String × String)
  /-- The aliases whose text is being read, and how much is left when it has been. -/
  expanding : List (String × Nat)

/-- Reads part of a script. -/
abbrev Reader := StateT Source (Except Misreading)

namespace Source

/-- The source of a script. -/
def ofText (text : String) (line : Nat) (aliases : List (String × String)) : Source :=
  ⟨text.toList, line, 0, none, aliases, []⟩

end Source

/-- Whether a character is a letter, or an underscore, or with `digits` a digit. -/
def isNameChar (digits : Bool) (c : Char) : Bool :=
  c.isAlpha || c = '_' || (digits && c.isDigit)

/-- Whether a text is a name for a parameter. -/
def isName (s : String) : Bool :=
  match s.toList with
  | [] => false
  | c :: cs => isNameChar false c && cs.all (isNameChar true)

/-- Whether a character separates words. -/
def isBlank (c : Char) : Bool := c = ' ' || c = '\t'

/-- Whether a character ends a word outside quotes. -/
def endsWord (c : Char) : Bool :=
  isBlank c || c = '\n' || c = ';' || c = '&' || c = '|' || c = '<' || c = '>' || c = '(' || c = ')'

/-- Whether a character names a parameter by itself. -/
def isSpecial (c : Char) : Bool :=
  c.isDigit || ['@', '*', '#', '?', '-', '$', '!'].contains c

namespace Reader

/-- Gives up. -/
def fail {α : Type} (text : String) : Reader α := fun s => .error ⟨s.line, text⟩

/-- The characters left to be read. -/
def rest : Reader (List Char) := do return (← get).rest

/-- Passes over characters, some of which may end lines. -/
def skip (n : Nat) : Reader Unit :=
  modify fun s =>
    let ends := (s.rest.take n).count '\n'
    if ends = 0 then { s with rest := s.rest.drop n }
    else { s with rest := s.rest.drop n, line := s.line + ends + s.hidden, hidden := 0 }

/-- Reads again and again until nothing comes back, at most so many times. -/
def manyWithin {α : Type} (step : Reader (Option α)) : Nat → Reader (List α)
  | 0 => pure []
  | fuel + 1 => do
    match ← step with
    | none => pure []
    | some a => return a :: (← manyWithin step fuel)

/-- Reads again and again until nothing comes back. Each time at least one character is used up, or
the token read ahead. -/
def many {α : Type} (step : Reader (Option α)) : Reader (List α) := do
  manyWithin step ((← get).rest.length + 2)

end Reader

/-- How many characters there are up to the end of the line and with it, quoted ones passed over. -/
def lineLength : List Char → Option Char → Nat
  | [], _ => 0
  | '\\' :: '\n' :: cs, some '\'' => 2 + lineLength cs (some '\'')
  | '\\' :: _ :: cs, none => 2 + lineLength cs none
  | '\\' :: _ :: cs, some '"' => 2 + lineLength cs (some '"')
  | c :: cs, some q => 1 + lineLength cs (if c = q then none else some q)
  | c :: cs, none =>
    if c = '\n' then 1
    else 1 + lineLength cs (if c = '\'' ∨ c = '"' then some c else none)

/-- A text cut into lines, each with the character that ends it. -/
def linesOf : List Char → List (List Char)
  | [] => []
  | c :: cs =>
    if c = '\n' then [c] :: linesOf cs
    else match linesOf cs with
      | [] => [[c]]
      | l :: ls => (c :: l) :: ls

/-- Reads the delimiter of a here-document: its text, and whether anything in it is quoted. -/
def readDelimiter : Nat → List Char → List Char × Bool × List Char
  | 0, cs => ([], false, cs)
  | _ + 1, [] => ([], false, [])
  | fuel + 1, c :: cs =>
    let add (text : List Char) (quoted : Bool) (left : List Char) : List Char × Bool × List Char :=
      let (more, alsoQuoted, left) := readDelimiter fuel left
      (text ++ more, quoted || alsoQuoted, left)
    if c = '\'' ∨ c = '"' then
      let text := cs.takeWhile (· ≠ c)
      add text true (cs.drop (text.length + 1))
    else if c = '\\' then
      match cs with
      | [] => ([], true, [])
      | e :: cs => add [e] true cs
    else if endsWord c then ([], false, c :: cs)
    else add [c] false cs

/-- A here-document: its lines and what comes after it. -/
def documentLines (delimiter : List Char) (dropTabs : Bool) :
    List (List Char) → List (List Char) × List (List Char)
  | [] => ([], [])
  | l :: ls =>
    let l := if dropTabs then l.dropWhile (· = '\t') else l
    if (if l.getLast? = some '\n' then l.dropLast else l) = delimiter then ([], ls)
    else
      let (body, after) := documentLines delimiter dropTabs ls
      (l :: body, after)

/-- Takes a here-document out of the source: its text and whether its delimiter is quoted. -/
def takeDocument (dropTabs : Bool) : Reader (String × Bool) := do
  let s ← get
  let start := s.rest.dropWhile isBlank
  let (delimiter, quoted, left) := readDelimiter (start.length + 1) start
  let n := lineLength left none
  let ls := linesOf (left.drop n)
  let (body, after) := documentLines delimiter dropTabs ls
  set { s with
    rest := left.take n ++ after.flatten
    hidden := s.hidden + (ls.length - after.length) }
  return (String.ofList body.flatten, quoted)

end TierSweep.Shell
