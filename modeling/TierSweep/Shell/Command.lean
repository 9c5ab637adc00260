/-!
# Commands

A script is read as commands. The words of a command are made of parts: text that stands for itself,
text that was quoted, and things that are replaced by text when the command is carried out.
-/

namespace TierSweep.Shell

/-- What happens when a parameter is not set. -/
inductive Fallback where
  /-- The word takes the place of the value. -/
  | substitute
  /-- The word becomes the value. -/
  | assign
  /-- The word is the report of an error. -/
  | complain
  /-- The word takes the place of a value that is set. -/
  | alternative
  deriving DecidableEq

/-- How a file is used in a redirection. -/
inductive Direction where
  | input
  | output
  /-- Output to a file even if it is there and must not be overwritten. -/
  | clobber
  | append
  | update
  deriving DecidableEq

mutual

/-- A part of a word. -/
inductive Part where
  /-- Text outside quotes. -/
  | plain (text : String)
  /-- Text in quotes. An empty one marks quotes in which there is nothing. -/
  | quoted (text : String)
  /-- A parameter. -/
  | value (name : String) (use : Use) (inQuotes : Bool)
  /-- What a command writes. -/
  | output (command : Command) (inQuotes : Bool)
  /-- The number that an expression comes to. -/
  | number (expression : List Part) (inQuotes : Bool)

/-- What is made of the value of a parameter. -/
inductive Use where
  | itself
  | size
  /-- The value without what matches a pattern at one of its ends. -/
  | trim (atEnd longest : Bool) (pattern : List Part)
  /-- The value or something else, according to whether it is set; if `emptyToo`, an empty value counts
  as not set. -/
  | orElse (fallback : Fallback) (emptyToo : Bool) (word : List Part)
  /-- Something that has no meaning. -/
  | senseless

/-- What a descriptor is to mean while a command is carried out. -/
inductive Redirection where
  | file (descriptor : Nat) (direction : Direction) (target : List Part)
  /-- The same as another descriptor, or nothing. -/
  | copy (descriptor : Nat) (target : List Part)
  /-- A text that is read from it. -/
  | text (descriptor : Nat) (body : List Part)

/-- A command. Lines are those of the script in which commands begin. -/
inductive Command where
  | simple (line : Nat) (assignments : List (String × List Part)) (words : List (List Part))
      (redirections : List Redirection)
  /-- Commands one after another. -/
  | sequence (commands : List Command)
  /-- Commands at the same time, each reading what the one before writes. -/
  | pipeline (commands : List Command)
  | background (command : Command)
  /-- The second one if the first succeeds. -/
  | both (first second : Command)
  /-- The second one if the first fails. -/
  | either (first second : Command)
  | negated (command : Command)
  | choose (condition onTrue onFalse : Command)
  /-- As long as the condition does not succeed, or does not fail, as `stopsAt` says. -/
  | loop (stopsAt : Bool) (condition body : Command)
  /-- Once for each word, or for each argument of the script. -/
  | each (line : Nat) (name : String) (words : Option (List (List Part))) (body : Command)
  | select (line : Nat) (subject : List Part) (arms : List (List (List Part) × Command))
  | subshell (line : Nat) (command : Command) (redirections : List Redirection)
  | redirected (line : Nat) (command : Command) (redirections : List Redirection)
  /-- Gives a command a name. -/
  | define (line : Nat) (name : String) (body : Command)

end

/-- A word. -/
abbrev Word := List Part

namespace Command

/-- The command that does nothing. -/
def nothing : Command := .sequence []

instance : Inhabited Command := ⟨nothing⟩

/-- Whether there is nothing to do. -/
def isNothing : Command → Bool
  | .sequence [] => true
  | _ => false

end Command

namespace Word

/-- The text of a word that is the same whatever happens. -/
def fixed? : Word → Option String
  | [] => some ""
  | .plain s :: rest => (fixed? rest).map (s ++ ·)
  | .quoted s :: rest => (fixed? rest).map (s ++ ·)
  | _ :: _ => none

/-- The text of a word in which nothing is quoted or replaced. -/
def bare? : Word → Option String
  | [] => some ""
  | .plain s :: rest => (bare? rest).map (s ++ ·)
  | _ :: _ => none

/-- Whether some part of a word is quoted. -/
def hasQuotes (w : Word) : Bool :=
  w.any fun
    | .quoted _ => true
    | _ => false

end Word

end TierSweep.Shell
