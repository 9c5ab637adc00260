import TierSweep.FileTree.Rearrangement
import TierSweep.Host.Executable

/-!
# Conditions on texts and files

A condition is a list of words: texts, operators in front of one word or between two, and what joins
conditions. Which words are operators depends on what is around them.
-/

namespace TierSweep.Condition

/-- What a word is in a condition. -/
inductive Role where
  | text
  | unary
  | binary
  | not
  | both
  | either
  | opening
  | closing
  deriving DecidableEq

/-- The operators in front of one word. -/
def unaryOperators : List String :=
  ["-r", "-w", "-x", "-e", "-f", "-d", "-c", "-b", "-p", "-u", "-g", "-k", "-s", "-t", "-z", "-n", "-h",
    "-L", "-O", "-G", "-S"]

/-- The operators between two words. -/
def binaryOperators : List String :=
  ["=", "==", "!=", "<", ">", "-eq", "-ne", "-ge", "-gt", "-le", "-lt", "-nt", "-ot", "-ef"]

/-- Which dialect conditions are written in. -/
structure Dialect where
  /-- The operators between two words that are not known. -/
  without : List String
  /-- The words for a number that is none. -/
  notNumber : String

/-- What a word is by itself. -/
def role (d : Dialect) (s : String) : Role :=
  if s = "!" then .not
  else if s = "-a" then .both
  else if s = "-o" then .either
  else if s = "(" then .opening
  else if s = ")" then .closing
  else if unaryOperators.contains s then .unary
  else if binaryOperators.contains s && !d.without.contains s then .binary
  else .text

/-- What the first of some words is. An operator in front of one word needs a word behind it that is no
operator between two words. -/
def roleOf (d : Dialect) : List String → Role
  | [] => .text
  | s :: rest =>
    match role d s, rest with
    | .unary, [] => .text
    | .unary, [_] => .unary
    | .unary, b :: _ => if role d b = .binary then .text else .unary
    | .opening, [] => .text
    | r, _ => r

/-- The number that a text writes. -/
def number (d : Dialect) (s : String) : Except String Int :=
  let isSpace (c : Char) : Bool := c = ' ' || (9 ≤ c.toNat && c.toNat ≤ 13)
  let cs := ((s.toList.dropWhile isSpace).reverse.dropWhile isSpace).reverse
  let (negative, ds) := match cs with
    | '-' :: ds => (true, ds)
    | '+' :: ds => (false, ds)
    | _ => (false, cs)
  if ds.isEmpty || !ds.all Char.isDigit then .error (d.notNumber ++ s)
  else
    let n : Nat := ds.foldl (fun n c => 10 * n + (c.toNat - '0'.toNat)) 0
    if 9223372036854775807 < n then .error (d.notNumber ++ s)
    else .ok (if negative then -(n : Int) else n)

/-- Whether an operator holds of a word. -/
def unary (t : FileTree) (op s : String) : Bool :=
  let p := Path.ofOctets s
  let found? := (t.find p).toOption.map (·.2)
  let holds (f : FileEntry → Bool) : Bool := (found?.map f).getD false
  match op with
  | "-z" => s.isEmpty
  | "-n" => !s.isEmpty
  | "-e" | "-r" | "-w" | "-O" | "-G" => found?.isSome
  | "-f" => holds fun
    | .file _ _ | .program _ => true
    | _ => false
  | "-d" => holds (· = .directory)
  | "-c" => holds fun e => e = .sink || e = .zeros
  | "-x" => holds fun e => e.isExecutable || e = .directory
  | "-s" => holds fun
    | .file content _ => !content.isEmpty
    | .directory | .program _ => true
    | _ => false
  | "-h" | "-L" =>
    match t.findItself p with
    | .ok (_, .link _) => true
    | _ => false
  | "-u" => holds fun e => FileTree.modeOf e &&& 0o4000 ≠ 0
  | "-g" => holds fun e => FileTree.modeOf e &&& 0o2000 ≠ 0
  | "-k" => holds fun e => FileTree.modeOf e &&& 0o1000 ≠ 0
  | _ => false

/-- Whether an operator holds of two words. -/
def binary (d : Dialect) (t : FileTree) (a op b : String) : Except String Bool := do
  match op with
  | "=" | "==" => pure (a = b)
  | "!=" => pure (a ≠ b)
  | "<" => pure (a < b)
  | ">" => pure (b < a)
  | "-nt" | "-ot" => pure false
  | "-ef" =>
    match t.find (.ofOctets a), t.find (.ofOctets b) with
    | .ok (p, _), .ok (q, _) => pure (p = q)
    | _, _ => pure false
  | _ =>
    let x ← number d a
    let y ← number d b
    pure (match op with
      | "-eq" => x = y
      | "-ne" => x ≠ y
      | "-lt" => x < y
      | "-le" => x ≤ y
      | "-gt" => y < x
      | _ => y ≤ x)

/-- What is found out about the first of some words, and the words left. -/
abbrev Finding := Except String (Bool × List String)

/-- Finds out whether a condition holds that is not joined to another. -/
def single (d : Dialect) (t : FileTree) (inner : List String → Finding) (isText : Bool)
    (words : List String) : Finding :=
  match words with
  | [] => .ok (false, [])
  | s :: rest =>
    let r := if isText then .text else roleOf d words
    match r, rest with
    | .opening, ")" :: rest => .ok (false, rest)
    | .opening, rest => do
      match ← inner rest with
      | (b, ")" :: rest) => pure (b, rest)
      | _ => throw "closing paren expected"
    | .unary, a :: rest => .ok (unary t s a, rest)
    | _, op :: more =>
      if role d op = .binary then
        match more with
        | b :: more => (binary d t s op b).map (·, more)
        | [] => .error (op ++ ": argument expected")
      else .ok (!s.isEmpty, rest)
    | _, [] => .ok (!s.isEmpty, [])

/-- Finds out whether a condition holds that may be negated. -/
def negatable (d : Dialect) (t : FileTree) (inner : List String → Finding) :
    Bool → List String → Finding
  | false, "!" :: [] => .ok (true, [])
  | false, "!" :: rest => (negatable d t inner false rest).map fun (b, rest) => (!b, rest)
  | isText, words => single d t inner isText words

/-- Finds out whether all of some conditions hold, at most so many. -/
def conjunction (d : Dialect) (t : FileTree) (inner : List String → Finding) :
    Nat → Bool → List String → Finding
  | 0, _, words => .ok (false, words)
  | fuel + 1, isText, words => do
    match ← negatable d t inner isText words with
    | (b, "-a" :: rest) =>
      let (c, rest) ← conjunction d t inner fuel false rest
      pure (b && c, rest)
    | other => pure other

/-- Finds out whether any of some conditions holds, at most so many. -/
def disjunction (d : Dialect) (t : FileTree) (inner : List String → Finding) :
    Nat → Bool → List String → Finding
  | 0, _, words => .ok (false, words)
  | fuel + 1, isText, words => do
    match ← conjunction d t inner (words.length + 1) isText words with
    | (b, "-o" :: rest) =>
      let (c, rest) ← disjunction d t inner fuel false rest
      pure (b || c, rest)
    | other => pure other

/-- Finds out whether a condition holds in which parentheses are nested at most so deep. -/
def nested (d : Dialect) (t : FileTree) : Nat → List String → Finding
  | 0, words => .ok (false, words)
  | depth + 1, words => disjunction d t (nested d t depth) (words.length + 1) false words

/-- Whether a condition holds, or what is wrong with it. -/
def holds (d : Dialect) (t : FileTree) (words : List String) : Except String Bool :=
  match words with
  | [] => .ok false
  | [a, op, b] =>
    if role d op = .binary then binary d t a op b
    else if a = "(" && b = ")" then whole [op]
    else if a = "!" then (holds d t [op, b]).map (!·)
    else whole words
  | ["(", a, b, ")"] => whole [a, b]
  | "!" :: rest =>
    if rest.length = 0 || 3 < rest.length then whole words else (holds d t rest).map (!·)
  | _ => whole words
where
  /-- The same without the rules for a few words. -/
  whole (words : List String) : Except String Bool := do
    match ← nested d t (words.length + 1) words with
    | (b, []) => pure b
    | (_, rest) =>
      throw ((words[words.length - rest.length - 1]?.getD "") ++ ": unexpected operator")

end TierSweep.Condition
