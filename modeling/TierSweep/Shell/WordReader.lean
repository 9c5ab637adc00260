import TierSweep.Shell.Source

/-!
# Reading words

A word is read part by part. Where it is read decides what ends it and which characters stand for
themselves. What comes between the parentheses or braces of a part is read by readers for the level
below, so that the nesting of a script bounds the work.
-/

namespace TierSweep.Shell

/-- Where parts are read. -/
inductive Region where
  /-- In a word outside quotes. -/
  | word
  /-- In the braces of a parameter outside quotes. -/
  | braces
  /-- In quotes. -/
  | quotes
  /-- In the braces of a parameter in quotes. -/
  | quotedBraces
  /-- In a here-document. -/
  | document
  /-- In an expression between double parentheses. -/
  | sum
  /-- In parentheses of an expression. -/
  | group
  deriving DecidableEq

namespace Region

/-- Whether text counts as quoted. -/
def isQuoted : Region → Bool
  | word | braces => false
  | _ => true

/-- Whether a backslash is dropped before a character. -/
def escapes (r : Region) (c : Char) : Bool :=
  match r with
  | word | braces => true
  | document => ['$', '`', '\\'].contains c
  | quotedBraces => ['$', '`', '\\', '"', '}'].contains c
  | _ => ['$', '`', '\\', '"'].contains c

/-- The report of a region that never ends. -/
def unterminated : Region → String
  | braces | quotedBraces => "Syntax error: Missing '\x7d'"
  | sum | group => "Syntax error: Missing '))'"
  | _ => "Syntax error: Unterminated quoted string"

end Region

/-- Where commands are read. -/
inductive ListKind where
  /-- Up to the end of the line. -/
  | line
  /-- In a compound command, where there is at least one. -/
  | block
  /-- Where there may be none. -/
  | body
  deriving DecidableEq

/-- The readers for what lies inside a part or a command. -/
structure Inner where
  parts : Region → Reader Word
  list : ListKind → Reader Command

namespace WordReader

/-- Text as a part. -/
def textPart (r : Region) (text : List Char) : Part :=
  if r.isQuoted then .quoted (String.ofList text) else .plain (String.ofList text)

/-- Joins neighbouring parts that are text of the same kind. -/
def joined : Word → Word
  | .plain a :: rest =>
    match joined rest with
    | .plain b :: more => .plain (a ++ b) :: more
    | more => .plain a :: more
  | .quoted a :: rest =>
    match joined rest with
    | .quoted b :: more => .quoted (a ++ b) :: more
    | more => .quoted a :: more
  | p :: rest => p :: joined rest
  | [] => []

/-- The text of a command in backquotes, and how long it is there. Nothing comes back if it has no
end. -/
def backquoted? (quoted : Bool) : List Char → Option (List Char × Nat)
  | [] => none
  | '`' :: _ => some ([], 1)
  | '\\' :: '\n' :: cs => (backquoted? quoted cs).map fun (text, n) => (text, n + 2)
  | '\\' :: c :: cs =>
    let dropped := c = '\\' ∨ c = '`' ∨ c = '$' ∨ (quoted ∧ c = '"')
    (backquoted? quoted cs).map fun (text, n) =>
      (if dropped then c :: text else '\\' :: c :: text, n + 2)
  | c :: cs => (backquoted? quoted cs).map fun (text, n) => (c :: text, n + 1)

/-- Reads a command in backquotes, behind the first of them. -/
def readBackquoted (inner : Inner) (quoted : Bool) : Reader Part := do
  match backquoted? quoted (← Reader.rest) with
  | none => Reader.fail "Syntax error: EOF in backquote substitution"
  | some (text, n) =>
    let s ← get
    set { s with rest := text, ahead? := none, expanding := [] }
    let command ← inner.list .body
    match (← get).ahead? with
    | some .finish | none => pure ()
    | _ => Reader.fail "Syntax error: EOF in backquote substitution"
    set s
    Reader.skip n
    return .output command quoted

/-- Reads what follows the name of a parameter in braces, up to the closing brace. -/
def readUse (inner : Inner) (quoted isLength : Bool) : Reader Use := do
  let word (r : Region) : Reader Word := inner.parts r
  let usual : Region := if quoted then .quotedBraces else .braces
  let trim (atEnd longest : Bool) (n : Nat) : Reader Use := do
    Reader.skip n
    return .trim atEnd longest (← word .braces)
  let orElse (f : Fallback) (emptyToo : Bool) (n : Nat) : Reader Use := do
    Reader.skip n
    return .orElse f emptyToo (← word usual)
  let cs ← Reader.rest
  if isLength then
    match cs with
    | '}' :: _ =>
      Reader.skip 1
      return .size
    | _ =>
      let _ ← word usual
      return .senseless
  else
    match cs with
    | '}' :: _ =>
      Reader.skip 1
      return .itself
    | ':' :: '-' :: _ => orElse .substitute true 2
    | ':' :: '=' :: _ => orElse .assign true 2
    | ':' :: '?' :: _ => orElse .complain true 2
    | ':' :: '+' :: _ => orElse .alternative true 2
    | '-' :: _ => orElse .substitute false 1
    | '=' :: _ => orElse .assign false 1
    | '?' :: _ => orElse .complain false 1
    | '+' :: _ => orElse .alternative false 1
    | '#' :: '#' :: _ => trim false true 2
    | '#' :: _ => trim false false 1
    | '%' :: '%' :: _ => trim true true 2
    | '%' :: _ => trim true false 1
    | _ =>
      let _ ← word usual
      return .senseless

/-- Reads a parameter in braces, behind the opening brace. -/
def readBraced (inner : Inner) (quoted : Bool) : Reader Part := do
  let named (n : Nat) (isLength : Bool) (length : Nat) : Reader Part := do
    let cs ← Reader.rest
    let name := String.ofList ((cs.drop n).take length)
    Reader.skip (n + length)
    return .value name (← readUse inner quoted isLength) quoted
  let nameLength (cs : List Char) : Nat :=
    match cs with
    | c :: _ =>
      if isNameChar false c then (cs.takeWhile (isNameChar true)).length
      else (cs.takeWhile Char.isDigit).length
    | [] => 0
  let cs ← Reader.rest
  match cs with
  | '#' :: more =>
    let n := nameLength more
    if 0 < n then named 1 true n
    else match more with
      | '}' :: _ => named 0 false 1
      | c :: '}' :: _ => if isSpecial c then named 1 true 1 else named 0 false 1
      | _ => named 0 false 1
  | c :: _ =>
    let n := nameLength cs
    if 0 < n then named 0 false n
    else if isSpecial c then named 0 false 1
    else
      let _ ← inner.parts (if quoted then .quotedBraces else .braces)
      return .value "" .senseless quoted
  | [] => Reader.fail Region.braces.unterminated

/-- Reads what a dollar sign begins, behind it. -/
def readDollar (inner : Inner) (r : Region) : Reader Part := do
  let quoted := r.isQuoted
  match ← Reader.rest with
  | '(' :: '(' :: _ =>
    Reader.skip 2
    return .number (← inner.parts .sum) quoted
  | '(' :: _ =>
    Reader.skip 1
    let command ← inner.list .body
    match (← get).ahead? with
    | some (.operator ")") =>
      modify fun s => { s with ahead? := none }
      return .output command quoted
    | _ => Reader.fail "Syntax error: end of file unexpected (expecting \")\")"
  | '{' :: _ =>
    Reader.skip 1
    readBraced inner quoted
  | c :: cs =>
    if isNameChar false c then
      let name := c :: cs.takeWhile (isNameChar true)
      Reader.skip name.length
      return .value (String.ofList name) .itself quoted
    else if isSpecial c then
      Reader.skip 1
      return .value (String.singleton c) .itself quoted
    else return textPart r ['$']
  | [] => return textPart r ['$']

/-- Whether a character stands for itself. -/
def isOrdinary (r : Region) (c : Char) : Bool :=
  if c = '\\' || c = '$' || c = '`' then false
  else match r with
    | .word => !endsWord c && c ≠ '\'' && c ≠ '"'
    | .braces => c ≠ '}' && c ≠ '\'' && c ≠ '"'
    | .quotes => c ≠ '"'
    | .quotedBraces => c ≠ '}' && c ≠ '"'
    | .document => true
    | .sum | .group => c ≠ '(' && c ≠ ')'

/-- Reads some parts, or nothing at the end of the region, which is passed over with it. -/
def readParts (inner : Inner) (r : Region) : Reader (Option Word) := do
  let close (n : Nat) : Reader (Option Word) := do
    Reader.skip n
    return none
  let literal (n : Nat) (text : List Char) : Reader (Option Word) := do
    Reader.skip n
    return some [textPart r text]
  let inQuotes : Reader (Option Word) := do
    Reader.skip 1
    let parts ← inner.parts .quotes
    return some (if parts.isEmpty then [.quoted ""] else parts)
  match ← Reader.rest with
  | [] =>
    match r with
    | .word | .document => return none
    | _ => Reader.fail r.unterminated
  | '\\' :: '\n' :: _ =>
    Reader.skip 2
    return some []
  | '\\' :: [] => literal 1 ['\\']
  | '\\' :: c :: _ =>
    if r.escapes c then
      Reader.skip 2
      return some [.quoted (String.singleton c)]
    else literal 2 ['\\', c]
  | '$' :: _ =>
    Reader.skip 1
    return some [← readDollar inner r]
  | '`' :: _ =>
    Reader.skip 1
    return some [← readBackquoted inner r.isQuoted]
  | c :: cs =>
    match r, c with
    | .quotes, '"' => close 1
    | .braces, '}' | .quotedBraces, '}' => close 1
    | .word, '"' | .braces, '"' | .quotedBraces, '"' => inQuotes
    | .word, '\'' | .braces, '\'' =>
      let text := cs.takeWhile (· ≠ '\'')
      if text.length = cs.length then Reader.fail Region.quotes.unterminated
      Reader.skip (text.length + 2)
      return some [.quoted (String.ofList text)]
    | .sum, '(' | .group, '(' =>
      Reader.skip 1
      return some (textPart r ['('] :: (← inner.parts .group) ++ [textPart r [')']])
    | .group, ')' => close 1
    | .sum, ')' => if cs.head? = some ')' then close 2 else literal 1 [')']
    | _, _ =>
      let text := (c :: cs).takeWhile (isOrdinary r)
      if text.isEmpty then return none
      literal text.length text

/-- Reads the parts of a region. -/
def read (inner : Inner) (r : Region) : Reader Word := do
  return joined (← Reader.many (readParts inner r)).flatten

end WordReader

end TierSweep.Shell
