import TierSweep.Shell.WordReader

/-!
# Reading commands

A script is read line by line: a line is a list of commands up to the end of a line at which no compound
command is open. What lies inside a command is read by the readers for the level below.
-/

namespace TierSweep.Shell

/-- The words that have a meaning of their own where a command may begin. -/
def reservedWords : List String :=
  ["!", "\x7b", "\x7d", "case", "do", "done", "elif", "else", "esac", "fi", "for", "if", "in", "then", "until", "while"]

/-- The words that end a list of commands. -/
def closingWords : List String := ["do", "done", "elif", "else", "esac", "fi", "then", "\x7d"]

/-- The builtins that cannot be the names of functions. -/
def specialBuiltins : List String :=
  [".", ":", "break", "continue", "eval", "exec", "exit", "export", "local", "readonly", "return", "set", "shift",
    "times", "trap", "unset"]

namespace Token

/-- The word that a token is, if nothing in it is quoted or replaced. -/
def bare? : Token → Option String
  | .word w => Word.bare? w
  | _ => none

/-- How a token is called in a report. -/
def describe : Token → String
  | .word w =>
    match Word.bare? w with
    | some s => if reservedWords.contains s then "\"" ++ s ++ "\"" else "word"
    | none => "word"
  | .operator text => "\"" ++ text ++ "\""
  | .redirection _ _ => "redirection"
  | .newline => "newline"
  | .finish => "end of file"

/-- Whether a token ends a list of commands. -/
def closes (t : Token) : Bool :=
  match t with
  | .operator text => text = ";;" || text = ")"
  | .finish => true
  | _ => (t.bare?.map closingWords.contains).getD false

end Token

namespace CommandReader

/-- The report of a token that must not come. -/
def unexpected {α : Type} (t : Token) (expected? : Option String) : Reader α :=
  Reader.fail ("Syntax error: " ++ t.describe ++ " unexpected" ++ match expected? with
    | some e => " (expecting \"" ++ e ++ "\")"
    | none => "")

/-- The operators, longer ones first. -/
def operators : List String := ["&&", "||", ";;", ";", "&", "|", "(", ")"]

/-- The operators of redirections, longer ones first. -/
def redirectionOperators : List String := ["<<-", "<<", "<&", "<>", "<", ">>", ">&", ">|", ">"]

/-- The first of some operators with which a text begins. -/
def operator? (candidates : List String) (cs : List Char) : Option String :=
  candidates.find? fun o => o.toList.isPrefixOf cs

/-- Passes over what separates tokens. -/
def skipBlanks : Reader (Option Unit) := do
  match ← Reader.rest with
  | '\\' :: '\n' :: _ => return some (← Reader.skip 2)
  | '#' :: cs => return some (← Reader.skip (1 + (cs.takeWhile (· ≠ '\n')).length))
  | c :: cs =>
    if isBlank c then return some (← Reader.skip (1 + (cs.takeWhile isBlank).length)) else return none
  | [] => return none

/-- Reads a token. -/
def readToken (inner : Inner) : Reader Token := do
  let _ ← Reader.many skipBlanks
  let cs ← Reader.rest
  match cs with
  | [] => return .finish
  | '\n' :: _ =>
    Reader.skip 1
    return .newline
  | c :: rest =>
    match operator? redirectionOperators cs with
    | some o =>
      Reader.skip o.length
      return .redirection none o
    | none =>
      match operator? operators cs with
      | some o =>
        Reader.skip o.length
        return .operator o
      | none =>
        match if c.isDigit then operator? redirectionOperators rest else none with
        | some o =>
          Reader.skip (1 + o.length)
          return .redirection (some (c.toNat - '0'.toNat)) o
        | none => return .word (← inner.parts .word)

/-- The next token, which is still to be used. -/
def peek (inner : Inner) : Reader Token := do
  match (← get).ahead? with
  | some t => return t
  | none =>
    let t ← readToken inner
    modify fun s => { s with ahead? := some t }
    return t

/-- Uses the token that was read ahead. -/
def use : Reader Unit := modify fun s => { s with ahead? := none }

/-- The next token. -/
def next (inner : Inner) : Reader Token := do
  let t ← peek inner
  use
  return t

/-- Puts the text of an alias in its place. Comes back with nothing if the token is none. -/
def expandAlias (inner : Inner) : Reader (Option Unit) := do
  let t ← peek inner
  let s ← get
  let left := s.rest.length
  let expanding := s.expanding.filter fun e => e.2 < left
  match t.bare? with
  | none => return none
  | some name =>
    match s.aliases.lookup name with
    | none => return none
    | some text =>
      if (expanding.lookup name).isSome then return none
      set { s with
        rest := text.toList ++ s.rest
        ahead? := none
        expanding := (name, left) :: expanding }
      return some ()

/-- The next token where a command may begin, aliases replaced. -/
def peekCommand (inner : Inner) : Reader Token := do
  if !(← get).aliases.isEmpty then
    let _ ← Reader.manyWithin (expandAlias inner) 100
  peek inner

/-- Passes over the ends of lines. -/
def skipNewlines (inner : Inner) : Reader Unit := do
  let step : Reader (Option Unit) := do
    match ← peek inner with
    | .newline => return some (← use)
    | _ => return none
  let _ ← Reader.many step

/-- Passes over a word that must come. -/
def expect (inner : Inner) (word : String) : Reader Unit := do
  let t ← peek inner
  if t.bare? = some word then use else unexpected t (some word)

/-- Passes over an operator that must come. -/
def expectOperator (inner : Inner) (operator : String) : Reader Unit := do
  let t ← peek inner
  match t with
  | .operator o => if o = operator then use else unexpected t (some operator)
  | _ => unexpected t (some operator)

/-- Reads what follows the beginning of a redirection. -/
def readRedirection (inner : Inner) (descriptor? : Option Nat) (operator : String) :
    Reader Redirection := do
  let target : Reader Word := do
    let t ← next inner
    match t with
    | .word w => return w
    | _ => unexpected t none
  match operator with
  | "<<" | "<<-" =>
    let s ← get
    if (s.rest.dropWhile isBlank).head?.all endsWord then unexpected (← readToken inner) none
    let (text, quoted) ← takeDocument (operator = "<<-")
    if quoted then return .text (descriptor?.getD 0) [.quoted text]
    else
      let s ← get
      set { s with rest := text.toList, ahead? := none }
      let body ← inner.parts .document
      set s
      return .text (descriptor?.getD 0) body
  | "<" => return .file (descriptor?.getD 0) .input (← target)
  | "<>" => return .file (descriptor?.getD 0) .update (← target)
  | "<&" => return .copy (descriptor?.getD 0) (← target)
  | ">&" => return .copy (descriptor?.getD 1) (← target)
  | ">>" => return .file (descriptor?.getD 1) .append (← target)
  | ">|" => return .file (descriptor?.getD 1) .clobber (← target)
  | _ => return .file (descriptor?.getD 1) .output (← target)

/-- Reads a redirection if one comes. -/
def redirection? (inner : Inner) : Reader (Option Redirection) := do
  match ← peek inner with
  | .redirection descriptor? operator =>
    use
    return some (← readRedirection inner descriptor? operator)
  | _ => return none

/-- The assignment that a word is. -/
def assignment? : Word → Option (String × Word)
  | .plain text :: rest =>
    let name := text.toList.takeWhile (· ≠ '=')
    let value := text.toList.drop name.length
    match value with
    | '=' :: value =>
      if isName (String.ofList name) then
        some (String.ofList name,
          if value.isEmpty then rest else .plain (String.ofList value) :: rest)
      else none
    | _ => none
  | _ => none

/-- The words, assignments and redirections read so far. -/
structure Simple where
  assignments : List (String × Word)
  words : List Word
  redirections : List Redirection

/-- Something a simple command is made of. -/
inductive Item where
  | assignment (name : String) (value : Word)
  | word (w : Word)
  | redirection (r : Redirection)

/-- Reads the things a simple command is made of. -/
def readItems (inner : Inner) : Nat → Bool → Reader (List Item)
  | 0, _ => pure []
  | fuel + 1, begins => do
    let t ← if begins then peekCommand inner else peek inner
    match t with
    | .word w =>
      use
      match if begins then assignment? w else none with
      | some (name, value) => return .assignment name value :: (← readItems inner fuel begins)
      | none =>
        let after ← get
        match ← peek inner with
        | .operator "(" =>
          if begins then return [.word w]
          else
            set after
            return .word w :: (← readItems inner fuel false)
        | _ => return .word w :: (← readItems inner fuel false)
    | .redirection descriptor? operator =>
      use
      let r ← readRedirection inner descriptor? operator
      return .redirection r :: (← readItems inner fuel begins)
    | _ => return []

/-- Reads a list of words up to something else. -/
def readWords (inner : Inner) : Reader (List Word) :=
  Reader.many do
    match ← peek inner with
    | .word w =>
      use
      return some w
    | _ => return none

/-- Reads the rest of a loop over words. -/
def readFor (inner : Inner) (line : Nat) : Reader Command := do
  let t ← next inner
  match (t.bare?.filter isName) with
  | none => Reader.fail "Syntax error: Bad for loop variable"
  | some name =>
    let beforeNewlines ← peek inner
    skipNewlines inner
    let t ← peek inner
    let words? ←
      if t.bare? = some "in" then
        use
        let words ← readWords inner
        match ← peek inner with
        | .newline | .operator ";" => use
        | t => unexpected t none
        pure (some words)
      else
        match beforeNewlines with
        | .operator ";" => use
        | _ => pure ()
        pure none
    skipNewlines inner
    expect inner "do"
    let body ← inner.list .block
    expect inner "done"
    return .each line name words? body

/-- Reads the patterns of an arm, the first of which was read already. -/
def readPatterns (inner : Inner) : Reader (List Word) :=
  Reader.many do
    match ← peek inner with
    | .operator "|" =>
      use
      match ← next inner with
      | .word w => return some w
      | t => unexpected t (some ")")
    | _ => return none

/-- Reads an arm of a selection, or nothing at its end. After an arm without `;;` there is no other. -/
def readArms (inner : Inner) : Nat → Reader (List (List Word × Command))
  | 0 => pure []
  | fuel + 1 => do
    skipNewlines inner
    let t ← peek inner
    if t.bare? = some "esac" then
      use
      return []
    match t with
    | .operator "(" => use
    | _ => pure ()
    let t ← next inner
    match t with
    | .word first =>
      let patterns := first :: (← readPatterns inner)
      expectOperator inner ")"
      let body ← inner.list .body
      skipNewlines inner
      let t ← peek inner
      match t with
      | .operator ";;" =>
        use
        return (patterns, body) :: (← readArms inner fuel)
      | _ =>
        if t.bare? = some "esac" then
          use
          return [(patterns, body)]
        else unexpected t (some ";;")
    | _ => unexpected t (some ")")

/-- Reads a selection. -/
def readCase (inner : Inner) (line : Nat) : Reader Command := do
  match ← next inner with
  | .word subject =>
    skipNewlines inner
    expect inner "in"
    return .select line subject (← readArms inner ((← get).rest.length + 2))
  | t => unexpected t none

/-- Reads the rest of a condition, behind its first word or `elif`. -/
def readIf (inner : Inner) : Nat → Reader Command
  | 0 => pure .nothing
  | fuel + 1 => do
    let condition ← inner.list .block
    expect inner "then"
    let onTrue ← inner.list .block
    let t ← peek inner
    if t.bare? = some "elif" then
      use
      return .choose condition onTrue (← readIf inner fuel)
    let onFalse ←
      if t.bare? = some "else" then
        use
        inner.list .block
      else pure .nothing
    expect inner "fi"
    return .choose condition onTrue onFalse

/-- Adds the redirections that follow a compound command. -/
def withRedirections (inner : Inner) (line : Nat) (c : Command) : Reader Command := do
  let rs ← Reader.many (redirection? inner)
  match rs, c with
  | [], c => return c
  | rs, .subshell line c [] => return .subshell line c rs
  | rs, c => return .redirected line c rs

/-- The command that a simple command is. -/
def ofItems (line : Nat) (items : List Item) : Command :=
  .simple line
    (items.filterMap fun | .assignment name value => some (name, value) | _ => none)
    (items.filterMap fun | .word w => some w | _ => none)
    (items.filterMap fun | .redirection r => some r | _ => none)

/-- Reads a command. At most `fuel` functions are defined by functions that are defined. -/
def readCommand (inner : Inner) : Nat → Reader Command
  | 0 => Reader.fail "Syntax error: too deep"
  | fuel + 1 => do
    let t ← peekCommand inner
    let line := (← get).line
    let compound (c : Reader Command) : Reader Command := do
      use
      withRedirections inner line (← c)
    match t with
    | .operator "(" => compound do
        let c ← inner.list .block
        expectOperator inner ")"
        return .subshell line c []
    | .word _ =>
      match t.bare? with
      | some "if" => compound (readIf inner ((← get).rest.length + 2))
      | some "while" => compound (readLoop false)
      | some "until" => compound (readLoop true)
      | some "for" => compound (readFor inner line)
      | some "case" => compound (readCase inner line)
      | some "\x7b" => compound do
          let c ← inner.list .block
          expect inner "\x7d"
          return c
      | some s =>
        if reservedWords.contains s ∧ s ≠ "in" then unexpected t none else readSimple fuel line
      | none => readSimple fuel line
    | .redirection _ _ => readSimple fuel line
    | _ => unexpected t none
where
  /-- Reads the rest of a loop. -/
  readLoop (stopsAt : Bool) : Reader Command := do
    let condition ← inner.list .block
    expect inner "do"
    let body ← inner.list .block
    expect inner "done"
    return .loop stopsAt condition body
  /-- Reads a simple command or the definition of a function. -/
  readSimple (fuel line : Nat) : Reader Command := do
    let items ← readItems inner ((← get).rest.length + 2) true
    match items, (← get).ahead? with
    | [.word w], some (.operator "(") =>
      use
      expectOperator inner ")"
      match Word.fixed? w with
      | some name =>
        if !isName name || specialBuiltins.contains name then
          Reader.fail "Syntax error: Bad function name"
        skipNewlines inner
        let line := (← get).line
        return .define line name (← readCommand inner fuel)
      | none => Reader.fail "Syntax error: Bad function name"
    | items, _ => return ofItems line items

/-- Reads commands joined by pipes, perhaps negated. -/
def readPipeline (inner : Inner) : Reader Command := do
  let t ← peekCommand inner
  let negated := t.bare? = some "!"
  if negated then use
  let depth := (← get).rest.length + 2
  let first ← readCommand inner depth
  let more ← Reader.many do
    match ← peek inner with
    | .operator "|" =>
      use
      skipNewlines inner
      return some (← readCommand inner depth)
    | _ => return none
  let c := if more.isEmpty then first else .pipeline (first :: more)
  return if negated then .negated c else c

/-- Reads commands of which later ones depend on earlier ones. -/
def readAndOr (inner : Inner) : Reader Command := do
  let first ← readPipeline inner
  let more ← Reader.many do
    match ← peek inner with
    | .operator "&&" =>
      use
      skipNewlines inner
      return some (true, ← readPipeline inner)
    | .operator "||" =>
      use
      skipNewlines inner
      return some (false, ← readPipeline inner)
    | _ => return none
  return more.foldl (fun c p => if p.1 then .both c p.2 else .either c p.2) first

/-- Reads the commands of a list. The token that ends it is still to be used, except for the end of a
line. -/
def readList (inner : Inner) (kind : ListKind) : Nat → Bool → Reader (List Command)
  | 0, _ => pure []
  | fuel + 1, begins => do
    if kind ≠ .line then skipNewlines inner
    let t ← peekCommand inner
    match t with
    | .newline =>
      use
      return []
    | .finish =>
      if begins && kind = .block then unexpected t none
      return []
    | _ =>
      if (kind = .body || (kind = .block && !begins)) && t.closes then return []
      let c ← readAndOr inner
      let t ← peek inner
      match t with
      | .operator "&" =>
        use
        return .background c :: (← readList inner kind fuel false)
      | .operator ";" =>
        use
        return c :: (← readList inner kind fuel false)
      | .newline => return c :: (← readList inner kind fuel false)
      | .finish => return [c]
      | _ => if kind = .line then unexpected t none else return [c]

/-- The command that is a list of commands. -/
def ofList : List Command → Command
  | [c] => c
  | cs => .sequence cs

/-- The readers for what lies at most so many levels deep. -/
def innerAt : Nat → Inner
  | 0 =>
    { parts := fun _ => Reader.fail "Syntax error: too deep"
      list := fun _ => Reader.fail "Syntax error: too deep" }
  | depth + 1 =>
    { parts := fun r s => WordReader.read (innerAt depth) r s
      list := fun kind s =>
        ((ofList <$> readList (innerAt depth) kind (s.rest.length + 2) true) : Reader Command) s }

/-- How deep a script may be nested. -/
def maxDepth : Nat := 1000

/-- Reads the next line of commands. Nothing comes back at the end of the script. -/
def readLine : Reader (Option Command) := do
  let inner := innerAt maxDepth
  match ← peek inner with
  | .finish => return none
  | _ =>
    let command ← inner.list .line
    return some command

end CommandReader

end TierSweep.Shell
