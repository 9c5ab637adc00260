import TierSweep.Text.Glob

/-!
# Regular expressions

A regular expression is read in one of two notations and matched at the leftmost place where it fits,
there as long as possible. Groups remember what they matched.
-/

namespace TierSweep

/-- A regular expression. -/
inductive Regex where
  | empty
  | char (c : Char)
  | any
  | member (negated : Bool) (members : List Glob.Member)
  | sequence (a b : Regex)
  | either (a b : Regex)
  /-- At least `least` times and, if there is a bound, at most that often. -/
  | repeated (least : Nat) (most? : Option Nat) (a : Regex)
  | group (index : Nat) (a : Regex)
  /-- What a group matched, once more. -/
  | again (index : Nat)
  | atStart
  | atEnd
  /-- A place where a word begins, ends, or either. -/
  | wordEdge (begins ends : Bool)
  | noWordEdge

namespace Regex

/-- A place in a text up to which an expression fits. -/
structure Spot where
  position : Nat
  before? : Option Char
  rest : List Char
  /-- Where groups begin and what they matched. -/
  groups : List (Nat × List Char)

/-- Whether a character belongs to words. -/
def isWord (c : Char) : Bool := c.isAlphanum || c = '_'

/-- Whether two characters are the same, perhaps but for their case. -/
def same (folds : Bool) (a b : Char) : Bool := a = b || (folds && a.toLower = b.toLower)

/-- Goes one character on. -/
def Spot.step (s : Spot) : Option (Char × Spot) :=
  match s.rest with
  | [] => none
  | c :: rest => some (c, { s with position := s.position + 1, before? := some c, rest })

/-- The places after a text at a place, if it is there. -/
def literal (folds : Bool) (s : Spot) : List Char → List Spot
  | [] => [s]
  | c :: cs =>
    match s.step with
    | some (d, t) => if same folds c d then literal folds t cs else []
    | none => []

/-- The places up to which an expression fits when it is repeated, longer ones first. What fits nothing
is not repeated. -/
def repeatSpots (once : Spot → List Spot) : Nat → Nat → Option Nat → Spot → List Spot
  | 0, _, _, s => [s]
  | fuel + 1, least, most?, s =>
    let more : List Spot :=
      if most? = some 0 then []
      else (once s).flatMap fun t =>
        if t.position = s.position && least = 0 then []
        else repeatSpots once fuel (least - 1) (most?.map (· - 1)) t
    if least = 0 then more ++ [s] else more

/-- Whether a word begins or ends at a place. -/
def Spot.edge (s : Spot) : Bool × Bool :=
  let before := (s.before?.map isWord).getD false
  let after := (s.rest.head?.map isWord).getD false
  (!before && after, before && !after)

/-- The places up to which an expression fits from a place on. -/
def spots (folds : Bool) : Regex → Spot → List Spot
  | empty, s => [s]
  | char c, s => literal folds s [c]
  | any, s =>
    match s.step with
    | some (_, t) => [t]
    | none => []
  | member negated ms, s =>
    match s.step with
    | some (d, t) =>
      let isIn (c : Char) : Bool := ms.any (Glob.Member.has c)
      let found := isIn d || (folds && (isIn d.toLower || isIn d.toUpper))
      if found ≠ negated then [t] else []
    | none => []
  | sequence a b, s => (spots folds a s).flatMap (spots folds b)
  | either a b, s => spots folds a s ++ spots folds b s
  | repeated least most? a, s =>
    repeatSpots (spots folds a) (s.rest.length + least + 1) least most? s
  | group i a, s =>
    (spots folds a s).map fun t =>
      let matched := s.rest.take (t.position - s.position)
      { t with groups := (i, matched) :: t.groups.filter (·.1 ≠ i) }
  | again i, s => literal folds s ((s.groups.lookup i).getD [])
  | atStart, s => if s.position = 0 then [s] else []
  | atEnd, s => if s.rest.isEmpty then [s] else []
  | wordEdge begins ends, s =>
    let (b, e) := s.edge
    if (begins && b) || (ends && e) then [s] else []
  | noWordEdge, s =>
    let (b, e) := s.edge
    if b || e then [] else [s]

/-- What an expression matched. -/
structure Match where
  before : List Char
  matched : List Char
  after : List Char
  groups : List (Nat × List Char)

/-- The longest match at a place. -/
def matchAt (r : Regex) (folds : Bool) (s : Spot) : Option Spot :=
  (r.spots folds s).foldl (fun best? t =>
    match best? with
    | some best => if best.position < t.position then some t else some best
    | none => some t) none

/-- The leftmost match from a place on, where `skipped` is what was passed over, last first. -/
def search (r : Regex) (folds : Bool) (s : Spot) (skipped : List Char) : List Char → Option Match
  | [] =>
    (r.matchAt folds { s with rest := [] }).map fun t => ⟨skipped.reverse, [], t.rest, t.groups⟩
  | c :: cs =>
    match r.matchAt folds { s with rest := c :: cs } with
    | some t => some ⟨skipped.reverse, (c :: cs).take (t.position - s.position), t.rest, t.groups⟩
    | none =>
      search r folds ⟨s.position + 1, some c, cs, []⟩ (c :: skipped) cs

/-- The leftmost match in a text from a position on. -/
def find? (r : Regex) (folds : Bool) (position : Nat) (before? : Option Char) (cs : List Char) :
    Option Match :=
  r.search folds ⟨position, before?, cs, []⟩ [] cs

/-! ## Notations -/

/-- Reads a list in brackets, behind the opening bracket, and what follows. -/
def readList (cs : List Char) : Option (Regex × List Char) :=
  let (negated, list) := match cs with
    | '^' :: more => (true, more)
    | _ => (false, cs)
  (Glob.members? (list.length + 1) true (list.map (·, false))).map fun (ms, rest) =>
    (member negated ms, rest.map (·.1))

/-- Reads bounds, behind the opening brace, and what follows. -/
def readBounds (extended : Bool) (cs : List Char) : Option (Nat × Option Nat × List Char) :=
  let number (cs : List Char) : Option Nat × List Char :=
    let ds := cs.takeWhile Char.isDigit
    (if ds.isEmpty then none else (String.ofList ds).toNat?, cs.drop ds.length)
  let close (cs : List Char) : Option (List Char) :=
    match extended, cs with
    | true, '}' :: rest => some rest
    | false, '\\' :: '}' :: rest => some rest
    | _, _ => none
  let (least?, rest) := number cs
  match rest with
  | ',' :: rest =>
    let (most?, rest) := number rest
    (close rest).map fun rest => (least?.getD 0, most?, rest)
  | _ => do
    let n ← least?
    let rest ← close rest
    pure (n, some n, rest)

/-- An expression that was read, the next index of a group, and what follows. -/
abbrev Reading := Option (Regex × Nat × List Char)

/-- The operator at the beginning of a text: its letter and what follows. -/
def operator? (extended : Bool) (operators : List Char) (cs : List Char) : Option (Char × List Char) :=
  match extended, cs with
  | true, c :: rest => if operators.contains c then some (c, rest) else none
  | false, '\\' :: c :: rest => if operators.contains c then some (c, rest) else none
  | _, _ => none

/-- Adds the repetitions that follow an expression, at most so many. -/
def readRepeats (extended : Bool) : Nat → Regex → List Char → Regex × List Char
  | 0, r, cs => (r, cs)
  | fuel + 1, r, cs =>
    match cs with
    | '*' :: rest => readRepeats extended fuel (repeated 0 none r) rest
    | _ =>
      match operator? extended ['+', '?', '{'] cs with
      | some ('+', rest) => readRepeats extended fuel (repeated 1 none r) rest
      | some ('?', rest) => readRepeats extended fuel (repeated 0 (some 1) r) rest
      | some ('{', rest) =>
        match readBounds extended rest with
        | some (least, most?, rest) => readRepeats extended fuel (repeated least most? r) rest
        | none => (r, cs)
      | _ => (r, cs)

/-- The kinds of characters that a letter behind a backslash stands for. -/
def shorthand? (c : Char) : Option Regex :=
  let word : List Glob.Member := [.kind "alnum", .range '_' '_']
  match c with
  | 'w' => some (member false word)
  | 'W' => some (member true word)
  | 's' => some (member false [.kind "space"])
  | 'S' => some (member true [.kind "space"])
  | 'b' => some (wordEdge true true)
  | '<' => some (wordEdge true false)
  | '>' => some (wordEdge false true)
  | 'B' => some noWordEdge
  | 'n' => some (char '\n')
  | 't' => some (char '\t')
  | _ => none

/-- Whether an expression in the basic notation ends here. -/
def endsBasic (cs : List Char) : Bool :=
  match cs with
  | [] => true
  | '\\' :: c :: _ => c = ')' || c = '|'
  | _ => false

/-- Reads one step of an expression. `whole` reads what is in a group. -/
def readStep (extended : Bool) (whole : Nat → List Char → Reading) (begins : Bool) (next : Nat)
    (cs : List Char) : Reading :=
  match operator? extended ['('] cs with
  | some (_, rest) => do
    let (r, after, rest) ← whole (next + 1) rest
    let (_, rest) ← operator? extended [')'] rest
    pure (group next r, after, rest)
  | none =>
    match cs with
    | '[' :: rest => (readList rest).map fun (r, rest) => (r, next, rest)
    | '.' :: rest => some (any, next, rest)
    | '^' :: rest =>
      if extended || begins then some (atStart, next, rest) else some (char '^', next, rest)
    | '$' :: rest =>
      if extended || endsBasic rest then some (atEnd, next, rest) else some (char '$', next, rest)
    | '\\' :: c :: rest =>
      if c.isDigit && c ≠ '0' then some (again (c.toNat - '0'.toNat), next, rest)
      else some ((shorthand? c).getD (char c), next, rest)
    | '\\' :: [] => none
    | c :: rest => some (char c, next, rest)
    | [] => none

/-- Reads steps up to the end of an alternative, at most so many. -/
def readSteps (extended : Bool) (whole : Nat → List Char → Reading) :
    Nat → Bool → Nat → List Char → Reading
  | 0, _, next, cs => some (empty, next, cs)
  | fuel + 1, begins, next, cs =>
    if cs.isEmpty || (operator? extended ['|', ')'] cs).isSome then some (empty, next, cs)
    else do
      let (r, next, rest) ← readStep extended whole begins next cs
      let isStart := match r with
        | atStart => true
        | _ => false
      let (r, rest) := if isStart && !extended then (r, rest)
        else readRepeats extended (rest.length + 1) r rest
      let (more, next, rest) ← readSteps extended whole fuel (begins && isStart && !extended) next rest
      pure (match more with
        | empty => r
        | more => sequence r more, next, rest)

/-- Reads alternatives in which groups are nested at most so deep, at most so many. -/
def readWhole (extended : Bool) (whole : Nat → List Char → Reading) :
    Nat → Nat → List Char → Reading
  | 0, next, cs => some (empty, next, cs)
  | fuel + 1, next, cs => do
    let (r, next, rest) ← readSteps extended whole (cs.length + 1) true next cs
    match operator? extended ['|'] rest with
    | some (_, rest) =>
      let (more, next, rest) ← readWhole extended whole fuel next rest
      pure (either r more, next, rest)
    | none => pure (r, next, rest)

/-- Reads expressions in which groups are nested at most so deep. -/
def readAt (extended : Bool) : Nat → Nat → List Char → Reading
  | 0, _, _ => none
  | depth + 1, next, cs => readWhole extended (readAt extended depth) (cs.length + 1) next cs

/-- Reads an expression in one of the notations. -/
def read? (extended : Bool) (text : String) : Option Regex :=
  match readAt extended (text.length + 1) 1 text.toList with
  | some (r, _, []) => some r
  | _ => none

/-- The expression for a text that stands for itself. -/
def ofText (text : String) : Regex :=
  text.toList.foldr (fun c r => match r with
    | empty => char c
    | r => sequence (char c) r) empty

end Regex

end TierSweep
