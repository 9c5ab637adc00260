import TierSweep.Text.Regex
import TierSweep.Utility.Reading

/-!
# Expressions of words

An expression is a list of words: texts, which may be numbers, and operators between them. Its value is a
text, and an empty text or zero counts as false.
-/

namespace TierSweep.Utility.Expression

/-- An expression. -/
inductive Term where
  | text (s : String)
  | either (a b : Term)
  | both (a b : Term)
  | compare (op : String) (a b : Term)
  | arithmetic (op : String) (a b : Term)
  /-- What a text matches from its beginning. -/
  | matching (a pattern : Term)
  | length (a : Term)
  | index (a characters : Term)
  | part (a position length : Term)

/-- A term and the words behind it, or what is wrong. The word before is kept for reports. -/
abbrev Reading := Except String (Term × List String)

/-- The report of words that end too early. -/
def missing (before : String) : String := "syntax error: missing argument after " ++ quoted before

/-- Reads a term that is no operation between two, where `inner` reads what is in parentheses. -/
def readSingle (inner : List String → Reading) : Nat → String → List String → Reading
  | 0, before, _ => .error (missing before)
  | fuel + 1, before, words =>
    let operand (before : String) (words : List String) : Reading := readSingle inner fuel before words
    match words with
    | [] => .error (missing before)
    | "(" :: rest => do
      match ← inner rest with
      | (t, ")" :: rest) => pure (t, rest)
      | (_, []) => throw ("syntax error: expecting ')' after " ++ quoted (words.getLast?.getD ""))
      | (_, w :: _) => throw ("syntax error: expecting ')' instead of " ++ quoted w)
    | ")" :: _ => .error "syntax error: unexpected ')'"
    | "+" :: s :: rest => .ok (.text s, rest)
    | "+" :: [] => .error (missing "+")
    | "length" :: rest => do
      let (a, rest) ← operand "length" rest
      pure (.length a, rest)
    | "match" :: rest => do
      let (a, rest) ← operand "match" rest
      let (b, rest) ← operand "match" rest
      pure (.matching a b, rest)
    | "index" :: rest => do
      let (a, rest) ← operand "index" rest
      let (b, rest) ← operand "index" rest
      pure (.index a b, rest)
    | "substr" :: rest => do
      let (a, rest) ← operand "substr" rest
      let (b, rest) ← operand "substr" rest
      let (c, rest) ← operand "substr" rest
      pure (.part a b c, rest)
    | s :: rest => .ok (.text s, rest)

/-- Goes on reading operations of one rank, of which the first operand is read, at most so many. -/
def readMore (ops : List String) (join : String → Term → Term → Term) (next : String → List String → Reading) :
    Nat → Term → List String → Reading
  | 0, t, words => .ok (t, words)
  | _ + 1, t, [] => .ok (t, [])
  | fuel + 1, t, op :: rest =>
    if ops.contains op then do
      let (u, rest) ← next op rest
      readMore ops join next fuel (join op t u) rest
    else .ok (t, op :: rest)

/-- Reads operations whose operands `next` reads. -/
def readRank (ops : List String) (join : String → Term → Term → Term) (next : String → List String → Reading)
    (before : String) (words : List String) : Reading := do
  let (t, rest) ← next before words
  readMore ops join next (words.length + 1) t rest

/-- Reads expressions in which parentheses are nested at most so deep. -/
def readAt : Nat → String → List String → Reading
  | 0, before, _ => .error (missing before)
  | depth + 1, before, words =>
    let single := readSingle (readAt depth "(") (words.length + 1)
    let matching := readRank [":"] (fun _ => .matching) single
    let product := readRank ["*", "/", "%"] .arithmetic matching
    let sum := readRank ["+", "-"] .arithmetic product
    let comparison := readRank ["<", "<=", "=", "==", "!=", ">=", ">"] .compare sum
    let conjunction := readRank ["&"] (fun _ => .both) comparison
    readRank ["|"] (fun _ => .either) conjunction before words

/-- The number that a text writes. -/
def number? (s : String) : Option Int :=
  match s.toList with
  | '-' :: cs => (digits? (String.ofList cs)).map fun n => -(n : Int)
  | _ => (digits? s).map fun n => (n : Int)

/-- Whether a value counts as false. -/
def isFalse (s : String) : Bool :=
  s.isEmpty || number? s = some 0

/-- What a text matches of another from its beginning: the first group, or how long the match is. -/
def matched (text pattern : String) : Except (Nat × String) String :=
  match Regex.read? false pattern with
  | none => .error (2, "Unmatched [, [^, [:, [., or [=")
  | some r =>
    let found? := r.matchAt false ⟨0, none, text.toList, []⟩
    if (pattern.splitOn "\\(").length = 1 then .ok (toString ((found?.map (·.position)).getD 0))
    else .ok (String.ofList ((found?.bind fun s => s.groups.lookup 1).getD []))

/-- The value of an expression, or the code and the words for what is wrong. -/
def value : Term → Except (Nat × String) String
  | .text s => .ok s
  | .either a b => do
    let s ← value a
    if !isFalse s then pure s
    else
      let t ← value b
      pure (if isFalse t then "0" else t)
  | .both a b => do
    let s ← value a
    if isFalse s then pure "0"
    else
      let t ← value b
      pure (if isFalse t then "0" else s)
  | .compare op a b => do
    let s ← value a
    let t ← value b
    let order := match number? s, number? t with
      | some m, some n => Ord.compare m n
      | _, _ => Ord.compare s t
    let holds : Bool := match op with
      | "<" => order = .lt
      | "<=" => order ≠ .gt
      | "!=" => order ≠ .eq
      | ">=" => order ≠ .lt
      | ">" => order = .gt
      | _ => order = .eq
    pure (if holds then "1" else "0")
  | .arithmetic op a b => do
    let s ← value a
    let t ← value b
    match number? s, number? t with
    | some m, some n =>
      match op with
      | "+" => pure (toString (m + n))
      | "-" => pure (toString (m - n))
      | "*" => pure (toString (m * n))
      | op =>
        if n = 0 then throw (2, "division by zero")
        else pure (toString (if op = "/" then Int.tdiv m n else Int.tmod m n))
    | _, _ => throw (2, "non-integer argument")
  | .matching a p => do
    let s ← value a
    matched s (← value p)
  | .length a => do pure (toString (← value a).length)
  | .index a cs => do
    let s ← value a
    let cs := (← value cs).toList
    pure (toString (((s.toList.findIdx? cs.contains).map (· + 1)).getD 0))
  | .part a position length => do
    let s ← value a
    let p := number? (← value position)
    let n := number? (← value length)
    pure (match p, n with
      | some p, some n => if p ≤ 0 || n ≤ 0 then "" else takeChars n.toNat (dropChars (p.toNat - 1) s)
      | _, _ => "")

end Expression

/-- Writes the value of an expression. -/
def expr : Body := fun x _ => do
  let words := match x.arguments with
    | "--" :: rest => rest
    | words => words
  if x.arguments = ["--help"] || x.arguments = ["--version"] then introduce x
  else if words.isEmpty then misuse x 2 "missing operand"
  else match Expression.readAt (words.length + 1) "" words with
    | .error fault =>
      complain x fault
      return 2
    | .ok (_, w :: _) =>
      complain x ("syntax error: unexpected argument " ++ quoted w)
      return 2
    | .ok (t, []) =>
      match Expression.value t with
      | .error (code, fault) =>
        complain x fault
        return code
      | .ok s =>
        Act.print (s ++ "\n")
        return if Expression.isFalse s then 1 else 0

end TierSweep.Utility
