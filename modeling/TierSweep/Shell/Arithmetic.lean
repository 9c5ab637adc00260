import TierSweep.Number.Power

/-!
# Arithmetic of scripts

Expressions are over integers of 64 bits, which wrap around. A parameter in an expression stands for the
number that its value writes, and an expression can give parameters new values.
-/

namespace TierSweep.Shell.Arithmetic

/-- An operator between two expressions. -/
inductive Binary where
  | mul | div | rem | add | sub | shiftLeft | shiftRight
  | lt | le | gt | ge | eq | ne
  | bitAnd | bitXor | bitOr | both | either
  deriving DecidableEq

/-- An operator in front of an expression. -/
inductive Unary where
  | plus | minus | not | complement

/-- An expression. -/
inductive Expression where
  | number (n : Int64)
  | parameter (name : String)
  | unary (op : Unary) (a : Expression)
  | binary (op : Binary) (a b : Expression)
  | conditional (c a b : Expression)
  /-- Gives a parameter a value, made of the one it had if there is an operator. -/
  | assign (name : String) (op? : Option Binary) (value : Expression)

/-- What an expression is written with. -/
inductive Lexeme where
  | number (n : Int64)
  | name (s : String)
  | operator (s : String)

/-- The operators, longer ones first. -/
def operators : List String :=
  ["<<=", ">>=", "&&", "||", "<<", ">>", "<=", ">=", "==", "!=", "+=", "-=", "*=", "/=", "%=", "&=", "^=", "|=",
    "+", "-", "*", "/", "%", "<", ">", "&", "^", "|", "!", "~", "?", ":", "=", "(", ")"]

/-- Whether a character is white space. -/
def isSpace (c : Char) : Bool := c = ' ' || (9 ≤ c.toNat && c.toNat ≤ 13)

/-- The value of a digit in bases up to sixteen, or more than any base if it is none. -/
def digitValue (c : Char) : Nat :=
  if c.isDigit then c.toNat - '0'.toNat
  else if 'a' ≤ c && c ≤ 'f' then c.toNat - 'a'.toNat + 10
  else if 'A' ≤ c && c ≤ 'F' then c.toNat - 'A'.toNat + 10
  else 99

/-- The number that some digits write. -/
def ofDigits (base : Nat) (ds : List Char) : Nat := ds.foldl (fun n d => n * base + digitValue d) 0

/-- The greatest number. -/
def greatest : Nat := twoTo 63 - 1

/-- Reads the digits with which a text begins; a leading zero tells the base. -/
def readNumber (cs : List Char) : Nat × List Char :=
  let digits (base : Nat) (cs : List Char) : List Char := cs.takeWhile fun c => digitValue c < base
  let of (base : Nat) (cs : List Char) : Nat × List Char :=
    let ds := digits base cs
    (ofDigits base ds, cs.drop ds.length)
  match cs with
  | '0' :: 'x' :: rest | '0' :: 'X' :: rest =>
    if (digits 16 rest).isEmpty then (0, cs.drop 1) else of 16 rest
  | '0' :: _ => of 8 cs
  | _ => of 10 cs

/-- The number that a text writes, perhaps with a sign and white space around it. -/
def ofText? (s : String) : Option Int64 :=
  let cs := s.toList.dropWhile isSpace
  let (negative, cs) := match cs with
    | '-' :: cs => (true, cs)
    | '+' :: cs => (false, cs)
    | _ => (false, cs)
  let (n, rest) := readNumber cs
  if !(rest.all isSpace) then none
  else if (if negative then greatest + 1 else greatest) < n then none
  else some (Int64.ofInt (if negative then -(n : Int) else n))

/-- Cuts an expression into lexemes, at most so many. -/
def lexemes : Nat → List Char → Option (List Lexeme)
  | 0, _ => some []
  | _ + 1, [] => some []
  | fuel + 1, c :: cs =>
    if isSpace c then lexemes fuel cs
    else if c.isDigit then
      let (n, rest) := readNumber (c :: cs)
      (lexemes fuel rest).map (.number (Int64.ofNat (min n greatest)) :: ·)
    else if c.isAlpha || c = '_' then
      let name := (c :: cs).takeWhile fun c => c.isAlphanum || c = '_'
      (lexemes fuel ((c :: cs).drop name.length)).map (.name (String.ofList name) :: ·)
    else match operators.find? fun o => o.toList.isPrefixOf (c :: cs) with
      | some o => (lexemes fuel ((c :: cs).drop o.length)).map (.operator o :: ·)
      | none => none

/-- The operator between two expressions that a text names, and how closely it binds. -/
def binary? (s : String) : Option (Binary × Nat) :=
  match s with
  | "*" => some (.mul, 10) | "/" => some (.div, 10) | "%" => some (.rem, 10)
  | "+" => some (.add, 9) | "-" => some (.sub, 9)
  | "<<" => some (.shiftLeft, 8) | ">>" => some (.shiftRight, 8)
  | "<" => some (.lt, 7) | "<=" => some (.le, 7) | ">" => some (.gt, 7) | ">=" => some (.ge, 7)
  | "==" => some (.eq, 6) | "!=" => some (.ne, 6)
  | "&" => some (.bitAnd, 5) | "^" => some (.bitXor, 4) | "|" => some (.bitOr, 3)
  | "&&" => some (.both, 2) | "||" => some (.either, 1)
  | _ => none

/-- The operator that a text names which gives a parameter a value. -/
def assignment? (s : String) : Option (Option Binary) :=
  match s with
  | "=" => some none
  | "*=" => some (some .mul) | "/=" => some (some .div) | "%=" => some (some .rem)
  | "+=" => some (some .add) | "-=" => some (some .sub)
  | "<<=" => some (some .shiftLeft) | ">>=" => some (some .shiftRight)
  | "&=" => some (some .bitAnd) | "^=" => some (some .bitXor) | "|=" => some (some .bitOr)
  | _ => none

/-- What is read from lexemes, and those that follow. -/
abbrev Reading := Except String (Expression × List Lexeme)

/-- What an expression is missing. -/
def missing (what : String) : String := "expecting " ++ what

/-- Reads an operand. -/
def readOperand (whole : List Lexeme → Reading) (operand : List Lexeme → Reading) :
    List Lexeme → Reading
  | .number n :: rest => .ok (.number n, rest)
  | .name s :: rest => .ok (.parameter s, rest)
  | .operator "(" :: rest => do
    match ← whole rest with
    | (e, .operator ")" :: rest) => pure (e, rest)
    | _ => throw (missing "')'")
  | .operator "+" :: rest => (operand rest).map fun (e, rest) => (.unary .plus e, rest)
  | .operator "-" :: rest => (operand rest).map fun (e, rest) => (.unary .minus e, rest)
  | .operator "!" :: rest => (operand rest).map fun (e, rest) => (.unary .not e, rest)
  | .operator "~" :: rest => (operand rest).map fun (e, rest) => (.unary .complement e, rest)
  | _ => .error (missing "primary")

/-- Goes on behind an expression with operators that bind at least as closely as `level`, at most so
many. -/
def readBinary (operand : List Lexeme → Reading) (tighter : Nat → List Lexeme → Reading) (level : Nat) :
    Nat → Expression → List Lexeme → Reading
  | 0, e, rest => .ok (e, rest)
  | fuel + 1, e, .operator o :: rest =>
    match binary? o with
    | none => .ok (e, .operator o :: rest)
    | some (op, closeness) =>
      if closeness < level then .ok (e, .operator o :: rest)
      else do
        let (f, rest) ← tighter (closeness + 1) rest
        readBinary operand tighter level fuel (.binary op e f) rest
  | _ + 1, e, rest => .ok (e, rest)

/-- The readers for expressions nested at most so deep: operands, operators of a level, and whole
expressions. -/
structure Readers where
  operand : List Lexeme → Reading
  level : Nat → List Lexeme → Reading
  whole : List Lexeme → Reading

/-- Reads a whole expression. -/
def readWhole (inner : Readers) (ls : List Lexeme) : Reading :=
  let conditional : Reading := do
    let (c, rest) ← inner.level 0 ls
    match rest with
    | .operator "?" :: rest =>
      let (a, rest) ← inner.whole rest
      match rest with
      | .operator ":" :: rest =>
        let (b, rest) ← inner.whole rest
        pure (.conditional c a b, rest)
      | _ => throw (missing "':'")
    | _ => pure (c, rest)
  match ls with
  | .name s :: .operator o :: rest =>
    match assignment? o with
    | some op? => (inner.whole rest).map fun (e, rest) => (.assign s op? e, rest)
    | none => conditional
  | _ => conditional

/-- The readers for expressions nested at most so deep. -/
def readersAt : Nat → Readers
  | 0 => ⟨fun _ => .error (missing "primary"), fun _ _ => .error (missing "primary"),
      fun _ => .error (missing "primary")⟩
  | depth + 1 =>
    { operand := fun ls => readOperand (readersAt depth).whole (readersAt depth).operand ls
      level := fun level ls => do
        let (e, rest) ← (readersAt depth).operand ls
        readBinary (readersAt depth).operand (readersAt depth).level level ls.length e rest
      whole := fun ls => readWhole (readersAt depth) ls }

/-- Reads an expression. -/
def read (text : String) : Except String Expression :=
  match lexemes (text.length + 1) text.toList with
  | none => .error (missing "primary")
  | some ls => do
    match ← (readersAt (2 * ls.length + 8)).whole ls with
    | (e, []) => pure e
    | _ => throw (missing "EOF")

/-- A truth as a number. -/
def ofBool (b : Bool) : Int64 := if b then 1 else 0

/-- Why an expression has no value. -/
inductive Fault where
  | divisionByZero
  /-- The value of a parameter is no number. -/
  | notNumber (text : String)

/-- The number that an operator makes of two. -/
def apply (op : Binary) (a b : Int64) : Except Fault Int64 :=
  match op with
  | .mul => .ok (a * b)
  | .div => if b = 0 then .error .divisionByZero else .ok (a / b)
  | .rem => if b = 0 then .error .divisionByZero else .ok (a % b)
  | .add => .ok (a + b)
  | .sub => .ok (a - b)
  | .shiftLeft => .ok (a <<< b)
  | .shiftRight => .ok (a >>> b)
  | .lt => .ok (ofBool (a < b))
  | .le => .ok (ofBool (a ≤ b))
  | .gt => .ok (ofBool (b < a))
  | .ge => .ok (ofBool (b ≤ a))
  | .eq => .ok (ofBool (a = b))
  | .ne => .ok (ofBool (a ≠ b))
  | .bitAnd => .ok (a &&& b)
  | .bitXor => .ok (a ^^^ b)
  | .bitOr => .ok (a ||| b)
  | .both => .ok (ofBool (a ≠ 0 ∧ b ≠ 0))
  | .either => .ok (ofBool (a ≠ 0 ∨ b ≠ 0))

/-- The values of the parameters, those that were given last first, and what they were before. -/
structure Values where
  given : List (String × Int64)
  before : String → Option String

/-- The number that a parameter stands for. -/
def Values.number (v : Values) (name : String) : Except Fault Int64 :=
  match v.given.lookup name with
  | some n => .ok n
  | none =>
    match v.before name with
    | none => .ok 0
    | some s =>
      match ofText? s with
      | some n => .ok n
      | none => .error (.notNumber s)

/-- The value of an expression, and the values of the parameters after it. -/
def Expression.value : Expression → Values → Except Fault (Int64 × Values)
  | .number n, v => .ok (n, v)
  | .parameter name, v => (v.number name).map (·, v)
  | .unary op e, v => do
    let (a, v) ← e.value v
    pure (match op with
      | .plus => a
      | .minus => -a
      | .not => ofBool (a = 0)
      | .complement => ~~~a, v)
  | .binary op e f, v => do
    let (a, v) ← e.value v
    if (op = .both ∧ a = 0) ∨ (op = .either ∧ a ≠ 0) then pure (ofBool (op = .either), v)
    else
      let (b, v) ← f.value v
      pure (← apply op a b, v)
  | .conditional c e f, v => do
    let (a, v) ← c.value v
    if a ≠ 0 then e.value v else f.value v
  | .assign name op? e, v => do
    let (a, v) ← e.value v
    let n ← match op? with
      | none => pure a
      | some op => apply op (← v.number name) a
    pure (n, { v with given := (name, n) :: v.given })

end TierSweep.Shell.Arithmetic
