/-!
# Patterns for names

A pattern is written with `*` for any characters, `?` for one, and a list in brackets for one of its
members. A character that is quoted stands for itself.
-/

namespace TierSweep.Glob

/-- A member of a list in brackets. -/
inductive Member where
  | range (first last : Char)
  | kind (name : String)

/-- A step of a pattern. -/
inductive Step where
  | char (c : Char)
  | one
  | any
  | member (negated : Bool) (members : List Member)

/-- A character of a pattern, and whether it is quoted. -/
abbrev Mark := Char × Bool

/-- Whether a byte is of a kind that lists call by name. -/
def isOfKind (name : String) (c : Char) : Bool :=
  match name with
  | "alpha" => c.isAlpha
  | "digit" => c.isDigit
  | "alnum" => c.isAlphanum
  | "upper" => c.isUpper
  | "lower" => c.isLower
  | "space" => c = ' ' || (9 ≤ c.toNat && c.toNat ≤ 13)
  | "blank" => c = ' ' || c = '\t'
  | "punct" => 33 ≤ c.toNat && c.toNat ≤ 126 && !c.isAlphanum
  | "print" => 32 ≤ c.toNat && c.toNat ≤ 126
  | "graph" => 33 ≤ c.toNat && c.toNat ≤ 126
  | "cntrl" => c.toNat < 32 || c.toNat = 127
  | "xdigit" => c.isDigit || ('a' ≤ c && c ≤ 'f') || ('A' ≤ c && c ≤ 'F')
  | _ => false

/-- The kinds that lists call by name. -/
def kinds : List String :=
  ["alpha", "digit", "alnum", "upper", "lower", "space", "blank", "punct", "print", "graph", "cntrl", "xdigit"]

/-- Whether a character is a member of a list. -/
def Member.has (c : Char) : Member → Bool
  | range first last => first ≤ c && c ≤ last
  | kind name => isOfKind name c

/-- The kind that is called by name where a list goes on, and how many characters that takes. -/
def kind? (ms : List Mark) : Option (String × Nat) :=
  match ms with
  | ('[', false) :: (':', false) :: rest =>
    let name := (rest.takeWhile fun m => m.1.isAlpha).map (·.1)
    match rest.drop name.length with
    | (':', _) :: (']', _) :: _ =>
      let name := String.ofList name
      if kinds.contains name then some (name, name.length + 4) else none
    | _ => none
  | _ => none

/-- Reads the members of a list up to its closing bracket: the members and what follows. Nothing comes
back if the list has no end. -/
def members? : Nat → Bool → List Mark → Option (List Member × List Mark)
  | 0, _, _ => none
  | _ + 1, _, [] => none
  | fuel + 1, begins, m :: rest =>
    if m = (']', false) && !begins then some ([], rest)
    else match kind? (m :: rest) with
      | some (name, n) =>
        (members? fuel false ((m :: rest).drop n)).map fun (ms, rest) => (.kind name :: ms, rest)
      | none =>
        match rest with
        | ('-', false) :: (e, q) :: more =>
          if (e, q) = (']', false) then
            (members? fuel false rest).map fun (ms, rest) => (.range m.1 m.1 :: ms, rest)
          else (members? fuel false more).map fun (ms, rest) => (.range m.1 e :: ms, rest)
        | _ => (members? fuel false rest).map fun (ms, rest) => (.range m.1 m.1 :: ms, rest)

/-- Reads a pattern, at most so many steps. -/
def stepsWithin : Nat → List Mark → List Step
  | 0, _ => []
  | _ + 1, [] => []
  | fuel + 1, (c, quoted) :: rest =>
    let plain := Step.char c :: stepsWithin fuel rest
    if quoted then plain
    else if c = '*' then .any :: stepsWithin fuel rest
    else if c = '?' then .one :: stepsWithin fuel rest
    else if c = '[' then
      let (negated, list) := match rest with
        | ('!', false) :: more | ('^', false) :: more => (true, more)
        | _ => (false, rest)
      match members? (list.length + 1) true list with
      | some (ms, rest) => .member negated ms :: stepsWithin fuel rest
      | none => plain
    else plain

/-- Reads a pattern. -/
def ofMarks (ms : List Mark) : List Step := stepsWithin (ms.length + 1) ms

/-- Reads a pattern in which a backslash quotes the character behind it. -/
def marksOfChars : List Char → List Mark
  | '\\' :: c :: rest => (c, true) :: marksOfChars rest
  | c :: rest => (c, false) :: marksOfChars rest
  | [] => []

/-- Whether a pattern is more than a text. -/
def isPattern (steps : List Step) : Bool :=
  steps.any fun
    | .char _ => false
    | _ => true

/-- The ends of a text, from the whole to the empty one. -/
def ends : List Char → List (List Char)
  | [] => [[]]
  | c :: cs => (c :: cs) :: ends cs

/-- Whether a whole text fits a pattern. -/
def fits : List Step → List Char → Bool
  | [], cs => cs.isEmpty
  | .any :: steps, cs => (ends cs).any (fits steps)
  | _ :: _, [] => false
  | .char c :: steps, d :: cs => c = d && fits steps cs
  | .one :: steps, _ :: cs => fits steps cs
  | .member negated ms :: steps, d :: cs => (ms.any (Member.has d) ≠ negated) && fits steps cs

/-- A text without the part at its beginning, or at its end, that fits a pattern. -/
def trim (steps : List Step) (atEnd longest : Bool) (cs : List Char) : List Char :=
  let lengths := if longest then (List.range (cs.length + 1)).reverse else List.range (cs.length + 1)
  let taken := lengths.find? fun n =>
    fits steps (if atEnd then cs.drop (cs.length - n) else cs.take n)
  match taken with
  | none => cs
  | some n => if atEnd then cs.take (cs.length - n) else cs.drop n

end TierSweep.Glob
