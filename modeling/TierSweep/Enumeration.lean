import TierSweep.Constraints
import TierSweep.Spec

/-!
# Enumerating combinations

The combinations of a specification are enumerated one at a time, the last parameter varying fastest.
The place in the enumeration is an index for every parameter, counted up like an odometer; those that
the constraints reject are counted and passed over. Beside it stands the plain product of all choices.
-/

namespace TierSweep

namespace Spec

/-- All choices of one value for every parameter, the last one varying fastest. -/
def productOf : List Parameter → List (List (String × Value))
  | [] => [[]]
  | p :: rest => p.values.flatMap fun v => (productOf rest).map ((p.name, v) :: ·)

/-- All combinations before any constraint; a specification without parameters has none. -/
def product (s : Spec) : List Combination :=
  if s.params.isEmpty then [] else (productOf s.params).map Combination.mk

end Spec

/-- A place in the enumeration of the combinations of some parameters. -/
structure Enumeration where
  params : List Parameter
  constraints : Constraints
  /-- An index for every parameter, or nothing at the end. -/
  place? : Option (List Nat)
  /-- How many combinations have been given out. -/
  givenOut : Nat
  /-- How many combinations have been passed over. -/
  passedOver : Nat

namespace Enumeration

/-- The enumeration from the beginning. It is at its end at once if there are no parameters or one of
them takes no value. -/
def start (s : Spec) (constraints : Constraints) : Enumeration where
  params := s.params
  constraints := constraints
  place? :=
    if s.params.isEmpty || s.params.any (·.values.isEmpty) then none
    else some (s.params.map fun _ => 0)
  givenOut := 0
  passedOver := 0

/-- The entries at the given indices, if all of them are in range. -/
def entriesAt : List Parameter → List Nat → Option (List (String × Value))
  | p :: ps, i :: is => do
    let v ← p.values[i]?
    let rest ← entriesAt ps is
    pure ((p.name, v) :: rest)
  | [], [] => some []
  | _, _ => none

/-- The next indices: the last one that can be counted up is, and all after it start again. -/
def following? : List Parameter → List Nat → Option (List Nat)
  | p :: ps, i :: is =>
    match following? ps is with
    | some js => some (i :: js)
    | none => if i + 1 < p.values.length then some ((i + 1) :: ps.map fun _ => 0) else none
  | _, _ => none

/-- The number of combinations before the given indices. -/
def position : List Parameter → List Nat → Nat
  | _ :: ps, i :: is => i * Spec.choices ps + position ps is
  | _, _ => 0

/-- How many combinations are left, accepted or not. -/
def remaining (e : Enumeration) : Nat :=
  match e.place? with
  | none => 0
  | some is => Spec.choices e.params - position e.params is

/-- Goes on to the next combination that the constraints accept, past at most `fuel` others. -/
def nextWithin : Nat → Enumeration → Option Combination × Enumeration
  | 0, e => (none, e)
  | fuel + 1, e =>
    match e.place? with
    | none => (none, e)
    | some is =>
      match entriesAt e.params is with
      | none => (none, { e with place? := none })
      | some entries =>
        let e := { e with place? := following? e.params is }
        if e.constraints.accepts ⟨entries⟩ then (some ⟨entries⟩, { e with givenOut := e.givenOut + 1 })
        else nextWithin fuel { e with passedOver := e.passedOver + 1 }

/-- The next combination that the constraints accept, and the place after it. -/
def next (e : Enumeration) : Option Combination × Enumeration := nextWithin (e.remaining + 1) e

/-- Up to `n` further combinations. -/
def take : Nat → Enumeration → List Combination × Enumeration
  | 0, e => ([], e)
  | n + 1, e =>
    match e.next with
    | (none, e) => ([], e)
    | (some c, e) =>
      let (cs, e) := take n e
      (c :: cs, e)

/-- All further combinations. -/
def drain (e : Enumeration) : List Combination × Enumeration := take (e.remaining + 1) e

end Enumeration

end TierSweep
