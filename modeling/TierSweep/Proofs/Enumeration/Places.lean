import Mathlib.Data.List.Forall2
import TierSweep.Enumeration

/-!
# The places of an enumeration

A place in the enumeration of a specification is an index for every parameter. It is *in range* when
every index is below the number of values of its parameter (`Spec.InRange`). The index vectors in
range, written out with the last index varying fastest, are strictly increasing in the lexicographic
order, and they are exactly the places the enumeration passes when it is counted up like an odometer
from the zero vector (`Enumeration.passes_zero`).

A place is also a number written in mixed radix, the last index being the least significant digit.
Counting up adds one to it, and the enumeration ends where the number of choices is reached
(`Enumeration.position_following`, `Enumeration.position_last`).

## Main definitions

* `Spec.InRange`, `Spec.indexVectors`.
* `Enumeration.Passes` — the places an enumeration passes from a place on.

## Main results

* `Spec.mem_indexVectors`, `Spec.pairwise_indexVectors`, `Spec.map_entriesAt_indexVectors`.
* `Enumeration.passes_zero`, `Enumeration.Passes.position_add_length`.
-/

namespace TierSweep

namespace Spec

/-- One index for every parameter, each below the number of values of the parameter. -/
def InRange (params : List Parameter) (is : List Nat) : Prop :=
  List.Forall₂ (fun p i => i < p.values.length) params is

/-- The index vectors in range, the last index varying fastest. -/
def indexVectors : List Parameter → List (List Nat)
  | [] => [[]]
  | p :: ps => (List.range p.values.length).flatMap fun i => (indexVectors ps).map (i :: ·)

@[simp] theorem inRange_nil : InRange [] [] := .nil

@[simp] theorem inRange_cons {p : Parameter} {ps : List Parameter} {i : Nat} {is : List Nat} :
    InRange (p :: ps) (i :: is) ↔ i < p.values.length ∧ InRange ps is :=
  List.forall₂_cons

theorem mem_indexVectors {params : List Parameter} {is : List Nat} :
    is ∈ indexVectors params ↔ InRange params is := by
  induction params generalizing is with
  | nil =>
    rw [indexVectors, List.mem_singleton]
    exact ⟨fun h => h ▸ inRange_nil, fun h => List.forall₂_nil_left_iff.mp h⟩
  | cons p ps ih =>
    simp only [indexVectors, List.mem_flatMap, List.mem_range, List.mem_map]
    constructor
    · rintro ⟨i, hi, js, hjs, rfl⟩
      exact inRange_cons.mpr ⟨hi, ih.mp hjs⟩
    · intro h
      cases h with
      | cons hi hjs => exact ⟨_, hi, _, ih.mpr hjs, rfl⟩

/-- The index vectors are strictly increasing in the lexicographic order. -/
theorem pairwise_indexVectors (params : List Parameter) :
    (indexVectors params).Pairwise (List.Lex (· < ·)) := by
  induction params with
  | nil => exact List.pairwise_singleton _ _
  | cons p ps ih =>
    rw [indexVectors, List.pairwise_flatMap]
    constructor
    · intro i _
      exact ih.map _ fun _ _ h => List.Lex.cons h
    · refine List.pairwise_lt_range.imp fun {i j} hij => ?_
      intro is his js hjs
      obtain ⟨_, _, rfl⟩ := List.mem_map.mp his
      obtain ⟨_, _, rfl⟩ := List.mem_map.mp hjs
      exact List.Lex.rel hij

theorem length_indexVectors (params : List Parameter) :
    (indexVectors params).length = choices params := by
  induction params with
  | nil => rfl
  | cons p ps ih =>
    have hconst : ∀ i ∈ List.range p.values.length,
        ((indexVectors ps).map (i :: ·)).length = choices ps := fun i _ => by
      rw [List.length_map, ih]
    rw [indexVectors, List.length_flatMap, List.map_congr_left hconst, List.map_const',
      List.length_range, List.sum_replicate_nat]
    rfl

private theorem flatMap_range_length {α β : Type} (vs : List α) (f : Nat → List β) (g : α → List β)
    (h : ∀ i, ∀ hi : i < vs.length, f i = g vs[i]) :
    (List.range vs.length).flatMap f = vs.flatMap g := by
  induction vs generalizing f with
  | nil => rfl
  | cons v vs ih =>
    rw [List.length_cons, List.range_succ_eq_map, List.flatMap_cons, List.flatMap_map,
      List.flatMap_cons, h 0 (Nat.succ_pos _), ih fun i => f i.succ]
    · rfl
    · intro i hi
      exact h (i + 1) (Nat.succ_lt_succ hi)

/-- No index vector in range points outside a list of values, and read off in order they give the
product of all choices. -/
theorem map_entriesAt_indexVectors (params : List Parameter) :
    (indexVectors params).map (Enumeration.entriesAt params) = (productOf params).map some := by
  induction params with
  | nil => rfl
  | cons p ps ih =>
    rw [indexVectors, productOf, List.map_flatMap, List.map_flatMap]
    refine flatMap_range_length p.values _ _ fun i hi => ?_
    have hentry (is : List Nat) : Enumeration.entriesAt (p :: ps) (i :: is)
        = (Enumeration.entriesAt ps is).map ((p.name, p.values[i]) :: ·) := by
      rw [Enumeration.entriesAt, List.getElem?_eq_getElem hi]
      cases Enumeration.entriesAt ps is <;> rfl
    calc ((indexVectors ps).map (i :: ·)).map (Enumeration.entriesAt (p :: ps))
        = ((indexVectors ps).map (Enumeration.entriesAt ps)).map
            (Option.map ((p.name, p.values[i]) :: ·)) := by
          rw [List.map_map, List.map_map]
          exact List.map_congr_left fun is _ => hentry is
      _ = ((productOf ps).map ((p.name, p.values[i]) :: ·)).map some := by
          rw [ih, List.map_map, List.map_map]
          rfl

/-- Every choice names all parameters in order. -/
theorem map_fst_of_mem_productOf {params : List Parameter} {entries : List (String × Value)}
    (h : entries ∈ productOf params) : entries.map Prod.fst = params.map Parameter.name := by
  induction params generalizing entries with
  | nil => rw [List.mem_singleton.mp h]; rfl
  | cons p ps ih =>
    simp only [productOf, List.mem_flatMap, List.mem_map] at h
    obtain ⟨v, -, rest, hrest, rfl⟩ := h
    rw [List.map_cons, List.map_cons, ih hrest]

end Spec

namespace Enumeration

open Spec

/-- The places that are passed when the indices are counted up from a place until the end. -/
inductive Passes (params : List Parameter) : Option (List Nat) → List (List Nat) → Prop
  | finished : Passes params none []
  | step {is : List Nat} {rest : List (List Nat)} (h : Passes params (following? params is) rest) :
      Passes params (some is) (is :: rest)

theorem passes_nil {params : List Parameter} {place? : Option (List Nat)} :
    Passes params place? [] ↔ place? = none :=
  ⟨fun h => by cases h; rfl, fun h => h ▸ .finished⟩

theorem passes_cons {params : List Parameter} {place? : Option (List Nat)} {is : List Nat}
    {rest : List (List Nat)} :
    Passes params place? (is :: rest) ↔
      place? = some is ∧ Passes params (following? params is) rest := by
  constructor
  · intro h
    cases h with
    | step h => exact ⟨rfl, h⟩
  · rintro ⟨rfl, h⟩
    exact .step h

/-! ### Counting up -/

theorem following?_cons (p : Parameter) (ps : List Parameter) (i : Nat) (is : List Nat) :
    following? (p :: ps) (i :: is) =
      match following? ps is with
      | some js => some (i :: js)
      | none => if i + 1 < p.values.length then some ((i + 1) :: ps.map fun _ => 0) else none :=
  rfl

/-- While the indices behind it are counted up, the first index stays; then it is counted up itself.
-/
private theorem Passes.cons {p : Parameter} {ps : List Parameter} {place? : Option (List Nat)}
    {places rest : List (List Nat)} (i : Nat) (h : Passes ps place? places)
    (hrest : Passes (p :: ps)
      (if i + 1 < p.values.length then some ((i + 1) :: ps.map fun _ => 0) else none) rest) :
    Passes (p :: ps)
      (match place? with
        | some is => some (i :: is)
        | none => if i + 1 < p.values.length then some ((i + 1) :: ps.map fun _ => 0) else none)
      (places.map (i :: ·) ++ rest) := by
  induction h with
  | finished => exact hrest
  | @step is places _ ih =>
    refine .step ?_
    rw [following?_cons]
    exact ih

/-- From the zero vector on, exactly the index vectors in range are passed, in their order. -/
theorem passes_zero {params : List Parameter} (h : ∀ p ∈ params, p.values ≠ []) :
    Passes params (some (params.map fun _ => 0)) (indexVectors params) := by
  induction params with
  | nil => exact .step .finished
  | cons p ps ih =>
    have hps := ih fun q hq => h q (List.mem_cons_of_mem p hq)
    -- the rows of the first indices that are left, counted down from the last one
    have hrows (k i : Nat) (hk : i + (k + 1) = p.values.length) :
        Passes (p :: ps) (some (i :: ps.map fun _ => 0))
          ((List.range' i (k + 1)).flatMap fun j => (indexVectors ps).map (j :: ·)) := by
      induction k generalizing i with
      | zero =>
        have hend : ¬i + 1 < p.values.length := by omega
        have hlast : Passes (p :: ps)
            (if i + 1 < p.values.length then some ((i + 1) :: ps.map fun _ => 0) else none) [] := by
          rw [if_neg hend]
          exact .finished
        have hrow := Passes.cons i hps hlast
        simpa only [Nat.zero_add, List.range'_one, List.flatMap_cons, List.flatMap_nil] using hrow
      | succ k ihk =>
        have hnext : i + 1 < p.values.length := by omega
        have hrow := Passes.cons (p := p) i hps (by rw [if_pos hnext]; exact ihk (i + 1) (by omega))
        rw [List.range'_succ, List.flatMap_cons]
        exact hrow
    obtain ⟨k, hk⟩ := Nat.exists_eq_succ_of_ne_zero
      (mt List.length_eq_zero_iff.mp (h p List.mem_cons_self))
    have hall := hrows k 0 (by omega)
    rw [indexVectors, List.range_eq_range', hk]
    exact hall

/-! ### Positions -/

private theorem position_zero (params : List Parameter) :
    position params (params.map fun _ => 0) = 0 := by
  induction params with
  | nil => rfl
  | cons p ps ih => rw [List.map_cons, position, ih, Nat.zero_mul]

private theorem inRange_zero_of_inRange {params : List Parameter} {is : List Nat}
    (h : InRange params is) : InRange params (params.map fun _ => 0) := by
  induction h with
  | nil => exact inRange_nil
  | cons hi _ ih => exact inRange_cons.mpr ⟨Nat.zero_lt_of_lt hi, ih⟩

/-- Counting up adds one to the position. Where it cannot, all choices have been passed. -/
private theorem following?_spec {params : List Parameter} {is : List Nat} (h : InRange params is) :
    match following? params is with
    | some js => InRange params js ∧ position params js = position params is + 1
    | none => position params is + 1 = choices params := by
  induction h with
  | nil => rfl
  | @cons p i ps is hi his ih =>
    have hchoices : choices (p :: ps) = p.values.length * choices ps := rfl
    rw [following?_cons]
    cases hf : following? ps is with
    | some js =>
      rw [hf] at ih
      obtain ⟨hjs, hpos⟩ := ih
      exact ⟨inRange_cons.mpr ⟨hi, hjs⟩, by rw [position, position, hpos, Nat.add_assoc]⟩
    | none =>
      rw [hf] at ih
      have hlast : position ps is + 1 = choices ps := ih
      by_cases hnext : i + 1 < p.values.length
      · rw [if_pos hnext]
        refine ⟨inRange_cons.mpr ⟨hnext, inRange_zero_of_inRange his⟩, ?_⟩
        rw [position, position, position_zero, Nat.succ_mul, Nat.add_assoc _ _ 1, hlast,
          Nat.add_zero]
      · rw [if_neg hnext]
        have hi' : p.values.length = i + 1 := by omega
        rw [position, hchoices, hi', Nat.succ_mul, Nat.add_assoc, hlast]

theorem inRange_following {params : List Parameter} {is js : List Nat} (h : InRange params is)
    (hf : following? params is = some js) : InRange params js := by
  have hspec := following?_spec h
  rw [hf] at hspec
  exact hspec.1

/-- Counting up adds one to the position. -/
theorem position_following {params : List Parameter} {is js : List Nat} (h : InRange params is)
    (hf : following? params is = some js) :
    position params js = position params is + 1 := by
  have hspec := following?_spec h
  rw [hf] at hspec
  exact hspec.2

/-- The indices cannot be counted up only at the last of all choices. -/
theorem position_last {params : List Parameter} {is : List Nat} (h : InRange params is)
    (hf : following? params is = none) : position params is + 1 = choices params := by
  have hspec := following?_spec h
  rw [hf] at hspec
  exact hspec

/-- A place in range is one of the choices. -/
theorem position_lt {params : List Parameter} {is : List Nat} (h : InRange params is) :
    position params is < choices params := by
  induction h with
  | nil => exact Nat.one_pos
  | @cons p i ps is hi _ ih =>
    calc i * choices ps + position ps is < i * choices ps + choices ps := Nat.add_lt_add_left ih _
      _ = (i + 1) * choices ps := (Nat.succ_mul i (choices ps)).symm
      _ ≤ p.values.length * choices ps := Nat.mul_le_mul_right _ hi

/-- As many places are passed from a place on as there are choices at or behind it. -/
theorem Passes.position_add_length {params : List Parameter} {is : List Nat}
    {places : List (List Nat)} (h : Passes params (some is) places) (his : InRange params is) :
    position params is + places.length = choices params := by
  induction places generalizing is with
  | nil => cases h
  | cons js rest ih =>
    cases h with
    | step h =>
      cases hf : following? params js with
      | none =>
        rw [hf] at h
        cases h
        exact position_last his hf
      | some ks =>
        rw [hf] at h
        have hrest := ih h (inRange_following his hf)
        rw [position_following his hf] at hrest
        rw [List.length_cons]
        omega

end Enumeration

end TierSweep
