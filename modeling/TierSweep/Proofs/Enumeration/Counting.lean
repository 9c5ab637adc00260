import Mathlib.Data.List.Lex
import Mathlib.Data.List.ReduceOption
import TierSweep.Proofs.Enumeration.Progress

/-!
# The place and the counters of an enumeration

An enumeration is asked again and again for the next combination, one by one or in batches. At any
time it stands between two of the places of its specification: it has counted all places in front of
it, as given out or as passed over, and none behind it (`Enumeration.StandsBetween`). So its place,
read as a number, is the sum of the two counters. One request moves it behind the next accepted
place, or behind all places if none is accepted any more (`Enumeration.StandsBetween.next`), and an
enumeration that has answered once that nothing is left stays as it is.

## Main definitions

* `Enumeration.ask` — what an enumeration answers to so many requests.
* `Enumeration.takeEach` — drawing in batches.
* `Enumeration.StandsBetween` — the places it has come past, and those it has not.
* `Enumeration.Accounts` — what the place and the counters say after some answers.

## Main results

* `Enumeration.StandsBetween.next`, `Enumeration.exists_standsBetween_ask`.
* `Enumeration.accounts_ask_start`.
-/

namespace TierSweep

open Spec

namespace Spec

variable {s : Spec} {t : Constraints} {is : List Nat}

/-- There is a combination at every place. -/
theorem exists_entriesAt (h : is ∈ s.places) :
    ∃ c : Combination, Enumeration.entriesAt s.params is = some c.entries := by
  have hmem := List.mem_map_of_mem (f := Enumeration.entriesAt s.params) h
  rw [s.map_entriesAt_places] at hmem
  obtain ⟨c, -, hc⟩ := List.mem_map.mp hmem
  exact ⟨c, hc.symm⟩

theorem rejectsAt_eq {c : Combination} (h : Enumeration.entriesAt s.params is = some c.entries) :
    s.rejectsAt t is = !t.accepts c := by
  rw [rejectsAt, h, Option.any_some]

/-- None of some rejected places is accepted. -/
theorem countP_accepted_of_rejected {places : List (List Nat)}
    (h : ∀ js ∈ places, s.rejectsAt t js = true) : places.countP (!s.rejectsAt t ·) = 0 :=
  List.countP_eq_zero.mpr fun js hjs => by simp [h js hjs]

/-- With a parameter there are as many places as choices. -/
theorem length_places (h : s.params ≠ []) : s.places.length = choices s.params := by
  rw [places, if_neg (mt List.isEmpty_iff.mp h), length_indexVectors]

end Spec

namespace Enumeration

/-- What an enumeration answers to so many requests for the next combination, and where it then is.
-/
def ask (e : Enumeration) : Nat → List (Option Combination) × Enumeration
  | 0 => ([], e)
  | n + 1 => ((e.ask n).1 ++ [(e.ask n).2.next.1], (e.ask n).2.next.2)

/-- Draws batch after batch, of each as many combinations as asked for or as are left. -/
def takeEach (e : Enumeration) : List Nat → List (List Combination) × Enumeration
  | [] => ([], e)
  | n :: sizes => ((e.take n).1 :: ((e.take n).2.takeEach sizes).1, ((e.take n).2.takeEach sizes).2)

/-- A place is in front of an enumeration that has come to a later one or to the end. -/
def isPast (e : Enumeration) (js : List Nat) : Bool := e.place?.all fun is => decide (js < is)

/-! ### Requests one after another -/

section Requests

variable {e : Enumeration}

theorem ask_add (e : Enumeration) (m n : Nat) :
    e.ask (m + n) = ((e.ask m).1 ++ ((e.ask m).2.ask n).1, ((e.ask m).2.ask n).2) := by
  induction n with
  | zero => rw [Nat.add_zero, ask, List.append_nil]
  | succ n ih => rw [← Nat.add_assoc, ask, ih, ask, List.append_assoc]

/-- The first of some requests, and then the others. -/
theorem ask_succ (e : Enumeration) (n : Nat) :
    e.ask (n + 1) = (e.next.1 :: (e.next.2.ask n).1, (e.next.2.ask n).2) := by
  rw [Nat.add_comm, ask_add]
  rfl

/-- At its end an enumeration answers every request alike and stays as it is. -/
theorem ask_of_end (h : e.place? = none) (n : Nat) : e.ask n = (List.replicate n none, e) := by
  induction n with
  | zero => rfl
  | succ n ih => rw [ask, ih, next_of_end h, List.replicate_succ']

/-- A batch is drawn by some requests. -/
theorem exists_ask_of_take (e : Enumeration) (k : Nat) :
    ∃ n, (e.ask n).1.reduceOption = (e.take k).1 ∧ (e.ask n).2 = (e.take k).2 := by
  induction k generalizing e with
  | zero => exact ⟨0, rfl, rfl⟩
  | succ k ih =>
    rw [take]
    cases hnext : e.next with
    | mk answer rest =>
      cases answer with
      | none =>
        refine ⟨1, ?_⟩
        rw [ask_succ, hnext]
        exact ⟨rfl, rfl⟩
      | some c =>
        obtain ⟨n, hgiven, hrest⟩ := ih rest
        refine ⟨n + 1, ?_⟩
        rw [ask_succ, hnext]
        exact ⟨by rw [List.reduceOption_cons_of_some, hgiven], hrest⟩

/-- Batch after batch is drawn by some requests, one after another. -/
theorem exists_ask_of_takeEach (e : Enumeration) (sizes : List Nat) :
    ∃ n, (e.ask n).1.reduceOption = (e.takeEach sizes).1.flatten ∧
      (e.ask n).2 = (e.takeEach sizes).2 := by
  induction sizes generalizing e with
  | nil => exact ⟨0, rfl, rfl⟩
  | cons k sizes ih =>
    obtain ⟨m, hbatch, hthen⟩ := exists_ask_of_take e k
    obtain ⟨n, hbatches, hend⟩ := ih (e.take k).2
    refine ⟨m + n, ?_⟩
    rw [ask_add, hthen, takeEach]
    exact ⟨by rw [List.reduceOption_append, hbatch, hbatches, List.flatten_cons], hend⟩

end Requests

/-! ### Between the places -/

/-- What is passed behind some places is passed from the first of it on. -/
theorem Passes.of_append {params : List Parameter} {place? : Option (List Nat)}
    {before after : List (List Nat)} (h : Passes params place? (before ++ after)) :
    Passes params after.head? after := by
  induction before generalizing place? with
  | nil =>
    cases after with
    | nil => exact .finished
    | cons is after => exact .step (passes_cons.mp h).2
  | cons is before ih => exact ih (passes_cons.mp h).2

/-- An enumeration has come past some places and not to others: it has counted the former and will
go on with the latter. -/
structure StandsBetween (s : Spec) (t : Constraints) (before after : List (List Nat))
    (e : Enumeration) : Prop where
  params_eq : e.params = s.params
  constraints_eq : e.constraints = t
  places_eq : s.places = before ++ after
  passes : Passes s.params e.place? after
  givenOut_eq : e.givenOut = before.countP (!s.rejectsAt t ·)
  passedOver_eq : e.passedOver = before.countP (s.rejectsAt t)

theorem standsBetween_start (s : Spec) (t : Constraints) :
    StandsBetween s t [] s.places (start s t) where
  params_eq := rfl
  constraints_eq := rfl
  places_eq := rfl
  passes := passes_start s t
  givenOut_eq := rfl
  passedOver_eq := rfl

namespace StandsBetween

variable {s : Spec} {t : Constraints} {before after : List (List Nat)} {e : Enumeration}

/-! ### One request -/

/-- Going on past one place, which is counted as given out or as passed over. -/
theorem past {is : List Nat} (h : StandsBetween s t before (is :: after) e) (given passed : Nat)
    (hgiven : given = [is].countP (!s.rejectsAt t ·))
    (hpassed : passed = [is].countP (s.rejectsAt t)) :
    StandsBetween s t (before ++ [is]) after (e.behind (following? e.params is) given passed) where
  params_eq := h.params_eq
  constraints_eq := h.constraints_eq
  places_eq := by rw [h.places_eq, List.append_assoc, List.singleton_append]
  passes := by
    rw [behind, h.params_eq]
    exact (passes_cons.mp h.passes).2
  givenOut_eq := by rw [behind, List.countP_append, ← hgiven, h.givenOut_eq]
  passedOver_eq := by rw [behind, List.countP_append, ← hpassed, h.passedOver_eq]

/-- A request leads behind the next place that is accepted, past those that are rejected, or to the
end if no place is accepted any more. -/
theorem next (h : StandsBetween s t before after e) :
    (∃ skipped is rest c, after = skipped ++ is :: rest ∧
      (∀ js ∈ skipped, s.rejectsAt t js = true) ∧ s.rejectsAt t is = false ∧
      entriesAt s.params is = some c.entries ∧ e.next.1 = some c ∧
      StandsBetween s t (before ++ skipped ++ [is]) rest e.next.2) ∨
    ((∀ js ∈ after, s.rejectsAt t js = true) ∧ e.next.1 = none ∧
      StandsBetween s t (before ++ after) [] e.next.2) := by
  induction after generalizing before e with
  | nil =>
    rw [next_of_end (passes_nil.mp h.passes), List.append_nil]
    exact .inr ⟨fun _ hjs => absurd hjs List.not_mem_nil, rfl, h⟩
  | cons is after ih =>
    have hplace := (passes_cons.mp h.passes).1
    have hmem : is ∈ s.places := by
      rw [h.places_eq]
      exact List.mem_append_right _ List.mem_cons_self
    obtain ⟨c, hc⟩ := exists_entriesAt hmem
    have hentries : entriesAt e.params is = some c.entries := by rw [h.params_eq, hc]
    have hrejects : s.rejectsAt t is = !e.constraints.accepts c := by
      rw [h.constraints_eq, rejectsAt_eq hc]
    cases haccepts : e.constraints.accepts c with
    | true =>
      rw [haccepts] at hrejects
      rw [next_of_accepts hplace hentries haccepts]
      refine .inl ⟨[], is, after, c, rfl, fun _ hjs => absurd hjs List.not_mem_nil, hrejects, hc,
        rfl, ?_⟩
      rw [List.append_nil]
      exact h.past 1 0 (by simp [hrejects]) (by simp [hrejects])
    | false =>
      rw [haccepts] at hrejects
      have hrange : InRange e.params is := h.params_eq ▸ inRange_places s is hmem
      rw [next_of_rejects hplace hrange hentries haccepts]
      have hpast : StandsBetween s t (before ++ [is]) after
          { e with place? := following? e.params is, passedOver := e.passedOver + 1 } :=
        h.past 0 1 (by simp [hrejects]) (by simp [hrejects])
      rcases ih hpast with ⟨skipped, js, rest, d, rfl, hskipped, hjs, hd, hnext, hstands⟩ |
        ⟨hafter, hnext, hstands⟩
      · refine .inl ⟨is :: skipped, js, rest, d, rfl, List.forall_mem_cons.mpr ⟨hrejects, hskipped⟩,
          hjs, hd, hnext, ?_⟩
        simpa using hstands
      · refine .inr ⟨List.forall_mem_cons.mpr ⟨hrejects, hafter⟩, hnext, ?_⟩
        simpa using hstands

/-! ### What the place says -/

theorem sum_eq (h : StandsBetween s t before after e) :
    e.givenOut + e.passedOver = before.length := by
  rw [h.givenOut_eq, h.passedOver_eq, Nat.add_comm,
    List.length_eq_countP_add_countP (s.rejectsAt t)]
  simp only [Bool.not_eq_true, Bool.decide_eq_false]

theorem place?_eq_head? (h : StandsBetween s t before after e) : e.place? = after.head? := by
  cases after with
  | nil => exact passes_nil.mp h.passes
  | cons is after => exact (passes_cons.mp h.passes).1

/-- The place is in range and, as a number, the sum of the counters. -/
theorem position_eq {is : List Nat} (h : StandsBetween s t before after e)
    (his : e.place? = some is) :
    InRange s.params is ∧ position s.params is = e.givenOut + e.passedOver := by
  have hmem : is ∈ s.places := by
    rw [h.places_eq]
    exact List.mem_append_right _ (List.mem_of_mem_head? (h.place?_eq_head? ▸ his))
  obtain ⟨hparams, hrange⟩ := mem_places.mp hmem
  refine ⟨hrange, ?_⟩
  have hposition := Passes.position_add_length (his ▸ h.passes) hrange
  have hlength := length_places hparams
  rw [h.places_eq, List.length_append] at hlength
  rw [h.sum_eq]
  omega

/-- The last of the places in front of the enumeration, as a number, is one less than there are. -/
theorem position_last {front : List (List Nat)} {is : List Nat}
    (h : StandsBetween s t (front ++ [is]) after e) :
    is ∈ s.places ∧ e.givenOut + e.passedOver = position s.params is + 1 := by
  have hplaces : s.places = front ++ is :: after := by
    rw [h.places_eq, List.append_assoc, List.singleton_append]
  have hmem : is ∈ s.places := by
    rw [hplaces]
    exact List.mem_append_right _ List.mem_cons_self
  obtain ⟨hparams, hrange⟩ := mem_places.mp hmem
  refine ⟨hmem, ?_⟩
  have hpasses := (hplaces ▸ passes_start s t : Passes s.params _ (front ++ is :: after)).of_append
  have hposition := Passes.position_add_length hpasses hrange
  have hlength := length_places hparams
  rw [hplaces, List.length_append] at hlength
  rw [h.sum_eq, List.length_append, List.length_singleton]
  omega

/-- The enumeration is at its end when it has counted all choices, or if there is no parameter. -/
theorem place?_eq_none_iff (h : StandsBetween s t before after e) :
    e.place? = none ↔ s.params = [] ∨ e.givenOut + e.passedOver = choices s.params := by
  have hsplit := congrArg List.length h.places_eq
  rw [List.length_append] at hsplit
  rw [h.place?_eq_head?, List.head?_eq_none_iff, h.sum_eq]
  by_cases hparams : s.params = []
  · have hnone : s.places = [] := by rw [places, hparams]; rfl
    have hafter : after = [] := by
      rw [h.places_eq] at hnone
      exact (List.append_eq_nil_iff.mp hnone).2
    exact ⟨fun _ => .inl hparams, fun _ => hafter⟩
  · rw [length_places hparams] at hsplit
    rw [or_iff_right hparams, ← List.length_eq_zero_iff]
    omega

/-- The places in front of the enumeration are those that it has come past. -/
theorem filter_isPast (h : StandsBetween s t before after e) :
    s.places.filter e.isPast = before := by
  have hsorted := s.pairwise_places
  rw [h.places_eq] at hsorted ⊢
  obtain ⟨-, hafter, hacross⟩ := List.pairwise_append.mp hsorted
  rw [List.filter_append, List.filter_eq_self.mpr, List.filter_eq_nil_iff.mpr, List.append_nil]
  · intro js hjs
    cases after with
    | nil => exact absurd hjs List.not_mem_nil
    | cons is rest =>
      rw [isPast, h.place?_eq_head?]
      have hle : is ≤ js := by
        rcases List.mem_cons.mp hjs with rfl | hjs
        · exact le_refl _
        · exact le_of_lt (List.rel_of_pairwise_cons hafter hjs)
      simpa using hle
  · intro js hjs
    cases after with
    | nil => rw [isPast, h.place?_eq_head?]; rfl
    | cons is rest =>
      rw [isPast, h.place?_eq_head?]
      exact decide_eq_true (hacross js hjs is List.mem_cons_self)

end StandsBetween

/-! ### Any number of requests -/

/-- After any number of requests the enumeration stands between two places, and as many places in
front of it are accepted as combinations were given out. Once nothing was left, no place is behind
it; before that, the last place in front of it is the one of the combination given out last. -/
theorem exists_standsBetween_ask (s : Spec) (t : Constraints) (n : Nat) :
    ∃ before after, StandsBetween s t before after ((start s t).ask n).2 ∧
      before.countP (!s.rejectsAt t ·) = ((start s t).ask n).1.reduceOption.length ∧
      (none ∈ ((start s t).ask n).1 → after = []) ∧
      (none ∉ ((start s t).ask n).1 →
        before = [] ∧ ((start s t).ask n).1 = [] ∨
        ∃ front is c, before = front ++ [is] ∧ entriesAt s.params is = some c.entries ∧
          ((start s t).ask n).1.getLast? = some (some c)) := by
  induction n with
  | zero =>
    exact ⟨[], s.places, standsBetween_start s t, rfl, fun h => absurd h List.not_mem_nil,
      fun _ => .inl ⟨rfl, rfl⟩⟩
  | succ n ih =>
    obtain ⟨before, after, hstands, hcount, hend, -⟩ := ih
    simp only [ask]
    rcases hstands.next with ⟨skipped, is, rest, c, rfl, hskipped, his, hc, hnext, hthen⟩ |
      ⟨hafter, hnext, hthen⟩
    · rw [hnext]
      refine ⟨_, _, hthen, ?_, ?_, ?_⟩
      · simp [List.countP_append, hcount, countP_accepted_of_rejected hskipped, his,
          List.reduceOption_append]
      · intro hmem
        simp only [List.mem_append, List.mem_singleton, reduceCtorEq, or_false] at hmem
        exact absurd (hend hmem) (by simp)
      · exact fun _ => .inr ⟨_, is, c, rfl, hc, List.getLast?_concat⟩
    · rw [hnext]
      refine ⟨_, _, hthen, ?_, fun _ => rfl, fun hmem => absurd ?_ hmem⟩
      · simp [List.countP_append, hcount, countP_accepted_of_rejected hafter,
          List.reduceOption_append]
      · exact List.mem_append_right _ (List.mem_singleton.mpr rfl)

/-- What the place and the counters of an enumeration say after it has given some answers. -/
structure Accounts (s : Spec) (t : Constraints) (answers : List (Option Combination))
    (e : Enumeration) : Prop where
  /-- The place has an index in range for every parameter and, read as a number whose last digit is
  the last index, is the sum of the counters. -/
  position_eq : ∀ is, e.place? = some is →
    InRange s.params is ∧ position s.params is = e.givenOut + e.passedOver
  /-- There is no place any more once all choices are counted, and none from the beginning if there
  are no parameters. -/
  place?_eq_none_iff :
    e.place? = none ↔ s.params = [] ∨ e.givenOut + e.passedOver = choices s.params
  givenOut_eq : e.givenOut = answers.reduceOption.length
  /-- The rejected places in front of the present one have been passed over, and no others. -/
  passedOver_eq : e.passedOver = s.places.countP fun js => s.rejectsAt t js && e.isPast js
  /-- While only combinations were answered, no place behind that of the last one is counted. -/
  sum_eq : none ∉ answers → answers = [] ∧ e.givenOut + e.passedOver = 0 ∨
    ∃ c is, answers.getLast? = some (some c) ∧ is ∈ s.places ∧
      entriesAt s.params is = some c.entries ∧
      e.givenOut + e.passedOver = position s.params is + 1
  /-- After the first answer that nothing is left, every further one is the same and changes
  nothing. -/
  ask_eq : none ∈ answers → ∀ n, e.ask n = (List.replicate n none, e)

/-- **The account of an enumeration**: after any number of requests its place, read as a number, is
the number of combinations given out and passed over. It counts what it has answered and the
rejected places in front of it, and nothing behind the last combination that it gave out. Drawing in
batches of any sizes comes to the same as some number of requests. -/
theorem accounts_ask_start (s : Spec) (t : Constraints) :
    (∀ n, Accounts s t ((start s t).ask n).1 ((start s t).ask n).2) ∧
      ∀ sizes, ∃ n, ((start s t).ask n).1.reduceOption = ((start s t).takeEach sizes).1.flatten ∧
        ((start s t).ask n).2 = ((start s t).takeEach sizes).2 := by
  refine ⟨fun n => ?_, exists_ask_of_takeEach (start s t)⟩
  obtain ⟨before, after, hstands, hcount, hend, hlast⟩ := exists_standsBetween_ask s t n
  refine ⟨fun _ => hstands.position_eq, hstands.place?_eq_none_iff, ?_, ?_, fun hmem => ?_,
    fun hmem => ?_⟩
  · rw [hstands.givenOut_eq, hcount]
  · rw [← List.countP_filter, hstands.filter_isPast, hstands.passedOver_eq]
  · rcases hlast hmem with ⟨rfl, hnone⟩ | ⟨front, is, c, rfl, hc, hgiven⟩
    · exact .inl ⟨hnone, hstands.sum_eq⟩
    · obtain ⟨his, hsum⟩ := hstands.position_last
      exact .inr ⟨c, is, hgiven, his, hc, hsum⟩
  · apply ask_of_end
    rw [hstands.place?_eq_head?, hend hmem, List.head?_nil]

end Enumeration

end TierSweep
