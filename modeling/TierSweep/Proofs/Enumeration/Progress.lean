import TierSweep.Proofs.Enumeration.Draws

/-!
# How far an enumeration has come

An enumeration that is not drawn until nothing is left stops behind the place of the combination
that it gave out last. Until then it has counted every place up to this one, either as given out or
as passed over, and none behind it (`Enumeration.take_of_passes`). The number of combinations passed
over in front of a combination is therefore the number of rejected places in front of its own
(`Enumeration.exists_places_of_take`).

## Main definitions

* `Spec.rejectsAt` — whether the combination at a place is rejected.
* `Enumeration.behind` — an enumeration that has come further.

## Main results

* `Enumeration.take_of_passes`.
* `Enumeration.exists_places_of_take`.
-/

namespace TierSweep

/-- Whether the constraints reject the combination at a place of a specification. -/
def Spec.rejectsAt (s : Spec) (t : Constraints) (is : List Nat) : Bool :=
  (Enumeration.entriesAt s.params is).any fun entries => !t.accepts ⟨entries⟩

namespace Enumeration

open Spec

/-- The enumeration at a place that it reached by giving out some combinations and passing over
some. -/
def behind (e : Enumeration) (place? : Option (List Nat)) (given passed : Nat) : Enumeration :=
  { e with place? := place?, givenOut := e.givenOut + given, passedOver := e.passedOver + passed }

/-- All draws together depend on the first one only. -/
theorem take_of_next_eq {e e₁ : Enumeration} (h : e.next = e₁.next) (n : Nat) :
    e.take (n + 1) = e₁.take (n + 1) := by
  rw [take, take, h]

/-- The enumeration draws the accepted combinations in front of an accepted one, and then this one.
It has then counted all places up to that of the last combination drawn, and is just behind it. -/
theorem take_of_passes {e : Enumeration} {before after : List (List Nat)} {is : List Nat}
    {cs : List Combination} {c : Combination}
    (h : Passes e.params e.place? (before ++ is :: after))
    (hbefore : ∀ js ∈ before, InRange e.params js)
    (hcs : before.map (entriesAt e.params) = cs.map fun c => some c.entries)
    (hc : entriesAt e.params is = some c.entries) (haccepts : e.constraints.accepts c = true) :
    e.take (cs.countP e.constraints.accepts + 1)
      = (cs.filter e.constraints.accepts ++ [c],
        e.behind (following? e.params is) (cs.countP e.constraints.accepts + 1)
          (cs.countP (!e.constraints.accepts ·))) := by
  induction before generalizing e cs with
  | nil =>
    obtain rfl : cs = [] := List.map_eq_nil_iff.mp hcs.symm
    have hplace := (passes_cons.mp h).1
    rw [List.countP_nil, take, next_of_accepts hplace hc haccepts]
    rfl
  | cons js before ih =>
    obtain ⟨hplace, hrest⟩ := passes_cons.mp h
    cases cs with
    | nil => exact absurd hcs (List.cons_ne_nil _ _)
    | cons d cs =>
      obtain ⟨hd, hcs⟩ := List.cons.inj hcs
      have htail : ∀ ks ∈ before, InRange e.params ks := fun ks hks =>
        hbefore ks (List.mem_cons_of_mem js hks)
      cases hdaccepts : e.constraints.accepts d with
      | true =>
        have hdraws :=
          ih (e := { e with place? := following? e.params js, givenOut := e.givenOut + 1 }) hrest
            htail hcs hc haccepts
        rw [List.filter_cons_of_pos hdaccepts, List.countP_cons_of_pos hdaccepts,
          List.countP_cons_of_neg (by simp [hdaccepts]), take,
          next_of_accepts hplace hd hdaccepts]
        simp only [hdraws]
        simp only [behind, List.cons_append, Nat.add_assoc, Nat.add_comm 1]
      | false =>
        have hdraws := ih (e := { e with
          place? := following? e.params js, passedOver := e.passedOver + 1 }) hrest htail hcs hc
          haccepts
        rw [List.filter_cons_of_neg (by simp [hdaccepts]),
          List.countP_cons_of_neg (by simp [hdaccepts]),
          List.countP_cons_of_pos (by simp [hdaccepts]),
          take_of_next_eq (next_of_rejects hplace (hbefore js List.mem_cons_self) hd hdaccepts)]
        simpa only [behind, Nat.add_assoc, Nat.add_comm 1] using hdraws

/-- Some places reject as many combinations as there are rejected ones among theirs. -/
theorem countP_rejectsAt {s : Spec} {t : Constraints} {places : List (List Nat)}
    {cs : List Combination}
    (h : places.map (entriesAt s.params) = cs.map fun c => some c.entries) :
    places.countP (s.rejectsAt t) = cs.countP (!t.accepts ·) ∧
      places.countP (!s.rejectsAt t ·) = cs.countP t.accepts := by
  have hcount (judge : Option (List (String × Value)) → Bool) :
      places.countP (judge ∘ entriesAt s.params) = cs.countP fun c => judge (some c.entries) := by
    rw [← List.countP_map, h, List.countP_map]
    rfl
  constructor
  · exact hcount (·.any fun entries => !t.accepts ⟨entries⟩)
  · refine (hcount fun entries? => !entries?.any fun entries => !t.accepts ⟨entries⟩).trans ?_
    simp only [Option.any_some, Bool.not_not]

/-- Drawn as often as it takes to give out the combination at a position, the enumeration of a
specification has passed over the combinations at exactly those rejected places that lie in front of
the place of this combination. -/
theorem exists_places_of_take {s : Spec} {t : Constraints} {n : Nat} {c : Combination}
    (h : (s.product.filter t.accepts)[n]? = some c) :
    ∃ before is after, s.places = before ++ is :: after ∧
      entriesAt s.params is = some c.entries ∧ before.countP (!s.rejectsAt t ·) = n ∧
      ((start s t).take (n + 1)).2.passedOver = before.countP (s.rejectsAt t) := by
  obtain ⟨hn, hget⟩ := List.getElem?_eq_some_iff.mp h
  have hsplit : s.product.filter t.accepts
      = (s.product.filter t.accepts).take n ++ c :: (s.product.filter t.accepts).drop (n + 1) := by
    rw [← hget, List.getElem_cons_drop, List.take_append_drop]
  obtain ⟨front, back, hproduct, hfront, hback⟩ := List.filter_eq_append_iff.mp hsplit
  obtain ⟨skipped, post, rfl, hskipped, haccepts, -⟩ := List.filter_eq_cons_iff.mp hback
  -- the combinations in front of the one given out, and their places
  have hcs : s.product = (front ++ skipped) ++ c :: post := by rw [hproduct, List.append_assoc]
  have hplaces := s.map_entriesAt_places
  rw [hcs, List.map_append] at hplaces
  obtain ⟨before, rest, hbefore, hbeforeMap, hrest⟩ := List.map_eq_append_iff.mp hplaces
  obtain ⟨is, after, rfl, his, -⟩ := List.map_eq_cons_iff.mp hrest
  have hcount : (front ++ skipped).countP t.accepts = n := by
    have hnone : skipped.countP t.accepts = 0 := List.countP_eq_zero.mpr hskipped
    rw [List.countP_append, hnone, Nat.add_zero, List.countP_eq_length_filter, hfront,
      List.length_take, Nat.min_eq_left (Nat.le_of_lt hn)]
  obtain ⟨hrejected, haccepted⟩ := countP_rejectsAt (t := t) hbeforeMap
  have htake := take_of_passes (e := start s t) (hbefore ▸ passes_start s t)
    (fun js hjs => inRange_places s js (hbefore ▸ List.mem_append_left _ hjs)) hbeforeMap his
    haccepts
  have hcount' : (front ++ skipped).countP (start s t).constraints.accepts = n := hcount
  rw [hcount'] at htake
  refine ⟨before, is, after, hbefore, his, haccepted.trans hcount, ?_⟩
  rw [htake, hrejected]
  exact Nat.zero_add _

end Enumeration

end TierSweep
