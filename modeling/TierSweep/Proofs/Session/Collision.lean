import TierSweep.Proofs.Session.Course

/-!
# Which combinations collide

A session that comes to combinations remembers one list of arguments for every identifier under
which it launched a run (`Session.nodup_remembered`). A combination is therefore judged to collide
exactly when an earlier one was launched under the same identifier with other arguments
(`Session.colliding_iff`).

## Main definitions

* `Session.launches` — the runs launched by some judgements.

## Main results

* `Session.nodup_remembered`.
* `Session.colliding_iff`.
-/

namespace TierSweep

namespace Session

/-- The runs that are launched by some judgements, from the first to the last. -/
def launches (js : List Judgement) : List Run := js.filterMap (·.verdict.launches?)

variable {o : SweepOptions} {index : Nat} {launched : List (String × List String)}
  {cs : List Combination}

theorem launches_cons (j : Judgement) (js : List Judgement) :
    launches (j :: js) = j.verdict.launches?.toList ++ launches js := by
  rw [launches, List.filterMap_cons]
  cases j.verdict.launches? <;> rfl

/-- What is remembered are the launched runs, the last first. -/
theorem remembered_eq (launched : List (String × List String)) (js : List Judgement) :
    remembered launched js = ((launches js).map Run.memo).reverse ++ launched := by
  induction js generalizing launched with
  | nil => rfl
  | cons j js ih =>
    rw [remembered, List.foldl_cons]
    refine (ih (j.verdict.remember launched)).trans ?_
    rw [launches_cons, Verdict.remember, List.map_append, List.reverse_append, List.append_assoc]
    cases j.verdict.launches? <;> rfl

/-- The first judgements are those on the first combinations. -/
theorem take_judgements (i : Nat) :
    (judgements o index launched cs).take i = judgements o index launched (cs.take i) := by
  induction cs generalizing index launched i with
  | nil => rw [List.take_nil, judgements, List.take_nil]
  | cons c cs ih =>
    cases i with
    | zero => rfl
    | succ i => rw [judgements, List.take_succ_cons, List.take_succ_cons, judgements, ih]

/-- A judgement is the verdict after all judgements before it. -/
theorem verdict_of_getElem? {i : Nat} {j : Judgement}
    (h : (judgements o index launched cs)[i]? = some j) :
    j.params ∈ cs ∧ j.verdict =
      verdict o (remembered launched ((judgements o index launched cs).take i)) j.params := by
  induction cs generalizing index launched i with
  | nil => cases h
  | cons c cs ih =>
    rw [judgements] at h ⊢
    cases i with
    | zero =>
      obtain rfl := Option.some.inj h
      exact ⟨List.mem_cons_self, rfl⟩
    | succ i =>
      obtain ⟨hmem, hverdict⟩ := ih h
      exact ⟨List.mem_cons_of_mem c hmem, hverdict⟩

/-- No identifier is remembered twice. -/
theorem nodup_remembered (index : Nat) (cs : List Combination)
    (h : (launched.map Prod.fst).Nodup) :
    ((remembered launched (judgements o index launched cs)).map Prod.fst).Nodup := by
  induction cs generalizing index launched with
  | nil => exact h
  | cons c cs ih =>
    have hfirst : (((verdict o launched c).remember launched).map Prod.fst).Nodup := by
      rw [Verdict.remember]
      cases hlaunches : (verdict o launched c).launches? with
      | none => exact h
      | some run =>
        have hlookup := (verdict_eq_fresh_iff.mp (Verdict.launches?_eq_some_iff.mp hlaunches)).2
        refine List.nodup_cons.mpr ⟨fun hmem => ?_, h⟩
        obtain ⟨p, hp, hidentifier⟩ := List.mem_map.mp hmem
        have hne := List.lookup_eq_none_iff.mp hlookup p hp
        exact absurd hidentifier.symm (bne_iff_ne.mp hne)
    exact ih (index + 1) hfirst

/-- A combination collides exactly when an earlier one was launched under the same identifier with
other arguments. -/
theorem colliding_iff {i : Nat} {j : Judgement} {run : Run}
    (hj : (judgements o index [] cs)[i]? = some j) (hrun : j.verdict.run? = some run) :
    j.verdict = .colliding run ↔ ∃ earlier ∈ launches ((judgements o index [] cs).take i),
      earlier.identifier = run.identifier ∧
        earlier.invocation.arguments ≠ run.invocation.arguments := by
  obtain ⟨-, hverdict⟩ := verdict_of_getElem? hj
  rw [hverdict] at hrun ⊢
  have hnodup : ((remembered [] ((judgements o index [] cs).take i)).map Prod.fst).Nodup := by
    rw [take_judgements]
    exact nodup_remembered index (cs.take i) .nil
  have hlookup (arguments : List String) :
      (remembered [] ((judgements o index [] cs).take i)).lookup run.identifier = some arguments ↔
        ∃ earlier ∈ launches ((judgements o index [] cs).take i),
          earlier.memo = (run.identifier, arguments) := by
    rw [lookup_eq_some_iff_mem hnodup, remembered_eq, List.append_nil, List.mem_reverse,
      List.mem_map]
  rw [verdict_eq_colliding_iff, and_iff_right (ofCombination_of_run? hrun)]
  constructor
  · rintro ⟨arguments, harguments, hne⟩
    obtain ⟨earlier, hearlier, hmemo⟩ := (hlookup arguments).mp harguments
    obtain ⟨hidentifier, rfl⟩ := Prod.mk.inj hmemo
    exact ⟨earlier, hearlier, hidentifier, hne⟩
  · rintro ⟨earlier, hearlier, hidentifier, hne⟩
    exact ⟨earlier.invocation.arguments,
      (hlookup _).mpr ⟨earlier, hearlier, congrArg (·, _) hidentifier⟩, hne⟩

/-- A launched run was derived from one of the combinations. -/
theorem exists_of_mem_launches {run : Run} (h : run ∈ launches (judgements o index launched cs)) :
    ∃ c ∈ cs, Run.ofCombination c o.experiment o.benchmark = .ok run := by
  obtain ⟨j, hj, hlaunches⟩ := List.mem_filterMap.mp h
  obtain ⟨i, hi⟩ := List.mem_iff_getElem?.mp hj
  obtain ⟨hmem, hverdict⟩ := verdict_of_getElem? hi
  have hfresh := hverdict.symm.trans (Verdict.launches?_eq_some_iff.mp hlaunches)
  exact ⟨j.params, hmem, (verdict_eq_fresh_iff.mp hfresh).1⟩

end Session

end TierSweep
