import TierSweep.Proofs.Enumeration.Places

/-!
# Drawing all combinations

Drawing the next combination counts the place up and looks at the constraints; a combination that is
rejected is passed over and the next place is tried (`Enumeration.next_of_accepts`,
`Enumeration.next_of_rejects`). The bound on the number of places tried in one draw is never
reached: a draw comes to nothing only at the end of the places (`Enumeration.next_of_end`). Drawn
until nothing is left, an enumeration therefore gives out the accepted combinations at the places it
passes, in their order, and counts the others (`Enumeration.draws_of_passes`).

## Main definitions

* `Enumeration.Draws` — what drawing gives out until nothing is left.
* `Spec.places` — the places of the enumeration of a specification.

## Main results

* `Enumeration.draws_start`, `Enumeration.take_of_draws`.
* `Spec.combinationCount_eq` — the number of combinations, cut off at the largest counter.
* `Enumeration.drain_start`.
-/

namespace TierSweep

open Spec

namespace Enumeration

/-- Drawing until nothing is left gives out some combinations and ends at an enumeration. -/
inductive Draws : Enumeration → List Combination → Enumeration → Prop
  | nothing {e e' : Enumeration} (h : e.next = (none, e')) : Draws e [] e'
  | more {e e₁ e' : Enumeration} {c : Combination} {cs : List Combination}
      (h : e.next = (some c, e₁)) (hrest : Draws e₁ cs e') : Draws e (c :: cs) e'

/-! ### One place -/

/-- Nothing is drawn at the end. -/
theorem next_of_end {e : Enumeration} (h : e.place? = none) : e.next = (none, e) := by
  rw [next, nextWithin, h]

/-- An accepted combination is given out, and the place is counted up. -/
theorem next_of_accepts {e : Enumeration} {is : List Nat} {entries : List (String × Value)}
    (hplace : e.place? = some is) (hentries : entriesAt e.params is = some entries)
    (haccepts : e.constraints.accepts ⟨entries⟩ = true) :
    e.next = (some ⟨entries⟩,
      { e with place? := following? e.params is, givenOut := e.givenOut + 1 }) := by
  rw [next, nextWithin, hplace]
  simp only [hentries]
  rw [if_pos haccepts]

/-- After a place in range one place less is left. -/
private theorem remaining_following {e : Enumeration} {is : List Nat} (hplace : e.place? = some is)
    (his : InRange e.params is) :
    e.remaining = { e with place? := following? e.params is }.remaining + 1 := by
  simp only [remaining, hplace]
  cases hf : following? e.params is with
  | none =>
    have hlast := position_last his hf
    simp only
    omega
  | some js =>
    have hpos := position_following his hf
    have hjs := inRange_following his hf
    have hle := position_lt hjs
    simp only [hpos]
    omega

/-- A rejected combination is passed over: the draw goes on from the place counted up. -/
theorem next_of_rejects {e : Enumeration} {is : List Nat} {entries : List (String × Value)}
    (hplace : e.place? = some is) (his : InRange e.params is)
    (hentries : entriesAt e.params is = some entries)
    (hrejects : e.constraints.accepts ⟨entries⟩ = false) :
    e.next =
      { e with place? := following? e.params is, passedOver := e.passedOver + 1 }.next := by
  have hrem : e.remaining =
      { e with place? := following? e.params is, passedOver := e.passedOver + 1 }.remaining + 1 :=
    remaining_following hplace his
  rw [next, nextWithin, hplace]
  simp only [hentries]
  rw [if_neg (by simp [hrejects]), next, hrem]

/-! ### All places -/

/-- The enumeration at its end, after some combinations were given out and some passed over. -/
def ended (e : Enumeration) (given passed : Nat) : Enumeration :=
  { e with place? := none, givenOut := e.givenOut + given, passedOver := e.passedOver + passed }

private theorem Draws.of_next_eq {e e₁ e' : Enumeration} {cs : List Combination}
    (heq : e.next = e₁.next) (h : Draws e₁ cs e') : Draws e cs e' := by
  cases h with
  | nothing h => exact .nothing (heq.trans h)
  | more h hrest => exact .more (heq.trans h) hrest

/-- The accepted combinations at the places passed are drawn in their order, and all others are
counted. -/
theorem draws_of_passes {e : Enumeration} {places : List (List Nat)} {cs : List Combination}
    (h : Passes e.params e.place? places) (hplaces : ∀ is ∈ places, InRange e.params is)
    (hcs : places.map (entriesAt e.params) = cs.map fun c => some c.entries) :
    Draws e (cs.filter e.constraints.accepts)
      (e.ended (cs.countP e.constraints.accepts) (cs.countP (!e.constraints.accepts ·))) := by
  induction places generalizing e cs with
  | nil =>
    have hnil : cs = [] := List.map_eq_nil_iff.mp hcs.symm
    have hplace := passes_nil.mp h
    have hend : e.ended 0 0 = e := by rw [ended, ← hplace]; rfl
    subst hnil
    exact .nothing ((next_of_end hplace).trans (by rw [List.countP_nil, List.countP_nil, hend]))
  | cons is places ih =>
    obtain ⟨hplace, hrest⟩ := passes_cons.mp h
    cases cs with
    | nil => exact absurd hcs (List.cons_ne_nil _ _)
    | cons c cs =>
      obtain ⟨hc, hcs⟩ := List.cons.inj hcs
      have htail : ∀ js ∈ places, InRange e.params js := fun js hjs =>
        hplaces js (List.mem_cons_of_mem is hjs)
      cases haccepts : e.constraints.accepts c with
      | true =>
        have hdraws := ih (e := { e with
          place? := following? e.params is, givenOut := e.givenOut + 1 }) hrest htail hcs
        rw [List.filter_cons_of_pos haccepts, List.countP_cons_of_pos haccepts,
          List.countP_cons_of_neg (by simp [haccepts])]
        refine .more (next_of_accepts hplace hc haccepts) ?_
        simpa only [ended, Nat.add_assoc, Nat.add_comm 1] using hdraws
      | false =>
        have hdraws := ih (e := { e with
          place? := following? e.params is, passedOver := e.passedOver + 1 }) hrest htail hcs
        rw [List.filter_cons_of_neg (by simp [haccepts]),
          List.countP_cons_of_neg (by simp [haccepts]),
          List.countP_cons_of_pos (by simp [haccepts])]
        refine Draws.of_next_eq
          (next_of_rejects hplace (hplaces is List.mem_cons_self) hc haccepts) ?_
        simpa only [ended, Nat.add_assoc, Nat.add_comm 1] using hdraws

/-- As many places are passed as are left. -/
theorem remaining_of_passes {e : Enumeration} {places : List (List Nat)}
    (h : Passes e.params e.place? places) (hplaces : ∀ is ∈ places, InRange e.params is) :
    e.remaining = places.length := by
  cases places with
  | nil =>
    have hplace := passes_nil.mp h
    rw [remaining, hplace, List.length_nil]
  | cons is places =>
    have hplace := (passes_cons.mp h).1
    have hsum := (hplace ▸ h).position_add_length (hplaces is List.mem_cons_self)
    simp only [remaining, hplace]
    omega

/-- More draws than there are combinations give out all of them. -/
theorem take_of_draws {e e' : Enumeration} {cs : List Combination} (h : Draws e cs e') {n : Nat}
    (hn : cs.length < n) : e.take n = (cs, e') := by
  induction h generalizing n with
  | nothing h =>
    obtain ⟨n, rfl⟩ := Nat.exists_eq_add_of_lt hn
    rw [List.length_nil, Nat.zero_add, take, h]
  | @more e e₁ e' c cs h _ ih =>
    obtain ⟨n, rfl⟩ : ∃ m, n = m + 1 := Nat.exists_eq_succ_of_ne_zero (by omega)
    rw [take, h]
    simp only
    rw [ih (by rw [List.length_cons] at hn; omega)]

end Enumeration

namespace Spec

/-- The places of the enumeration of a specification; without parameters there is none. -/
def places (s : Spec) : List (List Nat) := if s.params.isEmpty then [] else indexVectors s.params

theorem mem_places {s : Spec} {is : List Nat} :
    is ∈ s.places ↔ s.params ≠ [] ∧ InRange s.params is := by
  rw [places]
  split
  · next h => simp [List.isEmpty_iff.mp h]
  · next h =>
    rw [mem_indexVectors]
    exact ⟨fun his => ⟨fun hnil => h (List.isEmpty_iff.mpr hnil), his⟩, And.right⟩

theorem pairwise_places (s : Spec) : s.places.Pairwise (List.Lex (· < ·)) := by
  rw [places]
  split
  · exact .nil
  · exact pairwise_indexVectors s.params

/-- The combinations at the places of a specification are its product. -/
theorem map_entriesAt_places (s : Spec) :
    s.places.map (Enumeration.entriesAt s.params) = s.product.map fun c => some c.entries := by
  rw [places, product]
  split
  · rfl
  · rw [map_entriesAt_indexVectors, List.map_map]
    rfl

/-- A parameter without values leaves no choice. -/
theorem choices_of_empty {params : List Parameter} {p : Parameter} (hp : p ∈ params)
    (h : p.values = []) : choices params = 0 := by
  induction params with
  | nil => exact absurd hp List.not_mem_nil
  | cons q params ih =>
    have hcons : choices (q :: params) = q.values.length * choices params := rfl
    rcases List.mem_cons.mp hp with rfl | hp
    · rw [hcons, h, List.length_nil, Nat.zero_mul]
    · rw [hcons, ih hp, Nat.mul_zero]

/-- Every combination of the product names all parameters in order. -/
theorem names_of_mem_product {s : Spec} {c : Combination} (h : c ∈ s.product) :
    c.names = s.names := by
  rw [product] at h
  split at h
  · exact absurd h List.not_mem_nil
  · obtain ⟨entries, hentries, rfl⟩ := List.mem_map.mp h
    exact map_fst_of_mem_productOf hentries

theorem length_product (s : Spec) :
    s.product.length = if s.params.isEmpty then 0 else choices s.params := by
  have hlength := congrArg List.length s.map_entriesAt_places
  rw [List.length_map, List.length_map, places] at hlength
  rw [← hlength]
  split
  · rfl
  · exact length_indexVectors s.params

private theorem min_mul_cut (n k m : Nat) : min (min n m * k) m = min (n * k) m := by
  rcases Nat.eq_zero_or_pos k with rfl | hk
  · rw [Nat.mul_zero, Nat.mul_zero]
  · rcases Nat.le_total n m with h | h
    · rw [Nat.min_eq_left h]
    · have hm : m ≤ m * k := Nat.le_mul_of_pos_right m hk
      rw [Nat.min_eq_right h, Nat.min_eq_right hm,
        Nat.min_eq_right (Nat.le_trans hm (Nat.mul_le_mul_right k h))]

/-- The number of combinations is cut off at the largest counter, and nothing else happens to it. -/
theorem combinationCount_eq (s : Spec) :
    s.combinationCount =
      if s.params.isEmpty then 0 else min (choices s.params) Json.maxNat64 := by
  have hfold (params : List Parameter) (n : Nat) :
      params.foldl (fun n p => min (n * p.values.length) Json.maxNat64) (min n Json.maxNat64)
        = min (n * choices params) Json.maxNat64 := by
    induction params generalizing n with
    | nil => exact congrArg (min · _) (Nat.mul_one n).symm
    | cons p params ih =>
      rw [List.foldl_cons, min_mul_cut, ih, Nat.mul_assoc]
      rfl
  rw [combinationCount]
  split
  · rfl
  · exact (hfold s.params 1).trans (by rw [Nat.one_mul])

end Spec

namespace Enumeration

/-- From its start on an enumeration passes all places. -/
theorem passes_start (s : Spec) (t : Constraints) :
    Passes s.params (start s t).place? s.places := by
  rw [start, places]
  by_cases hnone : s.params.isEmpty = true
  · simp only [hnone, Bool.true_or, if_true]
    exact .finished
  · by_cases hempty : s.params.any (·.values.isEmpty) = true
    · obtain ⟨p, hp, hvalues⟩ := List.any_eq_true.mp hempty
      have hzero : (indexVectors s.params).length = 0 :=
        (length_indexVectors s.params).trans (choices_of_empty hp (List.isEmpty_iff.mp hvalues))
      simp only [hempty, Bool.or_true, if_true, if_neg hnone, List.length_eq_zero_iff.mp hzero]
      exact .finished
    · rw [if_neg hnone, if_neg (by simp [hnone, hempty])]
      refine passes_zero fun p hp hvalues => hempty ?_
      exact List.any_eq_true.mpr ⟨p, hp, List.isEmpty_iff.mpr hvalues⟩

theorem inRange_places (s : Spec) : ∀ is ∈ s.places, InRange s.params is := fun _ his =>
  (mem_places.mp his).2

/-- An enumeration gives out the combinations of the product that the constraints accept. -/
theorem draws_start (s : Spec) (t : Constraints) :
    Draws (start s t) (s.product.filter t.accepts)
      ((start s t).ended (s.product.countP t.accepts) (s.product.countP (!t.accepts ·))) :=
  draws_of_passes (passes_start s t) (inRange_places s) s.map_entriesAt_places

/-- There are no more combinations to draw than places left. -/
theorem length_filter_product_le (s : Spec) (t : Constraints) :
    (s.product.filter t.accepts).length ≤ (start s t).remaining := by
  have hlength := congrArg List.length s.map_entriesAt_places
  rw [List.length_map, List.length_map] at hlength
  rw [remaining_of_passes (passes_start s t) (inRange_places s), hlength]
  exact List.length_filter_le _ _

theorem drain_start_eq (s : Spec) (t : Constraints) :
    (start s t).drain = (s.product.filter t.accepts,
      (start s t).ended (s.product.countP t.accepts) (s.product.countP (!t.accepts ·))) :=
  take_of_draws (draws_start s t) (Nat.lt_succ_of_le (length_filter_product_le s t))

/-- **Draining an enumeration** gives out exactly the accepted combinations of the product, which
name all parameters in order, and then nothing is left. The places passed are the index vectors in
range, each once and in lexicographic order, and the entries at them are the product. As long as the
counters can hold the number of choices they count what was given out and passed over, and add up to
the number of combinations, which is the number of choices cut off at the largest counter. Without
parameters, or with a parameter without values, there are no combinations. -/
theorem drain_start (s : Spec) (t : Constraints) :
    ∃ rest, (start s t).drain = (s.product.filter t.accepts, rest) ∧
      Draws (start s t) (s.product.filter t.accepts) rest ∧ rest.place? = none ∧
      (∃ places, Passes s.params (start s t).place? places ∧
        places.Pairwise (List.Lex (· < ·)) ∧
        (∀ is, is ∈ places ↔ s.params ≠ [] ∧ InRange s.params is) ∧
        places.map (entriesAt s.params) = s.product.map fun c => some c.entries) ∧
      (∀ c ∈ s.product, c.names = s.names) ∧
      (choices s.params < twoTo 64 →
        rest.givenOut = (s.product.filter t.accepts).length ∧
        rest.passedOver = (s.product.filter (!t.accepts ·)).length ∧
        rest.givenOut + rest.passedOver = s.combinationCount) ∧
      (s.params = [] ∨ (∃ p ∈ s.params, p.values = []) →
        s.product = [] ∧ s.combinationCount = 0) ∧
      (s.params ≠ [] → s.combinationCount = min (choices s.params) (twoTo 64 - 1)) := by
  refine ⟨_, drain_start_eq s t, draws_start s t, rfl,
    ⟨s.places, passes_start s t, s.pairwise_places, fun _ => mem_places, s.map_entriesAt_places⟩,
    fun _ => names_of_mem_product, ?_, ?_, ?_⟩
  · intro hchoices
    have hsum : s.product.countP t.accepts + s.product.countP (!t.accepts ·)
        = s.product.length := by
      rw [List.length_eq_countP_add_countP t.accepts]
      simp only [Bool.not_eq_true, Bool.decide_eq_false]
    refine ⟨?_, ?_, ?_⟩
    · rw [← List.countP_eq_length_filter]
      exact Nat.zero_add _
    · rw [← List.countP_eq_length_filter]
      exact Nat.zero_add _
    · have hmax : choices s.params ≤ Json.maxNat64 := Nat.le_sub_one_of_lt hchoices
      calc (0 + s.product.countP t.accepts) + (0 + s.product.countP (!t.accepts ·))
          = s.product.length := by rw [Nat.zero_add, Nat.zero_add, hsum]
        _ = s.combinationCount := by
          rw [length_product, combinationCount_eq, Nat.min_eq_left hmax]
  · intro hempty
    have hnone : (if s.params.isEmpty then 0 else choices s.params) = 0 := by
      rcases hempty with h | ⟨p, hp, h⟩
      · rw [h]; rfl
      · rw [choices_of_empty hp h, ite_self]
    refine ⟨List.length_eq_zero_iff.mp (s.length_product.trans hnone), ?_⟩
    rw [combinationCount_eq]
    split
    · rfl
    · next h => rw [if_neg h] at hnone; rw [hnone, Nat.zero_min]
  · intro hparams
    rw [combinationCount_eq, if_neg (mt List.isEmpty_iff.mp hparams)]

/-- Two thresholds of two values each, of which one pair is rejected. -/
def thresholds : Spec :=
  ⟨[⟨"policy_type", [.text "lru"]⟩, ⟨"hot_threshold", [.int 5, .int 15]⟩,
    ⟨"cold_threshold", [.int 10, .int 20]⟩]⟩

theorem drain_thresholds :
    choices thresholds.params < twoTo 64 ∧ thresholds.params ≠ [] ∧
      ∃ rest, (start thresholds .standard).drain
          = (thresholds.product.filter Constraints.standard.accepts, rest) ∧
        rest.givenOut = 3 ∧ rest.passedOver = 1 ∧ thresholds.combinationCount = 4 := by
  have hchoices : choices thresholds.params < twoTo 64 := by decide
  have hparams : thresholds.params ≠ [] := by decide
  obtain ⟨rest, hdrain, -, -, -, -, hcount, -, hsize⟩ := drain_start thresholds .standard
  obtain ⟨hgiven, hover, -⟩ := hcount hchoices
  exact ⟨hchoices, hparams, rest, hdrain, hgiven.trans (by decide +kernel),
    hover.trans (by decide +kernel), (hsize hparams).trans (by decide)⟩

end Enumeration

end TierSweep
