import Mathlib.Data.Multiset.Bind
import TierSweep.Plan
import TierSweep.Proofs.Constraints.Composition
import TierSweep.Proofs.Run.Dependence
import TierSweep.Proofs.Session.Verdict

/-!
# Reordered specifications

Two specifications may list the same parameters in different orders, and the values of each
parameter in different orders (`Spec.Reorders`). The order of a specification is that of its
enumeration, but the choices themselves are the same: without regard to order, a choice is a
multiset of entries, and both specifications have the same multiset of choices
(`Spec.choiceSet_eq_of_reorders`). All that is derived from a combination is read by name, under
names that occur once, so that the order of the entries cannot be told from it: neither from the
judgement of the standard constraints nor from the run or its fault.

## Main definitions

* `Spec.Reorders` — the same parameters with the same values, in other orders.
* `Spec.choiceSet` — all choices without regard to order.
* `Rule.ReadsByName` — a rule that judges by what is found under names.

## Main results

* `Combination.Reorders.get?_eq`, `RunSetup.ofCombination_eq_of_get?_eq`.
* `Spec.exists_perm_product`.
* `Plan.perm_of_reorders`.
-/

namespace TierSweep

/-! ### Reading by name -/

section ByName

variable {c d : Combination}

/-- The same entries under different names, in any order. -/
structure Combination.Reorders (c d : Combination) : Prop where
  entries_perm : c.entries.Perm d.entries
  nodup_names : c.names.Nodup

/-- Entries under different names are found whatever their order is. -/
theorem Combination.Reorders.get?_eq (h : c.Reorders d) : c.get? = d.get? := by
  have hnames : d.names.Nodup := (h.entries_perm.map Prod.fst).nodup_iff.mp h.nodup_names
  ext name v
  rw [get?, get?, Session.lookup_eq_some_iff_mem h.nodup_names,
    Session.lookup_eq_some_iff_mem hnames, h.entries_perm.mem_iff]

/-- A combination is checked by reading it by name. -/
theorem RunSetup.ofCombination_eq_of_get?_eq (h : c.get? = d.get?) :
    ofCombination c = ofCombination d := by
  have hpolicy : policyOf c = policyOf d := by rw [policyOf, policyOf, require, require, h]
  cases hc : policyOf c with
  | error fault => rw [ofCombination, ofCombination, ← hpolicy, hc]; rfl
  | ok policy => exact ofCombination_congr (policyOf_eq_ok_iff.mp hc) fun name _ => congrFun h name

/-- The rule judges by what it finds under names. -/
def Rule.ReadsByName (r : Rule) : Prop :=
  ∀ c d : Combination, c.get? = d.get? → r.holds? c = r.holds? d

theorem Rule.atMost_eq_of_get?_eq (h : c.get? = d.get?) (low high : TuningField) :
    atMost low high c = atMost low high d := by
  simp only [atMost, Combination.binary64?, h]

theorem Constraints.readsByName_standard : ∀ r ∈ standard.rules, r.ReadsByName := by
  intro r hr c d h
  simp only [standard, List.mem_cons, List.not_mem_nil, or_false] at hr
  rcases hr with rfl | rfl <;> exact Rule.atMost_eq_of_get?_eq h _ _

/-- Constraints whose rules read by name read by name. -/
theorem Constraints.accepts_eq_of_get?_eq {t : Constraints} (ht : ∀ r ∈ t.rules, r.ReadsByName)
    (h : c.get? = d.get?) : t.accepts c = t.accepts d := by
  rw [accepts_eq, accepts_eq, Bool.eq_iff_iff, List.all_eq_true, List.all_eq_true]
  refine forall₂_congr fun r hr => ?_
  simp only [Rule.prunes, Rule.rejects, Combination.policyText?, h, ht r hr c d h]

end ByName

/-! ### Choices without regard to order -/

/-- Two parameters of one name that take the same values, in any order. -/
structure Parameter.Reorders (p q : Parameter) : Prop where
  name_eq : p.name = q.name
  values_perm : p.values.Perm q.values

namespace Spec

/-- Two specifications with the same parameters, in any order, each taking the same values, in any
order. -/
def Reorders (s t : Spec) : Prop :=
  ∃ params, s.params.Perm params ∧ List.Forall₂ Parameter.Reorders params t.params

/-- All choices of one value for every parameter, without regard to their order and to that of their
entries. -/
def choiceSet (params : List Parameter) : Multiset (Multiset (String × Value)) :=
  .ofList ((productOf params).map .ofList)

theorem choiceSet_cons (p : Parameter) (ps : List Parameter) :
    choiceSet (p :: ps) = (p.values : Multiset Value).bind fun v =>
      (choiceSet ps).map ((p.name, v) ::ₘ ·) := by
  simp only [choiceSet, productOf, List.map_flatMap, List.map_map, Multiset.map_coe,
    Multiset.coe_bind]
  rfl

/-- The order of the parameters does not matter for the choices. -/
theorem choiceSet_eq_of_perm {params others : List Parameter} (h : params.Perm others) :
    choiceSet params = choiceSet others := by
  induction h with
  | nil => rfl
  | cons p _ ih => rw [choiceSet_cons, choiceSet_cons, ih]
  | swap p q ps =>
    simp only [choiceSet_cons, Multiset.map_bind, Multiset.map_map, Function.comp_def]
    rw [Multiset.bind_bind]
    simp only [Multiset.cons_swap]
  | trans _ _ ih ih' => exact ih.trans ih'

/-- The order of the values does not matter either. -/
theorem choiceSet_eq_of_forall₂ {params others : List Parameter}
    (h : List.Forall₂ Parameter.Reorders params others) : choiceSet params = choiceSet others := by
  induction h with
  | nil => rfl
  | cons hp _ ih =>
    rw [choiceSet_cons, choiceSet_cons, ih, hp.name_eq, Multiset.coe_eq_coe.mpr hp.values_perm]

variable {s t : Spec}

theorem choiceSet_eq_of_reorders (h : s.Reorders t) :
    choiceSet s.params = choiceSet t.params := by
  obtain ⟨params, hperm, hvalues⟩ := h
  exact (choiceSet_eq_of_perm hperm).trans (choiceSet_eq_of_forall₂ hvalues)

theorem Reorders.isEmpty_eq (h : s.Reorders t) :
    s.params.isEmpty = t.params.isEmpty := by
  obtain ⟨params, hperm, hvalues⟩ := h
  rw [Bool.eq_iff_iff, List.isEmpty_iff_length_eq_zero, List.isEmpty_iff_length_eq_zero,
    hperm.length_eq, hvalues.length_eq]

/-- Two lists whose members look the same through a function, in any order, can be paired. -/
private theorem exists_perm_forall₂_of_perm_map {α β : Type} {f : α → β} {l l' : List α}
    (h : (l.map f).Perm (l'.map f)) :
    ∃ m, l.Perm m ∧ List.Forall₂ (fun a b => f a = f b) m l' := by
  have hcomp : Relation.Comp (List.Forall₂ fun a b => f a = b) List.Perm l (l'.map f) :=
    ⟨l.map f, List.forall₂_map_right_iff.mpr (List.forall₂_same.mpr fun _ _ => rfl), h⟩
  rw [List.forall₂_comp_perm_eq_perm_comp_forall₂] at hcomp
  obtain ⟨m, hm, hpaired⟩ := hcomp
  exact ⟨m, hm, List.forall₂_map_right_iff.mp hpaired⟩

/-- The combinations of a reordered specification are those of the first with their entries
reordered, in some order. -/
theorem exists_perm_product (h : s.Reorders t) (hnames : s.names.Nodup) :
    ∃ cs, s.product.Perm cs ∧ List.Forall₂ Combination.Reorders cs t.product := by
  obtain ⟨cs, hcs, hpaired⟩ : ∃ cs, s.product.Perm cs ∧
      List.Forall₂ (fun c d : Combination => c.entries.Perm d.entries) cs t.product := by
    rw [product, product, ← h.isEmpty_eq]
    split
    · exact ⟨[], .nil, .nil⟩
    · have hchoices := choiceSet_eq_of_reorders h
      obtain ⟨choices, hperm, hpaired⟩ :=
        exists_perm_forall₂_of_perm_map (Multiset.coe_eq_coe.mp hchoices)
      refine ⟨choices.map Combination.mk, hperm.map _, ?_⟩
      rw [List.forall₂_map_left_iff, List.forall₂_map_right_iff]
      exact hpaired.imp fun _ _ => Multiset.coe_eq_coe.mp
  have hdistinct : ∀ c ∈ cs, c.names.Nodup := fun c hc => by
    rw [names_of_mem_product (hcs.mem_iff.mpr hc)]
    exact hnames
  exact ⟨cs, hcs, ((List.forall₂_and_left cs t.product).mpr ⟨hdistinct, hpaired⟩).imp
    fun _ _ hc => ⟨hc.2, hc.1⟩⟩

/-- The same holds of the combinations that a condition leaves, if it cannot tell the order of
entries. -/
theorem exists_perm_filter_product (h : s.Reorders t) (hnames : s.names.Nodup)
    {p : Combination → Bool} (hp : ∀ c d : Combination, c.Reorders d → p c = p d) :
    ∃ cs, (s.product.filter p).Perm cs ∧
      List.Forall₂ Combination.Reorders cs (t.product.filter p) := by
  obtain ⟨cs, hperm, hpaired⟩ := exists_perm_product h hnames
  refine ⟨cs.filter p, hperm.filter p, List.rel_filter (fun c d hcd => ?_) hpaired⟩
  exact iff_of_eq (congrArg (· = true) (hp c d hcd))

theorem countP_product_eq (h : s.Reorders t) (hnames : s.names.Nodup) {p : Combination → Bool}
    (hp : ∀ c d : Combination, c.Reorders d → p c = p d) :
    s.product.countP p = t.product.countP p := by
  obtain ⟨cs, hperm, hpaired⟩ := exists_perm_filter_product h hnames hp
  rw [List.countP_eq_length_filter, List.countP_eq_length_filter, hperm.length_eq,
    hpaired.length_eq]

end Spec

/-- What an entry of a plan says of its combination, without regard to its position and to the order
of the combination's entries. -/
def PlanEntry.unordered (e : PlanEntry) : Multiset (String × Value) × Except SetupFault Run :=
  (.ofList e.params.entries, e.run)

namespace Plan

theorem map_unordered_ofCombinations (x : Experiment) (executable : Path) (index : Nat)
    (cs : List Combination) :
    (ofCombinations x executable index cs).map PlanEntry.unordered
      = cs.map fun c => (.ofList c.entries, Run.ofCombination c x executable) := by
  induction cs generalizing index with
  | nil => rfl
  | cons c cs ih => rw [ofCombinations, List.map_cons, List.map_cons, ih, PlanEntry.unordered]

/-- **The order of a specification only affects order.** Let a specification list the parameters of
another one, whose names are different, in any order, and the values of each parameter in any order.
Then

* both enumerations give out the same number of combinations and pass over the same number;
* both plans are about the same combinations up to the order of their entries, each as many times,
  and have the same run or the same fault for each of them;
* in particular both plans have the same runs and the same faults, each as many times, wherever the
  results go and whatever is launched. -/
theorem perm_of_reorders {s t : Spec} (h : s.Reorders t) (hnames : s.names.Nodup) (x : Experiment)
    (executable : Path) :
    let before := (Enumeration.start s .standard).drain
    let after := (Enumeration.start t .standard).drain
    before.2.givenOut = after.2.givenOut ∧ before.2.passedOver = after.2.passedOver ∧
      ((ofSpec s x executable).map PlanEntry.unordered).Perm
        ((ofSpec t x executable).map PlanEntry.unordered) ∧
      ((ofSpec s x executable).map PlanEntry.run).Perm
        ((ofSpec t x executable).map PlanEntry.run) := by
  intro before after
  have haccepts (c d : Combination) (hcd : c.Reorders d) :
      Constraints.standard.accepts c = Constraints.standard.accepts d :=
    Constraints.accepts_eq_of_get?_eq Constraints.readsByName_standard hcd.get?_eq
  obtain ⟨hgiven, hpassed, -⟩ := Enumeration.counters_drain s .standard
  obtain ⟨hgiven', hpassed', -⟩ := Enumeration.counters_drain t .standard
  have hunordered : ((ofSpec s x executable).map PlanEntry.unordered).Perm
      ((ofSpec t x executable).map PlanEntry.unordered) := by
    obtain ⟨cs, hperm, hpaired⟩ := Spec.exists_perm_filter_product h hnames haccepts
    simp only [ofSpec, Enumeration.drain_start_eq, map_unordered_ofCombinations]
    refine (hperm.map _).trans (.of_eq ?_)
    rw [← List.forall₂_eq_eq_eq, List.forall₂_map_left_iff, List.forall₂_map_right_iff]
    refine hpaired.imp fun c d hcd => Prod.ext (Multiset.coe_eq_coe.mpr hcd.entries_perm) ?_
    simp only [Run.ofCombination, RunSetup.ofCombination_eq_of_get?_eq hcd.get?_eq]
  refine ⟨?_, ?_, hunordered, ?_⟩
  · rw [hgiven, hgiven', Spec.countP_product_eq h hnames haccepts]
  · rw [hpassed, hpassed']
    exact Spec.countP_product_eq h hnames fun c d hcd => congrArg not (haccepts c d hcd)
  · have hruns := hunordered.map Prod.snd
    rwa [List.map_map, List.map_map] at hruns

/-- Eight choices, of which two are rejected and three have a fault. -/
def thresholdsOrTiers : Spec :=
  ⟨[⟨"pattern", [.text "uniform"]⟩, ⟨"client_tier_sizes", [.text "10-20"]⟩,
    ⟨"server_mem_sizes", [.int 30]⟩, ⟨"buffer_size", [.int 10]⟩, ⟨"running_time", [.int 5]⟩,
    ⟨"policy_type", [.text "lru"]⟩, ⟨"num_tiers", [.int 2, .text "many"]⟩,
    ⟨"scan_interval", [.int 1]⟩, ⟨"sample_rate", [.int 100]⟩, ⟨"hot_threshold", [.int 5, .int 15]⟩,
    ⟨"cold_threshold", [.int 10, .int 20]⟩]⟩

theorem perm_of_reorders_thresholdsOrTiers :
    let s := thresholdsOrTiers
    let t : Spec := ⟨s.params.reverse.map fun p => ⟨p.name, p.values.reverse⟩⟩
    let x : Experiment := ⟨.ofString "result", "tiers"⟩
    s.Reorders t ∧ s.names.Nodup ∧
      (Enumeration.start t .standard).drain.2.givenOut = 6 ∧
      (Enumeration.start t .standard).drain.2.passedOver = 2 ∧
      ((ofSpec s x (.ofString "main")).map PlanEntry.run).Perm
        ((ofSpec t x (.ofString "main")).map PlanEntry.run) ∧
      (ofSpec s x (.ofString "main")).map (fun e => e.run.isOk)
        ≠ (ofSpec t x (.ofString "main")).map (fun e => e.run.isOk) := by
  intro s t x
  have hreorders : s.Reorders t := by
    refine ⟨s.params.reverse, (List.reverse_perm _).symm, List.forall₂_map_right_iff.mpr ?_⟩
    exact List.forall₂_same.mpr fun p _ => ⟨rfl, (List.reverse_perm _).symm⟩
  have hnames : s.names.Nodup := by decide
  obtain ⟨hgiven, hpassed, -, hruns⟩ := perm_of_reorders hreorders hnames x (.ofString "main")
  exact ⟨hreorders, hnames, hgiven.symm.trans (by decide +kernel),
    hpassed.symm.trans (by decide +kernel), hruns, by decide +kernel⟩

end Plan

end TierSweep
