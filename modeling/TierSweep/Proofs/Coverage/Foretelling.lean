import TierSweep.Proofs.Coverage.Uniqueness
import TierSweep.Proofs.Session.Classification

/-!
# Collisions that are foretold

Of all parameters that the benchmark is given, identifiers leave out exactly two, whatever the
policy is: the running time and the number of tiers (`Identifier.leftOut_iff`). If the texts of a
specification are plain, identifiers tell everything else, so a combination can share an identifier
with another invocation only if it differs in one of the two. A parameter in which combinations
differ varies, and one that varies and is left out is a coverage gap. A sweep therefore refuses no
combination whose refusal the coverage gaps do not announce (`Spec.refusals_foretold`).

## Main definitions

* `Identifier.leftOut` — the parameters that identifiers leave out.

## Main results

* `Identifier.leftOut_iff`.
* `Spec.refusals_foretold`.
-/

namespace TierSweep

namespace Identifier

/-- The common parameters that no identifier carries. -/
def leftOut : List CommonField := [.runningTime, .numTiers]

/-- Of the parameters that the benchmark is given under a policy, the identifier leaves out the
running time and the number of tiers, and no other. -/
theorem leftOut_iff {policy : Policy} {name : String} (h : Spec.isPassedOn policy name = true) :
    name ∉ fields policy ↔ name ∈ leftOut.map CommonField.name := by
  have hall : ∀ p ∈ Policy.all, ∀ name ∈ p.required,
      (name ∉ fields p ↔ name ∈ leftOut.map CommonField.name) := by decide
  exact hall policy policy.mem_all name (Spec.isPassedOn_iff.mp h)

end Identifier

namespace Spec

open Session (start visitsFor)

variable {s : Spec} {c d : Combination} {o : SweepOptions} {run other : Run}

/-- The benchmark is given all common parameters. -/
theorem isPassedOn_commonField (policy : Policy) (field : CommonField) :
    isPassedOn policy field.name = true :=
  isPassedOn_iff.mpr (policy.commonField_mem_required field)

/-- A parameter that identifiers leave out is a gap when two valid combinations differ in it. -/
theorem exists_gap_of_leftOut (hc : c ∈ s.product) (hd : d ∈ s.product)
    (hrun : Run.ofCombination c o.experiment o.benchmark = .ok run)
    (hother : Run.ofCombination d o.experiment o.benchmark = .ok other)
    {field : CommonField} (hfield : field ∈ Identifier.leftOut)
    (hne : c.text? field.name ≠ d.text? field.name) :
    ∃ g ∈ s.gaps, g.parameter = field.name ∧ g.policy = run.setup.policy ∧ g.passedOn = true ∧
      2 ≤ g.distinctTexts := by
  have hpassed := isPassedOn_commonField run.setup.policy field
  have hname := (Identifier.leftOut_iff hpassed).mpr (List.mem_map_of_mem hfield)
  have ha := (Run.reads hrun).text?_common field
  have hb := (Run.reads hother).text?_common field
  have hab : run.setup.textOf field ≠ other.setup.textOf field := fun heq =>
    hne (by rw [ha, hb, heq])
  obtain ⟨g, hg, hparameter, hpolicy, hdistinct, hpassedOn⟩ :=
    exists_gap hc hd (mem_policies_of_mem_product hc (Run.reads hrun).policy) hname ha hb hab
  exact ⟨g, hg, hparameter, hpolicy, hpassedOn.trans hpassed, hdistinct⟩

/-- If the texts are plain, valid combinations that share an identifier, but not their arguments,
differ in a parameter that identifiers leave out. -/
theorem exists_leftOut_of_collide (h : s.PlainTexts) (hc : c ∈ s.product) (hd : d ∈ s.product)
    (hrun : Run.ofCombination c o.experiment o.benchmark = .ok run)
    (hother : Run.ofCombination d o.experiment o.benchmark = .ok other)
    (hidentifier : run.identifier = other.identifier)
    (harguments : run.invocation.arguments ≠ other.invocation.arguments) :
    ∃ field ∈ Identifier.leftOut, c.text? field.name ≠ d.text? field.name := by
  obtain ⟨-, hjoined, hdiffer⟩ := (Run.collide_iff hrun hother).mp ⟨hidentifier, harguments⟩
  have htexts : run.setup.texts = other.setup.texts :=
    Identifier.texts_eq_of_joinedTexts_eq (isPlain_of_mem_texts h hc hrun)
      (isPlain_of_mem_texts h hd hother) hjoined
  have hreads := Run.reads hrun
  have hreads' := Run.reads hother
  by_contra hsame
  simp only [Identifier.leftOut, List.mem_cons, List.not_mem_nil, or_false, not_exists, not_and,
    not_not, forall_eq_or_imp, forall_eq] at hsame
  rw [hreads.runningTime, hreads'.runningTime, hreads.numTiers, hreads'.numTiers] at hsame
  exact hdiffer ⟨htexts, Option.some.inj hsame.1, Option.some.inj hsame.2⟩

/-- **Refusals are foretold by coverage gaps.** Let the texts of a specification be plain. If a new
session that sweeps it refuses a combination because of its identifier, without a launch for it,
then an earlier combination was launched with this identifier and other arguments. The two differ in
the running time or in the number of tiers, and each of these in which they differ is a coverage gap
under the policy of the combination: the benchmark is given it, and its values have at least two
texts. The entries of the report are those of the combinations that the sweep comes to. -/
theorem refusals_foretold (o : SweepOptions) (s : Spec) (h : s.PlainTexts) {σ : Type} (w : World σ)
    (world : σ) :
    let vs := visitsFor w.recording o (start (world, [])) (.sweep s)
    ((start (world, [])).sweep w.recording o s).2.map Report.entries
        = vs.mapM (Visit.entry w.recording o) ∧
    ∀ i v e failure, vs[i]? = some v → v.entry w.recording o = .ok e → e.stage = .failed →
      e.failure? = some failure → failure.code = Session.collisionCode →
      (v.after w.recording o).world.2 = v.session.world.2 →
      ∃ run, v.run o = .ok run ∧ ∃ u ∈ vs.take i, ∃ earlier, u.run o = .ok earlier ∧
        (u.after w.recording o).world.2 = u.session.world.2 ++ [earlier.invocation] ∧
        earlier.identifier = run.identifier ∧
        earlier.invocation.arguments ≠ run.invocation.arguments ∧
        (∃ field ∈ Identifier.leftOut, v.params.text? field.name ≠ u.params.text? field.name) ∧
        ∀ field ∈ Identifier.leftOut, v.params.text? field.name ≠ u.params.text? field.name →
          ∃ g ∈ s.gaps, g.parameter = field.name ∧ g.policy = run.setup.policy ∧
            g.passedOn = true ∧ 2 ≤ g.distinctTexts := by
  intro vs
  refine ⟨(Session.sweep_eq_visits w.recording o s _).2, ?_⟩
  intro i v e failure hi he hstage hfailure hcode hcalled
  have hv : v ∈ vs := List.mem_of_getElem? hi
  have hvisit : v ∈ Session.visits w.recording o (start (world, [])) [.sweep s] :=
    List.mem_append_left _ hv
  have hs : Session.Coherent o v.session := Session.coherent_of_mem_visits hvisit
  have hattempted := v.attempted w.recording o
  rw [he] at hattempted
  have hruns := (Session.recorded_after_eq_iff v).mp hcalled
  obtain ⟨run, hverdict⟩ := hattempted.refused_iff.mp ⟨hstage, ⟨failure, hfailure, hcode⟩, hruns⟩
  obtain ⟨hrun, earlier, hearlier, hidentifier, harguments⟩ := hs.colliding_iff.mp hverdict
  obtain ⟨u, hu, hlaunches⟩ : ∃ u ∈ vs.take i, u.Launches w.recording o earlier :=
    (Session.exists_launch_of_mem_runs hi hearlier).resolve_left List.not_mem_nil
  have hother := Visit.run_of_launches hlaunches
  have hproduct {v : Visit (σ × List Invocation)} (hv : v ∈ vs) : v.params ∈ s.product :=
    (List.mem_filter.mp (Session.params_mem_of_mem_visitsOf hv)).1
  have hvmem := hproduct hv
  have humem := hproduct (List.mem_of_mem_take hu)
  refine ⟨run, hrun, u, hu, earlier, hother, Session.recorded_eq_of_runs_eq hlaunches, hidentifier,
    harguments, ?_,
    fun field hfield hne => exists_gap_of_leftOut hvmem humem hrun hother hfield hne⟩
  exact exists_leftOut_of_collide h hvmem humem hrun hother hidentifier.symm harguments.symm

theorem refusals_foretold_numTiers :
    let o := SweepOptions.standard "tiers"
    let s := lru [.text "10-20"] [.int 2, .int 3]
    let w := World.answering (.error (Session.collision "another"))
    let vs := visitsFor w.recording o (start ((), [])) (.sweep s)
    s.PlainTexts ∧ ∃ v ∈ vs, ∃ run, v.run o = .ok run ∧ ∃ u ∈ vs.take 1,
      ∃ field ∈ Identifier.leftOut, v.params.text? field.name ≠ u.params.text? field.name ∧
        ∃ g ∈ s.gaps, g.parameter = field.name ∧ g.policy = run.setup.policy ∧
          g.passedOn = true ∧ 2 ≤ g.distinctTexts := by
  intro o s w vs
  have hplain : s.PlainTexts := by decide +kernel
  have hrefused : (vs[1]?.any fun v => (v.entry w.recording o).toOption.any
      (fun e => e.stage = .failed ∧ e.failure?.any (·.code = Session.collisionCode) = true ∧
        (v.after w.recording o).world.2 = v.session.world.2)) = true := by decide +kernel
  obtain ⟨v, hv, hentry⟩ := (Option.any_eq_true _ _).mp hrefused
  obtain ⟨e, he, hrefuses⟩ := Visit.exists_entry hentry
  obtain ⟨hstage, hfailure, hworld⟩ := of_decide_eq_true hrefuses
  obtain ⟨failure, hfailure, hcode⟩ := (Option.any_eq_true _ _).mp hfailure
  obtain ⟨run, hrun, u, hu, -, -, -, -, -, ⟨field, hfield, hne⟩, hgap⟩ :=
    (refusals_foretold o s hplain _ ()).2 1 v e failure hv he hstage hfailure
      (of_decide_eq_true hcode) hworld
  exact ⟨hplain, v, List.mem_of_getElem? hv, run, hrun, u, hu, field, hfield, hne,
    hgap field hfield hne⟩

end Spec

end TierSweep
