import TierSweep.Proofs.Coverage.Uniqueness
import TierSweep.Proofs.Session.Classification

/-!
# Redundant runs

The arguments of a run determine the texts of all parameters that are required under its policy
(`Run.text?_eq_of_arguments_eq`). All other parameters are left out of identifiers as well, so a
specification without coverage gaps has the same text for each of them. If its parameters have
different names and the values of each have different texts, then its combinations are told apart by
their texts (`Spec.eq_of_text?_eq`), and no two of them can have the same arguments: a sweep of such
a specification skips nothing (`Spec.nothing_skipped`).

## Main results

* `Run.text?_eq_of_arguments_eq`.
* `Spec.nodup_product`, `Spec.eq_of_text?_eq`.
* `Spec.nothing_skipped`.
-/

namespace TierSweep

/-! ### What arguments determine -/

/-- Configurations that match and have the same texts, running time and number of tiers were read
from the same texts of all required parameters. -/
theorem RunSetup.Reads.text?_eq {r q : RunSetup} {c d : Combination} (hr : r.Reads c)
    (hq : q.Reads d) (h : r.Matches q) (htexts : r.texts = q.texts)
    (hrunningTime : r.runningTime.render = q.runningTime.render)
    (hnumTiers : toString r.numTiers = toString q.numTiers) {name : String}
    (hname : name ∈ r.policy.required) : c.text? name = d.text? name := by
  rcases List.mem_append.mp hname with hname | hname
  · obtain ⟨field, -, rfl⟩ := List.mem_map.mp hname
    simp only [texts, List.cons.injEq, and_true] at htexts
    obtain ⟨hpattern, hclientTierSizes, hserverMemSizes⟩ := htexts
    have hfield : r.textOf field = q.textOf field := by
      cases field with
      | pattern => exact hpattern
      | clientTierSizes => exact hclientTierSizes
      | serverMemSizes => exact hserverMemSizes
      | bufferSize => exact h.bufferSize
      | runningTime => exact hrunningTime
      | policyType => exact congrArg Policy.name h.policy
      | numTiers => exact hnumTiers
      | scanInterval => exact h.scanInterval
      | sampleRate => exact h.sampleRate
    rw [hr.text?_common, hq.text?_common, hfield]
  · obtain ⟨f, hf, rfl⟩ := List.mem_map.mp hname
    have htuned : (r.policy.tuned.map fun f => (f, c.text? f.name))
        = r.policy.tuned.map fun f => (f, d.text? f.name) := by
      rw [← hr.map_tuningTexts, h.tuning, hq.map_tuningTexts, h.policy]
    exact (Prod.mk.inj (List.map_inj_left.mp htuned f hf)).2

/-- The arguments of a run determine the texts of all required parameters. -/
theorem Run.text?_eq_of_arguments_eq {c d : Combination} {x : Experiment} {executable : Path}
    {run other : Run} (hrun : ofCombination c x executable = .ok run)
    (hother : ofCombination d x executable = .ok other)
    (h : run.invocation.arguments = other.invocation.arguments) {name : String}
    (hname : name ∈ run.setup.policy.required) : c.text? name = d.text? name := by
  have hidentifier := identifier_eq_of_arguments_eq hrun hother h
  obtain ⟨r, hr, rfl⟩ := exists_ofSetup hrun
  obtain ⟨q, hq, rfl⟩ := exists_ofSetup hother
  rw [identifier_ofSetup, identifier_ofSetup] at hidentifier
  rw [arguments_ofSetup, arguments_ofSetup, hidentifier] at h
  have hmatches := (Identifier.ofSetup_eq_iff.mp hidentifier).1
  obtain ⟨htexts, hrunningTime, hnumTiers⟩ := (Invocation.argumentsOf_eq_iff hmatches _).mp h
  exact (RunSetup.reads_of_ofCombination hr).text?_eq (RunSetup.reads_of_ofCombination hq) hmatches
    htexts hrunningTime hnumTiers hname

/-- When a combination is skipped, its arguments were launched at an earlier visit of the sweep. -/
theorem Session.exists_earlier_of_skipped {σ : Type} {w : World σ} {o : SweepOptions} {world : σ}
    {spec : Spec} {i : Nat} {v : Visit σ} {e : ReportEntry}
    (hv : (visitsFor w o (start world) (.sweep spec))[i]? = some v) (he : v.entry w o = .ok e)
    (hstage : e.stage = .skipped) :
    ∃ run, v.run o = .ok run ∧ ∃ j u earlier, j < i ∧
      (visitsFor w o (start world) (.sweep spec))[j]? = some u ∧ u.run o = .ok earlier ∧
      earlier.invocation.arguments = run.invocation.arguments := by
  have hvisit : v ∈ visits w o (start world) [.sweep spec] :=
    List.mem_append_left _ (List.mem_of_getElem? hv)
  have hattempted := v.attempted w o
  rw [he] at hattempted
  obtain ⟨run, hverdict⟩ := hattempted.stage_eq_skipped_iff.mp hstage
  obtain ⟨hrun, earlier, hearlier, harguments⟩ :=
    (coherent_of_mem_visits hvisit).repeated_iff.mp hverdict
  obtain ⟨u, hu, hlaunches⟩ := (exists_launch_of_mem_runs hv hearlier).resolve_left List.not_mem_nil
  obtain ⟨j, hj⟩ := List.mem_iff_getElem?.mp hu
  rw [List.getElem?_take] at hj
  split at hj
  · next hlt =>
    exact ⟨run, hrun, j, u, earlier, hlt, hj, Visit.run_of_launches hlaunches, harguments⟩
  · cases hj

namespace Spec

open Session (start visitsFor)

variable {s : Spec} {c d : Combination}

/-! ### Combinations and their texts -/

theorem nodup_productOf {params : List Parameter}
    (h : ∀ p ∈ params, (p.values.map Value.render).Nodup) : (productOf params).Nodup := by
  induction params with
  | nil => exact List.nodup_singleton []
  | cons p params ih =>
    rw [productOf, List.nodup_flatMap]
    refine ⟨fun v _ => ?_, (List.Nodup.of_map _ (h p List.mem_cons_self)).imp fun hne => ?_⟩
    · exact (ih fun q hq => h q (List.mem_cons_of_mem p hq)).map fun _ _ heq =>
        (List.cons.inj heq).2
    · intro entries hv hw
      obtain ⟨_, -, rfl⟩ := List.mem_map.mp hv
      obtain ⟨_, -, heq⟩ := List.mem_map.mp hw
      exact hne (Prod.mk.inj (List.cons.inj heq).1).2.symm

/-- Choices that give every parameter the same text are the same. -/
theorem eq_of_lookup_eq {params : List Parameter} (hnames : (params.map Parameter.name).Nodup)
    (hvalues : ∀ p ∈ params, (p.values.map Value.render).Nodup)
    {entries entries' : List (String × Value)} (hmem : entries ∈ productOf params)
    (hmem' : entries' ∈ productOf params)
    (h : ∀ p ∈ params, (entries.lookup p.name).map Value.render
      = (entries'.lookup p.name).map Value.render) : entries = entries' := by
  induction params generalizing entries entries' with
  | nil => rw [List.mem_singleton.mp hmem, List.mem_singleton.mp hmem']
  | cons p params ih =>
    obtain ⟨v, hv, hentries⟩ := List.mem_flatMap.mp hmem
    obtain ⟨rest, hrest, rfl⟩ := List.mem_map.mp hentries
    obtain ⟨v', hv', hentries'⟩ := List.mem_flatMap.mp hmem'
    obtain ⟨rest', hrest', rfl⟩ := List.mem_map.mp hentries'
    rw [List.map_cons, List.nodup_cons] at hnames
    have htext := h p List.mem_cons_self
    rw [List.lookup_cons_self, List.lookup_cons_self] at htext
    have hvalue : v = v' :=
      List.inj_on_of_nodup_map (hvalues p List.mem_cons_self) hv hv' (Option.some.inj htext)
    have htail : ∀ q ∈ params, (rest.lookup q.name).map Value.render
        = (rest'.lookup q.name).map Value.render := by
      intro q hq
      have hne : (q.name == p.name) = false :=
        beq_eq_false_iff_ne.mpr fun heq => hnames.1 (heq ▸ List.mem_map_of_mem hq)
      have hq := h q (List.mem_cons_of_mem p hq)
      simpa only [List.lookup_cons, hne] using hq
    rw [hvalue, ih hnames.2 (fun q hq => hvalues q (List.mem_cons_of_mem p hq)) hrest hrest' htail]

theorem entries_mem_of_mem_product (h : c ∈ s.product) : c.entries ∈ productOf s.params := by
  rw [product] at h
  split at h
  · exact absurd h List.not_mem_nil
  · obtain ⟨entries, hentries, rfl⟩ := List.mem_map.mp h
    exact hentries

/-- A combination has a text for every parameter of the specification. -/
theorem exists_text_of_mem_product (h : c ∈ s.product) {p : Parameter} (hp : p ∈ s.params) :
    ∃ text, c.text? p.name = some text := by
  have hname : p.name ∈ c.names := by
    rw [names_of_mem_product h]
    exact List.mem_map_of_mem hp
  obtain ⟨entry, hentry, heq⟩ := List.mem_map.mp hname
  cases hvalue : c.entries.lookup p.name with
  | some v => exact ⟨v.render, congrArg (Option.map Value.render) hvalue⟩
  | none =>
    have hne := List.lookup_eq_none_iff.mp hvalue entry hentry
    exact absurd heq.symm (bne_iff_ne.mp hne)

theorem nodup_product (h : ∀ p ∈ s.params, (p.values.map Value.render).Nodup) :
    s.product.Nodup := by
  rw [product]
  split
  · exact List.nodup_nil
  · exact (nodup_productOf h).map fun _ _ heq => Combination.mk.inj heq

/-- Combinations with the same texts are the same if the parameters have different names and the
values of each have different texts. -/
theorem eq_of_text?_eq (hnames : s.names.Nodup)
    (hvalues : ∀ p ∈ s.params, (p.values.map Value.render).Nodup) (hc : c ∈ s.product)
    (hd : d ∈ s.product) (h : ∀ p ∈ s.params, c.text? p.name = d.text? p.name) : c = d := by
  have hentries := eq_of_lookup_eq hnames hvalues (entries_mem_of_mem_product hc)
    (entries_mem_of_mem_product hd) h
  exact congrArg Combination.mk hentries

/-! ### Specifications without gaps -/

/-- Identifiers carry required parameters only. -/
theorem mem_required_of_mem_fields {policy : Policy} {name : String}
    (h : name ∈ Identifier.fields policy) : name ∈ policy.required := by
  have hall : ∀ p ∈ Policy.all, ∀ name ∈ Identifier.fields p, name ∈ p.required := by decide
  exact hall policy policy.mem_all name h

/-- Without gaps, different combinations have different arguments. -/
theorem eq_of_arguments_eq (hnames : s.names.Nodup)
    (hvalues : ∀ p ∈ s.params, (p.values.map Value.render).Nodup) (h : s.gaps = [])
    (hc : c ∈ s.product) (hd : d ∈ s.product) {x : Experiment} {executable : Path}
    {run other : Run} (hrun : Run.ofCombination c x executable = .ok run)
    (hother : Run.ofCombination d x executable = .ok other)
    (harguments : run.invocation.arguments = other.invocation.arguments) : c = d := by
  refine eq_of_text?_eq hnames hvalues hc hd fun p hp => ?_
  by_cases hname : p.name ∈ run.setup.policy.required
  · exact Run.text?_eq_of_arguments_eq hrun hother harguments hname
  · obtain ⟨a, ha⟩ := exists_text_of_mem_product hc hp
    obtain ⟨b, hb⟩ := exists_text_of_mem_product hd hp
    have hpolicy := mem_policies_of_mem_product hc (Run.reads hrun).policy
    rw [ha, hb, text_eq_of_gaps_eq_nil h hc hd hpolicy (mt mem_required_of_mem_fields hname) ha hb]

/-- **A specification without coverage gaps has no redundant runs.** Let the parameters of a
specification have different names and the values of each have different texts. If it has no gaps,
then its combinations are all different, no two of them that are run configurations have the same
arguments, and whatever the constraints are and however launches end, a new session that sweeps it
reports no combination as skipped. -/
theorem nothing_skipped (o : SweepOptions) (s : Spec) (hnames : s.names.Nodup)
    (hvalues : ∀ p ∈ s.params, (p.values.map Value.render).Nodup) (h : s.gaps = []) :
    s.product.Nodup ∧
      (∀ c ∈ s.product, ∀ d ∈ s.product, ∀ run other,
        Run.ofCombination c o.experiment o.benchmark = .ok run →
        Run.ofCombination d o.experiment o.benchmark = .ok other → c ≠ d →
        run.invocation.arguments ≠ other.invocation.arguments) ∧
      ∀ {σ : Type} (w : World σ) (world : σ) t report,
        (start world).sweep w o s = (t, .ok report) → ∀ e ∈ report.entries, e.stage ≠ .skipped := by
  refine ⟨nodup_product hvalues, fun c hc d hd run other hrun hother hne harguments => ?_, ?_⟩
  · exact hne (eq_of_arguments_eq hnames hvalues h hc hd hrun hother harguments)
  · intro σ w world t report hsweep e he hstage
    obtain ⟨i, hi⟩ := List.mem_iff_getElem?.mp he
    obtain ⟨v, hv, hentry⟩ := Session.exists_visit_of_sweep hsweep hi
    obtain ⟨run, hrun, j, u, earlier, hlt, hu, hearlier, harguments⟩ :=
      Session.exists_earlier_of_skipped hv hentry hstage
    have hvparams := (Session.getElem?_visitsOf hv).2
    have huparams := (Session.getElem?_visitsOf hu).2
    -- otherwise two places of the enumeration would hold the same combination
    have hsame : u.params = v.params :=
      eq_of_arguments_eq hnames hvalues h (List.mem_filter.mp (List.mem_of_getElem? huparams)).1
        (List.mem_filter.mp (List.mem_of_getElem? hvparams)).1 hearlier hrun harguments
    rw [hsame, ← hvparams] at huparams
    have hj := (List.getElem?_eq_some_iff.mp (huparams.trans hvparams)).1
    have hplace := (List.getElem?_inj hj ((nodup_product hvalues).filter _)).mp huparams
    exact absurd hplace (Nat.ne_of_lt hlt)

/-- Identifiers blur the difference of two texts, but arguments do not. -/
theorem nothing_skipped_blurred :
    let o := SweepOptions.standard "tiers"
    blurred.names.Nodup ∧ (∀ p ∈ blurred.params, (p.values.map Value.render).Nodup) ∧
      blurred.gaps = [] ∧
      (∃ c ∈ blurred.product, ∃ d ∈ blurred.product, ∃ run other,
        Run.ofCombination c o.experiment o.benchmark = .ok run ∧
        Run.ofCombination d o.experiment o.benchmark = .ok other ∧
        run.identifier = other.identifier ∧
        run.invocation.arguments ≠ other.invocation.arguments) ∧
      ∃ t report, (start ()).sweep (World.answering (.ok .success)) o blurred = (t, .ok report) ∧
        report.entries.length = 2 ∧ ∀ e ∈ report.entries, e.stage ≠ .skipped := by
  intro o
  have hnames : blurred.names.Nodup := by decide
  have hvalues : ∀ p ∈ blurred.params, (p.values.map Value.render).Nodup := by decide +kernel
  have hgaps : blurred.gaps = [] := by decide +kernel
  obtain ⟨-, hdiffer, hskips⟩ := nothing_skipped o blurred hnames hvalues hgaps
  refine ⟨hnames, hvalues, hgaps, ?_, ?_⟩
  · have hshare : (blurred.product.any fun c => blurred.product.any fun d => c ≠ d ∧
        ((Run.ofCombination c o.experiment o.benchmark).toOption.any fun run =>
          (Run.ofCombination d o.experiment o.benchmark).toOption.any fun other =>
            run.identifier = other.identifier) = true) = true := by decide +kernel
    obtain ⟨c, hc, hshare⟩ := List.any_eq_true.mp hshare
    obtain ⟨d, hd, hshare⟩ := List.any_eq_true.mp hshare
    obtain ⟨hne, hshare⟩ := of_decide_eq_true hshare
    cases hrun : Run.ofCombination c o.experiment o.benchmark with
    | error => rw [hrun] at hshare; cases hshare
    | ok run =>
      cases hother : Run.ofCombination d o.experiment o.benchmark with
      | error => rw [hrun, hother] at hshare; cases hshare
      | ok other =>
        rw [hrun, hother] at hshare
        exact ⟨c, hc, d, hd, run, other, hrun, hother, of_decide_eq_true hshare,
          hdiffer c hc d hd run other hrun hother hne⟩
  · have hlength : ((start ()).sweep (World.answering (.ok .success)) o blurred).2.toOption.any
        (·.entries.length = 2) = true := by decide +kernel
    obtain ⟨t, report, hswept, hlength⟩ := Session.exists_report hlength
    exact ⟨t, report, hswept, of_decide_eq_true hlength, hskips _ () t report hswept⟩

end Spec

end TierSweep
