import TierSweep.Proofs.Coverage.Redundancy

/-!
# What coverage gaps predict

A coverage gap says whether the benchmark is given the parameter that varies. This predicts what
becomes of two combinations that differ in this parameter only, once the first of them was
launched. Identifiers leave the parameter out, so the two share an identifier
(`Spec.identifier_eq_of_gap`) and the second is not launched. If the benchmark is given the
parameter, their arguments differ and the second is refused; otherwise they are the same run and the
second is skipped (`Spec.gap_predicts_verdict`). The words that people see, `collides` and
`duplicates`, are these two verdicts.

## Main definitions

* `Combination.DifferOnlyIn` — two combinations differ in one parameter.

## Main results

* `Spec.identifier_eq_of_gap`.
* `Spec.gap_predicts_verdict`.
-/

namespace TierSweep

/-- Of the parameters named, two combinations have the same values for all but one, for which their
texts differ. -/
structure Combination.DifferOnlyIn (c d : Combination) (names : List String) (name : String) :
    Prop where
  same : ∀ other ∈ names, other ≠ name → c.get? other = d.get? other
  differ : c.text? name ≠ d.text? name

/-- A run has the policy that its combination names. -/
theorem Run.policy_of_hasPolicy {c : Combination} {p : Policy} {x : Experiment} {executable : Path}
    {run : Run} (h : c.HasPolicy p) (hrun : ofCombination c x executable = .ok run) :
    run.setup.policy = p := by
  obtain ⟨r, hr, rfl⟩ := exists_ofSetup hrun
  rw [setup_ofSetup]
  exact RunSetup.policy_of_hasPolicy h hr

namespace Spec

open RunSetup (timed)
open Session (start history)

variable {s : Spec} {g : CoverageGap} {c d : Combination} {x : Experiment} {executable : Path}
  {run other : Run}

/-- The identifiers of the policy of a gap leave out its parameter, and the gap says whether the
benchmark is given it. -/
theorem of_mem_gaps (h : g ∈ s.gaps) :
    g.parameter ∉ Identifier.fields g.policy ∧
      g.passedOn = isPassedOn g.policy g.parameter := by
  obtain ⟨p, -, hg⟩ := List.mem_flatMap.mp h
  simp only [gapsOf] at hg
  split at hg
  · exact absurd hg List.not_mem_nil
  · obtain ⟨policy, hpolicy, rfl⟩ := List.mem_map.mp hg
    exact ⟨by simpa using (List.mem_filter.mp hpolicy).2, rfl⟩

/-- A combination has no value for a parameter that the specification does not have. -/
theorem get?_eq_none_of_mem_product (h : c ∈ s.product) {name : String} (hname : name ∉ s.names) :
    c.get? name = none := by
  rw [Combination.get?, List.lookup_eq_none_iff]
  intro entry hentry
  refine bne_iff_ne.mpr fun heq => hname ?_
  have hnames : s.names = c.names := (names_of_mem_product h).symm
  rw [hnames, heq]
  exact List.mem_map_of_mem hentry

/-- Combinations of a specification that differ in one of its parameters only have the same values
under all other names. -/
theorem agreesOn_of_differOnlyIn (hc : c ∈ s.product) (hd : d ∈ s.product) {name : String}
    (h : c.DifferOnlyIn d s.names name) {others : List String} (hname : name ∉ others) :
    c.AgreesOn d others := by
  intro other hother
  have hne : other ≠ name := fun heq => hname (heq ▸ hother)
  by_cases hmem : other ∈ s.names
  · exact h.same other hmem hne
  · rw [get?_eq_none_of_mem_product hc hmem, get?_eq_none_of_mem_product hd hmem]

/-- Runs whose combinations differ only in the parameter of a gap share an identifier. -/
theorem identifier_eq_of_gap (hg : g ∈ s.gaps) (hc : c ∈ s.product) (hd : d ∈ s.product)
    (hcpolicy : c.HasPolicy g.policy) (hdpolicy : d.HasPolicy g.policy)
    (h : c.DifferOnlyIn d s.names g.parameter) (hrun : Run.ofCombination c x executable = .ok run)
    (hother : Run.ofCombination d x executable = .ok other) :
    run.identifier = other.identifier := by
  have hreads := Run.reads hrun
  have hreads' := Run.reads hother
  have hrpolicy := Run.policy_of_hasPolicy hcpolicy hrun
  have hqpolicy := Run.policy_of_hasPolicy hdpolicy hother
  obtain ⟨r, -, rfl⟩ := Run.exists_ofSetup hrun
  obtain ⟨q, -, rfl⟩ := Run.exists_ofSetup hother
  rw [Run.setup_ofSetup] at hreads hreads' hrpolicy hqpolicy
  rw [Run.identifier_ofSetup, Run.identifier_ofSetup]
  refine Identifier.ofSetup_eq_of_agreesOn hreads hreads' (hrpolicy.trans hqpolicy.symm) ?_
  rw [hrpolicy]
  exact agreesOn_of_differOnlyIn hc hd h (of_mem_gaps hg).1

/-- Their arguments differ if the benchmark is given the parameter; otherwise the runs are the same.
-/
theorem arguments_ne_or_eq_of_gap (hg : g ∈ s.gaps) (hc : c ∈ s.product) (hd : d ∈ s.product)
    (hpolicy : c.HasPolicy g.policy) (h : c.DifferOnlyIn d s.names g.parameter)
    (hrun : Run.ofCombination c x executable = .ok run)
    (hother : Run.ofCombination d x executable = .ok other) :
    (g.passedOn = true → run.invocation.arguments ≠ other.invocation.arguments) ∧
      (g.passedOn = false → run = other) := by
  rw [(of_mem_gaps hg).2]
  constructor
  · intro hpassed harguments
    refine h.differ (Run.text?_eq_of_arguments_eq hrun hother harguments ?_)
    rw [Run.policy_of_hasPolicy hpolicy hrun]
    exact isPassedOn_iff.mp hpassed
  · intro hpassed
    have hrequired : g.parameter ∉ g.policy.required := fun hmem =>
      Bool.false_ne_true (hpassed.symm.trans (isPassedOn_iff.mpr hmem))
    have hsame := RunSetup.ofCombination_congr hpolicy (agreesOn_of_differOnlyIn hc hd h hrequired)
    rw [Run.ofCombination, hsame] at hrun
    exact Except.ok.inj (hrun.symm.trans hother)

/-- **A gap predicts the verdict.** Take a gap of a specification and two combinations under its
policy that are run configurations and differ in its parameter only, with different texts. Whatever
was asked of a session before and however launches ended, if the launcher was given the invocation
of the first combination, then the session records the second one without asking anything of the
world. It is refused because of its identifier if the gap says that the runs collide, which is when
the benchmark is given the parameter; otherwise the gap says that they are duplicates, and the
second one is skipped. -/
theorem gap_predicts_verdict (o : SweepOptions) (hg : g ∈ s.gaps) (hc : c ∈ s.product)
    (hd : d ∈ s.product) (hcpolicy : c.HasPolicy g.policy) (hdpolicy : d.HasPolicy g.policy)
    (h : c.DifferOnlyIn d s.names g.parameter)
    (hrun : Run.ofCombination c o.experiment o.benchmark = .ok run)
    (hother : Run.ofCombination d o.experiment o.benchmark = .ok other) {σ : Type} (w : World σ)
    (world : σ) (requests : List Session.Request) :
    let t := history w.recording o (start (world, [])) requests
    run.invocation ∈ t.world.2 → ∀ index, ∃ e, t.attempt w.recording o index d = (t, .ok e) ∧
      (g.passedOn = true → g.effect = "collides" ∧ e.stage = .failed ∧
        e.failure? = some (Session.collision other.identifier)) ∧
      (g.passedOn = false → g.effect = "duplicates" ∧ e.stage = .skipped ∧ e.failure? = none) := by
  intro t hlaunched index
  have ht : Session.Coherent o t := Session.coherent_history w.recording o (world, []) requests
  rw [Session.recorded_history] at hlaunched
  obtain ⟨earlier, hearlier, hinvocation⟩ := List.mem_map.mp hlaunched
  have harguments : earlier.invocation.arguments = run.invocation.arguments :=
    congrArg Invocation.arguments hinvocation
  -- the launch has the identifier of the second combination as well
  have hidentifier : earlier.identifier = other.identifier := by
    obtain ⟨b, hb⟩ := ht.derived earlier hearlier
    exact (Run.identifier_eq_of_arguments_eq hb hrun harguments).trans
      (identifier_eq_of_gap hg hc hd hcpolicy hdpolicy h hrun hother)
  obtain ⟨hdiffer, hsame⟩ := arguments_ne_or_eq_of_gap hg hc hd hcpolicy h hrun hother
  have hrecords {v : Verdict} (hv : Session.verdict o t.launched d = v)
      (hnone : v.launches? = none) : ∃ e, t.attempt w.recording o index d = (t, .ok e) ∧
        e.stage = v.stage ∧ e.failure? = v.failure? := by
    subst hv
    obtain ⟨elapsed, hattempt⟩ := Session.attempt_of_launches?_eq_none hnone w.recording index
    exact ⟨_, hattempt, rfl, rfl⟩
  cases hpassed : g.passedOn with
  | true =>
    have hcolliding : Session.verdict o t.launched d = .colliding other :=
      ht.colliding_iff.mpr ⟨hother, earlier, hearlier, hidentifier,
        harguments ▸ hdiffer hpassed⟩
    obtain ⟨e, hattempt, hstage, hfailure⟩ := hrecords hcolliding rfl
    exact ⟨e, hattempt, fun _ => ⟨by simp [CoverageGap.effect, hpassed], hstage, hfailure⟩, by simp⟩
  | false =>
    have hrepeated : Session.verdict o t.launched d = .repeated other :=
      ht.repeated_iff.mpr ⟨hother, earlier, hearlier, hsame hpassed ▸ harguments⟩
    obtain ⟨e, hattempt, hstage, hfailure⟩ := hrecords hrepeated rfl
    exact ⟨e, hattempt, by simp, fun _ => ⟨by simp [CoverageGap.effect, hpassed], hstage, hfailure⟩⟩

/-- A specification with a gap that leads to collisions and one that leads to duplicates. -/
def foreseen : Spec := (lru [.text "10-20"] [.int 2, .int 3]).set "hot_count" [.int 8, .int 9]

/-- A combination of it. -/
def foreseenAt (numTiers hotCount : Int64) : Combination :=
  ⟨(timed (.int 5)).entries.map (fun p => if p.1 = "num_tiers" then (p.1, .int numTiers) else p)
    ++ [("hot_count", .int hotCount)]⟩

theorem gap_predicts_verdict_foreseen :
    let o := SweepOptions.standard "tiers"
    let w := World.answering (.ok (.timedOut 5))
    let t := history w.recording o (start ((), [])) [.attempt 0 (foreseenAt 2 8)]
    foreseenAt 2 8 ∈ foreseen.product ∧
      (∃ g ∈ foreseen.gaps, g.effect = "collides" ∧ ∃ d ∈ foreseen.product, ∃ other e,
        Run.ofCombination d o.experiment o.benchmark = .ok other ∧
        t.attempt w.recording o 1 d = (t, .ok e) ∧ e.stage = .failed ∧
        e.failure? = some (Session.collision other.identifier)) ∧
      ∃ g ∈ foreseen.gaps, g.effect = "duplicates" ∧ ∃ d ∈ foreseen.product, ∃ e,
        t.attempt w.recording o 1 d = (t, .ok e) ∧ e.stage = .skipped := by
  intro o w t
  have hproduct : foreseen.product
      = [foreseenAt 2 8, foreseenAt 2 9, foreseenAt 3 8, foreseenAt 3 9] := by decide +kernel
  have hgaps : foreseen.gaps
      = [⟨"num_tiers", .lru, 2, true⟩, ⟨"hot_count", .lru, 2, false⟩] := by decide +kernel
  have hvalid {d : Combination} (h : (Run.ofCombination d o.experiment o.benchmark).isOk = true) :
      ∃ run, Run.ofCombination d o.experiment o.benchmark = .ok run := by
    cases hrun : Run.ofCombination d o.experiment o.benchmark with
    | error fault => rw [hrun] at h; cases h
    | ok run => exact ⟨run, rfl⟩
  obtain ⟨run, hrun⟩ := hvalid (by decide +kernel :
    (Run.ofCombination (foreseenAt 2 8) o.experiment o.benchmark).isOk = true)
  obtain ⟨other, hother⟩ := hvalid (by decide +kernel :
    (Run.ofCombination (foreseenAt 3 8) o.experiment o.benchmark).isOk = true)
  obtain ⟨other', hother'⟩ := hvalid (by decide +kernel :
    (Run.ofCombination (foreseenAt 2 9) o.experiment o.benchmark).isOk = true)
  have hlaunched : run.invocation ∈ t.world.2 := by
    have hgiven : (Run.ofCombination (foreseenAt 2 8) o.experiment o.benchmark).toOption.all
        (·.invocation ∈ t.world.2) = true := by decide +kernel
    rw [hrun] at hgiven
    exact of_decide_eq_true hgiven
  have hc : foreseenAt 2 8 ∈ foreseen.product := by simp [hproduct]
  have hd : foreseenAt 3 8 ∈ foreseen.product := by simp [hproduct]
  have hd' : foreseenAt 2 9 ∈ foreseen.product := by simp [hproduct]
  have hdiffer : (foreseenAt 2 8).DifferOnlyIn (foreseenAt 3 8) foreseen.names "num_tiers" :=
    ⟨by decide +kernel, by decide +kernel⟩
  have hdiffer' : (foreseenAt 2 8).DifferOnlyIn (foreseenAt 2 9) foreseen.names "hot_count" :=
    ⟨by decide +kernel, by decide +kernel⟩
  refine ⟨hc, ⟨⟨"num_tiers", .lru, 2, true⟩, by simp [hgaps], rfl, _, hd, other, ?_⟩,
    ⟨"hot_count", .lru, 2, false⟩, by simp [hgaps], rfl, _, hd', ?_⟩
  · obtain ⟨e, hattempt, hcollides, -⟩ := gap_predicts_verdict o (g := ⟨"num_tiers", .lru, 2, true⟩)
      (by simp [hgaps]) hc hd rfl rfl hdiffer hrun hother w () _ hlaunched 1
    exact ⟨e, hother, hattempt, (hcollides rfl).2⟩
  · obtain ⟨e, hattempt, -, hduplicates⟩ := gap_predicts_verdict o
      (g := ⟨"hot_count", .lru, 2, false⟩) (by simp [hgaps]) hc hd' rfl rfl hdiffer' hrun hother'
      w () _ hlaunched 1
    exact ⟨e, hattempt, (hduplicates rfl).2.1⟩

end Spec

end TierSweep
