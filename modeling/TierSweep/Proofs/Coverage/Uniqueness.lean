import TierSweep.Proofs.Coverage.Gaps
import TierSweep.Proofs.Identifier.Splitting
import TierSweep.Proofs.Session.Collision
import TierSweep.Proofs.Session.Isolation

/-!
# How unique identifiers are

Two valid combinations share an identifier, but not their arguments, when they match in all that
identifiers tell of numbers and of the policy, their three texts are the same once cleaned and
joined, and they differ in one of the texts, in the running time or in the number of tiers
(`Run.collide_iff`). A specification without coverage gaps excludes the last two: its combinations
collide exactly when cleaning and joining blurs the difference of their texts
(`Spec.colliding_iff_blurs`). This happens, because the characters that are replaced and the
separator may occur in texts (`Spec.blurred_collides`); it does not happen to plain texts.

## Main definitions

* `RunSetup.Blurs` — identifiers blur the difference of two configurations.
* `Spec.PlainTexts` — a specification with plain texts only.

## Main results

* `Run.collide_iff`.
* `Spec.colliding_iff_blurs`.
-/

namespace TierSweep

/-- Two configurations that match and differ in their texts, though the texts are the same once they
are cleaned and joined. -/
structure RunSetup.Blurs (r q : RunSetup) : Prop where
  agree : r.Matches q
  joinedTexts : Identifier.joinedTexts r = Identifier.joinedTexts q
  differ : r.texts ≠ q.texts

namespace Run

variable {c d : Combination} {x : Experiment} {executable : Path} {run other : Run}

/-- The configuration of a run has the texts of its combination. -/
theorem reads (h : ofCombination c x executable = .ok run) : run.setup.Reads c := by
  obtain ⟨setup, hsetup, rfl⟩ := exists_ofSetup h
  rw [setup_ofSetup]
  exact RunSetup.reads_of_ofCombination hsetup

/-- When two runs share an identifier, but not their arguments. -/
theorem collide_iff (hrun : ofCombination c x executable = .ok run)
    (hother : ofCombination d x executable = .ok other) :
    run.identifier = other.identifier ∧ run.invocation.arguments ≠ other.invocation.arguments ↔
      run.setup.Matches other.setup ∧
        Identifier.joinedTexts run.setup = Identifier.joinedTexts other.setup ∧
        ¬(run.setup.texts = other.setup.texts ∧
          run.setup.runningTime.render = other.setup.runningTime.render ∧
          toString run.setup.numTiers = toString other.setup.numTiers) := by
  obtain ⟨r, -, rfl⟩ := exists_ofSetup hrun
  obtain ⟨q, -, rfl⟩ := exists_ofSetup hother
  simp only [identifier_ofSetup, arguments_ofSetup, setup_ofSetup]
  constructor
  · rintro ⟨hidentifier, hne⟩
    obtain ⟨hmatches, htexts⟩ := Identifier.ofSetup_eq_iff.mp hidentifier
    rw [hidentifier] at hne
    exact ⟨hmatches, htexts, mt (Invocation.argumentsOf_eq_iff hmatches _).mpr hne⟩
  · rintro ⟨hmatches, htexts, hne⟩
    have hidentifier := Identifier.ofSetup_eq_iff.mpr ⟨hmatches, htexts⟩
    rw [hidentifier]
    exact ⟨rfl, mt (Invocation.argumentsOf_eq_iff hmatches _).mp hne⟩

end Run

namespace Spec

open Session (judgements launches start)

variable {s : Spec} {c d : Combination} {x : Experiment} {executable : Path} {run other : Run}

/-- Without gaps, runs that match have the same running time and number of tiers. -/
theorem same_of_gaps_eq_nil (h : s.gaps = []) (hc : c ∈ s.product) (hd : d ∈ s.product)
    (hrun : Run.ofCombination c x executable = .ok run)
    (hother : Run.ofCombination d x executable = .ok other) :
    run.setup.runningTime.render = other.setup.runningTime.render ∧
      toString run.setup.numTiers = toString other.setup.numTiers := by
  have hleft : ∀ p ∈ Policy.all, CommonField.runningTime.name ∉ Identifier.fields p ∧
      CommonField.numTiers.name ∉ Identifier.fields p := by decide
  obtain ⟨hrunningTime, hnumTiers⟩ := hleft run.setup.policy run.setup.policy.mem_all
  have hpolicy := mem_policies_of_mem_product hc (Run.reads hrun).policy
  exact ⟨text_eq_of_gaps_eq_nil h hc hd hpolicy hrunningTime (Run.reads hrun).runningTime
      (Run.reads hother).runningTime,
    text_eq_of_gaps_eq_nil h hc hd hpolicy hnumTiers (Run.reads hrun).numTiers
      (Run.reads hother).numTiers⟩

/-- Without gaps, two runs share an identifier, but not their arguments, exactly when identifiers
blur the difference of their texts. -/
theorem collide_iff_blurs (h : s.gaps = []) (hc : c ∈ s.product) (hd : d ∈ s.product)
    (hrun : Run.ofCombination c x executable = .ok run)
    (hother : Run.ofCombination d x executable = .ok other) :
    run.identifier = other.identifier ∧ run.invocation.arguments ≠ other.invocation.arguments ↔
      run.setup.Blurs other.setup := by
  have hsame := same_of_gaps_eq_nil h hc hd hrun hother
  rw [Run.collide_iff hrun hother]
  exact ⟨fun ⟨hmatches, htexts, hne⟩ => ⟨hmatches, htexts, fun heq => hne ⟨heq, hsame⟩⟩,
    fun hblurs => ⟨hblurs.agree, hblurs.joinedTexts, fun heq => hblurs.differ heq.1⟩⟩

/-- All values of the three text parameters are written without the separator and without the
characters that identifiers replace. -/
def PlainTexts (s : Spec) : Prop :=
  ∀ p ∈ s.params,
    p.name ∈ [CommonField.pattern.name, CommonField.clientTierSizes.name,
      CommonField.serverMemSizes.name] →
    ∀ v ∈ p.values, Identifier.IsPlain v.render

instance (s : Spec) : Decidable s.PlainTexts :=
  inferInstanceAs (Decidable (∀ p ∈ s.params, _ → ∀ v ∈ p.values, Identifier.IsPlain v.render))

theorem isPlain_of_mem_texts (h : s.PlainTexts) (hc : c ∈ s.product)
    (hrun : Run.ofCombination c x executable = .ok run) :
    ∀ t ∈ run.setup.texts, Identifier.IsPlain t := by
  have hplain {name t : String} (hname : name ∈ [CommonField.pattern.name,
      CommonField.clientTierSizes.name, CommonField.serverMemSizes.name])
      (ht : c.text? name = some t) : Identifier.IsPlain t := by
    obtain ⟨v, hv, rfl⟩ := Option.map_eq_some_iff.mp ht
    obtain ⟨p, hp, hmem⟩ := get?_of_mem_product hc hv
    rw [get?] at hp
    have hfound := List.find?_some hp
    have hpname : p.name = name := of_decide_eq_true hfound
    exact h p (List.mem_of_find?_eq_some hp) (hpname ▸ hname) v hmem
  have hreads := Run.reads hrun
  intro t ht
  simp only [RunSetup.texts, List.mem_cons, List.not_mem_nil, or_false] at ht
  rcases ht with rfl | rfl | rfl
  · exact hplain (by simp) hreads.pattern
  · exact hplain (by simp) hreads.clientTierSizes
  · exact hplain (by simp) hreads.serverMemSizes

/-- **Collisions without coverage gaps.** In a specification without gaps two valid combinations
share an identifier, but not their arguments, exactly when identifiers blur the difference of their
texts. A new session that sweeps it judges a combination to collide exactly when an earlier one was
launched whose texts are blurred with its own, and whatever the world does, the entries of its
report record these judgements in order, as far as it comes. If all texts are plain, no combination
collides. -/
theorem colliding_iff_blurs (o : SweepOptions) (s : Spec) (h : s.gaps = []) :
    let js := judgements o 0 [] (s.product.filter o.constraints.accepts)
    (∀ c ∈ s.product, ∀ d ∈ s.product, ∀ run other,
      Run.ofCombination c o.experiment o.benchmark = .ok run →
      Run.ofCombination d o.experiment o.benchmark = .ok other →
      (run.identifier = other.identifier ∧
        run.invocation.arguments ≠ other.invocation.arguments ↔ run.setup.Blurs other.setup)) ∧
    (∀ i j run, js[i]? = some j → j.verdict.run? = some run →
      (j.verdict = .colliding run ↔
        ∃ earlier ∈ launches (js.take i), earlier.setup.Blurs run.setup)) ∧
    (∀ {σ : Type} (w : World σ) (world : σ) t report,
      (start world).sweep w o s = (t, .ok report) →
      ∃ n, List.Forall₂ Judgement.Recorded (js.take n) report.entries ∧
        t.effects = (js.take n).flatMap (·.verdict.asked o false)) ∧
    (s.PlainTexts → ∀ j ∈ js, ∀ run, j.verdict ≠ .colliding run) := by
  intro js
  have hproduct {c : Combination} (hc : c ∈ s.product.filter o.constraints.accepts) :
      c ∈ s.product := (List.mem_filter.mp hc).1
  have hcolliding (i : Nat) (j : Judgement) (run : Run) (hj : js[i]? = some j)
      (hrun : j.verdict.run? = some run) : j.verdict = .colliding run ↔
        ∃ earlier ∈ launches (js.take i), earlier.setup.Blurs run.setup := by
    obtain ⟨hmem, hverdict⟩ := Session.verdict_of_getElem? hj
    have hderived := Session.ofCombination_of_run? (hverdict ▸ hrun)
    rw [Session.colliding_iff hj hrun]
    refine exists_congr fun earlier => and_congr_right fun hearlier => ?_
    rw [Session.take_judgements] at hearlier
    obtain ⟨c, hc, hrun'⟩ := Session.exists_of_mem_launches hearlier
    exact collide_iff_blurs h (hproduct (List.mem_of_mem_take hc)) (hproduct hmem) hrun' hderived
  refine ⟨fun c hc d hd run other => collide_iff_blurs h hc hd, hcolliding, ?_, ?_⟩
  · intro σ w world t report hsweep
    have hcourse := Session.course_sweep w o s (start world)
    rw [hsweep] at hcourse
    obtain ⟨done, rest, hjs, hrecorded, heffects, -⟩ := hcourse.recorded
    have hdone : js.take done.length = done := by
      rw [show js = done ++ rest from hjs, List.take_left']
      rfl
    exact ⟨done.length, hdone.symm ▸ hrecorded, hdone.symm ▸ heffects⟩
  · intro hplain j hj run hverdict
    obtain ⟨i, hi⟩ := List.mem_iff_getElem?.mp hj
    have hrun : j.verdict.run? = some run := hverdict ▸ rfl
    obtain ⟨earlier, hearlier, hblurs⟩ := (hcolliding i j run hi hrun).mp hverdict
    rw [Session.take_judgements] at hearlier
    obtain ⟨c, hc, hrun'⟩ := Session.exists_of_mem_launches hearlier
    obtain ⟨hmem, hv⟩ := Session.verdict_of_getElem? hi
    exact hblurs.differ (Identifier.texts_eq_of_joinedTexts_eq
      (isPlain_of_mem_texts hplain (hproduct (List.mem_of_mem_take hc)) hrun')
      (isPlain_of_mem_texts hplain (hproduct hmem) (Session.ofCombination_of_run? (hv ▸ hrun)))
      hblurs.joinedTexts)

/-- Two texts that cleaning makes the same. -/
def blurred : Spec := .lru [.text "10 20", .text "10,20"] [.int 2]

/-- Two plain texts. -/
def plain : Spec := .lru [.text "10-20", .text "10-30"] [.int 2]

theorem colliding_blurred :
    let o := SweepOptions.standard "tiers"
    let js := judgements o 0 [] (blurred.product.filter o.constraints.accepts)
    let ks := judgements o 0 [] (plain.product.filter o.constraints.accepts)
    blurred.gaps = [] ∧
      (∃ j run, js[1]? = some j ∧ j.verdict = .colliding run ∧
        ∃ earlier ∈ launches (js.take 1), earlier.setup.Blurs run.setup) ∧
      plain.gaps = [] ∧ plain.PlainTexts ∧ ks.length = 2 ∧
      ∀ j ∈ ks, ∀ run, j.verdict ≠ .colliding run := by
  intro o js ks
  have hgaps : blurred.gaps = [] := by decide +kernel
  have hgaps' : plain.gaps = [] := by decide +kernel
  have hplain : plain.PlainTexts := by decide +kernel
  refine ⟨hgaps, ?_, hgaps', hplain, by decide +kernel,
    (colliding_iff_blurs o plain hgaps').2.2.2 hplain⟩
  have hcollides : (js[1]?.any fun j => j.verdict matches .colliding _) = true := by decide +kernel
  obtain ⟨j, hj, hmatches⟩ := (Option.any_eq_true _ _).mp hcollides
  obtain ⟨run, hverdict⟩ : ∃ run, j.verdict = .colliding run := by
    cases hverdict : j.verdict with
    | colliding run => exact ⟨run, rfl⟩
    | _ => rw [hverdict] at hmatches; cases hmatches
  have hrun : j.verdict.run? = some run := hverdict ▸ rfl
  exact ⟨j, run, hj, hverdict,
    ((colliding_iff_blurs o blurred hgaps).2.1 1 j run hj hrun).mp hverdict⟩

/-- A specification without gaps can have combinations that collide: the second of two is refused
because its identifier belongs to the first. -/
theorem blurred_collides :
    blurred.gaps = [] ∧
      ((start ()).sweep (World.answering (.ok .success)) (.standard "tiers") blurred).2.toOption.map
          (fun report => report.entries.map fun e => (e.stage, e.failure?))
        = some [(.succeeded, none), (.failed, some (Session.collision
            "uniform_10-20_30_buf10_scan1_sample100_lru_h5_c10"))] := by
  decide +kernel

end Spec

end TierSweep
