import TierSweep.Proofs.Session.Classification

/-!
# What a session remembers

A session remembers a run between making the directory for its results and launching it. If the
directory cannot be made, the combination is given up in between, and a sweep with it. What is
remembered is nevertheless at all times what was launched (`Session.Remembers`): a session that
fails at a combination remembers and has launched what it had before, and the run of the combination
is launched as soon as the directory can be made (`Session.LaunchesLater`). So no failure makes a
session skip a run that it has not launched.

## Main definitions

* `Session.Remembers` — what is remembered is what was launched.
* `Session.LaunchesLater` — a combination that was given up is launched when it is tried again.
* `World.roomlessAt` — a world in which one attempt to make a directory fails.

## Main results

* `Session.remembers_history`.
-/

namespace TierSweep

/-- A world that makes directories but once, after `n` others, and answers every launch in the same
way. -/
def World.roomlessAt (n : Nat) (result : Except Failure Outcome) : World Nat where
  makeDirectories _ a := (a + 1, if a = n then some .noSpace else none)
  launch _ _ a := (a, ⟨result, false⟩)
  clock _ := .zero
  timeOfDay _ := "today"

namespace Session

variable {σ : Type} {w : World σ} {o : SweepOptions} {index : Nat} {c : Combination}

/-- What is remembered are the launched identifiers, each once and with the arguments of its launch,
and nothing else. -/
structure Remembers (s : Session (σ × List Invocation)) : Prop where
  given : s.world.2 = s.runs.map Run.invocation
  nodup : (s.launched.map Prod.fst).Nodup
  lookup_iff : ∀ identifier arguments, s.launched.lookup identifier = some arguments ↔
    ∃ run ∈ s.runs, run.identifier = identifier ∧ run.invocation.arguments = arguments

/-- The combination is a run configuration, and every session that remembers no other launches gives
its invocation to the launcher, provided that the directory for results can be made. -/
def LaunchesLater (w : World σ) (o : SweepOptions) (c : Combination)
    (launched : List (String × List String)) : Prop :=
  ∃ run, Run.ofCombination c o.experiment o.benchmark = .ok run ∧
    ∀ (index : Nat) (u : Session (σ × List Invocation)), u.launched = launched →
      (w.makeDirectories o.experiment.directory u.world.1).2 = none →
        ∃ e, (u.attempt w.recording o index c).2 = .ok e ∧ e.stage ≠ .skipped ∧
          (u.attempt w.recording o index c).1.world.2 = u.world.2 ++ [run.invocation]

/-- A run is launched when its verdict says so and the directory for results can be made. -/
theorem launches_of_fresh {s : Session σ} {run : Run} (hfresh : verdict o s.launched c = .fresh run)
    (hroom : (w.makeDirectories o.experiment.directory s.world).2 = none) (index : Nat) :
    ∃ e, (attempt w o index c s).2 = .ok e ∧ e.stage ≠ .skipped ∧
      (attempt w o index c s).1.runs = s.runs ++ [run] := by
  have hattempted := attempted_attempt w o index c s
  generalize attempt w o index c s = attempted at hattempted ⊢
  obtain ⟨t, failure | e⟩ := attempted
  · cases hattempted with
    | homeless _ hfault =>
      rw [hfault] at hroom
      exact absurd hroom (Option.some_ne_none _)
  · have hruns := hattempted.runs_of_ok
    rw [hfresh] at hruns
    refine ⟨e, rfl, fun hskipped => ?_, hruns⟩
    obtain ⟨other, hrepeated⟩ := hattempted.stage_eq_skipped_iff.mp hskipped
    exact absurd (hfresh.symm.trans hrepeated) Verdict.noConfusion

/-- A combination at which a session failed is launched when it is tried again. -/
theorem Attempted.launchesLater {s t : Session (σ × List Invocation)} {failure : Failure}
    (h : Attempted w.recording o index c s (t, .error failure)) :
    LaunchesLater w o c t.launched := by
  obtain ⟨⟨run, hfresh⟩, -, -, hlaunched⟩ := h.of_error
  refine ⟨run, (verdict_eq_fresh_iff.mp hfresh).1, fun index u hu hroom => ?_⟩
  rw [← hlaunched, ← hu] at hfresh
  obtain ⟨e, he, hstage, hruns⟩ := launches_of_fresh (w := w.recording) hfresh hroom index
  exact ⟨e, he, hstage, recorded_eq_of_runs_eq hruns⟩

/-- A session that fails at a combination gives nothing to the launcher. -/
theorem world_eq_of_attempt_eq_error {s t : Session (σ × List Invocation)} {failure : Failure}
    (h : attempt w.recording o index c s = (t, .error failure)) : t.world.2 = s.world.2 := by
  have hattempted := attempted_attempt w.recording o index c s
  have hnone : (attempt w.recording o index c s).1.runs = s.runs ++ [] := by
    rw [h] at hattempted ⊢
    rw [hattempted.runs_of_error, List.append_nil]
  have hworld := recorded_eq_of_runs_eq hnone
  rw [h] at hworld
  exact hworld.trans (List.append_nil _)

theorem remembers_of_requests (w : World σ) (o : SweepOptions) (world : σ)
    (requests : List Request) :
    Remembers (history w.recording o (start (world, [])) requests) := by
  have hs := coherent_history w.recording o (world, []) requests
  refine ⟨recorded_history w o world requests, ?_, fun _ _ => hs.lookup_eq_some_iff⟩
  rw [hs.launched_eq, List.map_reverse, List.nodup_reverse, List.map_map]
  exact hs.nodup

/-- **A session remembers exactly what it launched**, whatever it was asked, wherever making the
directory for results failed and however launches ended. If it fails at a combination, then it
remembers what it remembered before, nothing was given to the launcher, and the combination is
launched when it is tried again after the directory can be made. If a sweep fails, it does so at the
last combination that it comes to, all before being recorded; what it remembers are the launches
before that one, which is launched when it is tried again. -/
theorem remembers_history (w : World σ) (o : SweepOptions) (world : σ) (requests : List Request) :
    let s := history w.recording o (start (world, [])) requests
    Remembers s ∧
    (∀ index c t failure, s.attempt w.recording o index c = (t, .error failure) →
      t.launched = s.launched ∧ t.runs = s.runs ∧ t.world.2 = s.world.2 ∧
        LaunchesLater w o c t.launched) ∧
    ∀ spec t failure, s.sweep w.recording o spec = (t, .error failure) →
      ∃ vs v, visitsFor w.recording o s (.sweep spec) = vs ++ [v] ∧
        (∀ u ∈ vs, ∃ e, u.entry w.recording o = .ok e) ∧ v.entry w.recording o = .error failure ∧
        t.launched = v.session.launched ∧ t.runs = v.session.runs ∧
        t.world.2 = v.session.world.2 ∧ Remembers t ∧ LaunchesLater w o v.params t.launched := by
  intro s
  have hfailed {index : Nat} {c : Combination} {s t : Session (σ × List Invocation)}
      {failure : Failure} (h : s.attempt w.recording o index c = (t, .error failure)) :
      t.launched = s.launched ∧ t.runs = s.runs ∧ t.world.2 = s.world.2 ∧
        LaunchesLater w o c t.launched := by
    have hattempted := attempted_attempt w.recording o index c s
    rw [h] at hattempted
    exact ⟨hattempted.of_error.2.2.2, hattempted.runs_of_error, world_eq_of_attempt_eq_error h,
      hattempted.launchesLater⟩
  refine ⟨remembers_of_requests w o world requests, fun _ _ _ _ => hfailed, ?_⟩
  intro spec t failure hsweep
  obtain ⟨vs, v, hvs, hentries, hv⟩ := exists_last_of_sweep_eq_error hsweep
  have hafter : history w.recording o (start (world, [])) (requests ++ [.sweep spec]) = t := by
    rw [history, List.foldl_append]
    exact congrArg Prod.fst hsweep
  have hremembers : Remembers t :=
    hafter ▸ remembers_of_requests w o world (requests ++ [.sweep spec])
  obtain ⟨hlaunched, hruns, hworld, hlater⟩ := hfailed hv
  exact ⟨vs, v, hvs, hentries, congrArg Prod.snd hv, hlaunched, hruns, hworld, hremembers, hlater⟩

theorem remembers_history_roomlessAt :
    let o := SweepOptions.standard "tiers"
    let spec := Spec.lru [.text "10-20", .text "10-30"] [.int 2]
    let w₀ := World.roomlessAt 0 (.ok .success)
    let w₁ := World.roomlessAt 1 (.ok .success)
    (∃ c ∈ spec.product, ∃ t failure,
      (start (0, [])).attempt w₀.recording o 0 c = (t, .error failure) ∧ t.launched = [] ∧
        t.world.2 = [] ∧ ∃ e, (t.attempt w₀.recording o 0 c).2 = .ok e ∧ e.stage ≠ .skipped) ∧
    ∃ t failure, ∃ v : Visit (Nat × List Invocation),
      (start (0, [])).sweep w₁.recording o spec = (t, .error failure) ∧ t.world.2.length = 1 ∧
      Remembers t ∧ t.launched = v.session.launched ∧
      ∃ e, (t.attempt w₁.recording o v.index v.params).2 = .ok e ∧ e.stage ≠ .skipped := by
  intro o spec w₀ w₁
  refine ⟨?_, ?_⟩
  · have hfails : (spec.product.any fun c =>
        let attempted := (start (0, [])).attempt w₀.recording o 0 c
        !attempted.2.isOk && attempted.1.world.1 = 1) = true := by decide +kernel
    obtain ⟨c, hc, hattempted⟩ := List.any_eq_true.mp hfails
    rcases hattempt : (start (0, [])).attempt w₀.recording o 0 c with ⟨t, failure | e⟩
    · simp only [hattempt] at hattempted
      have hworld : t.world.1 = 1 := of_decide_eq_true (Bool.and_eq_true_iff.mp hattempted).2
      obtain ⟨hlaunched, -, hgiven, run, -, hlater⟩ :=
        (remembers_history w₀ o 0 []).2.1 0 c t failure hattempt
      obtain ⟨e, he, hstage, -⟩ := hlater 0 t rfl (by rw [hworld]; rfl)
      exact ⟨c, hc, t, failure, hattempt, hlaunched, hgiven, e, he, hstage⟩
    · simp only [hattempt] at hattempted
      cases hattempted
  · have hfails : ((start (0, [])).sweep w₁.recording o spec).2.isOk = false ∧
        ((start (0, [])).sweep w₁.recording o spec).1.world.1 = 2 ∧
        ((start (0, [])).sweep w₁.recording o spec).1.world.2.length = 1 := by decide +kernel
    rcases hsweep : (start (0, [])).sweep w₁.recording o spec with ⟨t, failure | report⟩
    · simp only [hsweep] at hfails
      obtain ⟨-, v, -, -, -, hlaunched, -, -, hremembers, run, -, hlater⟩ :=
        (remembers_history w₁ o 0 []).2.2 spec t failure hsweep
      obtain ⟨e, he, hstage, -⟩ := hlater v.index t rfl (by rw [hfails.2.1]; rfl)
      exact ⟨t, failure, v, rfl, hfails.2.2, hremembers, hlaunched, e, he, hstage⟩
    · rw [hsweep] at hfails
      exact absurd hfails.1 Bool.noConfusion

end Session

end TierSweep
