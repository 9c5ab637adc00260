import TierSweep.Proofs.Session.Isolation
import TierSweep.Proofs.Session.Visits

/-!
# How combinations are classified

What a session makes of a combination depends on all runs that it launched so far, whatever it was
asked and however the launches ended. The session looks for the identifier only, but the
arguments of a run tell where its files lie, and with it its identifier
(`Run.identifier_eq_of_arguments_eq`). A combination is therefore skipped exactly when its arguments
were launched before (`Session.Coherent.repeated_iff`), and an entry tells which verdict it records
(`Session.Attempted.stage_eq_skipped_iff` and the like).

## Main results

* `Run.identifier_eq_of_arguments_eq`.
* `Session.Coherent.repeated_iff`, `Session.Coherent.colliding_iff`, `Session.Coherent.fresh_iff`.
* `Session.visits_classified`.
-/

namespace TierSweep

/-- The arguments contain the text that shows where the latency distribution is to lie. -/
theorem Invocation.display_cdf_eq {r q : RunSetup} {o p : ResultFiles}
    (h : argumentsOf r o = argumentsOf q p) : o.cdf.display = p.cdf.display := by
  have hcdf (r : RunSetup) (o : ResultFiles) : (argumentsOf r o)[19]? = some o.cdf.display := rfl
  exact Option.some.inj ((hcdf r o).symm.trans ((congrArg (·[19]?) h).trans (hcdf q p)))

/-- Runs of an experiment with the same arguments have the same identifier. -/
theorem Run.identifier_eq_of_arguments_eq {c d : Combination} {x : Experiment} {executable : Path}
    {run other : Run} (hrun : ofCombination c x executable = .ok run)
    (hother : ofCombination d x executable = .ok other)
    (h : run.invocation.arguments = other.invocation.arguments) :
    run.identifier = other.identifier := by
  have hclean := isClean_identifier hrun
  have hclean' := isClean_identifier hother
  obtain ⟨r, -, rfl⟩ := exists_ofSetup hrun
  obtain ⟨q, -, rfl⟩ := exists_ofSetup hother
  rw [arguments_ofSetup, arguments_ofSetup] at h
  rw [identifier_ofSetup] at hclean hclean' ⊢
  rw [identifier_ofSetup]
  exact x.identifier_eq_of_display_cdf_eq hclean hclean' (Invocation.display_cdf_eq h)

namespace Session

variable {σ : Type} {w : World σ} {o : SweepOptions} {index : Nat} {c : Combination}
  {s t : Session σ} {run : Run}

/-! ### Verdicts and launched runs -/

/-- A combination repeats a launch exactly when its arguments were launched. -/
theorem Coherent.repeated_iff (hs : Coherent o s) :
    verdict o s.launched c = .repeated run ↔
      Run.ofCombination c o.experiment o.benchmark = .ok run ∧
        ∃ earlier ∈ s.runs, earlier.invocation.arguments = run.invocation.arguments := by
  rw [verdict_eq_repeated_iff, hs.lookup_eq_some_iff]
  refine and_congr_right fun hrun => exists_congr fun earlier => and_congr_right fun hearlier =>
    ⟨And.right, fun h => ⟨?_, h⟩⟩
  obtain ⟨d, hd⟩ := hs.derived earlier hearlier
  exact Run.identifier_eq_of_arguments_eq hd hrun h

/-- A combination collides exactly when its identifier was launched with other arguments. -/
theorem Coherent.colliding_iff (hs : Coherent o s) :
    verdict o s.launched c = .colliding run ↔
      Run.ofCombination c o.experiment o.benchmark = .ok run ∧
        ∃ earlier ∈ s.runs, earlier.identifier = run.identifier ∧
          earlier.invocation.arguments ≠ run.invocation.arguments := by
  rw [verdict_eq_colliding_iff]
  refine and_congr_right fun _ => ?_
  constructor
  · rintro ⟨arguments, hlookup, hne⟩
    obtain ⟨earlier, hearlier, hidentifier, rfl⟩ := hs.lookup_eq_some_iff.mp hlookup
    exact ⟨earlier, hearlier, hidentifier, hne⟩
  · rintro ⟨earlier, hearlier, hidentifier, hne⟩
    exact ⟨_, hs.lookup_eq_some_iff.mpr ⟨earlier, hearlier, hidentifier, rfl⟩, hne⟩

/-- A combination is to be launched exactly when its identifier was not. -/
theorem Coherent.fresh_iff (hs : Coherent o s) :
    verdict o s.launched c = .fresh run ↔
      Run.ofCombination c o.experiment o.benchmark = .ok run ∧
        ∀ earlier ∈ s.runs, earlier.identifier ≠ run.identifier := by
  rw [verdict_eq_fresh_iff, hs.lookup_eq_none_iff]

/-! ### Entries and verdicts -/

/-- The code of a refusal of a combination whose identifier belongs to another invocation. -/
def collisionCode : String := "identifier_collision"

theorem code_collision (identifier : String) : (collision identifier).code = collisionCode := rfl

/-- No fault of a combination is reported with the code of a refusal. -/
theorem code_toFailure_ne (fault : SetupFault) : fault.toFailure.code ≠ collisionCode := by
  cases fault with
  | missing field policy? =>
    have hcode : (SetupFault.missing field policy?).toFailure.code = "missing_required_field" := by
      cases policy? <;> rfl
    rw [hcode]
    decide
  | wrongKind field expected found =>
    have hcode : (SetupFault.wrongKind field expected found).toFailure.code
        = "invalid_field_type" := rfl
    rw [hcode]
    decide
  | unknownPolicy name =>
    have hcode : (SetupFault.unknownPolicy name).toFailure.code = "unknown_policy_type" := rfl
    rw [hcode]
    decide

/-- A launched run is not recorded as skipped. -/
theorem stage_ending_ne (result : Except Failure Outcome) : (ending result).1 ≠ .skipped := by
  cases result with
  | error => exact Stage.noConfusion
  | ok outcome => cases outcome <;> exact Stage.noConfusion

namespace Attempted

variable {e : ReportEntry}

/-- Entries of skipped combinations record repetitions. -/
theorem stage_eq_skipped_iff (h : Attempted w o index c s (t, .ok e)) :
    e.stage = .skipped ↔ ∃ run, verdict o s.launched c = .repeated run := by
  cases h with
  | recorded hnone =>
    simp only [ReportEntry.ofRun?]
    cases verdict o s.launched c <;> simp [Verdict.stage]
  | launched hfresh =>
    simp only [ReportEntry.ofRun?, hfresh, reduceCtorEq, exists_false, iff_false]
    exact stage_ending_ne _

/-- Runs are launched when nothing was launched under their identifiers. -/
theorem runs_ne_iff (h : Attempted w o index c s (t, .ok e)) :
    t.runs ≠ s.runs ↔ ∃ run, verdict o s.launched c = .fresh run := by
  rw [h.runs_of_ok, ne_eq, List.append_right_eq_self]
  cases verdict o s.launched c <;> simp [Verdict.launches?]

/-- Entries of refused combinations record collisions. A launch may fail with the same code. -/
theorem refused_iff (h : Attempted w o index c s (t, .ok e)) :
    (e.stage = .failed ∧ (∃ failure, e.failure? = some failure ∧ failure.code = collisionCode) ∧
      t.runs = s.runs) ↔ ∃ run, verdict o s.launched c = .colliding run := by
  have hruns := h.runs_ne_iff
  cases h with
  | recorded hnone =>
    simp only [ReportEntry.ofRun?]
    generalize verdict o s.launched c = v at hnone
    cases v with
    | invalid fault => simp [Verdict.failure?, code_toFailure_ne]
    | repeated => simp [Verdict.stage]
    | colliding => simp [Verdict.stage, Verdict.failure?, code_collision]
    | fresh => simp [Verdict.launches?] at hnone
  | @launched run _ _ _ _ hfresh =>
    refine iff_of_false (fun h => hruns.mpr ⟨run, hfresh⟩ h.2.2) ?_
    simp only [hfresh, reduceCtorEq, exists_false, not_false_eq_true]

/-- Entries without an identifier record faults. -/
theorem anonymous_iff (h : Attempted w o index c s (t, .ok e)) :
    e.stage = .failed ∧ e.identifier? = none ↔
      ∃ fault, verdict o s.launched c = .invalid fault := by
  cases h with
  | recorded hnone =>
    simp only [ReportEntry.ofRun?]
    cases verdict o s.launched c <;> simp [Verdict.stage, Verdict.run?]
  | launched hfresh =>
    simp [ReportEntry.ofRun?, hfresh]

end Attempted

/-! ### All visits of a history -/

theorem coherent_of_mem_visits {world : σ} {requests : List Request} {v : Visit σ}
    (hv : v ∈ visits w o (start world) requests) : Coherent o v.session :=
  visits_induction (fun index c _ hs => hs.attempt index c) (fun _ hs => hs.cancel) requests
    (coherent_start o world) v hv

theorem recorded_of_mem_visits {world : σ} {requests : List Request}
    {v : Visit (σ × List Invocation)}
    (hv : v ∈ visits w.recording o (start (world, [])) requests) :
    v.session.world.2 = v.session.runs.map Run.invocation :=
  visits_induction (P := fun s : Session (σ × List Invocation) =>
    s.world.2 = s.runs.map Run.invocation)
    (fun index c _ hs => recorded_eq_attempt hs index c) (fun _ hs => hs) requests rfl v hv

/-- The launcher is given an invocation exactly when a run is launched. -/
theorem recorded_after_eq_iff (v : Visit (σ × List Invocation)) :
    (v.after w.recording o).world.2 = v.session.world.2
      ↔ (v.after w.recording o).runs = v.session.runs := by
  obtain ⟨new, hruns, hworld⟩ := recorded_attempt w o v.index v.params v.session
  rw [Visit.after, hruns, hworld, List.append_right_eq_self, List.append_right_eq_self,
    List.map_eq_nil_iff]

/-- **The entry of a combination is determined by all launches so far.** Whatever is asked of a
session and however launches end, take any combination that it comes to and records. It is skipped
exactly when it is a run configuration whose arguments were launched before. It is refused, without
a launch, exactly when its identifier was launched before with other arguments. It is launched
exactly when its identifier was not launched before. And it fails without an identifier exactly when
it is no run configuration. The runs launched so far are those whose invocations were given to the
launcher. -/
theorem visits_classified (w : World σ) (o : SweepOptions) (world : σ) (requests : List Request) :
    ∀ v ∈ visits w.recording o (start (world, [])) requests,
      ∀ e, v.entry w.recording o = .ok e →
      v.session.world.2 = v.session.runs.map Run.invocation ∧
      (e.stage = .skipped ↔ ∃ run, v.run o = .ok run ∧
        ∃ earlier ∈ v.session.runs, earlier.invocation.arguments = run.invocation.arguments) ∧
      ((e.stage = .failed ∧ (∃ failure, e.failure? = some failure ∧ failure.code = collisionCode) ∧
          (v.after w.recording o).world.2 = v.session.world.2) ↔
        ∃ run, v.run o = .ok run ∧ ∃ earlier ∈ v.session.runs,
          earlier.identifier = run.identifier ∧
            earlier.invocation.arguments ≠ run.invocation.arguments) ∧
      ((v.after w.recording o).world.2 ≠ v.session.world.2 ↔ ∃ run, v.run o = .ok run ∧
        ∀ earlier ∈ v.session.runs, earlier.identifier ≠ run.identifier) ∧
      (e.stage = .failed ∧ e.identifier? = none ↔ ∃ fault, v.run o = .error fault) := by
  intro v hv e he
  have hs : Coherent o v.session := coherent_of_mem_visits hv
  have hcalled := recorded_after_eq_iff (w := w) (o := o) v
  have hattempted := v.attempted w.recording o
  rw [he] at hattempted
  refine ⟨recorded_of_mem_visits hv, ?_, ?_, ?_, ?_⟩
  · exact hattempted.stage_eq_skipped_iff.trans (exists_congr fun run => hs.repeated_iff)
  · rw [hcalled]
    exact hattempted.refused_iff.trans (exists_congr fun run => hs.colliding_iff)
  · rw [ne_eq, hcalled]
    exact hattempted.runs_ne_iff.trans (exists_congr fun run => hs.fresh_iff)
  · exact hattempted.anonymous_iff.trans (exists_congr fun fault => verdict_eq_invalid_iff)

theorem visits_classified_numbersOfTiers :
    let w := World.answering (.error (collision "another"))
    let o := SweepOptions.standard "tiers"
    let vs := visits w.recording o (start ((), [])) [.sweep numbersOfTiers, .cancel,
      .attempt 3 ⟨[]⟩]
    (∃ v ∈ vs, ∃ e, v.entry w.recording o = .ok e ∧ e.stage = .skipped ∧
      ∃ run, v.run o = .ok run ∧
        ∃ earlier ∈ v.session.runs, earlier.invocation.arguments = run.invocation.arguments) ∧
    (∃ v ∈ vs, ∃ e, v.entry w.recording o = .ok e ∧
      (v.after w.recording o).world.2 = v.session.world.2 ∧
      ∃ run, v.run o = .ok run ∧ ∃ earlier ∈ v.session.runs, earlier.identifier = run.identifier ∧
        earlier.invocation.arguments ≠ run.invocation.arguments) ∧
    ∃ v ∈ vs, ∃ e, v.entry w.recording o = .ok e ∧ e.identifier? = none ∧
      ∃ fault, v.run o = .error fault := by
  intro w o vs
  have hskipped : (vs.any fun v => (v.entry w.recording o).toOption.any
      (·.stage = .skipped)) = true := by decide +kernel
  have hrefused : (vs.any fun v => (v.entry w.recording o).toOption.any
      (fun e => e.stage = .failed ∧ e.failure?.any (·.code = collisionCode) = true ∧
        (v.after w.recording o).world.2 = v.session.world.2)) = true := by decide +kernel
  have hanonymous : (vs.any fun v => (v.entry w.recording o).toOption.any
      (fun e => e.stage = .failed ∧ e.identifier? = none)) = true := by decide +kernel
  refine ⟨?_, ?_, ?_⟩
  · obtain ⟨v, hv, hentry⟩ := List.any_eq_true.mp hskipped
    obtain ⟨e, he, hstage⟩ := Visit.exists_entry hentry
    have hstage := of_decide_eq_true hstage
    exact ⟨v, hv, e, he, hstage, (visits_classified _ o () _ v hv e he).2.1.mp hstage⟩
  · obtain ⟨v, hv, hentry⟩ := List.any_eq_true.mp hrefused
    obtain ⟨e, he, hrefuses⟩ := Visit.exists_entry hentry
    obtain ⟨hstage, hfailure, hworld⟩ := of_decide_eq_true hrefuses
    obtain ⟨failure, hfailure, hcode⟩ := (Option.any_eq_true _ _).mp hfailure
    exact ⟨v, hv, e, he, hworld, (visits_classified _ o () _ v hv e he).2.2.1.mp
      ⟨hstage, ⟨failure, hfailure, of_decide_eq_true hcode⟩, hworld⟩⟩
  · obtain ⟨v, hv, hentry⟩ := List.any_eq_true.mp hanonymous
    obtain ⟨e, he, hstage⟩ := Visit.exists_entry hentry
    have hstage := of_decide_eq_true hstage
    exact ⟨v, hv, e, he, hstage.2, (visits_classified _ o () _ v hv e he).2.2.2.2.mp hstage⟩

end Session

end TierSweep
