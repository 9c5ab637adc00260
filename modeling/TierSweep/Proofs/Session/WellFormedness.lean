import TierSweep.Proofs.Session.Isolation
import TierSweep.Proofs.Session.Visits

/-!
# What an entry says is consistent

An entry has fields that may be missing, and each way in which a session comes to a combination
fills them in differently. However it came about, an entry says that its combination succeeded
exactly when it shows a success, that it was skipped exactly when it shows nothing, and that it
failed exactly when it shows either another outcome or an error (`ReportEntry.WellFormed`). A world
can keep what it is given to launch and what comes of it (`World.keepingResults`). An entry shows an
outcome only if the run of its combination was launched, and then the one that came back
(`ReportEntry.Tells`).

## Main definitions

* `ReportEntry.WellFormed` — the fields of an entry agree with each other.
* `World.keepingResults` — a world that keeps the results of launches.
* `ReportEntry.Tells`, `ReportEntry.Faithful` — an entry tells what was launched and what came of
  it.

## Main results

* `Verdict.wellFormed_ofRun?`, `Run.wellFormed_ofRun?`.
* `Session.entries_faithful`.
-/

namespace TierSweep

/-- The fields of an entry agree with each other. -/
structure ReportEntry.WellFormed (e : ReportEntry) : Prop where
  isFinal : e.stage.isFinal = true
  /-- What is derived from a run is there if the run is. -/
  files?_isSome : e.files?.isSome = e.identifier?.isSome
  invocation?_isSome : e.invocation?.isSome = e.identifier?.isSome
  succeeded_iff : e.stage = .succeeded ↔ e.outcome? = some .success
  skipped_iff : e.stage = .skipped ↔ e.outcome? = none ∧ e.failure? = none
  /-- Exactly one of two things shows that a combination failed. -/
  failed_iff : e.stage = .failed ↔
    Xor (∃ outcome, outcome ≠ .success ∧ e.outcome? = some outcome)
      (∃ failure, e.failure? = some failure)

/-- An entry tells what was launched for its combination and what came of it. -/
inductive ReportEntry.Tells (o : SweepOptions) (e : ReportEntry) :
    List (Invocation × Except Failure Outcome) → Prop
  /-- Nothing was launched; the combination is skipped, or an error shows that it failed. -/
  | unlaunched (houtcome : e.outcome? = none)
      (hstage : e.stage = .skipped ∨ e.stage = .failed ∧ ∃ failure, e.failure? = some failure) :
      Tells o e []
  /-- The run of the combination was launched; the entry shows the outcome or error that came back.
  -/
  | launched {run : Run} {result : Except Failure Outcome}
      (hrun : Run.ofCombination e.params o.experiment o.benchmark = .ok run)
      (houtcome : ∀ outcome, e.outcome? = some outcome ↔ result = .ok outcome)
      (hfailure : ∀ failure, e.failure? = some failure ↔ result = .error failure) :
      Tells o e [(run.invocation, result)]

/-- An entry is well formed, it lacks an identifier exactly when its combination is no run
configuration, and it tells what was launched for the combination. -/
structure ReportEntry.Faithful (o : SweepOptions) (e : ReportEntry)
    (calls : List (Invocation × Except Failure Outcome)) : Prop where
  wellFormed : e.WellFormed
  identifier?_eq_none_iff : e.identifier? = none ↔
    ∃ fault, Run.ofCombination e.params o.experiment o.benchmark = .error fault
  tells : e.Tells o calls

/-- The same world, which also keeps what it is given to launch and what comes of it. -/
def World.keepingResults {σ : Type} (w : World σ) :
    World (σ × List (Invocation × Except Failure Outcome)) where
  makeDirectories p a := (((w.makeDirectories p a.1).1, a.2), (w.makeDirectories p a.1).2)
  launch i b a :=
    (((w.launch i b a.1).1, a.2 ++ [(i, (w.launch i b a.1).2.result)]), (w.launch i b a.1).2)
  clock a := w.clock a.1
  timeOfDay a := w.timeOfDay a.1

open Session (ending verdict)

/-! ### The ways in which entries come about -/

namespace Session

theorem outcome?_ending_eq_some_iff {result : Except Failure Outcome} {outcome : Outcome} :
    (ending result).2.1 = some outcome ↔ result = .ok outcome := by
  rcases result with failure | _ | _ | _ | _ <;> simp [ending, eq_comm]

theorem failure?_ending_eq_some_iff {result : Except Failure Outcome} {failure : Failure} :
    (ending result).2.2 = some failure ↔ result = .error failure := by
  rcases result with failure' | _ | _ | _ | _ <;> simp [ending]

/-- A combination has no run exactly when its verdict has none. -/
theorem run?_verdict_eq_none_iff {o : SweepOptions} {launched : List (String × List String)}
    {c : Combination} : (verdict o launched c).run? = none ↔
      ∃ fault, Run.ofCombination c o.experiment o.benchmark = .error fault := by
  rw [run?_verdict]
  cases Run.ofCombination c o.experiment o.benchmark <;> simp [Except.toOption]

end Session

namespace Verdict

variable {v : Verdict} (index : Nat) (c : Combination) (elapsed : UInt64)

/-- What a verdict says without a launch is consistent. -/
theorem wellFormed_ofRun? (hnone : v.launches? = none) :
    (ReportEntry.ofRun? v.run? index c v.stage none v.failure? elapsed).WellFormed := by
  cases v with
  | fresh run => exact absurd hnone (Option.some_ne_none run)
  | _ =>
    constructor <;>
      simp [ReportEntry.ofRun?, Verdict.run?, Verdict.stage, Verdict.failure?, Stage.isFinal]

/-- Without a launch a combination is skipped or an error is recorded. -/
theorem stage_of_launches? (hnone : v.launches? = none) :
    v.stage = .skipped ∨ v.stage = .failed ∧ ∃ failure, v.failure? = some failure := by
  cases v with
  | invalid fault => exact .inr ⟨rfl, _, rfl⟩
  | repeated run => exact .inl rfl
  | colliding run => exact .inr ⟨rfl, _, rfl⟩
  | fresh run => exact absurd hnone (Option.some_ne_none run)

end Verdict

/-- What is said of the end of a launch is consistent. -/
theorem Run.wellFormed_ofRun? (run : Run) (index : Nat) (c : Combination)
    (result : Except Failure Outcome) (elapsed : UInt64) :
    (ReportEntry.ofRun? (some run) index c (ending result).1 (ending result).2.1
      (ending result).2.2 elapsed).WellFormed := by
  rcases result with failure | _ | _ | _ | _ <;>
    constructor <;> simp [ReportEntry.ofRun?, ending, Stage.isFinal]

/-! ### Visits and sweeps -/

variable {σ : Type} {w : World σ} {o : SweepOptions}

/-- A visit that is recorded adds to the kept results what its entry tells. -/
theorem Visit.exists_calls (v : Visit (σ × List (Invocation × Except Failure Outcome))) :
    ∃ calls, (∀ e, v.entry w.keepingResults o = .ok e →
        e.index = v.index ∧ e.params = v.params ∧ e.Faithful o calls) ∧
      (v.after w.keepingResults o).world.2 = v.session.world.2 ++ calls := by
  have hattempted := v.attempted w.keepingResults o
  generalize v.after w.keepingResults o = t at hattempted ⊢
  generalize v.entry w.keepingResults o = result at hattempted ⊢
  cases hattempted with
  | recorded hnone =>
    refine ⟨[], fun e he => ?_, (List.append_nil _).symm⟩
    obtain rfl := Except.ok.inj he
    exact ⟨rfl, rfl, Verdict.wellFormed_ofRun? _ _ _ hnone,
      Option.map_eq_none_iff.trans Session.run?_verdict_eq_none_iff,
      .unlaunched rfl (Verdict.stage_of_launches? hnone)⟩
  | homeless hfresh hroom =>
    refine ⟨[], ?_, ?_⟩
    · rintro e ⟨⟩
    · rw [List.append_nil]
      exact (congrArg (·.1.2) hroom).symm
  | @launched run room world answer elapsed hfresh hroom hlaunch =>
    have hrun := (Session.verdict_eq_fresh_iff.mp hfresh).1
    have hroomKept : room.2 = v.session.world.2 := (congrArg (·.1.2) hroom).symm
    have hkept : world.2 = room.2 ++ [(run.invocation,
        (w.launch run.invocation (o.bounds run.setup v.session.cancelled) room.1).2.result)] :=
      (congrArg (·.1.2) hlaunch).symm
    have hanswer : (w.launch run.invocation (o.bounds run.setup v.session.cancelled) room.1).2
        = answer := congrArg Prod.snd hlaunch
    rw [hanswer, hroomKept] at hkept
    refine ⟨_, fun e he => ?_, hkept⟩
    obtain rfl := Except.ok.inj he
    refine ⟨rfl, rfl, run.wellFormed_ofRun? _ _ _ _, iff_of_false (Option.some_ne_none _) ?_,
      .launched hrun (fun _ => Session.outcome?_ending_eq_some_iff)
        fun _ => Session.failure?_ending_eq_some_iff⟩
    simp [ReportEntry.ofRun?, hrun]

namespace Session

/-- **Every entry is well formed and tells what came of its launch.** In whatever state a session
comes to whatever combination, and whatever a launch comes to, the entry that it records is in a
final stage. Identifier, files and invocation are all there or all missing, and missing exactly when
the combination is no run configuration. The entry shows a success exactly when the combination
succeeded, neither an outcome nor an error exactly when it was skipped, and exactly one of another
outcome and an error when it failed. Either nothing was launched meanwhile, and the entry is skipped
or shows an error, but no outcome; or exactly one launch took place, that of the run of the
combination, and the entry shows the outcome or the error that came back. The entries of the report
that a sweep leaves are such, one by one, and nothing else is launched in a sweep. -/
theorem entries_faithful (w : World σ) (o : SweepOptions)
    (s : Session (σ × List (Invocation × Except Failure Outcome))) :
    (∀ index c t e, s.attempt w.keepingResults o index c = (t, .ok e) →
      ∃ calls, t.world.2 = s.world.2 ++ calls ∧
        e.index = index ∧ e.params = c ∧ e.Faithful o calls) ∧
    ∀ spec t report, s.sweep w.keepingResults o spec = (t, .ok report) →
      ∃ calls, t.world.2 = s.world.2 ++ calls.flatten ∧
        List.Forall₂ (ReportEntry.Faithful o) report.entries calls := by
  refine ⟨fun index c t e h => ?_, fun spec t report h => ?_⟩
  · obtain ⟨calls, hfaithful, hworld⟩ := Visit.exists_calls (w := w) (o := o) ⟨s, index, c⟩
    have hentry : Visit.entry w.keepingResults o ⟨s, index, c⟩ = .ok e := congrArg Prod.snd h
    have hafter : Visit.after w.keepingResults o ⟨s, index, c⟩ = t := congrArg Prod.fst h
    exact ⟨calls, hafter ▸ hworld, hfaithful e hentry⟩
  · obtain ⟨calls, hcalls, hworld⟩ :=
      exists_pieces_of_visitsFor Prod.snd (Visit.exists_calls (w := w) (o := o)) s (.sweep spec)
    have hafter : after w.keepingResults o s (.sweep spec) = t := congrArg Prod.fst h
    refine ⟨calls, hafter ▸ hworld, ?_⟩
    exact Traversal.forall₂_of_common (fun v e calls hentry hfaithful => (hfaithful e hentry).2.2)
      (forall₂_visits_of_sweep h) hcalls

theorem entries_faithful_numbersOfTiers :
    let w := World.answering (.ok (.timedOut 5))
    let o := SweepOptions.standard "tiers"
    let s : Session (Unit × List (Invocation × Except Failure Outcome)) := start ((), [])
    (∃ t e calls, s.attempt w.keepingResults o 4 ⟨[]⟩ = (t, .ok e) ∧ e.identifier? = none ∧
      t.world.2 = calls ∧ e.index = 4 ∧ e.Faithful o calls ∧
      ∃ fault, Run.ofCombination ⟨[]⟩ o.experiment o.benchmark = .error fault) ∧
    ∃ t report calls, s.sweep w.keepingResults o numbersOfTiers = (t, .ok report) ∧
      report.entries.map (·.stage) = [.failed, .skipped, .failed] ∧
      t.world.2 = calls.flatten ∧ calls.flatten.length = 1 ∧
      List.Forall₂ (ReportEntry.Faithful o) report.entries calls := by
  intro w o s
  refine ⟨?_, ?_⟩
  · let v : Visit (Unit × List (Invocation × Except Failure Outcome)) := ⟨s, 4, ⟨[]⟩⟩
    have hentry : (v.entry w.keepingResults o).toOption.any (·.identifier? = none) = true := by
      decide +kernel
    obtain ⟨e, he, hnone⟩ := Visit.exists_entry hentry
    have hnone : e.identifier? = none := of_decide_eq_true hnone
    have hattempt : s.attempt w.keepingResults o 4 ⟨[]⟩ = (v.after w.keepingResults o, .ok e) :=
      Prod.ext rfl he
    obtain ⟨calls, hworld, hindex, hparams, hfaithful⟩ :=
      (entries_faithful w o s).1 4 ⟨[]⟩ _ e hattempt
    have hfault := hfaithful.identifier?_eq_none_iff.mp hnone
    rw [hparams] at hfault
    exact ⟨_, e, calls, hattempt, hnone, hworld, hindex, hfaithful, hfault⟩
  · have hreport : (s.sweep w.keepingResults o numbersOfTiers).2.toOption.any
        (·.entries.map (·.stage) = [.failed, .skipped, .failed]) = true := by decide +kernel
    have hlaunched : (s.sweep w.keepingResults o numbersOfTiers).1.world.2.length = 1 := by
      decide +kernel
    obtain ⟨t, report, hsweep, hstages⟩ := exists_report hreport
    rw [hsweep] at hlaunched
    obtain ⟨calls, hworld, hcalls⟩ := (entries_faithful w o s).2 numbersOfTiers t report hsweep
    replace hworld : t.world.2 = calls.flatten := hworld
    exact ⟨t, report, calls, hsweep, of_decide_eq_true hstages, hworld, hworld ▸ hlaunched, hcalls⟩

end Session

end TierSweep
