import TierSweep.Plan
import TierSweep.Proofs.Session.Collision
import TierSweep.Proofs.Session.History
import TierSweep.Proofs.Session.Isolation

/-!
# Plans and sweeps

A plan is made without a session: it knows of no launches, and no guard keeps it from listing a run
twice. Even so a sweep that nothing interrupts does what the plan says. It leaves one entry for each
entry of the plan, about the same run or with the same fault (`PlanEntry.RecordedBy`), and the runs
that it launches can be read off the plan: those that are the first with their identifier
(`Plan.firstRuns`).

## Main definitions

* `PlanEntry.RecordedBy` — an entry of a report that agrees with an entry of a plan.
* `Plan.firstRuns` — the planned runs that are the first with their identifier.

## Main results

* `Session.launches_eq_firstRuns`.
* `Session.sweep_follows_plan`.
-/

namespace TierSweep

/-- An entry of a report that says of a combination what the plan says: its run, or the fault that
keeps it from running. -/
def PlanEntry.RecordedBy (p : PlanEntry) (e : ReportEntry) : Prop :=
  e.index = p.index ∧ e.params = p.params ∧
    match p.run with
    | .ok run => e.identifier? = some run.identifier ∧ e.files? = some run.files ∧
        e.invocation? = some run.invocation.text
    | .error fault => e.stage = .failed ∧ e.failure? = some fault.toFailure ∧
        e.identifier? = none ∧ e.files? = none ∧ e.invocation? = none

/-- Whether two runs have the same identifier. -/
def Run.sameIdentifier (run other : Run) : Bool := run.identifier = other.identifier

namespace Plan

/-- The runs of a plan, in its order. -/
def runs (plan : List PlanEntry) : List Run := plan.filterMap (·.run.toOption)

/-- The runs of a plan that are the first with their identifier, in its order. -/
def firstRuns (plan : List PlanEntry) : List Run := (runs plan).eraseDupsBy Run.sameIdentifier

theorem runs_cons (p : PlanEntry) (plan : List PlanEntry) :
    runs (p :: plan) = p.run.toOption.toList ++ runs plan := by
  rw [runs, List.filterMap_cons]
  cases p.run.toOption <;> rfl

end Plan

namespace Session

variable {o : SweepOptions} {launched : List (String × List String)} {index : Nat} {c : Combination}
  {cs : List Combination}

/-- An entry that records the verdict on a combination agrees with the plan. -/
theorem recordedBy_of_records {e : ReportEntry} (h : (verdict o launched c).Records index c e) :
    (⟨index, c, Run.ofCombination c o.experiment o.benchmark⟩ : PlanEntry).RecordedBy e := by
  obtain ⟨stage, outcome?, failure?, elapsed, rfl, hnone⟩ := h
  refine ⟨rfl, rfl, ?_⟩
  rw [run?_verdict]
  cases hrun : Run.ofCombination c o.experiment o.benchmark with
  | ok run => exact ⟨rfl, rfl, rfl⟩
  | error fault =>
    rw [verdict_of_error hrun] at hnone
    obtain ⟨rfl, rfl, rfl⟩ := hnone rfl
    exact ⟨rfl, rfl, rfl, rfl, rfl⟩

/-- Entries that record all judgements on some combinations agree with their plan, one by one. -/
theorem recordedBy_of_recorded {entries : List ReportEntry}
    (h : List.Forall₂ Judgement.Recorded (judgements o index launched cs) entries) :
    List.Forall₂ PlanEntry.RecordedBy
      (Plan.ofCombinations o.experiment o.benchmark index cs) entries := by
  induction cs generalizing index launched entries with
  | nil =>
    cases h
    exact .nil
  | cons c cs ih =>
    rw [judgements] at h
    rw [Plan.ofCombinations]
    cases h with
    | cons hrecords hrest => exact .cons (recordedBy_of_records hrecords) (ih hrest)

/-- Nothing is remembered under an identifier after one more launch exactly when it is not that of
the launched run and nothing was remembered under it before. -/
theorem isNone_lookup_memo_cons (run other : Run) (launched : List (String × List String)) :
    ((run.memo :: launched).lookup other.identifier).isNone
      = (decide (other.sameIdentifier run = false)
          && (launched.lookup other.identifier).isNone) := by
  rw [Run.memo, List.lookup_cons, Run.sameIdentifier]
  by_cases hsame : other.identifier = run.identifier
  · rw [hsame, beq_self_eq_true, decide_eq_true rfl]
    rfl
  · rw [beq_eq_false_iff_ne.mpr hsame, decide_eq_false hsame]
    rfl

/-- The runs that are launched are those of the plan under whose identifiers nothing was launched
before, each being the first with its identifier. -/
theorem launches_eq (index : Nat) (launched : List (String × List String))
    (cs : List Combination) :
    launches (judgements o index launched cs)
      = ((Plan.runs (Plan.ofCombinations o.experiment o.benchmark index cs)).filter
          fun run => (launched.lookup run.identifier).isNone).eraseDupsBy Run.sameIdentifier := by
  induction cs generalizing index launched with
  | nil => rfl
  | cons c cs ih =>
    rw [judgements, launches_cons, Plan.ofCombinations, Plan.runs_cons, ih]
    cases hrun : Run.ofCombination c o.experiment o.benchmark with
    | error fault =>
      rw [verdict_of_error hrun]
      rfl
    | ok run =>
      simp only [Except.toOption, Option.toList_some, List.singleton_append]
      cases hlookup : launched.lookup run.identifier with
      | some arguments =>
        rw [Verdict.remember, launches?_of_lookup hrun hlookup,
          List.filter_cons_of_neg (by rw [hlookup]; exact Bool.false_ne_true)]
        rfl
      | none =>
        rw [verdict_of_none hrun hlookup, List.filter_cons_of_pos (by rw [hlookup]; rfl),
          List.eraseDupsBy_cons, List.filter_filter]
        -- what is remembered of the run keeps out the later ones with its identifier
        exact congrArg (fun rest => run :: rest.eraseDupsBy Run.sameIdentifier)
          (List.filter_congr fun other _ => isNone_lookup_memo_cons run other launched)

/-- A session that has launched nothing launches the runs of the plan that are the first with their
identifier. -/
theorem launches_eq_firstRuns (index : Nat) (cs : List Combination) :
    launches (judgements o index [] cs)
      = Plan.firstRuns (Plan.ofCombinations o.experiment o.benchmark index cs) := by
  rw [launches_eq, Plan.firstRuns]
  exact congrArg (List.eraseDupsBy Run.sameIdentifier) (List.filter_eq_self.mpr fun _ _ => rfl)

/-- What judgements ask of the world are the launches of the runs that they launch. -/
theorem filterMap_flatMap_asked (js : List Judgement) :
    (js.flatMap (·.verdict.asked o false)).filterMap Effect.run? = launches js := by
  induction js with
  | nil => rfl
  | cons j js ih =>
    rw [List.flatMap_cons, List.filterMap_append, filterMap_asked, ih, launches_cons]

/-- **A sweep does what its plan says**, if the constraints are the standard ones, the directory for
results can always be made and no launch cancels. It leaves a report with one entry for each entry
of the plan, in the same order. The two are about the same combination at the same position, and
have the same run with its identifier, files and command line, or the same fault. What is given to
the launcher are the invocations of those planned runs that are the first with their identifier, in
the order of the plan. -/
theorem sweep_follows_plan {σ : Type} (w : World σ) (o : SweepOptions) (spec : Spec) (world : σ)
    (hstandard : o.constraints = .standard) (hw : w.Obliging o) :
    let plan := Plan.ofSpec spec o.experiment o.benchmark
    ∃ t report, (start (world, [])).sweep w.recording o spec = (t, .ok report) ∧
      List.Forall₂ PlanEntry.RecordedBy plan report.entries ∧
      t.world.2 = (Plan.firstRuns plan).map Run.invocation := by
  intro plan
  have hplan : Plan.ofCombinations o.experiment o.benchmark 0
      (spec.product.filter o.constraints.accepts) = plan := by
    rw [hstandard]
    exact congrArg (fun drained => Plan.ofCombinations o.experiment o.benchmark 0 drained.1)
      (Enumeration.drain_start_eq spec .standard).symm
  have hrecording : w.recording.Obliging o :=
    ⟨fun a => hw.makes a.1, fun i b a => hw.continues i b a.1⟩
  obtain ⟨t, report, hsweep, hrecorded, heffects, -⟩ :=
    exists_report_of_obliging hrecording spec (s := start (world, [])) rfl rfl
  have hruns : t.runs = Plan.firstRuns plan := by
    rw [runs_of_effects_eq heffects, filterMap_flatMap_asked, ← hplan]
    exact launches_eq_firstRuns 0 _
  have hgiven : t.world.2 = t.runs.map Run.invocation := by
    have hhistory := recorded_history w o world [.sweep spec]
    rwa [history, List.foldl_cons, List.foldl_nil, after, hsweep] at hhistory
  exact ⟨t, report, hsweep, hplan ▸ recordedBy_of_recorded hrecorded, hruns ▸ hgiven⟩

/-- Four combinations: the second repeats the first, the third is no run configuration, and the
fourth collides with the first. -/
def numbersOrWords : Spec := .lru [.text "10,20"] [.int 2, .int 2, .text "many", .int 3]

theorem sweep_follows_plan_numbersOrWords :
    let o := SweepOptions.standard "tiers"
    let w := World.answering (.ok (.timedOut 5))
    let plan := Plan.ofSpec numbersOrWords o.experiment o.benchmark
    o.constraints = .standard ∧ w.Obliging o ∧
      plan.map (·.run.isOk) = [true, true, false, true] ∧
      ∃ t report, (start ((), [])).sweep w.recording o numbersOrWords = (t, .ok report) ∧
        report.entries.length = 4 ∧ List.Forall₂ PlanEntry.RecordedBy plan report.entries ∧
        t.world.2 = (Plan.firstRuns plan).map Run.invocation ∧ t.world.2.length = 1 := by
  intro o w plan
  have hobliging : w.Obliging o := ⟨fun _ => rfl, fun _ _ _ => rfl⟩
  have hruns : plan.map (·.run.isOk) = [true, true, false, true] := by decide +kernel
  have hlength : plan.length = 4 := by
    have hmap := congrArg List.length hruns
    rwa [List.length_map] at hmap
  have hfirst : (Plan.firstRuns plan).length = 1 := by decide +kernel
  obtain ⟨t, report, hsweep, hrecorded, hgiven⟩ :=
    sweep_follows_plan w o numbersOrWords () rfl hobliging
  refine ⟨rfl, hobliging, hruns, t, report, hsweep, hrecorded.length_eq.symm.trans hlength,
    hrecorded, hgiven, ?_⟩
  rw [hgiven, List.length_map, hfirst]

end Session

end TierSweep
