import TierSweep.Proofs.Session.Course

/-!
# What a launch can influence

Two worlds may answer every launch differently, with any outcome or failure. As long as both can
make the directory for results and do not cancel, sweeps from sessions that remember the same
launches ask the same of them and come to the same combinations; the reports differ in what is said
about the ends of launches and about times, and in nothing else (`Session.sweep_isolates`). A run
that fails, times out or cannot be started therefore influences no other run, and none of the guards
against repeated and colliding runs.

## Main results

* `Session.exists_report_of_obliging` — a sweep reports all judgements.
* `Session.sweep_isolates`.
-/

namespace TierSweep

/-- A world that answers every launch in the same way. -/
def World.answering (result : Except Failure Outcome) : World Unit where
  makeDirectories _ _ := ((), none)
  launch _ _ _ := ((), ⟨result, false⟩)
  clock _ := .zero
  timeOfDay _ := "today"

/-- A world in which no directory can be made. -/
def World.roomless : World Unit where
  makeDirectories _ _ := ((), some .noSpace)
  launch _ _ _ := ((), ⟨.ok .success, false⟩)
  clock _ := .zero
  timeOfDay _ := "today"

/-- A sweep with all that is standard. -/
def SweepOptions.standard (name : String) : SweepOptions where
  experiment := ⟨.ofString standardRoot, name⟩
  benchmark := .ofString standardBenchmark
  timeLimit := .standard
  interval := .ofMillis standardIntervalMillis
  constraints := .standard

/-- A specification under one policy with some sizes of client tiers and some numbers of tiers. -/
def Spec.lru (clientTierSizes numbersOfTiers : List Value) : Spec :=
  ⟨[⟨"pattern", [.text "uniform"]⟩, ⟨"client_tier_sizes", clientTierSizes⟩,
    ⟨"server_mem_sizes", [.int 30]⟩, ⟨"buffer_size", [.int 10]⟩, ⟨"running_time", [.int 5]⟩,
    ⟨"policy_type", [.text "lru"]⟩, ⟨"num_tiers", numbersOfTiers⟩, ⟨"scan_interval", [.int 1]⟩,
    ⟨"sample_rate", [.int 100]⟩, ⟨"hot_threshold", [.int 5]⟩, ⟨"cold_threshold", [.int 10]⟩]⟩

namespace Session

/-- In an obliging world a sweep leaves a report of all judgements on the accepted combinations. -/
theorem exists_report_of_obliging {σ : Type} {w : World σ} {o : SweepOptions} (hw : w.Obliging o)
    (spec : Spec) {s : Session σ} (hs : s.cancelled = false) {js : List Judgement}
    (hjs : judgements o 0 s.launched (spec.product.filter o.constraints.accepts) = js) :
    ∃ t report, s.sweep w o spec = (t, .ok report) ∧
      List.Forall₂ Judgement.Recorded js report.entries ∧
      t.effects = s.effects ++ js.flatMap (·.verdict.asked o false) ∧
      t.launched = remembered s.launched js := by
  obtain ⟨entries, hentries, hrecorded, heffects, hlaunched⟩ :=
    (course_sweep w o spec s).recorded_of_obliging hw hs
  rw [hjs] at hrecorded heffects hlaunched
  generalize s.sweep w o spec = swept at hentries heffects hlaunched
  obtain ⟨t, failure | report⟩ := swept
  · cases hentries
  · obtain rfl := Except.ok.inj hentries
    exact ⟨t, report, rfl, hrecorded, heffects, hlaunched⟩

/-- Two lists of entries that record the same judgements agree at every position. -/
theorem sameRun_of_recorded {js : List Judgement} {ds es : List ReportEntry}
    (hds : List.Forall₂ Judgement.Recorded js ds) (hes : List.Forall₂ Judgement.Recorded js es)
    {i : Nat} {j : Judgement} {d e : ReportEntry} (hj : js[i]? = some j) (hd : ds[i]? = some d)
    (he : es[i]? = some e) :
    d.SameRun e ∧
      (j.verdict.launches? = none → d = { e with elapsedMillis := d.elapsedMillis }) := by
  obtain ⟨hi, rfl⟩ := List.getElem?_eq_some_iff.mp hj
  obtain ⟨hi₁, rfl⟩ := List.getElem?_eq_some_iff.mp hd
  obtain ⟨hi₂, rfl⟩ := List.getElem?_eq_some_iff.mp he
  have hrecords₁ : js[i].Recorded ds[i] := hds.get hi hi₁
  have hrecords₂ : js[i].Recorded es[i] := hes.get hi hi₂
  exact hrecords₁.sameRun hrecords₂

/-- **A launch influences no other run.** Let two worlds answer launches as they like, but both make
the directory for results and never cancel, and let two sessions that are not cancelled remember the
same launches. Then both sweep a specification without failing. They ask the same of their worlds:
for each combination that is to be launched the directory and the launch of its run, within the same
bounds. They remember the same launches afterwards. Their reports have one entry for each accepted
combination, and entries at the same position concern the same run and, if it was not launched,
agree in all but the time. In every world, the only failure of a sweep is that the directory for
results cannot be made. -/
theorem sweep_isolates (o : SweepOptions) (spec : Spec) :
    (∀ {σ₁ σ₂ : Type} (w₁ : World σ₁) (w₂ : World σ₂) (s₁ : Session σ₁) (s₂ : Session σ₂),
      w₁.Obliging o → w₂.Obliging o → s₁.cancelled = false → s₂.cancelled = false →
      s₁.launched = s₂.launched →
      let js := judgements o 0 s₁.launched (spec.product.filter o.constraints.accepts)
      ∃ t₁ t₂ report₁ report₂,
        s₁.sweep w₁ o spec = (t₁, .ok report₁) ∧ s₂.sweep w₂ o spec = (t₂, .ok report₂) ∧
        t₁.effects = s₁.effects ++ js.flatMap (·.verdict.asked o false) ∧
        t₂.effects = s₂.effects ++ js.flatMap (·.verdict.asked o false) ∧
        t₁.launched = t₂.launched ∧
        report₁.entries.length = js.length ∧ report₂.entries.length = js.length ∧
        ∀ (i : Nat) (j : Judgement) (d e : ReportEntry),
          js[i]? = some j → report₁.entries[i]? = some d → report₂.entries[i]? = some e →
          d.SameRun e ∧
            (j.verdict.launches? = none → d = { e with elapsedMillis := d.elapsedMillis })) ∧
    ∀ {σ : Type} (w : World σ) (s : Session σ) (failure : Failure),
      (s.sweep w o spec).2 = .error failure →
        ∃ fault, failure = .resultDirectory o.experiment.directory fault := by
  refine ⟨?_, fun w s failure h => ?_⟩
  · intro σ₁ σ₂ w₁ w₂ s₁ s₂ hw₁ hw₂ hs₁ hs₂ hlaunched js
    obtain ⟨t₁, report₁, hsweep₁, hrecorded₁, heffects₁, hlaunched₁⟩ :=
      exists_report_of_obliging hw₁ spec hs₁ (rfl : _ = js)
    obtain ⟨t₂, report₂, hsweep₂, hrecorded₂, heffects₂, hlaunched₂⟩ :=
      exists_report_of_obliging hw₂ spec hs₂ (hlaunched ▸ rfl : _ = js)
    refine ⟨t₁, t₂, report₁, report₂, hsweep₁, hsweep₂, heffects₁, heffects₂, ?_,
      hrecorded₁.length_eq.symm, hrecorded₂.length_eq.symm, fun i j d e hj hd he => ?_⟩
    · rw [hlaunched₁, hlaunched₂, hlaunched]
    · exact sameRun_of_recorded hrecorded₁ hrecorded₂ hj hd he
  · have hcourse := course_sweep w o spec s
    rw [h] at hcourse
    exact hcourse.failure_eq

/-- Three combinations: the second repeats the first, and the third collides with it. -/
def numbersOfTiers : Spec := .lru [.text "10,20"] [.int 2, .int 2, .int 3]

theorem sweep_isolates_numbersOfTiers :
    let o := SweepOptions.standard "tiers"
    let lucky := World.answering (.ok .success)
    let unlucky := World.answering (.ok (.timedOut 5))
    let js := judgements o 0 (start ()).launched
      (numbersOfTiers.product.filter o.constraints.accepts)
    lucky.Obliging o ∧ unlucky.Obliging o ∧
      js.map (·.verdict.launches?.isSome) = [true, false, false] ∧
      (∃ t₁ t₂ report₁ report₂,
        (start ()).sweep lucky o numbersOfTiers = (t₁, .ok report₁) ∧
        (start ()).sweep unlucky o numbersOfTiers = (t₂, .ok report₂) ∧
        t₁.effects = js.flatMap (·.verdict.asked o false) ∧ t₁.effects = t₂.effects ∧
        t₁.launched = t₂.launched ∧ report₁.entries.length = 3 ∧ report₂.entries.length = 3) ∧
      ∃ failure fault,
        ((start ()).sweep World.roomless o numbersOfTiers).2 = .error failure ∧
        failure = .resultDirectory o.experiment.directory fault := by
  intro o lucky unlucky js
  have hlucky : lucky.Obliging o := ⟨fun _ => rfl, fun _ _ _ => rfl⟩
  have hunlucky : unlucky.Obliging o := ⟨fun _ => rfl, fun _ _ _ => rfl⟩
  have hlaunches : js.map (·.verdict.launches?.isSome) = [true, false, false] := by
    decide +kernel
  have hlength : js.length = 3 := by
    have hmap := congrArg List.length hlaunches
    rwa [List.length_map] at hmap
  refine ⟨hlucky, hunlucky, hlaunches, ?_, ?_⟩
  · obtain ⟨t₁, t₂, report₁, report₂, hsweep₁, hsweep₂, heffects₁, heffects₂, hlaunched, hlength₁,
        hlength₂, -⟩ :=
      (sweep_isolates o numbersOfTiers).1 lucky unlucky (start ()) (start ()) hlucky
        hunlucky rfl rfl rfl
    exact ⟨t₁, t₂, report₁, report₂, hsweep₁, hsweep₂, heffects₁.trans (List.nil_append _),
      heffects₁.trans heffects₂.symm, hlaunched, hlength₁.trans hlength, hlength₂.trans hlength⟩
  · have hfails : ((start ()).sweep World.roomless o numbersOfTiers).2.isOk = false := by
      decide +kernel
    cases hresult : ((start ()).sweep World.roomless o numbersOfTiers).2 with
    | ok report => rw [hresult] at hfails; cases hfails
    | error failure =>
      obtain ⟨fault, hfault⟩ :=
        (sweep_isolates o numbersOfTiers).2 World.roomless (start ()) failure hresult
      exact ⟨failure, fault, rfl, hfault⟩

end Session

end TierSweep
