import TierSweep.Proofs.Enumeration.Progress
import TierSweep.Proofs.Session.Isolation
import TierSweep.Proofs.Session.Visits

/-!
# What a report accounts for

A sweep draws a combination before it sees whether it is cancelled, so that the enumeration has come
one combination further than the entries when a sweep stops early
(`Session.take_of_sweepWithin`). The report still balances: its entries are those of the first
combinations of the enumeration, its counters add up to their number, and what was passed over are
the rejected places in front of the first combination without an entry. If the session is not
cancelled, entries and rejected combinations make up the whole product (`Session.sweep_accounts`).

## Main definitions

* `Summary.Tallies` — the counters of a summary are right.
* `World.cancelling` — a world in which every launch is cancelled.

## Main results

* `Session.take_of_sweepWithin`.
* `Session.sweep_accounts`.
-/

namespace TierSweep

/-- A world that cancels the sweep at every launch and answers it in the same way. -/
def World.cancelling (result : Except Failure Outcome) : World Unit where
  makeDirectories _ _ := ((), none)
  launch _ _ _ := ((), ⟨result, true⟩)
  clock _ := .zero
  timeOfDay _ := "today"

/-- A summary counts some entries: all of them, and those that ended in each of three stages. -/
structure Summary.Tallies (m : Summary) (entries : List ReportEntry) : Prop where
  total_eq : m.total = entries.length
  succeeded_eq : m.succeeded = (entries.filter (·.stage = .succeeded)).length
  failed_eq : m.failed = (entries.filter (·.stage = .failed)).length
  skipped_eq : m.skipped = (entries.filter (·.stage = .skipped)).length
  sum_eq : m.total = m.succeeded + m.failed + m.skipped

/-- Entries in final stages are counted once each. -/
theorem Summary.tallies_ofEntries {entries : List ReportEntry}
    (h : ∀ e ∈ entries, e.stage.isFinal = true) (passedOver : Nat) (cancelled : Bool) :
    (ofEntries entries passedOver cancelled).Tallies entries := by
  have hsum : entries.length
      = count .succeeded entries + count .failed entries + count .skipped entries := by
    induction entries with
    | nil => rfl
    | cons e entries ih =>
      have hrest := ih fun d hd => h d (List.mem_cons_of_mem e hd)
      have hfinal := h e List.mem_cons_self
      simp only [count, List.countP_cons, List.length_cons] at hrest ⊢
      cases hstage : e.stage with
      | succeeded => simp [hrest]; omega
      | failed => simp [hrest]; omega
      | skipped => simp [hrest]; omega
      | pending => rw [hstage] at hfinal; cases hfinal
      | running => rw [hstage] at hfinal; cases hfinal
  exact ⟨rfl, List.countP_eq_length_filter, List.countP_eq_length_filter,
    List.countP_eq_length_filter, hsum⟩

/-- Some combination failed exactly when one of the entries that failed can be given. -/
theorem Report.anyFailed_iff {report : Report} (h : report.summary.Tallies report.entries) :
    report.anyFailed = true ↔ report.failed ≠ [] := by
  rw [anyFailed, decide_eq_true_iff, h.failed_eq, failed, List.length_pos_iff]

namespace Session

open Spec (choices)
open Enumeration (entriesAt)

variable {σ : Type} {w : World σ} {o : SweepOptions} {spec : Spec} {s t : Session σ}
  {report : Report}

/-- Whatever becomes of a combination, its entry is final. -/
theorem Attempted.isFinal_stage {index : Nat} {c : Combination} {e : ReportEntry}
    (h : Attempted w o index c s (t, .ok e)) : e.stage.isFinal = true := by
  cases h with
  | recorded =>
    simp only [ReportEntry.ofRun?]
    cases verdict o s.launched c <;> rfl
  | @launched _ _ _ answer _ _ _ _ =>
    simp only [ReportEntry.ofRun?]
    cases answer.result with
    | error => rfl
    | ok outcome => cases outcome <;> rfl

/-- A sweep draws once more than it records. -/
theorem take_of_sweepWithin {fuel index : Nat} {e : Enumeration} {entries : List ReportEntry}
    (h : (sweepWithin w o fuel index e s).2.2 = .ok entries) (hfuel : entries.length < fuel) :
    (sweepWithin w o fuel index e s).2.1 = (e.take (entries.length + 1)).2 := by
  induction fuel generalizing index e s entries with
  | zero => exact absurd hfuel (Nat.not_lt_zero _)
  | succ fuel ih =>
    unfold sweepWithin at h ⊢
    rcases hnext : e.next with ⟨_ | c, e₁⟩
    · rw [hnext] at h
      obtain rfl := Except.ok.inj h
      simp only [Enumeration.take, hnext]
    · simp only [hnext] at h ⊢
      cases hcancelled : s.cancelled with
      | true =>
        rw [hcancelled] at h
        obtain rfl := Except.ok.inj h
        simp only [if_true, List.length_nil, Enumeration.take, hnext]
      | false =>
        simp only [hcancelled, Bool.false_eq_true, if_false] at h ⊢
        generalize attempt w o index c s = attempted at h ⊢
        obtain ⟨s₁, failure | entry⟩ := attempted
        · cases h
        · simp only at h ⊢
          rcases hrest : sweepWithin w o fuel (index + 1) e₁ s₁ with ⟨s₂, e₂, failure | rest⟩
          · rw [hrest] at h
            cases h
          · rw [hrest] at h
            obtain rfl := Except.ok.inj h
            rw [List.length_cons] at hfuel
            have hdrawn : (sweepWithin w o fuel (index + 1) e₁ s₁).2.1
                = (e₁.take (rest.length + 1)).2 := ih (by rw [hrest]) (by omega)
            rw [hrest] at hdrawn
            rw [Enumeration.take, hnext]
            exact hdrawn

/-! ### Entries and combinations -/

/-- The entry at a position is that of the combination at this position. -/
theorem entry_of_sweep (h : s.sweep w o spec = (t, .ok report)) {i : Nat} {e : ReportEntry}
    (he : report.entries[i]? = some e) :
    e.index = i ∧ (spec.product.filter o.constraints.accepts)[i]? = some e.params ∧
      e.stage.isFinal = true := by
  obtain ⟨v, hv, hentry⟩ := exists_visit_of_sweep h he
  obtain ⟨hindex, hparams⟩ := getElem?_visitsOf hv
  have hattempted := v.attempted w o
  rw [hentry] at hattempted
  obtain ⟨stage, outcome?, failure?, elapsed, heq, -⟩ := hattempted.of_ok.1
  refine ⟨?_, ?_, hattempted.isFinal_stage⟩
  · rw [heq]
    exact hindex.trans (Nat.zero_add i)
  · rw [heq]
    exact hparams

/-- The entries of a report are those of the first combinations, none being left out. -/
theorem params_eq_take_of_sweep (h : s.sweep w o spec = (t, .ok report)) :
    report.entries.map (·.params)
      = (spec.product.filter o.constraints.accepts).take report.entries.length := by
  refine List.ext_getElem? fun i => ?_
  rw [List.getElem?_map, List.getElem?_take]
  by_cases hi : i < report.entries.length
  · rw [if_pos hi, (entry_of_sweep h (List.getElem?_eq_getElem hi)).2.1,
      List.getElem?_eq_getElem hi]
    rfl
  · rw [if_neg hi, List.getElem?_eq_none (Nat.not_lt.mp hi)]
    rfl

/-- A sweep records no more combinations than there are, and fewer only if it is cancelled. -/
theorem length_entries_of_sweep (h : s.sweep w o spec = (t, .ok report)) :
    report.entries.length ≤ (spec.product.filter o.constraints.accepts).length ∧
      (report.entries.length < (spec.product.filter o.constraints.accepts).length →
        t.cancelled = true) := by
  have hcourse := course_sweep w o spec s
  rw [h] at hcourse
  obtain ⟨done, rest, hjudgements, hrecorded, -, -, hrest⟩ := hcourse.recorded
  have hlength := congrArg List.length hjudgements
  rw [length_judgements, List.length_append, hrecorded.length_eq] at hlength
  refine ⟨hlength ▸ Nat.le_add_right _ _, fun hlt => hrest ?_⟩
  rintro rfl
  rw [hlength] at hlt
  exact absurd hlt (Nat.lt_irrefl _)

/-- A report is summarized with the enumeration that has come one combination further. -/
theorem summary_of_sweep (h : s.sweep w o spec = (t, .ok report)) :
    report.summary = .ofEntries report.entries
      ((Enumeration.start spec o.constraints).take (report.entries.length + 1)).2.passedOver
        t.cancelled := by
  have hle := (length_entries_of_sweep h).1
  have hfuel := Nat.lt_succ_of_le (Nat.le_trans hle (Enumeration.length_filter_product_le spec _))
  simp only [sweep] at h
  rcases hswept : sweepWithin w o ((Enumeration.start spec o.constraints).remaining + 1) 0
      (Enumeration.start spec o.constraints) s with ⟨s₁, e₁, failure | entries⟩
  · rw [hswept] at h
    cases h
  · rw [hswept] at h
    obtain ⟨rfl, hreport⟩ := Prod.mk.inj h
    obtain rfl := Except.ok.inj hreport
    have hdrawn := take_of_sweepWithin (congrArg (·.2.2) hswept) hfuel
    rw [hswept] at hdrawn
    exact congrArg (fun e : Enumeration =>
      Summary.ofEntries entries e.passedOver s₁.cancelled) hdrawn

/-- All choices are either given out or passed over. -/
theorem length_filter_add_passedOver (spec : Spec) (constraints : Constraints)
    (h : choices spec.params < twoTo 64) :
    (spec.product.filter constraints.accepts).length
      + ((Enumeration.start spec constraints).take
          ((spec.product.filter constraints.accepts).length + 1)).2.passedOver
        = spec.combinationCount := by
  have hmax : choices spec.params ≤ Json.maxNat64 := Nat.le_sub_one_of_lt h
  have hpassed : ((Enumeration.start spec constraints).take
      ((spec.product.filter constraints.accepts).length + 1)).2.passedOver
        = spec.product.countP (!constraints.accepts ·) := by
    rw [Enumeration.take_of_draws (Enumeration.draws_start spec constraints) (Nat.lt_succ_self _)]
    exact Nat.zero_add _
  calc _ = spec.product.countP constraints.accepts
        + spec.product.countP (!constraints.accepts ·) := by
        rw [hpassed, ← List.countP_eq_length_filter]
    _ = spec.product.length := by
        rw [List.length_eq_countP_add_countP constraints.accepts]
        simp only [Bool.not_eq_true, Bool.decide_eq_false]
    _ = spec.combinationCount := by
        rw [Spec.length_product, Spec.combinationCount_eq, Nat.min_eq_left hmax]

/-- **A report accounts for all combinations that a sweep came to.** Whatever the session has
launched and whether or not a launch cancels it, the entries of a report are numbered in order and
are those of the first combinations of the enumeration. The counters of its summary are the numbers
of entries in each stage and add up to the number of all; some combination failed exactly when an
entry says so. If the session is not cancelled, all combinations of the enumeration have an entry,
and entries and rejected combinations add up to the number of all choices, as long as a counter can
hold it. If a combination is left without an entry, then the session is cancelled, and what was
passed over are exactly the rejected places in front of the place of the first such combination. -/
theorem sweep_accounts (w : World σ) (o : SweepOptions) (spec : Spec) (s t : Session σ)
    (report : Report) (h : s.sweep w o spec = (t, .ok report)) :
    let drawn := (Enumeration.start spec o.constraints).drain.1
    report.entries.map (·.params) <+: drawn ∧
    (∀ (i : Nat) (e : ReportEntry), report.entries[i]? = some e →
      e.index = i ∧ drawn[i]? = some e.params) ∧
    report.summary.Tallies report.entries ∧
    (report.anyFailed = true ↔ report.failed ≠ []) ∧
    (t.cancelled = false → report.entries.map (·.params) = drawn ∧
      (choices spec.params < twoTo 64 →
        report.summary.total + report.summary.passedOver = spec.combinationCount)) ∧
    ∀ c, drawn[report.entries.length]? = some c → t.cancelled = true ∧
      ∃ before is after, spec.places = before ++ is :: after ∧
        entriesAt spec.params is = some c.entries ∧
        before.countP (!spec.rejectsAt o.constraints ·) = report.entries.length ∧
        report.summary.passedOver = before.countP (spec.rejectsAt o.constraints) := by
  intro drawn
  have hdrawn : drawn = spec.product.filter o.constraints.accepts :=
    congrArg Prod.fst (Enumeration.drain_start_eq spec o.constraints)
  have hparams := params_eq_take_of_sweep h
  have hsummary := summary_of_sweep h
  have htallies : report.summary.Tallies report.entries := by
    rw [hsummary]
    refine Summary.tallies_ofEntries (fun e he => ?_) _ _
    obtain ⟨i, hi⟩ := List.mem_iff_getElem?.mp he
    exact (entry_of_sweep h hi).2.2
  refine ⟨?_, fun i e he => ?_, htallies, Report.anyFailed_iff htallies, fun ht => ?_,
    fun c hc => ?_⟩
  · rw [hparams, hdrawn]
    exact List.take_prefix _ _
  · rw [hdrawn]
    exact ⟨(entry_of_sweep h he).1, (entry_of_sweep h he).2.1⟩
  · have hall : report.entries.length = drawn.length := by
      rw [hdrawn]
      obtain ⟨hle, hlt⟩ := length_entries_of_sweep h
      exact Nat.le_antisymm hle (Nat.not_lt.mp fun hless => by rw [hlt hless] at ht; cases ht)
    refine ⟨by rw [hparams, hall, hdrawn, List.take_length], fun hchoices => ?_⟩
    have hsum := length_filter_add_passedOver spec o.constraints hchoices
    rw [hsummary]
    rw [← hdrawn, ← hall] at hsum
    exact hsum
  · have hless : report.entries.length < drawn.length := (List.getElem?_eq_some_iff.mp hc).1
    rw [hdrawn] at hc hless
    obtain ⟨before, is, after, hplaces, his, hgiven, hpassed⟩ :=
      Enumeration.exists_places_of_take hc
    exact ⟨(length_entries_of_sweep h).2 hless, before, is, after, hplaces, his, hgiven,
      by rw [hsummary]; exact hpassed⟩

/-- Four choices of two thresholds; the constraints reject the second. -/
def crossing : Spec :=
  ((Spec.lru [.text "10-20"] [.int 2]).set "hot_threshold" [.int 15, .int 5]).set
    "cold_threshold" [.int 20, .int 10]

theorem sweep_accounts_crossing :
    let o := SweepOptions.standard "tiers"
    let stopped := (start ()).sweep (World.cancelling (.ok .success)) o crossing
    let finished := (start ()).sweep (World.answering (.ok (.timedOut 5))) o crossing
    (∃ t report, stopped = (t, .ok report) ∧ report.entries.length = 1 ∧ t.cancelled = true ∧
      report.summary.passedOver = 1 ∧ ∃ before is after, crossing.places = before ++ is :: after ∧
        before.countP (!crossing.rejectsAt o.constraints ·) = 1 ∧
        before.countP (crossing.rejectsAt o.constraints) = 1) ∧
    ∃ t report, finished = (t, .ok report) ∧ t.cancelled = false ∧
      choices crossing.params < twoTo 64 ∧ report.summary.Tallies report.entries ∧
      report.failed ≠ [] ∧ report.summary.total + report.summary.passedOver = 4 := by
  intro o stopped finished
  refine ⟨?_, ?_⟩
  · have hstops : stopped.2.toOption.any (fun report => report.entries.length = 1 ∧
        report.summary.passedOver = 1) = true := by decide +kernel
    obtain ⟨t, report, hstopped, hstops⟩ := exists_report hstops
    obtain ⟨hlength, hpassed⟩ := of_decide_eq_true hstops
    have hdrawn : 1 < (Enumeration.start crossing o.constraints).drain.1.length := by
      decide +kernel
    rw [← hlength] at hdrawn
    obtain ⟨hcancelled, before, is, after, hplaces, -, hgiven, hrejected⟩ :=
      (sweep_accounts _ o crossing _ t report hstopped).2.2.2.2.2 _ (List.getElem?_eq_getElem hdrawn)
    exact ⟨t, report, hstopped, hlength, hcancelled, hpassed, before, is, after, hplaces,
      hgiven.trans hlength, hrejected.symm.trans hpassed⟩
  · have hfails : finished.2.toOption.any Report.anyFailed = true := by decide +kernel
    have hcancelled : finished.1.cancelled = false := by decide +kernel
    obtain ⟨t, report, hfinished, hfailed⟩ := exists_report hfails
    replace hfinished : finished = (t, .ok report) := hfinished
    rw [hfinished] at hcancelled
    have hchoices : choices crossing.params < twoTo 64 := by decide
    obtain ⟨-, -, htallies, hany, hall, -⟩ := sweep_accounts _ o crossing _ t report hfinished
    exact ⟨t, report, hfinished, hcancelled, hchoices, htallies, hany.mp hfailed,
      ((hall hcancelled).2 hchoices).trans (by decide)⟩

end Session

end TierSweep
