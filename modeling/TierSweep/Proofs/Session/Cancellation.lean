import TierSweep.Proofs.Session.Accounting
import TierSweep.Proofs.Session.Exchanges

/-!
# Cancellation

A session is cancelled by a request or during a launch, and by nothing else, and it stays cancelled
(`Session.exists_new_of_history`). A sweep comes to no combination of a cancelled session, so every
launch of a sweep starts uncancelled. When a launch cancels the session, the visit at which this
happens is the last one: its entry is the last of the report and nothing is asked of the world any
more (`Session.exists_last_of_cancelled`).

## Main definitions

* `Exchange.cancels` — the launches during which cancellation is requested.
* `Session.Follows` — a session that sweeping and coming to combinations leads to.

## Main results

* `Session.exists_new_of_history`, `Session.sweep_of_cancelled`,
  `Session.exists_last_of_cancelled`.
* `Session.cancellation_is_final`.
-/

namespace TierSweep

/-- Cancellation was requested during a launch. -/
def Exchange.cancels : Exchange → Bool
  | directory _ _ => false
  | launch _ _ cancels => cancels

variable {σ : Type} {w : World σ} {o : SweepOptions}

/-- A visit leaves the session cancelled if it was so before or if it is cancelled meanwhile. -/
theorem Visit.Exchanges.cancelled_after {v : Visit (σ × List Exchange)} {new : List Exchange}
    (h : v.Exchanges w o new) :
    (v.after w.observed o).cancelled = (v.session.cancelled || new.any Exchange.cancels) := by
  cases h with
  | silent _ hcancelled => rw [hcancelled, List.any_nil, Bool.or_false]
  | homeless _ hcancelled => rw [hcancelled]; exact (Bool.or_false _).symm
  | launched _ _ hcancelled => rw [hcancelled]; exact congrArg _ (Bool.or_false _).symm

/-- A launch of a visit is told whether the session is cancelled. -/
theorem Visit.Exchanges.cancelled_eq_of_mem {v : Visit (σ × List Exchange)} {new : List Exchange}
    (h : v.Exchanges w o new) {i : Invocation} {b : LaunchBounds} {cancels : Bool}
    (hmem : .launch i b cancels ∈ new) : b.cancelled = v.session.cancelled := by
  cases h with
  | silent => exact absurd hmem List.not_mem_nil
  | homeless => exact absurd (List.mem_singleton.mp hmem) Exchange.noConfusion
  | launched =>
    rcases List.mem_cons.mp hmem with hmem | hmem
    · exact absurd hmem Exchange.noConfusion
    · rw [(Exchange.launch.inj (List.mem_singleton.mp hmem)).2.1]
      rfl

namespace Session

/-! ### What cancels a session -/

/-- Exchanges with the world lead from one session to another: the record has grown by them, and the
session is cancelled if it was so before or if one of them cancelled it. -/
def Follows (s t : Session (σ × List Exchange)) : Prop :=
  ∃ new, t.world.2 = s.world.2 ++ new ∧ t.cancelled = (s.cancelled || new.any Exchange.cancels)

theorem Follows.refl (s : Session (σ × List Exchange)) : Follows s s :=
  ⟨[], (List.append_nil _).symm, (Bool.or_false _).symm⟩

variable {s t : Session (σ × List Exchange)}

theorem Follows.attempt (h : Follows s t) (w : World σ) (o : SweepOptions) (index : Nat)
    (c : Combination) : Follows s (t.attempt w.observed o index c).1 := by
  obtain ⟨old, hold, hcancelled⟩ := h
  obtain ⟨new, hexchanges, hnew⟩ := Visit.exists_exchanges (w := w) (o := o) ⟨t, index, c⟩
  refine ⟨old ++ new, ?_, ?_⟩
  · rw [← List.append_assoc, ← hold]
    exact hnew
  · rw [List.any_append, ← Bool.or_assoc, ← hcancelled]
    exact hexchanges.cancelled_after

theorem follows_sweep (w : World σ) (o : SweepOptions) (spec : Spec)
    (s : Session (σ × List Exchange)) : Follows s (s.sweep w.observed o spec).1 :=
  sweep_induction (fun index c _ h => h.attempt w o index c) spec (.refl s)

/-- A session is cancelled by a request or during a launch, and by nothing else. -/
theorem exists_new_of_history (w : World σ) (o : SweepOptions)
    (s : Session (σ × List Exchange)) (requests : List Request) :
    ∃ new, (history w.observed o s requests).world.2 = s.world.2 ++ new ∧
      ((history w.observed o s requests).cancelled = true ↔
        s.cancelled = true ∨ .cancel ∈ requests ∨ new.any Exchange.cancels = true) := by
  induction requests generalizing s with
  | nil =>
    refine ⟨[], (List.append_nil _).symm, ?_⟩
    rw [history, List.foldl_nil, List.any_nil]
    simp only [List.not_mem_nil, Bool.false_eq_true, or_false]
  | cons request requests ih =>
    obtain ⟨rest, hrest, hcancelled⟩ := ih (after w.observed o s request)
    -- a request either leads on by exchanges or is the one to cancel
    have hstep : Follows s (after w.observed o s request) ∧ request ≠ .cancel ∨
        after w.observed o s request = s.cancel ∧ request = .cancel := by
      cases request with
      | sweep spec => exact .inl ⟨follows_sweep w o spec s, Request.noConfusion⟩
      | attempt index c => exact .inl ⟨(Follows.refl s).attempt w o index c, Request.noConfusion⟩
      | cancel => exact .inr ⟨rfl, rfl⟩
    rw [history, List.foldl_cons, ← history]
    rcases hstep with ⟨⟨new, hnew, hafter⟩, hne⟩ | ⟨hafter, rfl⟩
    · refine ⟨new ++ rest, by rw [hrest, hnew, List.append_assoc], ?_⟩
      rw [hcancelled, hafter, List.mem_cons, List.any_append, Bool.or_eq_true, Bool.or_eq_true]
      simp only [hne.symm, false_or]
      tauto
    · refine ⟨rest, by rw [hrest, hafter]; rfl, ?_⟩
      rw [hafter] at hcancelled ⊢
      exact ⟨fun _ => .inr (.inl List.mem_cons_self), fun _ => hcancelled.mpr (.inl rfl)⟩

/-- A session that is cancelled stays so. -/
theorem cancelled_history {σ : Type} {w : World σ} {s : Session σ} (requests : List Request)
    (h : s.cancelled = true) : (history w o s requests).cancelled = true := by
  refine history_induction (P := fun s => s.cancelled = true) (fun index c s hs => ?_)
    (fun _ _ => rfl) requests h
  have hattempted := attempted_attempt w o index c s
  generalize attempt w o index c s = attempted at hattempted ⊢
  cases hattempted with
  | recorded => exact hs
  | homeless => exact hs
  | launched => exact Bool.or_eq_true_iff.mpr (.inl hs)

/-! ### Where a sweep stops -/

section Stop

variable {σ : Type} {w : World σ} {index : Nat} {cs : List Combination} {s : Session σ}

theorem visitsOf_of_cancelled (h : s.cancelled = true) : visitsOf w o index cs s = [] := by
  cases cs with
  | nil => rfl
  | cons c cs => rw [visitsOf, if_pos h]

/-- No combination is visited by a session that is cancelled. -/
theorem cancelled_eq_false_of_mem_visitsOf {v : Visit σ} (h : v ∈ visitsOf w o index cs s) :
    v.session.cancelled = false := by
  fun_induction visitsOf w o index cs s with
  | case1 => exact absurd h List.not_mem_nil
  | case2 => exact absurd h List.not_mem_nil
  | case3 index c cs s hs =>
    rw [List.mem_singleton.mp h]
    exact Bool.not_eq_true _ |>.mp hs
  | case4 index c cs s hs t e hattempt ih =>
    rcases List.mem_cons.mp h with rfl | h
    · exact Bool.not_eq_true _ |>.mp hs
    · exact ih h

/-- The report says whether the session is cancelled. -/
theorem cancelled_eq_of_sweep {spec : Spec} {t : Session σ} {report : Report}
    (h : s.sweep w o spec = (t, .ok report)) : report.summary.cancelled = t.cancelled := by
  rw [summary_of_sweep h]
  rfl

/-- A session that is cancelled sweeps nothing and asks nothing of the world. -/
theorem sweep_of_cancelled (w : World σ) (o : SweepOptions) (spec : Spec)
    (h : s.cancelled = true) :
    ∃ report, s.sweep w o spec = (s, .ok report) ∧ report.entries = [] ∧
      report.summary.cancelled = true := by
  obtain ⟨hsession, hentries⟩ := sweep_eq_visits w o spec s
  rw [visitsFor, visitsOf_of_cancelled h] at hsession hentries
  rcases hswept : s.sweep w o spec with ⟨t, failure | report⟩
  · rw [hswept] at hentries
    cases hentries
  · have hcancelled := cancelled_eq_of_sweep hswept
    rw [hswept] at hsession hentries
    obtain rfl : t = s := hsession
    exact ⟨report, rfl, Except.ok.inj hentries, hcancelled.trans h⟩

end Stop

/-- A sweep during which the session is cancelled ends at the launch that cancels it, and reports
it. -/
theorem exists_last_of_cancelled {spec : Spec} (hs : s.cancelled = false)
    (ht : (s.sweep w.observed o spec).1.cancelled = true) :
    ∃ earlier v run e report old, visitsFor w.observed o s (.sweep spec) = earlier ++ [v] ∧
      v.session.world.2 = s.world.2 ++ old ∧ old.any Exchange.cancels = false ∧
      v.run o = .ok run ∧ v.entry w.observed o = .ok e ∧
      (v.after w.observed o).world.2 = v.session.world.2
        ++ [.directory o.experiment.directory true,
          .launch run.invocation (o.bounds run.setup false) true] ∧
      s.sweep w.observed o spec = (v.after w.observed o, .ok report) ∧
      report.entries.getLast? = some e := by
  have hsession := (sweep_eq_visits w.observed o spec s).1
  rcases List.eq_nil_or_concat' (visitsFor w.observed o s (.sweep spec)) with
    hvisits | ⟨earlier, v, hvisits⟩
  · rw [hvisits] at hsession
    rw [hsession] at ht
    exact absurd (ht.symm.trans hs) Bool.noConfusion
  · have hmem : v ∈ visitsFor w.observed o s (.sweep spec) := by
      rw [hvisits]
      exact List.mem_append_right earlier List.mem_cons_self
    have hv : v.session.cancelled = false := cancelled_eq_false_of_mem_visitsOf hmem
    obtain ⟨old, hold, hnone⟩ : Follows s v.session :=
      visitsOf_induction (fun index c _ h => h.attempt w o index c) (.refl s) v hmem
    rw [hs, hv, Bool.false_or] at hnone
    rw [hvisits, afterVisits, List.getLast?_concat] at hsession
    replace hsession : (s.sweep w.observed o spec).1 = v.after w.observed o := hsession
    rw [hsession] at ht
    obtain ⟨new, hexchanges, hnew⟩ := v.exists_exchanges (w := w) (o := o)
    cases hexchanges with
    | silent _ hcancelled => rw [hcancelled, hv] at ht; cases ht
    | homeless _ hcancelled => rw [hcancelled, hv] at ht; cases ht
    | @launched run cancels e hrun hentry hcancelled =>
      rw [hcancelled, hv, Bool.false_or] at ht
      rw [hv, ht] at hnew
      rcases hswept : s.sweep w.observed o spec with ⟨t, failure | report⟩
      · -- the last visit would have failed
        obtain ⟨vs, u, hvs, -, hu⟩ := exists_last_of_sweep_eq_error hswept
        rw [hvisits] at hvs
        obtain rfl := List.singleton_inj.mp (List.append_inj_right' hvs rfl)
        have hfailed : v.entry w.observed o = .error failure := congrArg Prod.snd hu
        rw [hentry] at hfailed
        cases hfailed
      · have hentries := List.rel_reverse (forall₂_visits_of_sweep hswept)
        rw [hvisits, List.reverse_concat] at hentries
        rw [hswept] at hsession
        obtain rfl : t = v.after w.observed o := hsession
        cases hreverse : report.entries.reverse with
        | nil => rw [hreverse] at hentries; cases hentries
        | cons d ds =>
          rw [hreverse] at hentries
          obtain ⟨hd, -⟩ := List.forall₂_cons.mp hentries
          obtain rfl := Except.ok.inj (hentry.symm.trans hd)
          refine ⟨earlier, v, run, e, report, old, hvisits, hold, hnone.symm, hrun, hentry,
            hnew, rfl, ?_⟩
          rw [List.getLast?_eq_head?_reverse, hreverse]
          rfl

/-- A launch of a sweep starts in a session that is not cancelled. -/
theorem cancelled_eq_false_of_mem_launch {spec : Spec} {new : List Exchange}
    (hnew : (s.sweep w.observed o spec).1.world.2 = s.world.2 ++ new) {i : Invocation}
    {b : LaunchBounds} {cancels : Bool} (hmem : .launch i b cancels ∈ new) :
    b.cancelled = false := by
  obtain ⟨pieces, hpieces, hworld⟩ := exists_exchanges_of_sweep w o spec s
  rw [hworld] at hnew
  obtain rfl := List.append_cancel_left hnew
  obtain ⟨piece, hpiece, hmem⟩ := List.mem_flatten.mp hmem
  obtain ⟨v, hv, hexchanges⟩ := Traversal.exists_mem_of_forall₂ hpieces.flip hpiece
  rw [Visit.Exchanges.cancelled_eq_of_mem hexchanges hmem]
  exact cancelled_eq_false_of_mem_visitsOf hv

/-- **Cancellation is for good and takes effect at once.** After every history, a session is
cancelled exactly when this was requested between the other requests or during a launch. From then
on it stays cancelled, and a sweep leaves it and the world as they are and reports no entries and
that it is cancelled. A launch of a sweep never starts cancelled. When the session is cancelled
during a launch of a sweep, this launch is the last that is asked of the world: the sweep comes to
no further combination, it does not fail, and the entry of this launch is the last of its report. A
report says that the session is cancelled exactly when it is so by the end of the sweep. -/
theorem cancellation_is_final (w : World σ) (o : SweepOptions) (world : σ)
    (requests : List Request) :
    let s := history w.observed o (start (world, [])) requests
    (s.cancelled = true ↔ .cancel ∈ requests ∨ s.world.2.any Exchange.cancels = true) ∧
      (s.cancelled = true → ∀ later,
        let u := history w.observed o s later
        u.cancelled = true ∧ ∀ spec, ∃ report, u.sweep w.observed o spec = (u, .ok report) ∧
          report.entries = [] ∧ report.summary.cancelled = true) ∧
      ∀ spec,
        let swept := s.sweep w.observed o spec
        ∃ new, swept.1.world.2 = s.world.2 ++ new ∧
          (∀ i b cancels, .launch i b cancels ∈ new → b.cancelled = false) ∧
          (∀ before i b later, new = before ++ .launch i b true :: later → later = [] ∧
            ∃ earlier v run e report,
              visitsFor w.observed o s (.sweep spec) = earlier ++ [v] ∧
              v.run o = .ok run ∧ run.invocation = i ∧ v.entry w.observed o = .ok e ∧
              (v.after w.observed o).world.2 = v.session.world.2
                ++ [.directory o.experiment.directory true, .launch i b true] ∧
              swept = (v.after w.observed o, .ok report) ∧ report.entries.getLast? = some e ∧
              report.summary.cancelled = true) ∧
          ∀ report, swept.2 = .ok report → report.summary.cancelled = swept.1.cancelled := by
  intro s
  refine ⟨?_, fun hs later => ?_, fun spec => ?_⟩
  · obtain ⟨new, hworld, hcancelled⟩ := exists_new_of_history w o (start (world, [])) requests
    obtain rfl : s.world.2 = new := hworld
    exact hcancelled.trans (or_iff_right Bool.false_ne_true)
  · have hu : (history w.observed o s later).cancelled = true := cancelled_history later hs
    exact ⟨hu, fun spec => sweep_of_cancelled w.observed o spec hu⟩
  · intro swept
    obtain ⟨new, hnew, hcancelled⟩ := follows_sweep w o spec s
    refine ⟨new, hnew, fun i b cancels => cancelled_eq_false_of_mem_launch hnew,
      fun before i b later hsplit => ?_,
      fun report hreport => cancelled_eq_of_sweep (Prod.ext rfl hreport)⟩
    have hany : new.any Exchange.cancels = true := by
      rw [hsplit]
      exact List.any_eq_true.mpr ⟨_, List.mem_append_right before List.mem_cons_self, rfl⟩
    have hs : s.cancelled = false := by
      by_contra hs
      obtain ⟨report, hreport, -⟩ :=
        sweep_of_cancelled w.observed o spec (Bool.not_eq_false _ |>.mp hs)
      rw [hreport, List.self_eq_append_right] at hnew
      rw [hnew] at hany
      cases hany
    rw [hany, Bool.or_true] at hcancelled
    obtain ⟨earlier, v, run, e, report, old, hvisits, hold, hnone, hrun, hentry, hafter, hswept,
      hlast⟩ := exists_last_of_cancelled hs hcancelled
    have hend : swept.1 = v.after w.observed o := congrArg Prod.fst hswept
    have hrecord : before ++ .launch i b true :: later
        = (old ++ [.directory o.experiment.directory true])
          ++ [.launch run.invocation (o.bounds run.setup false) true] := by
      rw [hend, hafter, hold, hsplit, List.append_assoc] at hnew
      rw [List.append_assoc]
      exact (List.append_cancel_left hnew).symm
    obtain ⟨hlater, hlaunch⟩ := Exchange.eq_last_of_any hrecord
      (by rw [List.any_append, hnone]; rfl) rfl
    obtain ⟨hi, hb, -⟩ := Exchange.launch.inj hlaunch
    rw [← hi, ← hb] at hafter
    rw [hend] at hcancelled
    exact ⟨hlater, earlier, v, run, e, report, hvisits, hrun, hi.symm, hentry, hafter, hswept,
      hlast, (cancelled_eq_of_sweep hswept).trans hcancelled⟩

theorem cancellation_is_final_numbersOfTiers :
    let o := SweepOptions.standard "tiers"
    let w := World.cancelling (.ok .success)
    let begun : Session (Unit × List Exchange) := start ((), [])
    ∃ earlier v run b e report stopped,
      begun.sweep w.observed o numbersOfTiers = (stopped, .ok report) ∧
      stopped.world.2.map Exchange.cancels = [false, true] ∧
      visitsFor w.observed o begun (.sweep numbersOfTiers) = earlier ++ [v] ∧
      v.run o = .ok run ∧ v.entry w.observed o = .ok e ∧ b.cancelled = false ∧
      stopped.world.2 = v.session.world.2
        ++ [.directory o.experiment.directory true, .launch run.invocation b true] ∧
      report.entries.getLast? = some e ∧ report.summary.cancelled = stopped.cancelled ∧
      ∃ later, stopped.sweep w.observed o numbersOfTiers = (stopped, .ok later) ∧
        later.entries = [] := by
  intro o w begun
  have hrecord : (begun.sweep w.observed o numbersOfTiers).1.world.2.map Exchange.cancels
      = [false, true] := by decide +kernel
  obtain ⟨new, hnew, huncancelled, hlast, hreports⟩ :=
    (cancellation_is_final w o () []).2.2 numbersOfTiers
  obtain ⟨hcancelled, hstays, -⟩ := cancellation_is_final w o () [.sweep numbersOfTiers]
  -- from here on it does not matter what is swept
  generalize numbersOfTiers = spec at *
  obtain rfl : (begun.sweep w.observed o spec).1.world.2 = new := hnew
  obtain ⟨x, _, hx, -, hrest⟩ := List.map_eq_cons_iff.mp hrecord
  obtain ⟨y, _, rfl, hy, hnil⟩ := List.map_eq_cons_iff.mp hrest
  obtain rfl := List.map_eq_nil_iff.mp hnil
  cases y with
  | directory => cases hy
  | launch i b cancels =>
    obtain rfl : cancels = true := hy
    obtain ⟨-, earlier, v, run, e, report, hvisits, hrun, rfl, hentry, hafter, hswept, hentries,
      -⟩ := hlast [x] i b [] hx
    have hlaunch : .launch run.invocation b true ∈ (begun.sweep w.observed o spec).1.world.2 := by
      rw [hx]
      exact List.mem_cons_of_mem x List.mem_cons_self
    have hstopped : (begun.sweep w.observed o spec).1.cancelled = true :=
      hcancelled.mpr (.inr (List.any_eq_true.mpr ⟨_, hlaunch, rfl⟩))
    obtain ⟨later, hlater, hempty, -⟩ := (hstays hstopped []).2 spec
    have hresult : (begun.sweep w.observed o spec).2 = .ok report := congrArg Prod.snd hswept
    exact ⟨earlier, v, run, b, e, report, _, Prod.ext rfl hresult, hrecord, hvisits, hrun, hentry,
      huncancelled run.invocation b true hlaunch, (congrArg (·.1.world.2) hswept).trans hafter,
      hentries, hreports report hresult, later, hlater, hempty⟩

end Session

end TierSweep
