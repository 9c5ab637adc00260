import TierSweep.Proofs.Session.Course
import TierSweep.Proofs.Session.History
import TierSweep.Proofs.Traversal

/-!
# The combinations that a session comes to

Whatever is asked of a session, all it does is to come to combinations, one after another. A visit
is a session at the moment at which it comes to a combination. In a sweep each visit starts where
the one before it ended; there is none after a visit that fails or once the session is cancelled
(`Session.visitsOf`). The entries of a report are those of the visits, and the sweep ends where its
last visit does (`Session.sweep_eq_visits`). What is known of single visits is therefore known of
sweeps, and what coming to a combination and cancelling preserve holds at every visit of a history
(`Session.visits_induction`). A world may keep a record to which every visit adds something; the
record of a history then consists of these pieces (`Session.exists_pieces_of_visits`).

## Main definitions

* `Visit`, `Visit.after`, `Visit.entry` — a session that comes to a combination, and what follows.
* `Session.visitsOf`, `Session.visits` — the visits of a sweep, and those of a history.

## Main results

* `Session.sweep_eq_visits`.
* `Session.visits_induction`, `Session.exists_launch_of_mem_runs`.
* `Session.exists_pieces_of_visitsFor`, `Session.exists_pieces_of_visits`.
-/

namespace TierSweep

/-- A session that comes to a combination. -/
structure Visit (σ : Type) where
  /-- The session that comes to it. -/
  session : Session σ
  index : Nat
  params : Combination

namespace Visit

variable {σ : Type} (w : World σ) (o : SweepOptions) (v : Visit σ)

/-- The session afterwards. -/
def after : Session σ := (v.session.attempt w o v.index v.params).1

/-- The entry that records the combination, unless the session fails. -/
def entry : Except Failure ReportEntry := (v.session.attempt w o v.index v.params).2

/-- The run of the combination, if it is a run configuration. -/
def run : Except SetupFault Run := Run.ofCombination v.params o.experiment o.benchmark

/-- The run is launched. -/
def Launches (run : Run) : Prop := (v.after w o).runs = v.session.runs ++ [run]

theorem attempted :
    Session.Attempted w o v.index v.params v.session (v.after w o, v.entry w o) :=
  Session.attempted_attempt w o v.index v.params v.session

/-- A check of the entry shows that there is one. -/
theorem exists_entry {w : World σ} {o : SweepOptions} {v : Visit σ} {p : ReportEntry → Bool}
    (h : (v.entry w o).toOption.any p = true) : ∃ e, v.entry w o = .ok e ∧ p e = true := by
  cases hentry : v.entry w o with
  | error failure => rw [hentry] at h; cases h
  | ok e => rw [hentry] at h; exact ⟨e, rfl, h⟩

/-- A launched run is that of the combination. -/
theorem run_of_launches {w : World σ} {o : SweepOptions} {v : Visit σ} {run : Run}
    (h : v.Launches w o run) : v.run o = .ok run := by
  have hattempted := v.attempted w o
  rw [Launches] at h
  cases hentry : v.entry w o with
  | error failure =>
    rw [hentry] at hattempted
    rw [hattempted.runs_of_error, List.self_eq_append_right] at h
    exact absurd h (List.cons_ne_nil _ _)
  | ok e =>
    rw [hentry] at hattempted
    rw [hattempted.runs_of_ok] at h
    have hlaunches := Option.toList_eq_singleton_iff.mp (List.append_cancel_left h)
    exact (Session.verdict_eq_fresh_iff.mp (Verdict.launches?_eq_some_iff.mp hlaunches)).1

end Visit

namespace Session

open Enumeration (Draws)

variable {σ : Type}

/-- The visits of a session to some combinations, one after another. -/
def visitsOf (w : World σ) (o : SweepOptions) :
    Nat → List Combination → Session σ → List (Visit σ)
  | _, [], _ => []
  | index, c :: cs, s =>
    if s.cancelled then []
    else match attempt w o index c s with
      | (_, .error _) => [⟨s, index, c⟩]
      | (t, .ok _) => ⟨s, index, c⟩ :: visitsOf w o (index + 1) cs t

/-- The visits to which a request leads. -/
def visitsFor (w : World σ) (o : SweepOptions) (s : Session σ) : Request → List (Visit σ)
  | .sweep spec => visitsOf w o 0 (spec.product.filter o.constraints.accepts) s
  | .attempt index c => [⟨s, index, c⟩]
  | .cancel => []

/-- The visits of a whole history. -/
def visits (w : World σ) (o : SweepOptions) : Session σ → List Request → List (Visit σ)
  | _, [] => []
  | s, request :: requests => visitsFor w o s request ++ visits w o (after w o s request) requests

/-- The session after some visits that started from it. -/
def afterVisits (w : World σ) (o : SweepOptions) (s : Session σ) (vs : List (Visit σ)) :
    Session σ :=
  vs.getLast?.elim s (Visit.after w o)

theorem afterVisits_cons (w : World σ) (o : SweepOptions) (s : Session σ) (v : Visit σ)
    (vs : List (Visit σ)) :
    afterVisits w o s (v :: vs) = afterVisits w o (v.after w o) vs := by
  rw [afterVisits, afterVisits, List.getLast?_cons]
  cases vs.getLast? <;> rfl

section Sweep

variable {w : World σ} {o : SweepOptions} {index : Nat} {cs : List Combination} {s : Session σ}

/-! ### Sweeps consist of their visits -/

/-- The further combinations of an enumeration are visited in the order in which they are drawn. -/
theorem sweepWithin_eq_visitsOf {e e' : Enumeration} (h : Draws e cs e') {fuel : Nat}
    (hfuel : cs.length < fuel) (index : Nat) (s : Session σ) :
    (sweepWithin w o fuel index e s).1 = afterVisits w o s (visitsOf w o index cs s) ∧
      (sweepWithin w o fuel index e s).2.2
        = (visitsOf w o index cs s).mapM (Visit.entry w o) := by
  obtain ⟨fuel, rfl⟩ : ∃ n, fuel = n + 1 := Nat.exists_eq_succ_of_ne_zero (by omega)
  induction h generalizing fuel index s with
  | nothing h =>
    rw [sweepWithin, h]
    exact ⟨rfl, rfl⟩
  | @more e e₁ e' c cs h hrest ih =>
    rw [List.length_cons] at hfuel
    unfold sweepWithin visitsOf
    rw [h]
    cases hcancelled : s.cancelled with
    | true => exact ⟨rfl, rfl⟩
    | false =>
      have hafter : Visit.after w o ⟨s, index, c⟩ = (attempt w o index c s).1 := rfl
      have hentry : Visit.entry w o ⟨s, index, c⟩ = (attempt w o index c s).2 := rfl
      simp only [Bool.false_eq_true, if_false]
      generalize attempt w o index c s = attempted at hafter hentry ⊢
      obtain ⟨t, failure | entry⟩ := attempted
      · rw [afterVisits_cons, hafter, List.mapM_cons, hentry]
        exact ⟨rfl, rfl⟩
      · obtain ⟨fuel, rfl⟩ : ∃ n, fuel = n + 1 := Nat.exists_eq_succ_of_ne_zero (by omega)
        obtain ⟨hsession, hresult⟩ := ih (index + 1) t fuel (by omega)
        simp only
        rw [afterVisits_cons, hafter, ← hsession, List.mapM_cons, hentry, ← hresult]
        generalize sweepWithin w o (fuel + 1) (index + 1) e₁ t = swept
        obtain ⟨u, e₂, failure | entries⟩ := swept <;> exact ⟨rfl, rfl⟩

/-- A sweep ends where its last visit does, and the entries of its report are those of the visits.
-/
theorem sweep_eq_visits (w : World σ) (o : SweepOptions) (spec : Spec) (s : Session σ) :
    (s.sweep w o spec).1 = afterVisits w o s (visitsFor w o s (.sweep spec)) ∧
      (s.sweep w o spec).2.map Report.entries
        = (visitsFor w o s (.sweep spec)).mapM (Visit.entry w o) := by
  obtain ⟨hsession, hresult⟩ :=
    sweepWithin_eq_visitsOf (w := w) (o := o) (Enumeration.draws_start spec o.constraints)
      (Nat.lt_add_one_of_le (Enumeration.length_filter_product_le spec o.constraints)) 0 s
  simp only [sweep, visitsFor]
  rw [← hsession, ← hresult]
  generalize sweepWithin w o ((Enumeration.start spec o.constraints).remaining + 1) 0
    (Enumeration.start spec o.constraints) s = swept
  obtain ⟨t, e, failure | entries⟩ := swept <;> exact ⟨rfl, rfl⟩

/-- A sweep that fails does so at its last visit. -/
theorem exists_last_of_mapM_eq_error {failure : Failure}
    (h : (visitsOf w o index cs s).mapM (Visit.entry w o) = .error failure) :
    ∃ vs v, visitsOf w o index cs s = vs ++ [v] ∧ (∀ u ∈ vs, ∃ e, u.entry w o = .ok e) ∧
      v.entry w o = .error failure := by
  fun_induction visitsOf w o index cs s with
  | case1 => cases h
  | case2 => cases h
  | case3 index c cs s _ t failure' hattempt =>
    have hentry : Visit.entry w o ⟨s, index, c⟩ = .error failure' := congrArg Prod.snd hattempt
    rw [List.mapM_cons, hentry] at h
    obtain rfl := Except.error.inj h
    exact ⟨[], ⟨s, index, c⟩, rfl, fun _ hu => absurd hu List.not_mem_nil, hentry⟩
  | case4 index c cs s _ t e hattempt ih =>
    have hentry : Visit.entry w o ⟨s, index, c⟩ = .ok e := congrArg Prod.snd hattempt
    rw [List.mapM_cons, hentry] at h
    cases hrest : (visitsOf w o (index + 1) cs t).mapM (Visit.entry w o) with
    | ok entries => rw [hrest] at h; cases h
    | error failure' =>
      rw [hrest] at h
      obtain rfl := Except.error.inj h
      obtain ⟨vs, v, hvs, hentries, hv⟩ := ih hrest
      refine ⟨⟨s, index, c⟩ :: vs, v, by rw [hvs]; rfl, fun u hu => ?_, hv⟩
      rcases List.mem_cons.mp hu with rfl | hu
      · exact ⟨e, hentry⟩
      · exact hentries u hu

/-- A sweep that fails comes to combinations and records them, and then fails at one. -/
theorem exists_last_of_sweep_eq_error {spec : Spec} {t : Session σ} {failure : Failure}
    (h : s.sweep w o spec = (t, .error failure)) :
    ∃ vs v, visitsFor w o s (.sweep spec) = vs ++ [v] ∧ (∀ u ∈ vs, ∃ e, u.entry w o = .ok e) ∧
      attempt w o v.index v.params v.session = (t, .error failure) := by
  obtain ⟨hsession, hresult⟩ := sweep_eq_visits w o spec s
  rw [h] at hsession hresult
  obtain ⟨vs, v, hvs, hentries, hv⟩ := exists_last_of_mapM_eq_error hresult.symm
  refine ⟨vs, v, hvs, hentries, Prod.ext (hsession.trans ?_).symm hv⟩
  rw [visitsFor, hvs, afterVisits, List.getLast?_concat]
  rfl

/-- The entries of the report that a sweep leaves are those of its visits, one by one. -/
theorem forall₂_visits_of_sweep {spec : Spec} {t : Session σ} {report : Report}
    (h : s.sweep w o spec = (t, .ok report)) :
    List.Forall₂ (fun v e => v.entry w o = .ok e) (visitsFor w o s (.sweep spec))
      report.entries := by
  have hresult := (sweep_eq_visits w o spec s).2
  rw [h] at hresult
  exact Traversal.mapM_eq_ok_iff.mp hresult.symm

/-- An entry of the report that a sweep leaves is that of the visit at its position. -/
theorem exists_visit_of_sweep {spec : Spec} {t : Session σ} {report : Report}
    (h : s.sweep w o spec = (t, .ok report)) {i : Nat} {e : ReportEntry}
    (he : report.entries[i]? = some e) :
    ∃ v, (visitsFor w o s (.sweep spec))[i]? = some v ∧ v.entry w o = .ok e :=
  Traversal.exists_getElem?_of_forall₂ (forall₂_visits_of_sweep h).flip he

/-- A check of the report shows that there is one. -/
theorem exists_report {spec : Spec} {p : Report → Bool}
    (h : (s.sweep w o spec).2.toOption.any p = true) :
    ∃ t report, s.sweep w o spec = (t, .ok report) ∧ p report = true := by
  rcases hswept : s.sweep w o spec with ⟨t, failure | report⟩
  · rw [hswept] at h
    cases h
  · rw [hswept] at h
    exact ⟨t, report, rfl, h⟩

/-! ### What is known at a visit -/

/-- The visits come to the combinations in order, none being left out. -/
theorem getElem?_visitsOf {i : Nat} {v : Visit σ} (h : (visitsOf w o index cs s)[i]? = some v) :
    v.index = index + i ∧ cs[i]? = some v.params := by
  fun_induction visitsOf w o index cs s generalizing i with
  | case1 => cases h
  | case2 => cases h
  | case3 =>
    cases i with
    | zero =>
      obtain rfl := Option.some.inj h
      exact ⟨rfl, rfl⟩
    | succ => cases h
  | case4 index c cs s _ t e hattempt ih =>
    cases i with
    | zero =>
      obtain rfl := Option.some.inj h
      exact ⟨rfl, rfl⟩
    | succ i =>
      obtain ⟨hindex, hparams⟩ := ih h
      exact ⟨by omega, hparams⟩

theorem params_mem_of_mem_visitsOf {v : Visit σ} (h : v ∈ visitsOf w o index cs s) :
    v.params ∈ cs := by
  obtain ⟨i, hi⟩ := List.mem_iff_getElem?.mp h
  exact List.mem_of_getElem? (getElem?_visitsOf hi).2

/-- At a visit a session has launched what it had launched at first and what the visits before it
did. -/
theorem exists_launch_of_mem_runs {i : Nat} {v : Visit σ}
    (h : (visitsOf w o index cs s)[i]? = some v) {run : Run} (hrun : run ∈ v.session.runs) :
    run ∈ s.runs ∨ ∃ u ∈ (visitsOf w o index cs s).take i, u.Launches w o run := by
  fun_induction visitsOf w o index cs s generalizing i with
  | case1 => cases h
  | case2 => cases h
  | case3 =>
    cases i with
    | zero =>
      obtain rfl := Option.some.inj h
      exact .inl hrun
    | succ => cases h
  | case4 index c cs s _ t e hattempt ih =>
    cases i with
    | zero =>
      obtain rfl := Option.some.inj h
      exact .inl hrun
    | succ i =>
      rw [List.take_succ_cons]
      rcases ih h with hrun | ⟨u, hu, hlaunches⟩
      · have hattempted := attempted_attempt w o index c s
        rw [hattempt] at hattempted
        have hruns := hattempted.runs_of_ok
        rw [hruns, List.mem_append, Option.mem_toList] at hrun
        rcases hrun with hrun | hrun
        · exact .inl hrun
        · refine .inr ⟨⟨s, index, c⟩, List.mem_cons_self, ?_⟩
          have hafter : Visit.after w o ⟨s, index, c⟩ = t := congrArg Prod.fst hattempt
          rw [Visit.Launches, hafter, hruns, hrun]
          rfl
      · exact .inr ⟨u, List.mem_cons_of_mem _ hu, hlaunches⟩

theorem visitsOf_induction {P : Session σ → Prop}
    (hattempt : ∀ index c s, P s → P (attempt w o index c s).1) (hs : P s) :
    ∀ v ∈ visitsOf w o index cs s, P v.session := by
  intro v h
  fun_induction visitsOf w o index cs s with
  | case1 => exact absurd h List.not_mem_nil
  | case2 => exact absurd h List.not_mem_nil
  | case3 =>
    rw [List.mem_singleton.mp h]
    exact hs
  | case4 index c cs s _ t e heq ih =>
    rcases List.mem_cons.mp h with rfl | h
    · exact hs
    · refine ih ?_ h
      have ht := hattempt index c s hs
      rwa [heq] at ht

end Sweep

/-! ### What a world keeps of the visits -/

section Record

variable {α : Type} {w : World σ} {o : SweepOptions} {P : Visit σ → List α → Prop}
  (record : σ → List α)

/-- If each visit adds a piece to what the world keeps, then visits that follow each other add these
pieces, one after another. -/
theorem exists_pieces_of_visitsOf
    (h : ∀ v : Visit σ, ∃ new, P v new ∧
      record (v.after w o).world = record v.session.world ++ new)
    (index : Nat) (cs : List Combination) (s : Session σ) :
    ∃ pieces, List.Forall₂ P (visitsOf w o index cs s) pieces ∧
      record (afterVisits w o s (visitsOf w o index cs s)).world
        = record s.world ++ pieces.flatten := by
  fun_induction visitsOf w o index cs s with
  | case1 => exact ⟨[], .nil, (List.append_nil _).symm⟩
  | case2 => exact ⟨[], .nil, (List.append_nil _).symm⟩
  | case3 index c cs s =>
    obtain ⟨new, hnew, hworld⟩ := h ⟨s, index, c⟩
    refine ⟨[new], .cons hnew .nil, ?_⟩
    rw [List.flatten_singleton]
    exact hworld
  | case4 index c cs s _ t e hattempt ih =>
    obtain ⟨new, hnew, hworld⟩ := h ⟨s, index, c⟩
    obtain ⟨pieces, hpieces, hrest⟩ := ih
    have hafter : Visit.after w o ⟨s, index, c⟩ = t := congrArg Prod.fst hattempt
    refine ⟨new :: pieces, .cons hnew hpieces, ?_⟩
    rw [afterVisits_cons, hafter, hrest, List.flatten_cons, ← List.append_assoc, ← hafter]
    exact congrArg (· ++ pieces.flatten) hworld

/-- The visits to which a request leads add their pieces, and so does the request. -/
theorem exists_pieces_of_visitsFor
    (h : ∀ v : Visit σ, ∃ new, P v new ∧
      record (v.after w o).world = record v.session.world ++ new)
    (s : Session σ) (request : Request) :
    ∃ pieces, List.Forall₂ P (visitsFor w o s request) pieces ∧
      record (after w o s request).world = record s.world ++ pieces.flatten := by
  cases request with
  | sweep spec =>
    rw [after, (sweep_eq_visits w o spec s).1]
    exact exists_pieces_of_visitsOf record h 0 _ s
  | attempt index c =>
    obtain ⟨new, hnew, hworld⟩ := h ⟨s, index, c⟩
    refine ⟨[new], .cons hnew .nil, ?_⟩
    rw [List.flatten_singleton]
    exact hworld
  | cancel => exact ⟨[], .nil, (List.append_nil _).symm⟩

/-- The visits of a history add their pieces, one after another. -/
theorem exists_pieces_of_visits
    (h : ∀ v : Visit σ, ∃ new, P v new ∧
      record (v.after w o).world = record v.session.world ++ new)
    (requests : List Request) (s : Session σ) :
    ∃ pieces, List.Forall₂ P (visits w o s requests) pieces ∧
      record (history w o s requests).world = record s.world ++ pieces.flatten := by
  induction requests generalizing s with
  | nil => exact ⟨[], .nil, (List.append_nil _).symm⟩
  | cons request requests ih =>
    obtain ⟨first, hfirst, hworld⟩ := exists_pieces_of_visitsFor record h s request
    obtain ⟨rest, hrest, hhistory⟩ := ih (after w o s request)
    refine ⟨first ++ rest, List.rel_append hfirst hrest, ?_⟩
    rw [history, List.foldl_cons, ← history, hhistory, hworld, List.flatten_append,
      List.append_assoc]

end Record

/-- What coming to a combination and cancelling preserve holds at every visit of a history. -/
theorem visits_induction {w : World σ} {o : SweepOptions} {P : Session σ → Prop}
    (hattempt : ∀ index c s, P s → P (attempt w o index c s).1)
    (hcancel : ∀ s, P s → P s.cancel) (requests : List Request) {s : Session σ} (hs : P s) :
    ∀ v ∈ visits w o s requests, P v.session := by
  induction requests generalizing s with
  | nil => exact fun v hv => absurd hv List.not_mem_nil
  | cons request requests ih =>
    intro v hv
    rcases List.mem_append.mp hv with hv | hv
    · cases request with
      | sweep spec => exact visitsOf_induction hattempt hs v hv
      | attempt index c => exact List.mem_singleton.mp hv ▸ hs
      | cancel => exact absurd hv List.not_mem_nil
    · exact ih (history_induction hattempt hcancel [request] hs) v hv

end Session

end TierSweep
