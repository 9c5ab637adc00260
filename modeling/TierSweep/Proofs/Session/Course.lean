import Mathlib.Data.List.Forall2
import TierSweep.Proofs.Enumeration.Draws
import TierSweep.Proofs.Session.Verdict

/-!
# The course of a sweep

A sweep comes to the combinations that its enumeration gives out, one after another, until it is
cancelled or the directory for results cannot be made (`Session.Course`). The verdicts on them form
a list that depends on the combinations and on what was launched before, but not on the world
(`Session.judgements`). As far as a sweep comes, its entries record these judgements in order, it
asks of the world what they ask, and it remembers what they remember (`Session.Course.recorded`).

## Main definitions

* `Judgement`, `Session.judgements` — what is made of combinations that are come to in order.
* `Session.Course` — what can become of a session that comes to them.

## Main results

* `Session.course_sweep` — a sweep takes such a course over the combinations of a specification.
* `Session.Course.recorded`, `Session.Course.recorded_of_obliging`, `Session.Course.failure_eq`.
-/

namespace TierSweep

/-- What is made of the combination at a position. -/
structure Judgement where
  index : Nat
  params : Combination
  verdict : Verdict
  deriving DecidableEq

/-- An entry that records a judgement. -/
def Judgement.Recorded (j : Judgement) (e : ReportEntry) : Prop :=
  j.verdict.Records j.index j.params e

/-- A world in which the directory for results can be made and that never cancels. -/
structure World.Obliging {σ : Type} (w : World σ) (o : SweepOptions) : Prop where
  makes : ∀ a, (w.makeDirectories o.experiment.directory a).2 = none
  continues : ∀ i b a, (w.launch i b a).2.cancels = false

namespace Session

open Enumeration (Draws)

/-- The judgements on combinations that are come to one after another. -/
def judgements (o : SweepOptions) :
    Nat → List (String × List String) → List Combination → List Judgement
  | _, _, [] => []
  | index, launched, c :: cs =>
    ⟨index, c, verdict o launched c⟩
      :: judgements o (index + 1) ((verdict o launched c).remember launched) cs

/-- What is known to be launched after some judgements. -/
def remembered (launched : List (String × List String)) (js : List Judgement) :
    List (String × List String) :=
  js.foldl (fun launched j => j.verdict.remember launched) launched

theorem length_judgements (o : SweepOptions) (index : Nat) (launched : List (String × List String))
    (cs : List Combination) : (judgements o index launched cs).length = cs.length := by
  induction cs generalizing index launched with
  | nil => rfl
  | cons c cs ih => rw [judgements, List.length_cons, ih, List.length_cons]

variable {σ : Type}

/-- What can become of a session that comes to some combinations, one after another. -/
inductive Course (w : World σ) (o : SweepOptions) :
    Nat → List Combination → Session σ → Session σ → Except Failure (List ReportEntry) → Prop
  /-- No combination is left. -/
  | finished {index : Nat} {s : Session σ} : Course w o index [] s s (.ok [])
  /-- The session is cancelled before the next combination. -/
  | cancelled {index : Nat} {cs : List Combination} {s : Session σ} (h : s.cancelled = true) :
      Course w o index cs s s (.ok [])
  /-- The session itself fails. -/
  | broken {index : Nat} {c : Combination} {cs : List Combination} {s t : Session σ}
      {failure : Failure} (h : s.cancelled = false)
      (hattempt : Attempted w o index c s (t, .error failure)) :
      Course w o index (c :: cs) s t (.error failure)
  /-- The next combination is recorded. -/
  | entered {index : Nat} {c : Combination} {cs : List Combination} {s t u : Session σ}
      {e : ReportEntry} {result : Except Failure (List ReportEntry)} (h : s.cancelled = false)
      (hattempt : Attempted w o index c s (t, .ok e))
      (hrest : Course w o (index + 1) cs t u result) :
      Course w o index (c :: cs) s u (result.map (e :: ·))

/-! ### Sweeps take such a course -/

/-- The further combinations of an enumeration are come to in the order in which they are drawn. -/
theorem course_sweepWithin (w : World σ) (o : SweepOptions) {e e' : Enumeration}
    {cs : List Combination} (h : Draws e cs e') {fuel : Nat} (hfuel : cs.length < fuel)
    (index : Nat) (s : Session σ) :
    Course w o index cs s (sweepWithin w o fuel index e s).1
      (sweepWithin w o fuel index e s).2.2 := by
  obtain ⟨fuel, rfl⟩ : ∃ n, fuel = n + 1 := Nat.exists_eq_succ_of_ne_zero (by omega)
  induction h generalizing fuel index s with
  | nothing h =>
    rw [sweepWithin, h]
    exact .finished
  | @more e e₁ e' c cs h hrest ih =>
    rw [List.length_cons] at hfuel
    unfold sweepWithin
    rw [h]
    cases hcancelled : s.cancelled with
    | true => exact .cancelled hcancelled
    | false =>
      have hattempted := attempted_attempt w o index c s
      simp only [Bool.false_eq_true, if_false]
      generalize attempt w o index c s = attempted at hattempted ⊢
      obtain ⟨t, failure | entry⟩ := attempted
      · exact .broken hcancelled hattempted
      · obtain ⟨fuel, rfl⟩ : ∃ n, fuel = n + 1 := Nat.exists_eq_succ_of_ne_zero (by omega)
        have hcourse := Course.entered hcancelled hattempted (ih (index + 1) t fuel (by omega))
        simp only
        generalize sweepWithin w o (fuel + 1) (index + 1) e₁ t = swept at hcourse ⊢
        obtain ⟨u, e₂, failure | entries⟩ := swept <;> exact hcourse

/-- A sweep comes to the combinations of the product that the constraints accept, in order. -/
theorem course_sweep (w : World σ) (o : SweepOptions) (spec : Spec) (s : Session σ) :
    Course w o 0 (spec.product.filter o.constraints.accepts) s (s.sweep w o spec).1
      ((s.sweep w o spec).2.map Report.entries) := by
  have hcourse := course_sweepWithin w o (Enumeration.draws_start spec o.constraints)
    (Nat.lt_add_one_of_le (Enumeration.length_filter_product_le spec o.constraints)) 0 s
  simp only [sweep]
  generalize sweepWithin w o ((Enumeration.start spec o.constraints).remaining + 1) 0
    (Enumeration.start spec o.constraints) s = swept at hcourse ⊢
  obtain ⟨t, e, failure | entries⟩ := swept <;> exact hcourse

/-! ### What is recorded, asked and remembered -/

namespace Course

variable {w : World σ} {o : SweepOptions} {index : Nat} {cs : List Combination} {s t : Session σ}

/-- As far as a session comes without failing, it records the judgements on the combinations, asks
what they ask and remembers what they remember; it stops early only when it is cancelled. -/
theorem recorded {entries : List ReportEntry} (h : Course w o index cs s t (.ok entries)) :
    ∃ done rest, judgements o index s.launched cs = done ++ rest ∧
      List.Forall₂ Judgement.Recorded done entries ∧
      t.effects = s.effects ++ done.flatMap (·.verdict.asked o false) ∧
      t.launched = remembered s.launched done ∧ (rest ≠ [] → t.cancelled = true) := by
  generalize hresult : (Except.ok entries : Except Failure (List ReportEntry)) = result at h
  induction h generalizing entries with
  | finished =>
    obtain rfl := Except.ok.inj hresult
    exact ⟨[], [], rfl, .nil, (List.append_nil _).symm, rfl, fun h => absurd rfl h⟩
  | cancelled h =>
    obtain rfl := Except.ok.inj hresult
    exact ⟨[], _, rfl, .nil, (List.append_nil _).symm, rfl, fun _ => h⟩
  | broken => cases hresult
  | @entered index c cs s t u e result h hattempt _ ih =>
    cases result with
    | error failure => cases hresult
    | ok entries' =>
      obtain rfl := Except.ok.inj hresult
      obtain ⟨done, rest, hjudgements, hrecorded, heffects, hlaunched, hrest⟩ := ih rfl
      -- the first judgement is made, whether or not it led to a launch
      obtain ⟨hrecords, hasked, hremember⟩ := hattempt.of_ok
      rw [h] at hasked
      refine ⟨⟨index, c, verdict o s.launched c⟩ :: done, rest, ?_,
        .cons hrecords hrecorded, ?_, ?_, hrest⟩
      · rw [judgements, ← hremember, hjudgements, List.cons_append]
      · rw [heffects, hasked, List.flatMap_cons, List.append_assoc]
      · rw [hlaunched, hremember]
        rfl

/-- A session fails only because the directory for results cannot be made. -/
theorem failure_eq {failure : Failure} (h : Course w o index cs s t (.error failure)) :
    ∃ fault, failure = .resultDirectory o.experiment.directory fault := by
  generalize hresult : (Except.error failure : Except Failure (List ReportEntry)) = result at h
  induction h with
  | finished => cases hresult
  | cancelled => cases hresult
  | broken _ hattempt =>
    obtain rfl := Except.error.inj hresult
    exact hattempt.of_error.2.1
  | @entered _ _ _ _ _ _ _ result _ _ _ ih =>
    cases result with
    | error => exact ih (congrArg Except.error (Except.error.inj hresult))
    | ok => cases hresult

/-- In an obliging world a session comes to all combinations. -/
theorem complete {result : Except Failure (List ReportEntry)} (hw : w.Obliging o)
    (h : Course w o index cs s t result) (hs : s.cancelled = false) :
    (∃ entries, result = .ok entries) ∧ t.cancelled = false := by
  induction h with
  | finished => exact ⟨⟨[], rfl⟩, hs⟩
  | cancelled h => exact absurd (h.symm.trans hs) Bool.noConfusion
  | broken _ hattempt =>
    cases hattempt with
    | homeless _ hroom => exact absurd ((congrArg Prod.snd hroom).symm.trans (hw.makes _)) nofun
  | @entered _ _ _ s t _ _ _ _ hattempt _ ih =>
    have ht : t.cancelled = false := by
      cases hattempt with
      | recorded => exact hs
      | @launched run room _ _ _ _ _ hlaunch =>
        have hcontinues := hw.continues run.invocation (o.bounds run.setup s.cancelled) room
        rw [hlaunch] at hcontinues
        exact Bool.or_eq_false_iff.mpr ⟨hs, hcontinues⟩
    obtain ⟨⟨entries, hentries⟩, hu⟩ := ih ht
    exact ⟨⟨_, congrArg (Except.map _) hentries⟩, hu⟩

/-- In an obliging world a session that comes to some combinations records all judgements on them,
asks what they ask and remembers what they remember. -/
theorem recorded_of_obliging {result : Except Failure (List ReportEntry)} (hw : w.Obliging o)
    (h : Course w o index cs s t result) (hs : s.cancelled = false) :
    ∃ entries, result = .ok entries ∧
      List.Forall₂ Judgement.Recorded (judgements o index s.launched cs) entries ∧
      t.effects
        = s.effects ++ (judgements o index s.launched cs).flatMap (·.verdict.asked o false) ∧
      t.launched = remembered s.launched (judgements o index s.launched cs) := by
  obtain ⟨⟨entries, rfl⟩, ht⟩ := h.complete hw hs
  obtain ⟨done, rest, hjudgements, hrecorded, heffects, hlaunched, hrest⟩ := h.recorded
  have hnil : rest = [] := by
    by_contra hne
    exact absurd ((hrest hne).symm.trans ht) Bool.noConfusion
  have hdone : judgements o index s.launched cs = done := by rw [hjudgements, hnil, List.append_nil]
  rw [hdone]
  exact ⟨entries, rfl, hrecorded, heffects, hlaunched⟩

end Course

end Session

end TierSweep
