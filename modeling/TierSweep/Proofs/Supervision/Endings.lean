import TierSweep.Launcher
import TierSweep.Proofs.Time.Rounding

/-!
# How a wait ends

A supervisor waits until a look gives it a reason to stop: the benchmark has ended, the sweep is
cancelled, or a time limit is reached (`Supervision.EndsWait`). What it then does and reports
depends on that look only, and where there are several reasons the first of these three counts
(`Supervision.EndsAs`). The looks may be any at all. The machine supervises a process in this way:
between two looks it lets its processes go on, and it does to the process what the supervisor does
(`Machine.attend_eq_watch`).

The milliseconds after which a benchmark is stopped are counted in sixty-four bits. They hold more
than five hundred million years. Up to there the count is at least that of the limit, and from there
on it starts again from zero (`Supervision.stopped_after_zero`).

## Main definitions

* `Supervision.EndsWait`, `Supervision.EndsAs`.
* `Machine.looks` — what the looks at a process of a machine show.

## Main results

* `Supervision.endsAs_judge`, `Supervision.watch_of_first`, `Supervision.watch_of_none`.
* `Machine.pairwise_elapsed_looks`, `Machine.attend_eq_watch`.
* `Supervision.watch_ends`.
-/

namespace TierSweep

namespace Supervision

variable {timeout? : Option Duration} {looks before after : List Observation} {o : Observation}

/-- A look gives a reason to stop waiting. -/
def EndsWait (timeout? : Option Duration) (o : Observation) : Prop :=
  o.exit? ≠ none ∨ o.cancelled = true ∨
    ∃ limit, timeout? = some limit ∧ limit.nanos ≤ o.elapsed.nanos

/-- What a look at which the wait ends leads to, and what is done to the benchmark. A benchmark that
has ended is left alone, and one that has not is killed and collected. -/
inductive EndsAs (timeout? : Option Duration) (o : Observation) :
    Outcome → List SupervisorAction → Prop
  | success (h : o.exit? = some (.exited 0)) : EndsAs timeout? o .success []
  | failure {code : Int32} (h : o.exit? = some (.exited code)) (hcode : code ≠ 0) :
      EndsAs timeout? o (.failure (some code)) []
  | signalled (h : o.exit? = some .signalled) : EndsAs timeout? o (.failure none) []
  | cancelled (hrunning : o.exit? = none) (h : o.cancelled = true) :
      EndsAs timeout? o .cancelled [.kill, .reap]
  | timedOut {limit : Duration} {afterMillis : UInt64} (hrunning : o.exit? = none)
      (hwanted : o.cancelled = false) (hlimit : timeout? = some limit)
      (h : limit.nanos ≤ o.elapsed.nanos)
      (hafter : afterMillis.toNat = o.elapsed.millis % twoTo 64) :
      EndsAs timeout? o (.timedOut afterMillis) [.kill, .reap]

/-! ### One look -/

theorem isOver_iff {elapsed : Duration} :
    isOver timeout? elapsed = true ↔
      ∃ limit, timeout? = some limit ∧ limit.nanos ≤ elapsed.nanos := by
  cases timeout? with
  | none => exact iff_of_false Bool.false_ne_true fun ⟨_, h, _⟩ => nomatch h
  | some limit =>
    rw [isOver, decide_eq_true_iff]
    exact ⟨fun h => ⟨limit, rfl, h⟩, fun ⟨_, hlimit, h⟩ => Option.some.inj hlimit ▸ h⟩

/-- Without a reason a look leads to nothing. -/
theorem judge_eq_none_iff : judge timeout? o = none ↔ ¬EndsWait timeout? o := by
  rw [EndsWait, ← isOver_iff, judge]
  cases o.exit? with
  | some status => simp
  | none => cases o.cancelled <;> cases isOver timeout? o.elapsed <;> simp

/-- What a look with a reason leads to. -/
theorem endsAs_judge {outcome : Outcome} (h : judge timeout? o = some outcome) :
    EndsAs timeout? o outcome (closing o) := by
  rw [judge] at h
  cases hexit : o.exit? with
  | some status =>
    have hclosing : closing o = [] := by rw [closing, hexit]; rfl
    rw [hexit] at h
    rw [hclosing]
    obtain rfl := Option.some.inj h
    cases status with
    | signalled => exact .signalled hexit
    | exited code =>
      rw [Outcome.ofStatus]
      split
      · next hcode => exact .success (hcode ▸ hexit)
      · next hcode => exact .failure hexit hcode
  | none =>
    have hclosing : closing o = [.kill, .reap] := by rw [closing, hexit]; rfl
    rw [hexit] at h
    rw [hclosing]
    simp only at h
    split_ifs at h with hcancelled hover
    · obtain rfl := Option.some.inj h
      exact .cancelled hexit hcancelled
    · obtain ⟨limit, hlimit, hle⟩ := isOver_iff.mp hover
      obtain rfl := Option.some.inj h
      exact .timedOut hexit (Bool.eq_false_iff.mpr hcancelled) hlimit hle o.elapsed.toNat_millis64

/-- A reason to stop waiting leads to one of the endings. -/
theorem exists_endsAs (h : EndsWait timeout? o) :
    ∃ outcome closing, EndsAs timeout? o outcome closing := by
  cases hjudge : judge timeout? o with
  | none => exact absurd h (judge_eq_none_iff.mp hjudge)
  | some outcome => exact ⟨outcome, _, endsAs_judge hjudge⟩

/-- A look leads to one thing only. -/
theorem EndsAs.judge_eq {outcome : Outcome} {actions : List SupervisorAction}
    (h : EndsAs timeout? o outcome actions) :
    judge timeout? o = some outcome ∧ closing o = actions := by
  cases h with
  | success h => simp [judge, closing, h, Outcome.ofStatus]
  | failure h hcode => simp [judge, closing, h, Outcome.ofStatus, hcode]
  | signalled h => simp [judge, closing, h, Outcome.ofStatus]
  | cancelled hrunning h => simp [judge, closing, hrunning, h]
  | @timedOut limit afterMillis hrunning hwanted hlimit h hafter =>
    have hover : isOver timeout? o.elapsed = true := isOver_iff.mpr ⟨limit, hlimit, h⟩
    have hmillis : o.elapsed.millis64 = afterMillis :=
      UInt64.toNat_inj.mp (o.elapsed.toNat_millis64.trans hafter.symm)
    simp [judge, closing, hrunning, hwanted, hover, hmillis]

/-! ### A sequence of looks -/

/-- The first of some looks that gives a reason. -/
theorem exists_first (h : ¬∀ o ∈ looks, ¬EndsWait timeout? o) :
    ∃ before o after, looks = before ++ o :: after ∧ (∀ o' ∈ before, ¬EndsWait timeout? o') ∧
      EndsWait timeout? o := by
  classical
  induction looks with
  | nil => exact absurd (fun _ ho => absurd ho List.not_mem_nil) h
  | cons o looks ih =>
    by_cases ho : EndsWait timeout? o
    · exact ⟨[], o, looks, rfl, fun _ ho' => absurd ho' List.not_mem_nil, ho⟩
    · obtain ⟨before, o', after, rfl, hbefore, ho'⟩ :=
        ih fun hlooks => h (List.forall_mem_cons.mpr ⟨ho, hlooks⟩)
      exact ⟨o :: before, o', after, rfl, List.forall_mem_cons.mpr ⟨ho, hbefore⟩, ho'⟩

/-- Looks without a reason are followed by others. -/
theorem watch_append (looks : List Observation) (h : ∀ o ∈ before, ¬EndsWait timeout? o) :
    watch timeout? (before ++ looks) =
      (List.replicate before.length .pause ++ (watch timeout? looks).1,
        (watch timeout? looks).2) := by
  induction before with
  | nil => rfl
  | cons o before ih =>
    obtain ⟨ho, hbefore⟩ := List.forall_mem_cons.mp h
    rw [List.cons_append, watch, judge_eq_none_iff.mpr ho, ih hbefore]
    rfl

theorem watch_of_none (h : ∀ o ∈ looks, ¬EndsWait timeout? o) :
    watch timeout? looks = (List.replicate looks.length .pause, none) := by
  have hwatch := watch_append [] h
  rwa [List.append_nil, watch, List.append_nil] at hwatch

/-- The first look with a reason ends the wait, whatever others would follow it. -/
theorem watch_of_first {outcome : Outcome} {actions : List SupervisorAction}
    (hbefore : ∀ o ∈ before, ¬EndsWait timeout? o) (ho : EndsAs timeout? o outcome actions) :
    watch timeout? (before ++ o :: after) =
      (List.replicate before.length .pause ++ actions, some outcome) := by
  obtain ⟨hjudge, hclosing⟩ := ho.judge_eq
  rw [watch_append _ hbefore, watch, hjudge, hclosing]

/-- Only a benchmark that has not ended by itself is killed and collected, each once. -/
theorem EndsAs.count_eq {outcome : Outcome} {actions : List SupervisorAction}
    (h : EndsAs timeout? o outcome actions) :
    actions.count .kill = (if o.exit? = none then 1 else 0) ∧
      actions.count .reap = (if o.exit? = none then 1 else 0) := by
  cases h with
  | success h => simp [h]
  | failure h _ => simp [h]
  | signalled h => simp [h]
  | cancelled hrunning _ => simp [hrunning]
  | timedOut hrunning _ _ _ _ => simp [hrunning]

/-- What is reported of a benchmark that is stopped for its time limit. -/
theorem EndsAs.limit_le {afterMillis : UInt64} {actions : List SupervisorAction}
    (h : EndsAs timeout? o (.timedOut afterMillis) actions) :
    ∃ limit, timeout? = some limit ∧ limit.millis ≤ o.elapsed.millis ∧
      afterMillis.toNat = o.elapsed.millis % twoTo 64 := by
  cases h with
  | timedOut _ _ hlimit h hafter => exact ⟨_, hlimit, Nat.div_le_div_right h, hafter⟩

end Supervision

namespace Machine

open Supervision

variable (b : LaunchBounds) (since : Duration) (id : Nat)

/-- What so many looks at a process show while it is waited for. -/
def looks : Nat → Machine → List Observation
  | 0, _ => []
  | n + 1, m => m.look b since id :: looks n (m.goOnToLook b since id)

/-- The processes go on until the time that is given. -/
theorem clock_goOn (programs : Programs) (time : Duration) (wakes : Nat) (m : Machine) :
    (m.goOn programs time wakes).clock = time := by
  induction wakes generalizing m with
  | zero => rfl
  | succ wakes ih =>
    rw [goOn]
    split
    · rfl
    · split
      · split
        · exact ih _
        · rfl
      · rfl

/-- The clock does not go back from one look to the next. -/
theorem clock_le_goOnToLook (m : Machine) :
    m.clock.nanos ≤ (m.goOnToLook b since id).clock.nanos := by
  have hle (first : Duration) (n : Nat) :
      first.nanos ≤ (Duration.ofNanos (first.nanos + n)).nanos := by
    rw [Duration.nanos_ofNanos]
    exact le_min (Nat.le_add_right _ _) first.nanos_le_max
  have hinterval := hle m.clock (interval b)
  rw [goOnToLook]
  split
  · next wake _ _ =>
    split
    · rw [clock_goOn, lookAfter]
      refine hinterval.trans ?_
      rw [clock_goOn]
      exact hle _ _
    · rwa [clock_goOn]
  · rwa [clock_goOn]

theorem elapsed_le_of_mem_looks {n : Nat} {m m' : Machine} (hm : m.clock.nanos ≤ m'.clock.nanos) :
    ∀ o ∈ looks b since id n m', (m.look b since id).elapsed.nanos ≤ o.elapsed.nanos := by
  induction n generalizing m' with
  | zero => exact fun _ ho => absurd ho List.not_mem_nil
  | succ n ih =>
    refine List.forall_mem_cons.mpr ⟨?_, ih (hm.trans (clock_le_goOnToLook b since id m'))⟩
    simp only [look, Duration.nanos_since]
    omega

/-- The time that has passed does not decrease from look to look. -/
theorem pairwise_elapsed_looks (n : Nat) (m : Machine) :
    (looks b since id n m).Pairwise fun o o' => o.elapsed.nanos ≤ o'.elapsed.nanos := by
  induction n generalizing m with
  | zero => exact .nil
  | succ n ih =>
    exact .cons (elapsed_le_of_mem_looks b since id (clock_le_goOnToLook b since id m)) (ih _)

/-- A process is supervised by doing what the looks at it ask for. -/
theorem attend_eq_watch (n : Nat) (m : Machine) :
    attend b since id n m =
      ((watch b.time? (looks b since id n m)).1.foldl (perform b since id) m,
        (watch b.time? (looks b since id n m)).2) := by
  induction n generalizing m with
  | zero => rfl
  | succ n ih =>
    rw [attend, looks, watch]
    cases hjudge : judge b.time? (m.look b since id) with
    | some outcome => simp
    | none =>
      simp only [ih]
      rfl

end Machine

namespace Supervision

/-- **How a wait ends.** Whatever the looks show, the wait goes on as long as none of them gives a
reason to stop, and it ends at the first one that does. What this look shows tells the outcome: that
the benchmark has ended by itself, with its code, before a cancellation, and a cancellation before
the time limit. A benchmark that has not ended by itself is killed and collected once, and no other
one is. A time limit that is reported was given, and the milliseconds reported, which are counted in
sixty-four bits, are at least those of the limit as long as the bits hold those that have passed.

The machine supervises its processes in this way, and the time that its looks show does not
decrease. -/
theorem watch_ends (timeout? : Option Duration) (looks : List Observation) :
    ((∀ o ∈ looks, ¬EndsWait timeout? o) ∧
        watch timeout? looks = (List.replicate looks.length .pause, none) ∨
      ∃ before o after outcome closing, looks = before ++ o :: after ∧
        (∀ o' ∈ before, ¬EndsWait timeout? o') ∧ EndsWait timeout? o ∧
        EndsAs timeout? o outcome closing ∧
        watch timeout? looks = (List.replicate before.length .pause ++ closing, some outcome) ∧
        closing.count .kill = (if o.exit? = none then 1 else 0) ∧
        closing.count .reap = (if o.exit? = none then 1 else 0) ∧
        ∀ afterMillis, outcome = .timedOut afterMillis → ∃ limit, timeout? = some limit ∧
          limit.millis ≤ o.elapsed.millis ∧ afterMillis.toNat = o.elapsed.millis % twoTo 64 ∧
          (o.elapsed.millis < twoTo 64 → limit.millis ≤ afterMillis.toNat)) ∧
    ∀ b since id n m,
      (Machine.looks b since id n m).Pairwise (fun o o' => o.elapsed.nanos ≤ o'.elapsed.nanos) ∧
      Machine.attend b since id n m =
        ((watch b.time? (Machine.looks b since id n m)).1.foldl (Machine.perform b since id) m,
          (watch b.time? (Machine.looks b since id n m)).2) := by
  refine ⟨?_, fun b since id n m => ⟨Machine.pairwise_elapsed_looks b since id n m,
    Machine.attend_eq_watch b since id n m⟩⟩
  by_cases hnone : ∀ o ∈ looks, ¬EndsWait timeout? o
  · exact .inl ⟨hnone, watch_of_none hnone⟩
  · obtain ⟨before, o, after, rfl, hbefore, ho⟩ := exists_first hnone
    obtain ⟨outcome, closing, hends⟩ := exists_endsAs ho
    obtain ⟨hkill, hreap⟩ := hends.count_eq
    refine .inr ⟨before, o, after, outcome, closing, rfl, hbefore, ho, hends,
      watch_of_first hbefore hends, hkill, hreap, ?_⟩
    rintro afterMillis rfl
    obtain ⟨limit, hlimit, hle, hafter⟩ := hends.limit_le
    refine ⟨limit, hlimit, hle, hafter, fun hfits => ?_⟩
    rwa [hafter, Nat.mod_eq_of_lt hfits]

/-- A time limit of `2 ^ 64` milliseconds is one that the bits do not hold. A benchmark that reaches
it exactly is stopped, and zero milliseconds are reported. -/
theorem stopped_after_zero :
    watch (some (.ofMillis (twoTo 64))) [⟨none, false, .ofMillis (twoTo 64)⟩] =
        ([.kill, .reap], some (.timedOut 0)) ∧
      (Duration.ofMillis (twoTo 64)).millis = twoTo 64 ∧
      ¬(Duration.ofMillis (twoTo 64)).millis ≤ (0 : UInt64).toNat := by
  decide +kernel

/-- A benchmark that has ended when it is also cancelled and out of time is reported with its code.
-/
example :
    watch (some (.ofMillis 5))
        [⟨none, false, .ofMillis 2⟩, ⟨some (.exited 3), true, .ofMillis 7⟩,
          ⟨none, true, .ofMillis 9⟩] =
      ([.pause], some (.failure (some 3))) := by
  decide

end Supervision

end TierSweep
