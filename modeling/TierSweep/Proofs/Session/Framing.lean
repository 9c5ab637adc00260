import TierSweep.Proofs.Session.Cancellation
import TierSweep.Proofs.Session.Memory

/-!
# Directories and launches

A session asks for the directory for results only when it is about to launch a run. What it
exchanges with the world therefore consists of pairs, a directory that could be made and at once a
launch, and of single directories that could not be made (`Exchange.Framed`). Each piece belongs to
one visit: the pairs to the visits whose runs are launched, the single ones to those at which the
session fails (`Visit.Exchanges.fails_iff`), and nothing is asked at all others
(`Visit.exchanges_eq_nil_iff`). In a sweep a visit that fails is the last one, so nothing is asked
after a directory that could not be made. A sweep that comes to no combination that is to be
launched leaves the world as it is (`Session.world_sweep_eq_iff`).

## Main definitions

* `Exchange.fails` — the directories that could not be made.
* `Exchange.Framed` — exchanges in which directories and launches go together.
* `Session.Settled` — combinations for which nothing is left to launch.

## Main results

* `Exchange.Framed.exists_directory`.
* `Session.world_sweep_eq_iff`.
* `Session.directories_frame_launches`.
-/

namespace TierSweep

/-! ### Exchanges that go together -/

namespace Exchange

/-- A directory could not be made. -/
def fails : Exchange → Bool
  | directory _ made => !made
  | launch _ _ _ => false

/-- Exchanges that consist of pairs, a directory that could be made and a launch, and of single
directories that could not be made. -/
inductive Framed (p : Path) : List Exchange → Prop
  | nil : Framed p []
  | launched {i : Invocation} {b : LaunchBounds} {cancels : Bool} {rest : List Exchange}
      (hrest : Framed p rest) : Framed p (.directory p true :: .launch i b cancels :: rest)
  | homeless {rest : List Exchange} (hrest : Framed p rest) :
      Framed p (.directory p false :: rest)

namespace Framed

variable {p : Path} {before later : List Exchange}

theorem append {xs ys : List Exchange} (hxs : Framed p xs) (hys : Framed p ys) :
    Framed p (xs ++ ys) := by
  induction hxs with
  | nil => exact hys
  | launched _ ih => exact .launched ih
  | homeless _ ih => exact .homeless ih

theorem flatten {pieces : List (List Exchange)} (h : ∀ piece ∈ pieces, Framed p piece) :
    Framed p pieces.flatten := by
  induction pieces with
  | nil => exact .nil
  | cons piece pieces ih =>
    obtain ⟨hpiece, hpieces⟩ := List.forall_mem_cons.mp h
    exact hpiece.append (ih hpieces)

/-- Right before a launch a directory was made. -/
theorem exists_directory {i : Invocation} {b : LaunchBounds} {cancels : Bool}
    (h : Framed p (before ++ .launch i b cancels :: later)) :
    ∃ earlier, before = earlier ++ [.directory p true] := by
  generalize hlog : before ++ .launch i b cancels :: later = log at h
  induction h generalizing before with
  | nil => simp at hlog
  | launched hrest ih =>
    rcases before with _ | ⟨x, _ | ⟨y, before⟩⟩
    · simp at hlog
    · simp only [List.cons_append, List.nil_append, List.cons.injEq] at hlog
      exact ⟨[], by rw [hlog.1]; rfl⟩
    · simp only [List.cons_append, List.cons.injEq] at hlog
      obtain ⟨rfl, rfl, hlog⟩ := hlog
      obtain ⟨earlier, rfl⟩ := ih hlog
      exact ⟨_ :: _ :: earlier, rfl⟩
  | homeless hrest ih =>
    rcases before with _ | ⟨x, before⟩
    · simp at hlog
    · simp only [List.cons_append, List.cons.injEq] at hlog
      obtain ⟨rfl, hlog⟩ := hlog
      obtain ⟨earlier, rfl⟩ := ih hlog
      exact ⟨_ :: earlier, rfl⟩

end Framed

end Exchange

variable {σ : Type} {w : World σ} {o : SweepOptions}

/-! ### The exchanges of a visit -/

namespace Visit

variable {v : Visit (σ × List Exchange)} {new : List Exchange}

open Session (verdict)

theorem Exchanges.framed (h : v.Exchanges w o new) :
    Exchange.Framed o.experiment.directory new := by
  cases h with
  | silent => exact .nil
  | homeless => exact .homeless .nil
  | launched => exact .launched .nil

/-- A directory cannot be made exactly when the session fails, and nothing else is asked then. -/
theorem Exchanges.fails_iff (h : v.Exchanges w o new) :
    (new.any Exchange.fails = true ↔ ∃ failure, v.entry w.observed o = .error failure) ∧
      (new = [.directory o.experiment.directory false]
        ↔ ∃ failure, v.entry w.observed o = .error failure) := by
  cases h with
  | silent hentry => simp [hentry]
  | homeless hentry => simp [hentry, Exchange.fails]
  | launched hrun hentry => simp [hentry, Exchange.fails]

/-- Nothing is asked at a visit exactly when nothing is to be launched. -/
theorem exchanges_eq_nil_iff (hworld : (v.after w.observed o).world.2 = v.session.world.2 ++ new) :
    new = [] ↔ (verdict o v.session.launched v.params).launches? = none := by
  have hattempted := v.attempted w.observed o
  generalize v.after w.observed o = t at hattempted hworld
  generalize v.entry w.observed o = result at hattempted
  cases hattempted with
  | recorded hnone => exact iff_of_true (List.self_eq_append_right.mp hworld) hnone
  | @homeless run world fault hfresh hroom =>
    have hkept : v.session.world.2 ++ [_] = world.2 := congrArg (·.1.2) hroom
    obtain rfl := List.append_cancel_left (hkept.trans hworld)
    simp [hfresh, Verdict.launches?]
  | @launched run room world answer elapsed hfresh hroom hlaunch =>
    have hroomKept : v.session.world.2 ++ [_] = room.2 := congrArg (·.1.2) hroom
    have hkept : room.2 ++ [_] = world.2 := congrArg (·.1.2) hlaunch
    rw [← hroomKept, List.append_assoc] at hkept
    obtain rfl := List.append_cancel_left (hkept.trans hworld)
    simp [hfresh, Verdict.launches?]

/-- What is exchanged at a visit, and when it is nothing. -/
theorem exists_exchanges_eq_nil_iff (v : Visit (σ × List Exchange)) :
    ∃ new, (v.Exchanges w o new ∧
        (new = [] ↔ (verdict o v.session.launched v.params).launches? = none)) ∧
      (v.after w.observed o).world.2 = v.session.world.2 ++ new := by
  obtain ⟨new, hexchanges, hworld⟩ := v.exists_exchanges (w := w) (o := o)
  exact ⟨new, ⟨hexchanges, exchanges_eq_nil_iff hworld⟩, hworld⟩

end Visit

namespace Session

variable {s : Session (σ × List Exchange)}

/-! ### Sweeps that fail -/

/-- The exchanges of visits that follow each other contain a directory that could not be made
exactly when one of the visits fails. -/
theorem any_fails_flatten_iff {vs : List (Visit (σ × List Exchange))}
    {pieces : List (List Exchange)} (h : List.Forall₂ (Visit.Exchanges w o) vs pieces) :
    pieces.flatten.any Exchange.fails = true
      ↔ ∃ v ∈ vs, ∃ failure, v.entry w.observed o = .error failure := by
  induction h with
  | nil => simp
  | cons hexchanges _ ih =>
    rw [List.flatten_cons, List.any_append, Bool.or_eq_true, hexchanges.fails_iff.1, ih]
    simp

/-- A sweep that fails ends with the directory that could not be made; all others could be made. -/
theorem exists_last_exchange {spec : Spec} {failure : Failure} {new : List Exchange}
    (h : (s.sweep w.observed o spec).2 = .error failure)
    (hnew : (s.sweep w.observed o spec).1.world.2 = s.world.2 ++ new) :
    ∃ old, new = old ++ [.directory o.experiment.directory false] ∧
      old.any Exchange.fails = false := by
  obtain ⟨vs, v, hvs, hentries, hv⟩ := exists_last_of_sweep_eq_error (Prod.ext rfl h)
  obtain ⟨pieces, hpieces, hworld⟩ := exists_exchanges_of_sweep w o spec s
  obtain rfl := List.append_cancel_left (hnew.symm.trans hworld)
  rw [hvs] at hpieces
  obtain ⟨earlier, last, rfl, hearlier, hlast⟩ := Traversal.exists_append_of_forall₂ hpieces
  obtain ⟨piece, _, hpiece, hnil, rfl⟩ := List.forall₂_cons_left_iff.mp hlast
  obtain rfl := List.forall₂_nil_left_iff.mp hnil
  -- the last piece is that of the visit that fails
  have hlone := hpiece.fails_iff.2.mpr ⟨failure, congrArg Prod.snd hv⟩
  refine ⟨earlier.flatten, by rw [hlone, List.flatten_append, List.flatten_singleton], ?_⟩
  rw [Bool.eq_false_iff, ne_eq, any_fails_flatten_iff hearlier]
  rintro ⟨u, hu, failure', hfailure⟩
  obtain ⟨e, he⟩ := hentries u hu
  exact absurd (he.symm.trans hfailure) (by simp)

/-- In a sweep that does not fail, every directory could be made. -/
theorem any_fails_eq_false_of_sweep {spec : Spec} {report : Report} {new : List Exchange}
    (h : (s.sweep w.observed o spec).2 = .ok report)
    (hnew : (s.sweep w.observed o spec).1.world.2 = s.world.2 ++ new) :
    new.any Exchange.fails = false := by
  obtain ⟨pieces, hpieces, hworld⟩ := exists_exchanges_of_sweep w o spec s
  obtain rfl := List.append_cancel_left (hnew.symm.trans hworld)
  rw [Bool.eq_false_iff, ne_eq, any_fails_flatten_iff hpieces]
  rintro ⟨v, hv, failure, hfailure⟩
  obtain ⟨e, -, he⟩ :=
    Traversal.exists_mem_of_forall₂ (forall₂_visits_of_sweep (Prod.ext rfl h)) hv
  exact absurd (he.symm.trans hfailure) (by simp)

/-- A directory that could not be made is the last thing that a sweep asks for. -/
theorem eq_nil_of_directory_false {spec : Spec} {new before later : List Exchange} {p : Path}
    (hnew : (s.sweep w.observed o spec).1.world.2 = s.world.2 ++ new)
    (hsplit : new = before ++ .directory p false :: later) :
    later = [] ∧ ∃ failure, (s.sweep w.observed o spec).2 = .error failure := by
  cases hresult : (s.sweep w.observed o spec).2 with
  | ok report =>
    have hnone := any_fails_eq_false_of_sweep hresult hnew
    simp [hsplit, Exchange.fails] at hnone
  | error failure =>
    obtain ⟨old, rfl, hold⟩ := exists_last_exchange hresult hnew
    exact ⟨(Exchange.eq_last_of_any hsplit.symm hold rfl).1, failure, rfl⟩

/-! ### Sweeps that leave the world as it is -/

/-- Visits that follow each other leave the world as it is exactly when the session is cancelled or
nothing is to be launched for any of the combinations. -/
theorem world_afterVisits_eq_iff (index : Nat) (cs : List Combination) :
    (afterVisits w.observed o s (visitsOf w.observed o index cs s)).world = s.world ↔
      s.cancelled = true ∨ ∀ c ∈ cs, (verdict o s.launched c).launches? = none := by
  induction cs generalizing index with
  | nil => simp [visitsOf, afterVisits]
  | cons c cs ih =>
    by_cases hcancelled : s.cancelled = true
    · rw [visitsOf_of_cancelled hcancelled]
      exact iff_of_true rfl (.inl hcancelled)
    by_cases hnone : (verdict o s.launched c).launches? = none
    · -- the session goes on as it was
      obtain ⟨elapsed, hattempt⟩ := attempt_of_launches?_eq_none hnone w.observed index
      have hafter : Visit.after w.observed o ⟨s, index, c⟩ = s := congrArg Prod.fst hattempt
      rw [visitsOf, if_neg hcancelled, hattempt]
      simp only [afterVisits_cons, hafter, ih, List.forall_mem_cons, hnone, true_and]
    · -- the first visit leaves a trace, and nothing removes it
      obtain ⟨pieces, hpieces, hworld⟩ := exists_pieces_of_visitsOf Prod.snd
        (Visit.exists_exchanges_eq_nil_iff (w := w) (o := o)) index (c :: cs) s
      obtain ⟨rest, hrest⟩ : ∃ rest, visitsOf w.observed o index (c :: cs) s
          = ⟨s, index, c⟩ :: rest := by
        rw [visitsOf, if_neg hcancelled]
        split <;> exact ⟨_, rfl⟩
      rw [hrest] at hpieces
      obtain ⟨piece, others, ⟨-, hpiece⟩, -, rfl⟩ := List.forall₂_cons_left_iff.mp hpieces
      refine iff_of_false (fun h => hnone (hpiece.mp ?_)) ?_
      · rw [h, List.self_eq_append_right, List.flatten_cons] at hworld
        exact (List.append_eq_nil_iff.mp hworld).1
      · simp [hcancelled, hnone]

/-- Nothing is left to launch for a combination: it is no run configuration, or its identifier was
launched. -/
def Settled {σ : Type} (o : SweepOptions) (s : Session σ) (c : Combination) : Prop :=
  ∀ run, Run.ofCombination c o.experiment o.benchmark = .ok run →
    ∃ earlier ∈ s.runs, earlier.identifier = run.identifier

theorem Coherent.launches?_eq_none_iff {σ : Type} {s : Session σ} (hs : Coherent o s)
    {c : Combination} : (verdict o s.launched c).launches? = none ↔ Settled o s c := by
  rw [Option.eq_none_iff_forall_ne_some, Settled]
  simp only [ne_eq, Verdict.launches?_eq_some_iff, hs.fresh_iff, not_and, not_forall, not_not,
    exists_prop]

/-- A sweep leaves the world as it is exactly when the session is cancelled or nothing is left to
launch for any of the combinations that the constraints accept. -/
theorem world_sweep_eq_iff (hs : Coherent o s) (spec : Spec) :
    (s.sweep w.observed o spec).1.world = s.world ↔ s.cancelled = true ∨
      ∀ c ∈ spec.product, o.constraints.accepts c = true → Settled o s c := by
  rw [(sweep_eq_visits w.observed o spec s).1, visitsFor, world_afterVisits_eq_iff]
  simp only [List.mem_filter, and_imp, hs.launches?_eq_none_iff]

/-- **Directories frame the launches.** Whatever is asked of a session, what it exchanges with the
world consists of one piece for each combination that it comes to. The piece is empty exactly when
nothing is left to launch for the combination. It is a directory for results that could not be made,
and nothing else, exactly when the session fails at the combination. Otherwise it is a directory for
results that could be made and at once a launch of the run of the combination. So right before
every launch the directory for results was made. If a sweep fails, it ends with a directory that
could not be made, and where one could not be made, this is the last thing that the sweep asks for
and the sweep fails. A sweep leaves the world as it is exactly when the session is cancelled or
nothing is left to launch for any of the accepted combinations. -/
theorem directories_frame_launches (w : World σ) (o : SweepOptions) (world : σ)
    (requests : List Request) :
    let s := history w.observed o (start (world, [])) requests
    let p := o.experiment.directory
    (∃ pieces, s.world.2 = pieces.flatten ∧
      List.Forall₂ (fun v piece => v.Exchanges w o piece ∧
          (piece = [] ↔ v.session.Settled o v.params) ∧
          (piece = [.directory p false] ↔ ∃ failure, v.entry w.observed o = .error failure))
        (visits w.observed o (start (world, [])) requests) pieces) ∧
    Exchange.Framed p s.world.2 ∧
    (∀ before i b cancels later, s.world.2 = before ++ .launch i b cancels :: later →
      ∃ earlier, before = earlier ++ [.directory p true]) ∧
    ∀ spec,
      let swept := s.sweep w.observed o spec
      ∃ new, swept.1.world.2 = s.world.2 ++ new ∧
        (∀ failure, swept.2 = .error failure → ∃ old, new = old ++ [.directory p false]) ∧
        (∀ before q later, new = before ++ .directory q false :: later →
          later = [] ∧ ∃ failure, swept.2 = .error failure) ∧
        (swept.1.world = s.world ↔ s.cancelled = true ∨
          ∀ c ∈ spec.product, o.constraints.accepts c = true → s.Settled o c) := by
  intro s p
  obtain ⟨pieces, hpieces, hworld⟩ := exists_pieces_of_visits Prod.snd
    (Visit.exists_exchanges_eq_nil_iff (w := w) (o := o)) requests (start (world, []))
  replace hworld : s.world.2 = pieces.flatten := hworld
  have hframed : Exchange.Framed p s.world.2 := by
    rw [hworld]
    refine .flatten fun piece hpiece => ?_
    obtain ⟨v, -, hexchanges, -⟩ := Traversal.exists_mem_of_forall₂ hpieces.flip hpiece
    exact hexchanges.framed
  refine ⟨⟨pieces, hworld, ?_⟩, hframed, fun before i b cancels later h => ?_, fun spec => ?_⟩
  · have hcoherent : ∀ v ∈ visits w.observed o (start (world, [])) requests,
        Coherent o v.session := fun v hv => coherent_of_mem_visits hv
    refine ((List.forall₂_and_left _ _).mpr ⟨hcoherent, hpieces⟩).imp ?_
    rintro v piece ⟨hv, hexchanges, hnil⟩
    exact ⟨hexchanges, hnil.trans hv.launches?_eq_none_iff, hexchanges.fails_iff.2⟩
  · rw [h] at hframed
    exact hframed.exists_directory
  · obtain ⟨new, hnew, -⟩ := follows_sweep w o spec s
    refine ⟨new, hnew, fun failure hfailure => ?_, fun before q later hsplit => ?_, ?_⟩
    · obtain ⟨old, hold, -⟩ := exists_last_exchange hfailure hnew
      exact ⟨old, hold⟩
    · exact eq_nil_of_directory_false hnew hsplit
    · exact world_sweep_eq_iff (coherent_history w.observed o (world, []) requests) spec

theorem directories_frame_launches_roomlessAt :
    let o := SweepOptions.standard "tiers"
    let w := World.roomlessAt 1 (.ok .success)
    let p := o.experiment.directory
    let first := Spec.lru [.text "10-20"] [.int 2]
    let both := Spec.lru [.text "10-20", .text "10-30"] [.int 2]
    let s := history w.observed o (start (0, [])) [.sweep first]
    (∃ before i b cancels later, s.world.2 = before ++ .launch i b cancels :: later ∧
      ∃ earlier, before = earlier ++ [.directory p true]) ∧
    (∃ failure new old, (s.sweep w.observed o both).2 = .error failure ∧
      (s.sweep w.observed o both).1.world.2 = s.world.2 ++ new ∧
      new = old ++ [.directory p false]) ∧
    (s.sweep w.observed o first).1.world = s.world ∧
    ∀ c ∈ first.product, o.constraints.accepts c = true → s.Settled o c := by
  intro o w p first both s
  have hfails : s.world.2.map Exchange.fails = [false, false] := by decide +kernel
  have hfailed : (s.sweep w.observed o both).2.isOk = false := by decide +kernel
  have hworld : (s.sweep w.observed o first).1.world = s.world := by decide +kernel
  have hcancelled : s.cancelled = false := by decide +kernel
  -- from here on it does not matter what is swept
  clear_value first both
  obtain ⟨-, hframed, hlaunch, hsweeps⟩ := directories_frame_launches w o 0 [.sweep first]
  refine ⟨?_, ?_, hworld, ?_⟩
  · replace hframed : Exchange.Framed p s.world.2 := hframed
    replace hlaunch : ∀ before i b cancels later,
        s.world.2 = before ++ .launch i b cancels :: later →
          ∃ earlier, before = earlier ++ [.directory p true] := hlaunch
    generalize s.world.2 = log at hfails hframed hlaunch ⊢
    cases hframed with
    | nil => cases hfails
    | homeless => simp [Exchange.fails] at hfails
    | @launched i b cancels rest =>
      exact ⟨[.directory p true], i, b, cancels, rest, rfl, hlaunch _ i b cancels rest rfl⟩
  · obtain ⟨new, hnew, hlast, -⟩ := hsweeps both
    cases hresult : (s.sweep w.observed o both).2 with
    | ok report => rw [hresult] at hfailed; cases hfailed
    | error failure =>
      obtain ⟨old, hold⟩ := hlast failure hresult
      exact ⟨failure, new, old, rfl, hnew, hold⟩
  · obtain ⟨new, -, -, -, hsame⟩ := hsweeps first
    refine (hsame.mp hworld).resolve_left fun h => ?_
    exact absurd (hcancelled.symm.trans h) Bool.false_ne_true

end Session

end TierSweep
