import TierSweep.Proofs.Session.Visits

/-!
# What a session exchanges with the world

A world can keep a record of all that it is asked and of what it answers (`World.observed`). When a
session comes to a combination it asks for nothing, or in vain for the directory for results, or for
the directory and then at once for a launch (`Visit.Exchanges`). The record of a sweep is made of
these pieces, one for each of its visits (`Session.exists_exchanges_of_sweep`).

## Main definitions

* `Exchange`, `World.observed` — a question to the world with its answer, and a world that keeps
  them.
* `Visit.Exchanges` — what a session exchanges with the world at a visit.

## Main results

* `Visit.exists_exchanges`.
* `Session.exists_exchanges_of_sweep`.
-/

namespace TierSweep

/-- What a session asked of the world and what came back. -/
inductive Exchange where
  /-- To make a directory, and whether it is there now. -/
  | directory (p : Path) (made : Bool)
  /-- To launch an invocation within some bounds, and whether this cancelled the session. -/
  | launch (invocation : Invocation) (bounds : LaunchBounds) (cancels : Bool)
  deriving DecidableEq

/-- The same world, which also keeps what it is asked and what it answers. -/
def World.observed {σ : Type} (w : World σ) : World (σ × List Exchange) where
  makeDirectories p a :=
    (((w.makeDirectories p a.1).1, a.2 ++ [.directory p (w.makeDirectories p a.1).2.isNone]),
      (w.makeDirectories p a.1).2)
  launch i b a :=
    (((w.launch i b a.1).1, a.2 ++ [.launch i b (w.launch i b a.1).2.cancels]),
      (w.launch i b a.1).2)
  clock a := w.clock a.1
  timeOfDay a := w.timeOfDay a.1

/-- Of exchanges of which only the last can have a property, one that has it is the last. -/
theorem Exchange.eq_last_of_any {f : Exchange → Bool} {old before after : List Exchange}
    {last x : Exchange} (h : before ++ x :: after = old ++ [last]) (hold : old.any f = false)
    (hx : f x = true) : after = [] ∧ x = last := by
  rcases List.eq_nil_or_concat' after with rfl | ⟨after, y, rfl⟩
  · exact ⟨rfl, List.singleton_inj.mp (List.append_inj_right' h rfl)⟩
  · rw [← List.cons_append, ← List.append_assoc] at h
    rw [← List.append_inj_left' h rfl, List.any_append, List.any_cons, hx, Bool.true_or,
      Bool.or_true] at hold
    cases hold

variable {σ : Type} {w : World σ} {o : SweepOptions}

/-- What a session exchanges with the world when it comes to a combination. -/
inductive Visit.Exchanges (w : World σ) (o : SweepOptions) (v : Visit (σ × List Exchange)) :
    List Exchange → Prop
  /-- The combination is recorded without a question. -/
  | silent {e : ReportEntry} (hentry : v.entry w.observed o = .ok e)
      (hcancelled : (v.after w.observed o).cancelled = v.session.cancelled) : Exchanges w o v []
  /-- The session fails because the directory for results cannot be made. -/
  | homeless {failure : Failure} (hentry : v.entry w.observed o = .error failure)
      (hcancelled : (v.after w.observed o).cancelled = v.session.cancelled) :
      Exchanges w o v [.directory o.experiment.directory false]
  /-- The run of the combination is launched, which may cancel the session. -/
  | launched {run : Run} {cancels : Bool} {e : ReportEntry} (hrun : v.run o = .ok run)
      (hentry : v.entry w.observed o = .ok e)
      (hcancelled : (v.after w.observed o).cancelled = (v.session.cancelled || cancels)) :
      Exchanges w o v [.directory o.experiment.directory true,
        .launch run.invocation (o.bounds run.setup v.session.cancelled) cancels]

/-- A world that is observed at a visit adds what is exchanged to its record. -/
theorem Visit.exists_exchanges (v : Visit (σ × List Exchange)) :
    ∃ new, v.Exchanges w o new ∧ (v.after w.observed o).world.2 = v.session.world.2 ++ new := by
  have hattempted := v.attempted w.observed o
  generalize hafter : v.after w.observed o = t at hattempted
  generalize hentry : v.entry w.observed o = result at hattempted
  cases hattempted with
  | recorded =>
    refine ⟨[], .silent hentry ?_, (List.append_nil _).symm⟩
    rw [hafter]
  | @homeless run world fault hfresh hroom =>
    have hfault : (w.makeDirectories o.experiment.directory v.session.world.1).2 = some fault :=
      congrArg Prod.snd hroom
    have hkept : world.2 = v.session.world.2 ++ [.directory o.experiment.directory
        (w.makeDirectories o.experiment.directory v.session.world.1).2.isNone] :=
      (congrArg (·.1.2) hroom).symm
    rw [hfault] at hkept
    refine ⟨[.directory o.experiment.directory false], .homeless hentry ?_, hkept⟩
    rw [hafter]
  | @launched run room world answer _ hfresh hroom hlaunch =>
    have hmade : (w.makeDirectories o.experiment.directory v.session.world.1).2 = none :=
      congrArg Prod.snd hroom
    have hroomKept : room.2 = v.session.world.2 ++ [.directory o.experiment.directory
        (w.makeDirectories o.experiment.directory v.session.world.1).2.isNone] :=
      (congrArg (·.1.2) hroom).symm
    have hanswer : (w.launch run.invocation (o.bounds run.setup v.session.cancelled) room.1).2
        = answer := congrArg Prod.snd hlaunch
    have hkept : world.2 = room.2 ++ [.launch run.invocation
        (o.bounds run.setup v.session.cancelled)
        (w.launch run.invocation (o.bounds run.setup v.session.cancelled) room.1).2.cancels] :=
      (congrArg (·.1.2) hlaunch).symm
    rw [hmade] at hroomKept
    rw [hanswer, hroomKept, List.append_assoc] at hkept
    refine ⟨_, .launched (Session.verdict_eq_fresh_iff.mp hfresh).1 hentry ?_, hkept⟩
    rw [hafter]

namespace Session

open Visit (Exchanges)

/-- The record of a sweep is made of what is exchanged at each of its visits. -/
theorem exists_exchanges_of_sweep (w : World σ) (o : SweepOptions) (spec : Spec)
    (s : Session (σ × List Exchange)) :
    ∃ pieces, List.Forall₂ (Exchanges w o) (visitsFor w.observed o s (.sweep spec)) pieces ∧
      (s.sweep w.observed o spec).1.world.2 = s.world.2 ++ pieces.flatten :=
  exists_pieces_of_visitsFor Prod.snd Visit.exists_exchanges s (.sweep spec)

end Session

end TierSweep
