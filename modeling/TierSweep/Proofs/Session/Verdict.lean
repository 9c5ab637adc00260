import TierSweep.Session

/-!
# What a session makes of a combination

Before a session asks anything of the world it decides what to make of a combination: it is no run
configuration, its invocation was launched before, its identifier belongs to another invocation, or
it is to be launched. The verdict depends on the combination and on what was launched, and on
nothing else that happened (`Session.verdict`). Coming to a combination has three outcomes
(`Session.Attempted`): it is recorded without a launch and the session stays as it is, the directory
for results cannot be made, or the run is launched, remembered and recorded
(`Session.attempted_attempt`).

## Main definitions

* `Verdict`, `Session.verdict` — what is made of a combination.
* `Verdict.Records` — what its entry has to say.
* `Verdict.asked`, `Verdict.remember` — what it leads to.

## Main results

* `Session.attempted_attempt`, `Session.attempt_of_launches?_eq_none`.
* `Session.Attempted.of_ok`, `Session.Attempted.of_error` — the outcomes, told apart by the result.
-/

namespace TierSweep

/-- Two entries that concern the same combination and the same run of it, if there is one. -/
structure ReportEntry.SameRun (d e : ReportEntry) : Prop where
  index_eq : d.index = e.index
  params_eq : d.params = e.params
  identifier?_eq : d.identifier? = e.identifier?
  files?_eq : d.files? = e.files?
  invocation?_eq : d.invocation? = e.invocation?

/-- What is remembered of a launched run. -/
def Run.memo (run : Run) : String × List String := (run.identifier, run.invocation.arguments)

/-- What a session makes of a combination. -/
inductive Verdict where
  /-- The combination is no run configuration. -/
  | invalid (fault : SetupFault)
  /-- The invocation was launched before. -/
  | repeated (run : Run)
  /-- The identifier belongs to another invocation. -/
  | colliding (run : Run)
  /-- Nothing was launched under the identifier. -/
  | fresh (run : Run)
  deriving DecidableEq

namespace Verdict

/-- The run derived from the combination, if one could be. -/
def run? : Verdict → Option Run
  | invalid _ => none
  | repeated run => some run
  | colliding run => some run
  | fresh run => some run

/-- The run that is launched. -/
def launches? : Verdict → Option Run
  | fresh run => some run
  | _ => none

/-- The stage in which a combination is recorded that is not launched. -/
def stage : Verdict → Stage
  | repeated _ => .skipped
  | _ => .failed

/-- The failure with which a combination is recorded that is not launched. -/
def failure? : Verdict → Option Failure
  | invalid fault => some fault.toFailure
  | colliding run => some (Session.collision run.identifier)
  | _ => none

/-- What is asked of the world, whose directory for results can be made. -/
def asked (o : SweepOptions) (cancelled : Bool) (v : Verdict) : List Effect :=
  match v.launches? with
  | none => []
  | some run =>
    [.directory o.experiment.directory true, .launch run (o.bounds run.setup cancelled)]

/-- What is known to be launched afterwards. -/
def remember (v : Verdict) (launched : List (String × List String)) :
    List (String × List String) :=
  v.launches?.toList.map Run.memo ++ launched

theorem launches?_eq_some_iff {v : Verdict} {run : Run} :
    v.launches? = some run ↔ v = .fresh run := by
  cases v with
  | fresh run' => exact ⟨fun h => congrArg fresh (Option.some.inj h), fun h => h ▸ rfl⟩
  | _ => exact ⟨nofun, nofun⟩

/-- An entry that records the combination at a position. What it says of the combination and of its
run is settled by the verdict, and so is all but the time if there was no launch. -/
def Records (v : Verdict) (index : Nat) (c : Combination) (e : ReportEntry) : Prop :=
  ∃ stage outcome? failure? elapsed,
    e = .ofRun? v.run? index c stage outcome? failure? elapsed ∧
      (v.launches? = none → stage = v.stage ∧ outcome? = none ∧ failure? = v.failure?)

/-- Two entries that record the same verdict concern the same run, and they agree in all but the
time if there was no launch. -/
theorem Records.sameRun {v : Verdict} {index : Nat} {c : Combination} {d e : ReportEntry}
    (hd : v.Records index c d) (he : v.Records index c e) :
    d.SameRun e ∧ (v.launches? = none → d = { e with elapsedMillis := d.elapsedMillis }) := by
  obtain ⟨stage, outcome?, failure?, elapsed, rfl, hnone⟩ := hd
  obtain ⟨stage', outcome?', failure?', elapsed', rfl, hnone'⟩ := he
  refine ⟨⟨rfl, rfl, rfl, rfl, rfl⟩, fun h => ?_⟩
  obtain ⟨rfl, rfl, rfl⟩ := hnone h
  obtain ⟨rfl, rfl, rfl⟩ := hnone' h
  rfl

end Verdict

namespace Session

/-- What is made of a combination after some launches. -/
def verdict (o : SweepOptions) (launched : List (String × List String)) (c : Combination) :
    Verdict :=
  match Run.ofCombination c o.experiment o.benchmark with
  | .error fault => .invalid fault
  | .ok run =>
    match launched.lookup run.identifier with
    | some arguments =>
      if arguments = run.invocation.arguments then .repeated run else .colliding run
    | none => .fresh run

variable {o : SweepOptions} {launched : List (String × List String)} {c : Combination} {run : Run}

theorem verdict_of_error {fault : SetupFault}
    (h : Run.ofCombination c o.experiment o.benchmark = .error fault) :
    verdict o launched c = .invalid fault := by
  rw [verdict, h]

theorem verdict_of_same (h : Run.ofCombination c o.experiment o.benchmark = .ok run)
    (hlookup : launched.lookup run.identifier = some run.invocation.arguments) :
    verdict o launched c = .repeated run := by
  rw [verdict, h]
  simp only [hlookup, if_true]

theorem verdict_of_other {arguments : List String}
    (h : Run.ofCombination c o.experiment o.benchmark = .ok run)
    (hlookup : launched.lookup run.identifier = some arguments)
    (hne : arguments ≠ run.invocation.arguments) : verdict o launched c = .colliding run := by
  rw [verdict, h]
  simp only [hlookup, if_neg hne]

theorem verdict_of_none (h : Run.ofCombination c o.experiment o.benchmark = .ok run)
    (hlookup : launched.lookup run.identifier = none) : verdict o launched c = .fresh run := by
  rw [verdict, h]
  simp only [hlookup]

/-- What is found under the identifier of a run settles its verdict. -/
theorem verdict_cases (h : Run.ofCombination c o.experiment o.benchmark = .ok run) :
    (launched.lookup run.identifier = none ∧ verdict o launched c = .fresh run) ∨
      (launched.lookup run.identifier = some run.invocation.arguments ∧
        verdict o launched c = .repeated run) ∨
      ∃ arguments, launched.lookup run.identifier = some arguments ∧
        arguments ≠ run.invocation.arguments ∧ verdict o launched c = .colliding run := by
  cases hlookup : launched.lookup run.identifier with
  | none => exact .inl ⟨rfl, verdict_of_none h hlookup⟩
  | some arguments =>
    by_cases hsame : arguments = run.invocation.arguments
    · exact .inr (.inl ⟨hsame ▸ rfl, verdict_of_same h (hsame ▸ hlookup)⟩)
    · exact .inr (.inr ⟨arguments, rfl, hsame, verdict_of_other h hlookup hsame⟩)

/-- The run of a verdict is that of the combination. -/
theorem run?_verdict :
    (verdict o launched c).run? = (Run.ofCombination c o.experiment o.benchmark).toOption := by
  cases hrun : Run.ofCombination c o.experiment o.benchmark with
  | error fault => rw [verdict_of_error hrun]; rfl
  | ok run =>
    obtain ⟨-, hfresh⟩ | ⟨-, hrepeated⟩ | ⟨_, -, -, hcolliding⟩ := verdict_cases hrun
    · rw [hfresh]; rfl
    · rw [hrepeated]; rfl
    · rw [hcolliding]; rfl

theorem ofCombination_of_run? (h : (verdict o launched c).run? = some run) :
    Run.ofCombination c o.experiment o.benchmark = .ok run := by
  rw [run?_verdict] at h
  cases hrun : Run.ofCombination c o.experiment o.benchmark with
  | error fault => rw [hrun] at h; cases h
  | ok run' => rw [hrun] at h; rw [Option.some.inj h]

/-- A run is launched when nothing was launched under its identifier. -/
theorem verdict_eq_fresh_iff :
    verdict o launched c = .fresh run ↔
      Run.ofCombination c o.experiment o.benchmark = .ok run ∧
        launched.lookup run.identifier = none := by
  refine ⟨fun h => ?_, fun h => verdict_of_none h.1 h.2⟩
  have hrun := ofCombination_of_run? (congrArg Verdict.run? h)
  obtain ⟨hlookup, -⟩ | ⟨-, hrepeated⟩ | ⟨_, -, -, hcolliding⟩ := verdict_cases hrun
  · exact ⟨hrun, hlookup⟩
  · exact absurd (hrepeated.symm.trans h) Verdict.noConfusion
  · exact absurd (hcolliding.symm.trans h) Verdict.noConfusion

/-- A run collides when other arguments were launched under its identifier. -/
theorem verdict_eq_colliding_iff :
    verdict o launched c = .colliding run ↔
      Run.ofCombination c o.experiment o.benchmark = .ok run ∧
        ∃ arguments, launched.lookup run.identifier = some arguments ∧
          arguments ≠ run.invocation.arguments := by
  refine ⟨fun h => ?_, fun ⟨hrun, arguments, hlookup, hne⟩ => verdict_of_other hrun hlookup hne⟩
  have hrun := ofCombination_of_run? (congrArg Verdict.run? h)
  obtain ⟨-, hfresh⟩ | ⟨-, hrepeated⟩ | ⟨arguments, hlookup, hne, -⟩ := verdict_cases hrun
  · exact absurd (hfresh.symm.trans h) Verdict.noConfusion
  · exact absurd (hrepeated.symm.trans h) Verdict.noConfusion
  · exact ⟨hrun, arguments, hlookup, hne⟩

/-- A run is skipped when its arguments were launched under its identifier. -/
theorem verdict_eq_repeated_iff :
    verdict o launched c = .repeated run ↔
      Run.ofCombination c o.experiment o.benchmark = .ok run ∧
        launched.lookup run.identifier = some run.invocation.arguments := by
  refine ⟨fun h => ?_, fun h => verdict_of_same h.1 h.2⟩
  have hrun := ofCombination_of_run? (congrArg Verdict.run? h)
  obtain ⟨-, hfresh⟩ | ⟨hlookup, -⟩ | ⟨_, -, -, hcolliding⟩ := verdict_cases hrun
  · exact absurd (hfresh.symm.trans h) Verdict.noConfusion
  · exact ⟨hrun, hlookup⟩
  · exact absurd (hcolliding.symm.trans h) Verdict.noConfusion

/-- A combination has no verdict but its fault when it is no run configuration. -/
theorem verdict_eq_invalid_iff {fault : SetupFault} :
    verdict o launched c = .invalid fault ↔
      Run.ofCombination c o.experiment o.benchmark = .error fault := by
  refine ⟨fun h => ?_, verdict_of_error⟩
  cases hrun : Run.ofCombination c o.experiment o.benchmark with
  | error fault' =>
    rw [verdict_of_error hrun] at h
    rw [Verdict.invalid.inj h]
  | ok run =>
    have hnone : some run = none :=
      (run?_verdict.trans (congrArg Except.toOption hrun)).symm.trans (congrArg Verdict.run? h)
    exact absurd hnone (Option.some_ne_none run)

/-- Nothing is launched under an identifier under which something was. -/
theorem launches?_of_lookup {arguments : List String}
    (h : Run.ofCombination c o.experiment o.benchmark = .ok run)
    (hlookup : launched.lookup run.identifier = some arguments) :
    (verdict o launched c).launches? = none := by
  obtain ⟨hnone, -⟩ | ⟨-, hrepeated⟩ | ⟨_, -, -, hcolliding⟩ := verdict_cases h
  · exact absurd (hlookup.symm.trans hnone) (Option.some_ne_none arguments)
  · rw [hrepeated]; rfl
  · rw [hcolliding]; rfl

/-- In an association list without repeated keys, what is looked up are its members. -/
theorem lookup_eq_some_iff_mem {α β : Type} [BEq α] [LawfulBEq α] {l : List (α × β)} {k : α} {v : β}
    (h : (l.map Prod.fst).Nodup) : l.lookup k = some v ↔ (k, v) ∈ l := by
  rw [List.lookup_eq_some_iff]
  refine ⟨fun ⟨l₁, l₂, hl, _⟩ => hl ▸ List.mem_append_right l₁ List.mem_cons_self, fun hmem => ?_⟩
  obtain ⟨l₁, l₂, rfl⟩ := List.append_of_mem hmem
  refine ⟨l₁, l₂, rfl, fun p hp => ?_⟩
  rw [List.map_append, List.nodup_append] at h
  have hne := h.2.2 p.1 (List.mem_map_of_mem hp) k List.mem_cons_self
  exact bne_iff_ne.mpr (Ne.symm hne)

/-! ### Coming to a combination -/

variable {σ : Type}

/-- What can become of a session that comes to a combination. -/
inductive Attempted (w : World σ) (o : SweepOptions) (index : Nat) (c : Combination)
    (s : Session σ) : Session σ × Except Failure ReportEntry → Prop
  /-- Nothing is asked of the world. -/
  | recorded {elapsed : UInt64} (hnone : (verdict o s.launched c).launches? = none) :
      Attempted w o index c s
        (s, .ok (.ofRun? (verdict o s.launched c).run? index c (verdict o s.launched c).stage none
          (verdict o s.launched c).failure? elapsed))
  /-- The directory for results cannot be made. -/
  | homeless {run : Run} {world : σ} {fault : FileFault}
      (hfresh : verdict o s.launched c = .fresh run)
      (hroom : w.makeDirectories o.experiment.directory s.world = (world, some fault)) :
      Attempted w o index c s
        ({ s with effects := s.effects ++ [.directory o.experiment.directory false], world },
          .error (.resultDirectory o.experiment.directory fault))
  /-- The run is launched. -/
  | launched {run : Run} {room world : σ} {answer : LaunchAnswer} {elapsed : UInt64}
      (hfresh : verdict o s.launched c = .fresh run)
      (hroom : w.makeDirectories o.experiment.directory s.world = (room, none))
      (hlaunch : w.launch run.invocation (o.bounds run.setup s.cancelled) room = (world, answer)) :
      Attempted w o index c s
        ({ launched := (verdict o s.launched c).remember s.launched
           cancelled := s.cancelled || answer.cancels
           effects := s.effects ++ (verdict o s.launched c).asked o s.cancelled
           world },
          .ok (.ofRun? (some run) index c (ending answer.result).1 (ending answer.result).2.1
            (ending answer.result).2.2 elapsed))

theorem attempted_attempt (w : World σ) (o : SweepOptions) (index : Nat) (c : Combination)
    (s : Session σ) : Attempted w o index c s (attempt w o index c s) := by
  unfold attempt
  have hrecorded {v : Verdict} (hverdict : verdict o s.launched c = v) (hnone : v.launches? = none)
      (elapsed : UInt64) : Attempted w o index c s
        (s, .ok (.ofRun? v.run? index c v.stage none v.failure? elapsed)) := by
    subst hverdict
    exact .recorded hnone
  cases hrun : Run.ofCombination c o.experiment o.benchmark with
  | error fault => exact hrecorded (verdict_of_error hrun) rfl _
  | ok run =>
    cases hlookup : s.launched.lookup run.identifier with
    | some arguments =>
      by_cases hsame : arguments = run.invocation.arguments
      · simp only [hlookup, if_pos hsame]
        exact hrecorded (verdict_of_same hrun (hsame ▸ hlookup)) rfl _
      · simp only [hlookup, if_neg hsame]
        exact hrecorded (verdict_of_other hrun hlookup hsame) rfl _
    | none =>
      have hverdict := verdict_of_none hrun hlookup
      simp only [hlookup, makeRoom]
      rcases hroom : w.makeDirectories o.experiment.directory s.world with ⟨room, _ | fault⟩
      · rcases hlaunch : w.launch run.invocation (o.bounds run.setup s.cancelled) room with
          ⟨world, answer⟩
        have hattempted := @Attempted.launched σ w o index c s run room world answer
          ((w.clock world).since (w.clock s.world)).millis64 hverdict hroom hlaunch
        simpa only [hverdict, Verdict.asked, Verdict.launches?, Verdict.remember, Run.memo, launch,
          hlaunch, Option.toList_some, List.map_singleton, List.append_assoc,
          List.singleton_append] using hattempted
      · exact .homeless hverdict hroom

/-- A combination of which nothing is to be launched is recorded as its verdict says, and the
session stays as it is. -/
theorem attempt_of_launches?_eq_none {s : Session σ}
    (h : (verdict o s.launched c).launches? = none) (w : World σ) (index : Nat) :
    ∃ elapsed, s.attempt w o index c = (s, .ok (.ofRun? (verdict o s.launched c).run? index c
      (verdict o s.launched c).stage none (verdict o s.launched c).failure? elapsed)) := by
  have hattempted := attempted_attempt w o index c s
  generalize s.attempt w o index c = attempted at hattempted ⊢
  cases hattempted with
  | recorded => exact ⟨_, rfl⟩
  | homeless hfresh => simp [hfresh, Verdict.launches?] at h
  | launched hfresh => simp [hfresh, Verdict.launches?] at h

namespace Attempted

variable {w : World σ} {index : Nat} {s t : Session σ}

/-- A session that records a combination has asked what the verdict asks, and remembers what it
remembers. -/
theorem of_ok {e : ReportEntry} (h : Attempted w o index c s (t, .ok e)) :
    (verdict o s.launched c).Records index c e ∧
      t.effects = s.effects ++ (verdict o s.launched c).asked o s.cancelled ∧
      t.launched = (verdict o s.launched c).remember s.launched := by
  cases h with
  | recorded hnone =>
    exact ⟨⟨_, _, _, _, rfl, fun _ => ⟨rfl, rfl, rfl⟩⟩,
      by rw [Verdict.asked, hnone, List.append_nil], by rw [Verdict.remember, hnone]; rfl⟩
  | @launched run _ _ _ _ hfresh =>
    refine ⟨⟨_, _, _, _, by rw [hfresh]; rfl, fun hnone => ?_⟩, rfl, rfl⟩
    rw [hfresh] at hnone
    exact absurd hnone (Option.some_ne_none run)

/-- A session fails at a combination whose run was to be launched. Nothing is remembered of it. -/
theorem of_error {failure : Failure} (h : Attempted w o index c s (t, .error failure)) :
    (∃ run, verdict o s.launched c = .fresh run) ∧
      (∃ fault, failure = .resultDirectory o.experiment.directory fault) ∧
      t.effects = s.effects ++ [.directory o.experiment.directory false] ∧
      t.launched = s.launched := by
  cases h with
  | homeless hfresh => exact ⟨⟨_, hfresh⟩, ⟨_, rfl⟩, rfl, rfl⟩

end Attempted

end Session

end TierSweep
