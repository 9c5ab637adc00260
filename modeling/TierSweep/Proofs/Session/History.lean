import TierSweep.Proofs.Files.ResultFiles
import TierSweep.Proofs.Run.Derivation
import TierSweep.Proofs.Session.Verdict

/-!
# The history of a session

A session is asked to sweep, to come to single combinations and to cancel, in any order and any
number of times. What coming to a combination preserves holds after every such history
(`Session.history_induction`). One such property is that the session remembers exactly the runs that
it launched, that no two of them share an identifier, and that each was derived from a combination
(`Session.Coherent`). The identifiers are clean, so all files of all launched runs lie at different
places (`Session.nodup_launched_files`), whatever the combinations are and however the launches end.

A world can also keep the invocations that it was given to launch (`World.recording`). What it keeps
after a history are the invocations of the runs that the session has in its log.

## Main definitions

* `Session.history` — a session after some requests.
* `Session.runs` — the launched runs.
* `Session.Coherent` — what is remembered of them.
* `World.recording` — a world that keeps what is launched.

## Main results

* `Session.history_induction`, `Session.coherent_history`.
* `Session.nodup_launched_files`.
-/

namespace TierSweep

/-- The run that is launched. -/
def Effect.run? : Effect → Option Run
  | .directory _ _ => none
  | .launch run _ => some run

/-- The same world, which also keeps the invocations that it is given to launch. -/
def World.recording {σ : Type} (w : World σ) : World (σ × List Invocation) where
  makeDirectories p a := (((w.makeDirectories p a.1).1, a.2), (w.makeDirectories p a.1).2)
  launch i b a := (((w.launch i b a.1).1, a.2 ++ [i]), (w.launch i b a.1).2)
  clock a := w.clock a.1
  timeOfDay a := w.timeOfDay a.1

theorem filterMap_asked (o : SweepOptions) (cancelled : Bool) (v : Verdict) :
    (v.asked o cancelled).filterMap Effect.run? = v.launches?.toList := by
  rw [Verdict.asked]
  cases v.launches? <;> rfl

namespace Session

variable {σ : Type}

/-- The session after some requests. -/
def history (w : World σ) (o : SweepOptions) (s : Session σ) (requests : List Request) :
    Session σ :=
  requests.foldl (after w o) s

/-- The runs that were launched, from the first to the last. -/
def runs (s : Session σ) : List Run := s.effects.filterMap Effect.run?

/-! ### Induction over histories -/

section Induction

variable {w : World σ} {o : SweepOptions} {P : Session σ → Prop}

theorem sweepWithin_induction
    (hattempt : ∀ index c s, P s → P (attempt w o index c s).1)
    (fuel index : Nat) (e : Enumeration) {s : Session σ} (hs : P s) :
    P (sweepWithin w o fuel index e s).1 := by
  induction fuel generalizing index e s with
  | zero => exact hs
  | succ fuel ih =>
    unfold sweepWithin
    rcases e.next with ⟨_ | c, e₁⟩
    · exact hs
    · simp only
      split
      · exact hs
      · have hattempted := hattempt index c s hs
        generalize attempt w o index c s = attempted at hattempted ⊢
        obtain ⟨s₁, failure | entry⟩ := attempted
        · exact hattempted
        · have hrest := ih (index + 1) e₁ hattempted
          simp only
          generalize sweepWithin w o fuel (index + 1) e₁ s₁ = rest at hrest ⊢
          obtain ⟨s₂, e₂, failure | entries⟩ := rest <;> exact hrest

theorem sweep_induction (hattempt : ∀ index c s, P s → P (attempt w o index c s).1) (spec : Spec)
    {s : Session σ} (hs : P s) : P (s.sweep w o spec).1 := by
  simp only [sweep]
  have hsweep := sweepWithin_induction hattempt
    ((Enumeration.start spec o.constraints).remaining + 1) 0
    (Enumeration.start spec o.constraints) hs
  generalize sweepWithin w o ((Enumeration.start spec o.constraints).remaining + 1) 0
    (Enumeration.start spec o.constraints) s = swept at hsweep ⊢
  obtain ⟨s₁, e₁, failure | entries⟩ := swept <;> exact hsweep

/-- What coming to a combination and cancelling preserve holds after every history. -/
theorem history_induction (hattempt : ∀ index c s, P s → P (attempt w o index c s).1)
    (hcancel : ∀ s, P s → P s.cancel) (requests : List Request) {s : Session σ} (hs : P s) :
    P (history w o s requests) := by
  induction requests generalizing s with
  | nil => exact hs
  | cons request requests ih =>
    rw [history, List.foldl_cons]
    refine ih ?_
    cases request with
    | sweep spec => exact sweep_induction hattempt spec hs
    | attempt index c => exact hattempt index c s hs
    | cancel => exact hcancel s hs

end Induction

/-! ### Launched runs -/

section Attempted

variable {w : World σ} {o : SweepOptions} {index : Nat} {c : Combination} {s t : Session σ}

theorem runs_of_effects_eq {effects : List Effect} (h : t.effects = s.effects ++ effects) :
    t.runs = s.runs ++ effects.filterMap Effect.run? := by
  rw [runs, h, List.filterMap_append, runs]

/-- When a combination is recorded, the run that the verdict launches was launched. -/
theorem Attempted.runs_of_ok {e : ReportEntry} (h : Attempted w o index c s (t, .ok e)) :
    t.runs = s.runs ++ (verdict o s.launched c).launches?.toList := by
  rw [runs_of_effects_eq h.of_ok.2.1, filterMap_asked]

/-- When a session fails, nothing was launched. -/
theorem Attempted.runs_of_error {failure : Failure}
    (h : Attempted w o index c s (t, .error failure)) : t.runs = s.runs := by
  rw [runs_of_effects_eq h.of_error.2.2.1]
  exact List.append_nil _

end Attempted

/-- A session remembers exactly the runs it launched, the last first; no two of them share an
identifier, and each was derived from a combination. -/
structure Coherent (o : SweepOptions) (s : Session σ) : Prop where
  launched_eq : s.launched = (s.runs.map Run.memo).reverse
  nodup : (s.runs.map Run.identifier).Nodup
  derived : ∀ run ∈ s.runs, ∃ c, Run.ofCombination c o.experiment o.benchmark = .ok run

theorem coherent_start (o : SweepOptions) (world : σ) : Coherent o (start world) :=
  ⟨rfl, .nil, fun _ hrun => absurd hrun List.not_mem_nil⟩

/-- What is looked up is what was launched. -/
theorem Coherent.lookup_eq_some_iff {o : SweepOptions} {s : Session σ} (hs : Coherent o s)
    {identifier : String} {arguments : List String} :
    s.launched.lookup identifier = some arguments ↔
      ∃ run ∈ s.runs, run.identifier = identifier ∧ run.invocation.arguments = arguments := by
  have hnodup : ((s.runs.map Run.memo).reverse.map Prod.fst).Nodup := by
    rw [List.map_reverse, List.nodup_reverse, List.map_map]
    exact hs.nodup
  rw [hs.launched_eq, lookup_eq_some_iff_mem hnodup, List.mem_reverse, List.mem_map]
  exact exists_congr fun run => and_congr_right fun _ =>
    ⟨fun h => Prod.mk.inj h, fun h => congrArg₂ Prod.mk h.1 h.2⟩

/-- Nothing is found under an identifier exactly when no launched run has it. -/
theorem Coherent.lookup_eq_none_iff {o : SweepOptions} {s : Session σ} (hs : Coherent o s)
    {identifier : String} :
    s.launched.lookup identifier = none ↔ ∀ run ∈ s.runs, run.identifier ≠ identifier := by
  rw [Option.eq_none_iff_forall_ne_some]
  refine ⟨fun h run hrun hidentifier => ?_, fun h arguments hlookup => ?_⟩
  · exact h run.invocation.arguments (hs.lookup_eq_some_iff.mpr ⟨run, hrun, hidentifier, rfl⟩)
  · obtain ⟨run, hrun, hidentifier, -⟩ := hs.lookup_eq_some_iff.mp hlookup
    exact h run hrun hidentifier

theorem Coherent.attempt {w : World σ} {o : SweepOptions} {s : Session σ} (hs : Coherent o s)
    (index : Nat) (c : Combination) : Coherent o (attempt w o index c s).1 := by
  have hattempted := attempted_attempt w o index c s
  generalize Session.attempt w o index c s = attempted at hattempted ⊢
  obtain ⟨t, failure | e⟩ := attempted
  · have hruns := hattempted.runs_of_error
    exact ⟨by rw [hruns, hattempted.of_error.2.2.2, hs.launched_eq], hruns ▸ hs.nodup,
      hruns ▸ hs.derived⟩
  · have hruns := hattempted.runs_of_ok
    have hlaunched := hattempted.of_ok.2.2
    rw [Verdict.remember] at hlaunched
    cases hlaunches : (verdict o s.launched c).launches? with
    | none =>
      rw [hlaunches, Option.toList_none] at hruns hlaunched
      rw [List.append_nil] at hruns
      exact ⟨by rw [hruns, hlaunched, hs.launched_eq]; rfl, hruns ▸ hs.nodup, hruns ▸ hs.derived⟩
    | some run =>
      rw [hlaunches, Option.toList_some] at hruns hlaunched
      obtain ⟨hrun, hlookup⟩ := verdict_eq_fresh_iff.mp (Verdict.launches?_eq_some_iff.mp hlaunches)
      refine ⟨?_, ?_, ?_⟩
      · rw [hruns, hlaunched, List.map_append, List.reverse_append, ← hs.launched_eq]
        rfl
      · rw [hruns, List.map_append, List.nodup_append]
        refine ⟨hs.nodup, List.nodup_singleton _, fun i hi j hj hij => ?_⟩
        obtain ⟨earlier, hearlier, rfl⟩ := List.mem_map.mp hi
        exact hs.lookup_eq_none_iff.mp hlookup earlier hearlier
          (hij.trans (List.mem_singleton.mp hj))
      · intro run' hrun'
        rw [hruns] at hrun'
        rcases List.mem_append.mp hrun' with hrun' | hrun'
        · exact hs.derived run' hrun'
        · exact ⟨c, List.mem_singleton.mp hrun' ▸ hrun⟩

theorem Coherent.cancel {o : SweepOptions} {s : Session σ} (hs : Coherent o s) :
    Coherent o s.cancel :=
  ⟨hs.launched_eq, hs.nodup, hs.derived⟩

theorem coherent_history (w : World σ) (o : SweepOptions) (world : σ) (requests : List Request) :
    Coherent o (history w o (start world) requests) :=
  history_induction (fun index c _ hs => hs.attempt index c) (fun _ hs => hs.cancel) requests
    (coherent_start o world)

/-- A recording world adds the invocations of the runs that are launched. -/
theorem recorded_attempt (w : World σ) (o : SweepOptions) (index : Nat) (c : Combination)
    (s : Session (σ × List Invocation)) :
    ∃ new, (attempt w.recording o index c s).1.runs = s.runs ++ new ∧
      (attempt w.recording o index c s).1.world.2 = s.world.2 ++ new.map Run.invocation := by
  have hattempted := attempted_attempt w.recording o index c s
  generalize Session.attempt w.recording o index c s = attempted at hattempted ⊢
  cases hattempted with
  | recorded => exact ⟨[], (List.append_nil _).symm, (List.append_nil _).symm⟩
  | @homeless run world fault hfresh hroom =>
    have hkept : world.2 = s.world.2 := (congrArg (·.1.2) hroom).symm
    refine ⟨[], ?_, hkept.trans (List.append_nil _).symm⟩
    rw [runs_of_effects_eq rfl]
    rfl
  | @launched run room world answer _ hfresh hroom hlaunch =>
    have hkept : room.2 = s.world.2 := (congrArg (·.1.2) hroom).symm
    have hadded : world.2 = room.2 ++ [run.invocation] := (congrArg (·.1.2) hlaunch).symm
    refine ⟨[run], ?_, hkept ▸ hadded⟩
    rw [runs_of_effects_eq rfl, filterMap_asked, hfresh]
    rfl

/-- What is launched when a session comes to a combination is what its recording world adds. -/
theorem recorded_eq_of_runs_eq {w : World σ} {o : SweepOptions} {index : Nat} {c : Combination}
    {s : Session (σ × List Invocation)} {new : List Run}
    (h : (attempt w.recording o index c s).1.runs = s.runs ++ new) :
    (attempt w.recording o index c s).1.world.2 = s.world.2 ++ new.map Run.invocation := by
  obtain ⟨new', hruns, hworld⟩ := recorded_attempt w o index c s
  rw [hworld, List.append_cancel_left (hruns.symm.trans h)]

/-- What a world has recorded are the launches, if it was so before. -/
theorem recorded_eq_attempt {w : World σ} {o : SweepOptions} {s : Session (σ × List Invocation)}
    (hs : s.world.2 = s.runs.map Run.invocation) (index : Nat) (c : Combination) :
    (attempt w.recording o index c s).1.world.2
      = (attempt w.recording o index c s).1.runs.map Run.invocation := by
  obtain ⟨new, hruns, hworld⟩ := recorded_attempt w o index c s
  rw [hruns, hworld, hs, List.map_append]

/-- A recording world keeps the invocations of the launched runs. -/
theorem recorded_history (w : World σ) (o : SweepOptions) (world : σ) (requests : List Request) :
    (history w.recording o (start (world, [])) requests).world.2
      = (history w.recording o (start (world, [])) requests).runs.map Run.invocation :=
  history_induction (P := fun s : Session (σ × List Invocation) =>
    s.world.2 = s.runs.map Run.invocation)
    (fun index c _ hs => recorded_eq_attempt hs index c) (fun _ hs => hs) requests rfl

/-- **No launched run can overwrite the results of another.** Whatever is asked of a session and
however its launches end, the files of all runs it launched lie at different places, the two files
of one run included, both by their paths and by the texts of the paths that the runs are told behind
`--output` and `--periodic-output`. What the world was given to launch are the invocations of these
runs. -/
theorem nodup_launched_files (w : World σ) (o : SweepOptions) (world : σ)
    (requests : List Request) :
    let s := history w.recording o (start (world, [])) requests
    s.world.2 = s.runs.map Run.invocation ∧
      ((s.runs.flatMap fun run => run.files.paths).map Path.components).Nodup ∧
      ((s.runs.flatMap fun run => run.files.paths).map (Path.components ∘ Path.shown)).Nodup ∧
      ∀ run ∈ s.runs,
        ["--output", run.files.cdf.display, "--periodic-output", run.files.periodic.display]
          <:+: run.invocation.arguments := by
  intro s
  have hs : Coherent o s := coherent_history w.recording o (world, []) requests
  have hclean : ∀ i ∈ s.runs.map Run.identifier, Identifier.IsClean i := by
    intro i hi
    obtain ⟨run, hrun, rfl⟩ := List.mem_map.mp hi
    obtain ⟨c, hc⟩ := hs.derived run hrun
    exact Run.isClean_identifier hc
  have hfiles : (s.runs.flatMap fun run => run.files.paths)
      = (s.runs.map Run.identifier).flatMap fun i => (o.experiment.files i).paths := by
    rw [List.flatMap_map]
    refine List.flatMap_congr fun run hrun => ?_
    obtain ⟨c, hc⟩ := hs.derived run hrun
    rw [Run.files_eq hc]
  obtain ⟨hpaths, hshown⟩ := o.experiment.nodup_components_files hs.nodup hclean
  refine ⟨recorded_history w o world requests, hfiles ▸ hpaths, hfiles ▸ hshown, fun run hrun => ?_⟩
  obtain ⟨c, hc⟩ := hs.derived run hrun
  exact Run.files_infix_arguments hc

end Session

end TierSweep
