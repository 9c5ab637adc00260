import TierSweep.Execution
import TierSweep.Proofs.Enumeration.Draws
import TierSweep.Proofs.Identifier.Splitting
import TierSweep.Proofs.Text.Lines
import TierSweep.Proofs.Traversal

/-!
# Printing a plan

A plan numbers all combinations that the standard constraints accept, in the order of the
enumeration, and those that are run configurations have a run (`Spec.plannedRuns`). What is printed
is one line for each of these runs, in either form, and nothing else is changed on the machine
(`Machine.carryOut_plan`).

## Main definitions

* `Spec.plannedRuns` — the runs of a specification with their positions.

## Main results

* `Spec.mem_plannedRuns`, `Spec.pairwise_plannedRuns`.
* `Machine.print_injective`, `Machine.carryOut_plan`.
-/

namespace TierSweep

open Traversal

/-- The run of a numbered combination with its number, if it has one. -/
def Run.numbered? (x : Experiment) (executable : Path) (numbered : Combination × Nat) :
    Option (Nat × Run) :=
  (ofCombination numbered.1 x executable).toOption.map (numbered.2, ·)

/-- The line of a numbered run in one of the two forms. -/
def Run.lineIn (asJson : Bool) (numbered : Nat × Run) : Except Failure String :=
  if asJson then numbered.2.jsonLine numbered.1 else .ok numbered.2.line

/-- The runs that a specification leads to, in the order of the enumeration. Each has its position
among all combinations that the standard constraints accept, run configurations or not. -/
def Spec.plannedRuns (s : Spec) (x : Experiment) (executable : Path) : List (Nat × Run) :=
  (s.product.filter Constraints.standard.accepts).zipIdx.filterMap (Run.numbered? x executable)

section

variable {s : Spec} {x : Experiment} {executable : Path} {index : Nat} {run : Run}

theorem Run.numbered?_eq_some_iff {c : Combination} {i : Nat} :
    numbered? x executable (c, i) = some (index, run) ↔
      i = index ∧ ofCombination c x executable = .ok run := by
  rw [numbered?, Option.map_eq_some_iff, ← toOption_eq_some_iff]
  constructor
  · rintro ⟨_, hrun, heq⟩
    obtain ⟨rfl, rfl⟩ := Prod.mk.inj heq
    exact ⟨rfl, hrun⟩
  · rintro ⟨rfl, hrun⟩
    exact ⟨run, hrun, rfl⟩

/-- A planned run is derived from the combination at its position. -/
theorem Spec.mem_plannedRuns : (index, run) ∈ s.plannedRuns x executable ↔
    ∃ c, (s.product.filter Constraints.standard.accepts)[index]? = some c ∧
      Run.ofCombination c x executable = .ok run := by
  rw [plannedRuns, List.mem_filterMap]
  constructor
  · rintro ⟨⟨c, i⟩, hmem, hsome⟩
    obtain ⟨rfl, hrun⟩ := Run.numbered?_eq_some_iff.mp hsome
    exact ⟨c, List.mem_zipIdx_iff_getElem?.mp hmem, hrun⟩
  · rintro ⟨c, hc, hrun⟩
    exact ⟨(c, index), List.mem_zipIdx_iff_getElem?.mpr hc,
      Run.numbered?_eq_some_iff.mpr ⟨rfl, hrun⟩⟩

theorem Spec.exists_ofCombination (h : run ∈ (s.plannedRuns x executable).map Prod.snd) :
    ∃ c, Run.ofCombination c x executable = .ok run := by
  obtain ⟨numbered, hnumbered, rfl⟩ := List.mem_map.mp h
  obtain ⟨c, -, hrun⟩ := mem_plannedRuns.mp hnumbered
  exact ⟨c, hrun⟩

variable (s x executable)

/-- Planned runs are in the order of their positions, and no position has two. -/
theorem Spec.pairwise_plannedRuns :
    ((s.plannedRuns x executable).map Prod.fst).Pairwise (· < ·) := by
  have hpositions : ((s.product.filter Constraints.standard.accepts).zipIdx.map Prod.snd).Pairwise
      (· < ·) := by
    rw [List.zipIdx_map_snd]
    exact List.pairwise_lt_range'
  rw [List.pairwise_map] at hpositions ⊢
  refine hpositions.filterMap _ fun p q hpq a ha b hb => ?_
  rw [(Run.numbered?_eq_some_iff.mp ha).1.symm, (Run.numbered?_eq_some_iff.mp hb).1.symm]
  exact hpq

/-- Without their positions, planned runs are those of the accepted combinations that have one. -/
theorem Spec.map_snd_plannedRuns : (s.plannedRuns x executable).map Prod.snd
    = (s.product.filter Constraints.standard.accepts).filterMap fun c =>
        (Run.ofCombination c x executable).toOption := by
  rw [plannedRuns, List.map_filterMap]
  generalize s.product.filter Constraints.standard.accepts = cs
  conv_rhs => rw [← List.zipIdx_map_fst 0 cs, List.filterMap_map]
  refine List.filterMap_congr fun p _ => ?_
  rw [Run.numbered?, Option.map_map]
  exact congrFun Option.map_id _

end

namespace Plan

variable {x : Experiment} {executable : Path} {asJson : Bool}

theorem line?_ofCombination (c : Combination) (index : Nat) :
    line? asJson ⟨index, c, Run.ofCombination c x executable⟩
      = (Run.numbered? x executable (c, index)).map (Run.lineIn asJson) := by
  rw [line?, Run.numbered?]
  cases Run.ofCombination c x executable <;> rfl

/-- A plan whose lines can all be written is printed line by line. -/
theorem text_ofCombinations {index : Nat} {cs : List Combination} {lines : List String}
    (h : List.Forall₂ (fun numbered line => Run.lineIn asJson numbered = .ok line)
      ((cs.zipIdx index).filterMap (Run.numbered? x executable)) lines) :
    text asJson (ofCombinations x executable index cs) = (Lines.text lines, none) := by
  induction cs generalizing index lines with
  | nil =>
    cases h
    rfl
  | cons c cs ih =>
    rw [List.zipIdx_cons] at h
    rw [ofCombinations, text, line?_ofCombination]
    cases hnumbered : Run.numbered? x executable (c, index) with
    | none =>
      rw [List.filterMap_cons_none hnumbered] at h
      exact ih h
    | some numbered =>
      rw [List.filterMap_cons_some hnumbered] at h
      cases h with
      | cons hline hrest =>
        rw [Option.map_some, hline, Lines.text_cons]
        simp only [ih hrest]

end Plan

/-- What was printed can be told from the output. -/
theorem Machine.print_injective (m : Machine) : Function.Injective m.print := by
  intro s t h
  have houtput : m.output ++ Octets.ofText s = m.output ++ Octets.ofText t :=
    congrArg Machine.output h
  have hoctets := congrArg Octets.toBytes (String.append_right_inj m.output |>.mp houtput)
  rw [Octets.ofText, Octets.ofText, Octets.toBytes_ofBytes, Octets.toBytes_ofBytes] at hoctets
  exact Utf8.encode_injective hoctets

/-- What is printed of a plan are the lines of its runs, if all of them can be written. -/
theorem Machine.carryOut_plan {m : Machine} {source : SpecSource} {spec : Spec} {x : Experiment}
    {executable : Path} {asJson : Bool} {lines : List String}
    (hspec : m.tree.readSpec source.path = .ok spec)
    (hlines : List.Forall₂ (fun numbered line => Run.lineIn asJson numbered = .ok line)
      (spec.plannedRuns x executable) lines) :
    m.carryOut (.plan source x executable asJson) = .success (m.print (Lines.text lines)) := by
  rw [carryOut, hspec]
  simp only [Plan.ofSpec, Enumeration.drain_start_eq, Plan.text_ofCombinations hlines]

/-! ### A machine with a specification -/

/-- A specification of two combinations of which only the second is a run configuration. -/
def Spec.patterned (pattern : String) : Spec :=
  ⟨[⟨"pattern", [.text pattern]⟩, ⟨"client_tier_sizes", [.int 10]⟩,
    ⟨"server_mem_sizes", [.int 20]⟩, ⟨"buffer_size", [.int 4096]⟩, ⟨"running_time", [.int 10]⟩,
    ⟨"policy_type", [.text "lru"]⟩, ⟨"num_tiers", [.text "many", .int 2]⟩,
    ⟨"scan_interval", [.int 1]⟩, ⟨"sample_rate", [.int 1]⟩, ⟨"hot_threshold", [.int 5]⟩,
    ⟨"cold_threshold", [.int 10]⟩]⟩

/-- The file of such a specification, in which the pattern stands as it is given. -/
def Spec.patternedFile (pattern : String) : String :=
  "pattern: " ++ pattern ++ "\nclient_tier_sizes: 10\nserver_mem_sizes: 20\nbuffer_size: 4096\n"
    ++ "running_time: 10\npolicy_type: lru\nnum_tiers: [many, 2]\nscan_interval: 1\n"
    ++ "sample_rate: 1\nhot_threshold: 5\ncold_threshold: 10\n"

/-- A planned run is known by what can be computed of it. -/
theorem Spec.exists_plannedRuns_eq_singleton {s : Spec} {x : Experiment} {executable : Path}
    {index : Nat} {texts : List String} {identifier : String}
    (h : (s.plannedRuns x executable).map
      (fun numbered => (numbered.1, numbered.2.setup.texts, numbered.2.identifier))
        = [(index, texts, identifier)]) :
    ∃ run : Run, s.plannedRuns x executable = [(index, run)] ∧ run.setup.texts = texts ∧
      run.identifier = identifier := by
  obtain ⟨⟨i, run⟩, hruns, heq⟩ := List.map_eq_singleton_iff.mp h
  obtain ⟨rfl, hrest⟩ := Prod.mk.inj heq
  obtain ⟨htexts, hidentifier⟩ := Prod.mk.inj hrest
  exact ⟨run, hruns, htexts, hidentifier⟩

namespace Machine

/-- A machine whose working directory holds such a file. -/
def patterned (pattern : String) : Machine :=
  { fresh with
    tree := fresh.tree.put (place ["tmp", "work", "tiers.yaml"])
      (.file (Utf8.encode (Spec.patternedFile pattern)) FileEntry.plainMode) }

/-- Where such a machine has its specification. -/
def patternedSource : SpecSource := ⟨"tiers", .ofString ".", none⟩

/-- The experiment that is planned on such a machine. -/
def patternedExperiment : Experiment := ⟨.ofString "result", "tiers"⟩

/-- The benchmark that is planned on such a machine. -/
def patternedBenchmark : Path := .ofString "./build/main"

/-- A pattern may have a newline. -/
theorem readSpec_patterned_newline :
    (patterned "\"a\\nb\"").tree.readSpec patternedSource.path = .ok (.patterned "a\nb") :=
  toOption_eq_some_iff.mp (by decide +kernel)

theorem exists_plannedRuns_newline : ∃ run : Run,
    (Spec.patterned "a\nb").plannedRuns patternedExperiment patternedBenchmark = [(1, run)] ∧
      run.setup.texts = ["a\nb", "10", "20"] ∧
      run.identifier = "a\nb_10_20_buf4096_scan1_sample1_lru_h5_c10" :=
  Spec.exists_plannedRuns_eq_singleton (by decide +kernel)

end Machine

end TierSweep
