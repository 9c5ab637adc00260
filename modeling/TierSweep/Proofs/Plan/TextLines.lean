import TierSweep.Proofs.Plan.Printing
import TierSweep.Proofs.Run.Arguments

/-!
# Plans as texts

A plan that is printed as a text has an identifier, a tabulator and a command line for each run. The
identifier contains no tabulator, so a line is taken apart at the first one (`Plan.cut?_line`). The
texts of a run stand in its command line as they are, newlines included. If none of them contains a
newline, the printed lines are found again, each of them with the parts that were written; otherwise
the text has more lines than there are runs (`Machine.plan_reads_back_iff`).

## Main definitions

* `Plan.cut?` — the parts of a line around its first tabulator.

## Main results

* `Identifier.isLine_ofSetup`, `Run.isLine_line_iff`.
* `Machine.plan_reads_back_iff`.
-/

namespace TierSweep

/-! ### Runs in one line -/

theorem OfNumerals.isLine {s : String} (h : OfNumerals s) : IsLine s := fun hnewline =>
  absurd (h '\n' hnewline) (by decide)

theorem Policy.isLine_name (p : Policy) : IsLine p.name := by cases p <;> decide

theorem TuningField.isLine_mark (f : TuningField) : IsLine f.mark := by cases f <;> decide

theorem TuningField.isLine_flag (f : TuningField) : IsLine f.flag := by cases f <;> decide

theorem CommonField.isLine_flag (f : CommonField) : IsLine f.flag := by cases f <;> decide

/-- A newline is put into a path by its parts only. -/
theorem Path.newline_not_mem_joinString {p : Path} {s : String} (hp : 0x0A ∉ p.bytes)
    (hs : IsLine s) : 0x0A ∉ (p.joinString s).bytes := by
  have hs : 0x0A ∉ (Path.ofString s).bytes := fun h => hs (Utf8.mem_encode_ascii (by decide) h)
  rw [joinString, join]
  split
  · exact hs
  · split
    · exact fun h => (List.mem_append.mp h).elim hp hs
    · refine fun h => (List.mem_append.mp h).elim hp fun h => ?_
      exact (List.mem_cons.mp h).elim (by decide) hs

theorem Path.isLine_display {p : Path} (h : 0x0A ∉ p.bytes) : IsLine p.display :=
  isLine_decodeLossy h

namespace Identifier

/-- Cleaning neither removes newlines nor makes any. -/
theorem isLine_clean_iff {s : String} : IsLine (clean s) ↔ IsLine s := by
  rw [IsLine, toList_clean, List.mem_map]
  refine not_congr ⟨?_, fun h => ⟨'\n', h, by decide⟩⟩
  rintro ⟨c, hc, hclean⟩
  rw [cleanChar] at hclean
  split at hclean
  · exact absurd hclean (by decide)
  · exact hclean ▸ hc

theorem isLine_of_mem_numberParts {r : RunSetup} {part : String} (h : part ∈ numberParts r) :
    IsLine part := by
  have hclean {mark : String} {n : Number} (hmark : IsLine mark) :
      IsLine (clean (mark ++ n.render)) :=
    isLine_clean_iff.mpr (isLine_append.mpr ⟨hmark, n.ofNumerals_render.isLine⟩)
  rw [numberParts, List.mem_append] at h
  rcases h with h | h
  · simp only [List.mem_cons, List.not_mem_nil, or_false] at h
    rcases h with rfl | rfl | rfl | rfl
    · exact isLine_append.mpr ⟨by decide, (OfNumerals.toString r.bufferSize).isLine⟩
    · exact hclean (by decide)
    · exact hclean (by decide)
    · exact r.policy.isLine_name
  · obtain ⟨entry, hentry, rfl⟩ := List.mem_map.mp h
    obtain ⟨⟨f, n⟩, -, rfl⟩ := List.mem_map.mp hentry
    exact hclean f.isLine_mark

/-- Only the texts of a configuration can bring newlines into its identifier. -/
theorem isLine_ofSetup {r : RunSetup} (h : ∀ s ∈ r.texts, IsLine s) : IsLine (ofSetup r) := by
  rw [ofSetup_eq, joined, isLine_intercalate (by decide), List.forall_mem_append,
    List.forall_mem_map]
  exact ⟨fun s hs => isLine_clean_iff.mpr (h s hs), fun _ => isLine_of_mem_numberParts⟩

end Identifier

namespace RunSetup

/-- All texts of a configuration but its own three are written numbers or the name of the policy. -/
theorem isLine_textOf {r : RunSetup} (h : ∀ s ∈ r.texts, IsLine s) (field : CommonField) :
    IsLine (r.textOf field) := by
  rw [texts, List.forall_mem_cons, List.forall_mem_cons, List.forall_mem_singleton] at h
  obtain ⟨hpattern, hclient, hserver⟩ := h
  cases field with
  | pattern => exact hpattern
  | clientTierSizes => exact hclient
  | serverMemSizes => exact hserver
  | bufferSize => exact (OfNumerals.toString r.bufferSize).isLine
  | runningTime => exact r.runningTime.ofNumerals_render.isLine
  | policyType => exact r.policy.isLine_name
  | numTiers => exact (OfNumerals.toString r.numTiers).isLine
  | scanInterval => exact r.scanInterval.ofNumerals_render.isLine
  | sampleRate => exact r.sampleRate.ofNumerals_render.isLine

end RunSetup

namespace Invocation

theorem textOf_mem_argumentsOf (r : RunSetup) (o : ResultFiles) (field : CommonField) :
    r.textOf field ∈ argumentsOf r o := by
  rw [argumentsOf_eq]
  exact List.mem_flatMap.mpr ⟨_, mem_optionsOf_common.mpr rfl,
    List.mem_cons_of_mem _ List.mem_cons_self⟩

/-- The texts of a configuration are among its arguments as they are. -/
theorem mem_argumentsOf_of_mem_texts {r : RunSetup} (o : ResultFiles) {s : String}
    (h : s ∈ r.texts) : s ∈ argumentsOf r o := by
  simp only [RunSetup.texts, List.mem_cons, List.not_mem_nil, or_false] at h
  rcases h with rfl | rfl | rfl
  · exact textOf_mem_argumentsOf r o .pattern
  · exact textOf_mem_argumentsOf r o .clientTierSizes
  · exact textOf_mem_argumentsOf r o .serverMemSizes

theorem isLine_of_mem_argumentsOf {r : RunSetup} {o : ResultFiles} (h : ∀ s ∈ r.texts, IsLine s)
    (hcdf : IsLine o.cdf.display) (hperiodic : IsLine o.periodic.display) :
    ∀ argument ∈ argumentsOf r o, IsLine argument := by
  have hoptions : ∀ option ∈ optionsOf r o, IsLine option.1 ∧ IsLine option.2 := by
    intro option hoption
    rw [optionsOf, List.mem_append, List.mem_append] at hoption
    rcases hoption with (hoption | hoption) | hoption
    · obtain ⟨field, -, rfl⟩ := List.mem_map.mp hoption
      exact ⟨field.isLine_flag, r.isLine_textOf h field⟩
    · simp only [List.mem_cons, List.not_mem_nil, or_false] at hoption
      rcases hoption with rfl | rfl
      · exact ⟨show IsLine "--output" by decide, hcdf⟩
      · exact ⟨show IsLine "--periodic-output" by decide, hperiodic⟩
    · obtain ⟨⟨f, n⟩, -, rfl⟩ := List.mem_map.mp hoption
      exact ⟨f.isLine_flag, n.ofNumerals_render.isLine⟩
  intro argument hargument
  rw [argumentsOf_eq] at hargument
  obtain ⟨option, hoption, hargument⟩ := List.mem_flatMap.mp hargument
  simp only [List.mem_cons, List.not_mem_nil, or_false] at hargument
  rcases hargument with rfl | rfl
  · exact (hoptions option hoption).1
  · exact (hoptions option hoption).2

end Invocation

/-- The paths of result files are lines if what they are made of are. -/
theorem Experiment.isLine_display_files {x : Experiment} {identifier : String}
    (hroot : 0x0A ∉ x.root.bytes) (hname : IsLine x.name) (hidentifier : IsLine identifier) :
    IsLine (x.files identifier).cdf.display ∧ IsLine (x.files identifier).periodic.display := by
  have hfile {stem : String} (hstem : IsLine stem) :
      IsLine (x.directory.joinString (fileName stem identifier)).display := by
    refine Path.isLine_display (Path.newline_not_mem_joinString
      (Path.newline_not_mem_joinString hroot hname) ?_)
    simp only [fileName, isLine_append]
    exact ⟨⟨⟨⟨hstem, by decide⟩, hidentifier⟩, by decide⟩, by decide⟩
  have hcdf : IsLine cdfStem := by decide
  have hperiodic : IsLine periodicStem := by decide
  simp only [files]
  exact ⟨hfile hcdf, hfile hperiodic⟩

/-- What is printed of a run is a single line exactly when none of its texts contains a newline. -/
theorem Run.isLine_line_iff {c : Combination} {x : Experiment} {executable : Path} {run : Run}
    (hrun : ofCombination c x executable = .ok run) (hroot : 0x0A ∉ x.root.bytes)
    (hname : IsLine x.name) (hexecutable : 0x0A ∉ executable.bytes) :
    IsLine run.line ↔ ∀ s ∈ run.setup.texts, IsLine s := by
  obtain ⟨setup, -, rfl⟩ := exists_ofSetup hrun
  rw [line, isLine_append, isLine_append, Invocation.text, isLine_intercalate (by decide),
    List.forall_mem_cons, arguments_ofSetup, identifier_ofSetup, setup_ofSetup]
  constructor
  · rintro ⟨-, -, harguments⟩ s hs
    exact harguments s (Invocation.mem_argumentsOf_of_mem_texts _ hs)
  · intro h
    have hidentifier := Identifier.isLine_ofSetup h
    obtain ⟨hcdf, hperiodic⟩ := Experiment.isLine_display_files hroot hname hidentifier
    exact ⟨⟨hidentifier, by decide⟩, Path.isLine_display hexecutable,
      Invocation.isLine_of_mem_argumentsOf h hcdf hperiodic⟩

/-! ### Taking lines apart -/

namespace Plan

/-- The parts of a line in front of its first tabulator and behind it. -/
def cut? (line : String) : Option (String × String) :=
  match line.toList.dropWhile (· ≠ '\t') with
  | [] => none
  | _ :: rest => some (String.ofList (line.toList.takeWhile (· ≠ '\t')), String.ofList rest)

theorem cut?_append {s : String} (h : '\t' ∉ s.toList) (t : String) :
    cut? (s ++ "\t" ++ t) = some (s, t) := by
  have hs : ∀ c ∈ s.toList, (c ≠ '\t' : Bool) = true := fun c hc =>
    decide_eq_true fun heq => h (heq ▸ hc)
  have hlist : (s ++ "\t" ++ t).toList = s.toList ++ '\t' :: t.toList := by
    rw [String.toList_append, String.toList_append, List.append_assoc]
    rfl
  rw [cut?, hlist, List.dropWhile_append_of_pos hs, List.takeWhile_append_of_pos hs]
  simp

/-- The parts of the line of a run are its identifier and its command line. -/
theorem cut?_line {c : Combination} {x : Experiment} {executable : Path} {run : Run}
    (hrun : Run.ofCombination c x executable = .ok run) :
    cut? run.line = some (run.identifier, run.invocation.text) :=
  cut?_append (Identifier.isClean_iff.mp (Run.isClean_identifier hrun) '\t' (by decide)) _

end Plan

/-! ### Reading plans back -/

section

variable {spec : Spec} {x : Experiment} {executable : Path}

/-- The lines of some runs are found again and taken apart exactly when no text of the runs contains
a newline. -/
theorem Plan.read_lines_iff {runs : List Run}
    (hruns : ∀ run ∈ runs, ∃ c, Run.ofCombination c x executable = .ok run)
    (hroot : 0x0A ∉ x.root.bytes) (hname : IsLine x.name) (hexecutable : 0x0A ∉ executable.bytes) :
    (Lines.ofText? (Lines.text (runs.map Run.line))).map (·.map cut?)
        = some (runs.map fun run => some (run.identifier, run.invocation.text)) ↔
      ∀ run ∈ runs, ∀ s ∈ run.setup.texts, IsLine s := by
  have hiff : (∀ line ∈ runs.map Run.line, IsLine line) ↔
      ∀ run ∈ runs, ∀ s ∈ run.setup.texts, IsLine s := by
    rw [List.forall_mem_map]
    refine forall₂_congr fun run hrun => ?_
    obtain ⟨c, hc⟩ := hruns run hrun
    exact Run.isLine_line_iff hc hroot hname hexecutable
  rw [← hiff]
  constructor
  · intro h
    -- a newline within a line would make more lines than there are runs
    obtain ⟨found, hfound, hcut⟩ := Option.map_eq_some_iff.mp h
    have hlength := congrArg List.length hcut
    rw [List.length_map, List.length_map] at hlength
    exact Lines.isLine_of_ofText?_text hfound (hlength.trans (List.length_map _).symm)
  · intro h
    rw [Lines.ofText?_text h, Option.map_some, List.map_map]
    refine congrArg some (List.map_congr_left fun run hrun => ?_)
    obtain ⟨c, hc⟩ := hruns run hrun
    exact cut?_line hc

namespace Machine

variable {m : Machine} {source : SpecSource}

/-- Lines that are texts can always be written. -/
theorem carryOut_plan_text (hspec : m.tree.readSpec source.path = .ok spec) (x : Experiment)
    (executable : Path) :
    m.carryOut (.plan source x executable false) = .success
      (m.print (Lines.text (((spec.plannedRuns x executable).map Prod.snd).map Run.line))) := by
  refine carryOut_plan hspec ?_
  rw [List.map_map, List.forall₂_map_right_iff]
  exact List.forall₂_same.mpr fun _ _ => rfl

/-- **A printed plan is read back line by line exactly when no text of a run contains a newline.**
Take any specification that is read from its file, and an experiment, a root for its results and a
benchmark without newlines. Planning succeeds and only prints. What it prints splits at the newlines
into one line for each run that survives filtering and validation, in the order of the enumeration,
and each line splits at its first tabulator into the identifier and the command line of its run, if
no run has a newline in its pattern or in one of its lists of sizes; and only then. -/
theorem plan_reads_back_iff (hspec : m.tree.readSpec source.path = .ok spec)
    (hroot : 0x0A ∉ x.root.bytes) (hname : IsLine x.name) (hexecutable : 0x0A ∉ executable.bytes) :
    let runs := (spec.product.filter Constraints.standard.accepts).filterMap fun c =>
      (Run.ofCombination c x executable).toOption
    ∃ text, m.carryOut (.plan source x executable false) = .success (m.print text) ∧
      ((Lines.ofText? text).map (·.map Plan.cut?)
          = some (runs.map fun run => some (run.identifier, run.invocation.text)) ↔
        ∀ run ∈ runs, ∀ s ∈ run.setup.texts, IsLine s) := by
  intro runs
  have hruns : (spec.plannedRuns x executable).map Prod.snd = runs :=
    spec.map_snd_plannedRuns x executable
  rw [← hruns]
  exact ⟨_, carryOut_plan_text hspec x executable,
    Plan.read_lines_iff (fun _ => Spec.exists_ofCombination) hroot hname hexecutable⟩

theorem plan_reads_back_iff_blank :
    let m := patterned "a b"
    let x := patternedExperiment
    m.tree.readSpec patternedSource.path = .ok (.patterned "a b") ∧ 0x0A ∉ x.root.bytes ∧
      IsLine x.name ∧ 0x0A ∉ patternedBenchmark.bytes ∧
      ∃ run : Run, run.identifier = "a-b_10_20_buf4096_scan1_sample1_lru_h5_c10" ∧
        ∃ text, m.carryOut (.plan patternedSource x patternedBenchmark false)
            = .success (m.print text) ∧
          (Lines.ofText? text).map (·.map Plan.cut?)
            = some [some (run.identifier, run.invocation.text)] := by
  intro m x
  have hspec : m.tree.readSpec patternedSource.path = .ok (.patterned "a b") :=
    Traversal.toOption_eq_some_iff.mp (by decide +kernel)
  have hroot : 0x0A ∉ x.root.bytes := by decide
  have hname : IsLine x.name := by decide
  have hbenchmark : 0x0A ∉ patternedBenchmark.bytes := by decide
  have hread : ((Spec.patterned "a b").plannedRuns x patternedBenchmark).map
      (fun numbered => (numbered.1, numbered.2.setup.texts, numbered.2.identifier))
        = [(1, ["a b", "10", "20"], "a-b_10_20_buf4096_scan1_sample1_lru_h5_c10")] := by
    decide +kernel
  obtain ⟨run, hplanned, htexts, hidentifier⟩ := Spec.exists_plannedRuns_eq_singleton hread
  obtain ⟨text, hplan, hiff⟩ := plan_reads_back_iff hspec hroot hname hbenchmark
  rw [← Spec.map_snd_plannedRuns, hplanned, List.map_singleton] at hiff
  refine ⟨hspec, hroot, hname, hbenchmark, run, hidentifier, text, hplan, hiff.mpr ?_⟩
  rw [List.forall_mem_singleton, htexts]
  decide

/-- A newline in a pattern stands in the command line as it is, and the one run of the plan takes
several lines. -/
theorem newline_splits_plan :
    let m := patterned "\"a\\nb\""
    let x := patternedExperiment
    m.tree.readSpec patternedSource.path = .ok (.patterned "a\nb") ∧ 0x0A ∉ x.root.bytes ∧
      IsLine x.name ∧ 0x0A ∉ patternedBenchmark.bytes ∧
      ∃ run, ((Spec.patterned "a\nb").product.filter Constraints.standard.accepts).filterMap
          (fun c => (Run.ofCombination c x patternedBenchmark).toOption) = [run] ∧
        ¬∃ text, m.carryOut (.plan patternedSource x patternedBenchmark false)
            = .success (m.print text) ∧
          (Lines.ofText? text).map (·.map Plan.cut?)
            = some [some (run.identifier, run.invocation.text)] := by
  intro m x
  have hspec := readSpec_patterned_newline
  have hroot : 0x0A ∉ x.root.bytes := by decide
  have hname : IsLine x.name := by decide
  have hbenchmark : 0x0A ∉ patternedBenchmark.bytes := by decide
  obtain ⟨run, hplanned, htexts, -⟩ := exists_plannedRuns_newline
  have hruns : ((Spec.patterned "a\nb").plannedRuns x patternedBenchmark).map Prod.snd = [run] := by
    rw [hplanned, List.map_singleton]
  refine ⟨hspec, hroot, hname, hbenchmark, run, ?_, ?_⟩
  · rw [← Spec.map_snd_plannedRuns, hruns]
  · rintro ⟨text, hplan, hread⟩
    rw [carryOut_plan_text hspec] at hplan
    rw [← m.print_injective (congrArg Execution.machine hplan), hruns] at hread
    have hlines := (Plan.read_lines_iff (hruns ▸ fun _ => Spec.exists_ofCombination) hroot hname
      hbenchmark).mp hread run List.mem_cons_self
    rw [htexts] at hlines
    revert hlines
    decide

end Machine

end

end TierSweep
