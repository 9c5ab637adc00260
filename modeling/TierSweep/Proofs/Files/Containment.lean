import TierSweep.Proofs.Files.ResultFiles
import TierSweep.Proofs.Identifier.Injectivity
import TierSweep.Proofs.Run.Derivation

/-!
# Result files stay in their directory

The texts of a combination may be anything: absolute paths, names that lead upwards, blanks and
slashes of both kinds. None of the replaced characters reaches the identifier, so a result file's
name is a single component, and putting it into a directory neither replaces the directory nor leads
out of it (`Path.IsDirectlyIn`). Whatever the root and the name of the experiment are, both files of
a run lie directly in the directory of the experiment.

## Main definitions

* `Path.IsDirectlyIn` — a path leads to a name in a directory and nowhere else.

## Main results

* `Experiment.isDirectlyIn_of_mem_fileNames`.
* `Run.files_isDirectlyIn`.
-/

namespace TierSweep

/-- A path leads to a name directly in a directory: it is the directory continued by the name, the
name is a single component, and the components of the path are those of the directory and the name.
-/
structure Path.IsDirectlyIn (p directory : Path) (name : String) : Prop where
  joined : p = directory.join (.ofString name)
  single : (Path.ofString name).components = ([], [Utf8.encode name])
  components : p.components = (directory.components.1, directory.components.2 ++ [Utf8.encode name])

/-- A proper name is put directly into every directory. -/
theorem Path.isDirectlyIn_joinString (directory : Path) {name : String} (hslash : '/' ∉ name.toList)
    (hname : IsFileName (Utf8.encode name)) :
    (directory.joinString name).IsDirectlyIn directory name where
  joined := rfl
  single := components_append (.inl rfl) hname
  components := components_joinString directory hslash hname

namespace Experiment

theorem isDirectlyIn_of_mem_fileNames (x : Experiment) {identifier name : String}
    (h : Identifier.IsClean identifier) (hname : name ∈ fileNames identifier) :
    (x.directory.joinString name).IsDirectlyIn x.directory name := by
  obtain ⟨hslash, hfile⟩ := isFileName_of_mem_fileNames h hname
  exact x.directory.isDirectlyIn_joinString hslash hfile

theorem fileNames_eq (identifier : String) :
    fileNames identifier = ["cdf_" ++ identifier ++ ".csv", "periodic_" ++ identifier ++ ".csv"] := by
  simp [fileNames, fileName, cdfStem, periodicStem, extension, ← String.toList_inj]

end Experiment

namespace Run

variable {c : Combination} {setup : RunSetup}

theorem ofCombination_of_setup (h : RunSetup.ofCombination c = .ok setup) (x : Experiment)
    (executable : Path) : ofCombination c x executable = .ok (ofSetup setup x executable) := by
  rw [ofCombination, h]
  rfl

/-- **Result files never escape the directory of their experiment.** Take any combination that is a
run configuration, whatever its texts are. Its identifier contains no blank, comma, slash, backslash
or tabulator. For every root, name of the experiment and executable both files of its run lie
directly in the directory of the experiment, under names made of the identifier. The files of runs
with different identifiers lie at different places. -/
theorem files_isDirectlyIn (h : RunSetup.ofCombination c = .ok setup) :
    let identifier := Identifier.ofSetup setup
    (∀ char ∈ [' ', ',', '/', '\\', '\t'], char ∉ identifier.toList) ∧
      ∀ (x : Experiment) (executable : Path), ∃ run,
        ofCombination c x executable = .ok run ∧ run.identifier = identifier ∧
        run.files.cdf.IsDirectlyIn x.directory ("cdf_" ++ identifier ++ ".csv") ∧
        run.files.periodic.IsDirectlyIn x.directory ("periodic_" ++ identifier ++ ".csv") ∧
        ∀ c' executable' run', ofCombination c' x executable' = .ok run' →
          run'.identifier ≠ identifier →
            (run.files.paths ++ run'.files.paths).Nodup ∧
              ((run.files.paths ++ run'.files.paths).map Path.components).Nodup := by
  intro identifier
  have hclean : Identifier.IsClean identifier := Identifier.isClean_ofSetup setup
  refine ⟨Identifier.isClean_iff.mp hclean, fun x executable => ?_⟩
  have hnames := Experiment.fileNames_eq identifier
  have hfiles : (x.files identifier).paths = (Experiment.fileNames identifier).map
      x.directory.joinString := x.paths_files identifier
  have hin : ∀ name ∈ Experiment.fileNames identifier,
      (x.directory.joinString name).IsDirectlyIn x.directory name :=
    fun name => x.isDirectlyIn_of_mem_fileNames hclean
  rw [hnames] at hfiles hin
  obtain ⟨hcdf, hperiodic⟩ := List.cons.inj hfiles
  refine ⟨ofSetup setup x executable, ofCombination_of_setup h x executable,
    identifier_ofSetup setup x executable, ?_, ?_, fun c' executable' run' hrun' hne => ?_⟩
  · rw [files_ofSetup, show (x.files identifier).cdf = _ from hcdf]
    exact hin _ List.mem_cons_self
  · rw [files_ofSetup, show (x.files identifier).periodic = _ from (List.cons.inj hperiodic).1]
    exact hin _ (List.mem_cons_of_mem _ List.mem_cons_self)
  · have hnodup : [identifier, run'.identifier].Nodup := by
      rw [List.nodup_cons, List.mem_singleton]
      exact ⟨hne.symm, List.nodup_singleton _⟩
    have hplaces := (x.nodup_components_files hnodup (List.forall_mem_cons.mpr
      ⟨hclean, List.forall_mem_singleton.mpr (isClean_identifier hrun')⟩)).1
    rw [List.flatMap_cons, List.flatMap_singleton, ← files_eq hrun', ← files_ofSetup setup x executable]
      at hplaces
    exact ⟨hplaces.of_map _, hplaces⟩

/-- A combination whose texts are an absolute path, names that lead upwards, and separators. -/
def hostile (pattern : String) : Combination :=
  ⟨[("pattern", .text pattern), ("client_tier_sizes", .text "../../\\\t,"),
    ("server_mem_sizes", .text ".."), ("buffer_size", .int 1), ("running_time", .int (-1)),
    ("policy_type", .text "frequency"), ("num_tiers", .int 0), ("scan_interval", .float .nan),
    ("sample_rate", .int 0), ("hot_count", .int 0), ("cold_count", .int 0)]⟩

theorem files_isDirectlyIn_hostile :
    let x : Experiment := ⟨.ofString "/srv", "../tiers"⟩
    ∃ setup, RunSetup.ofCombination (hostile "/etc/passwd") = .ok setup ∧
      Identifier.ofSetup setup
        = "-etc-passwd_..-..----_.._buf1_scannan_sample0_frequency_hc0_cc0" ∧
      ∃ run run', ofCombination (hostile "/etc/passwd") x ⟨[]⟩ = .ok run ∧
        ofCombination (hostile "..") x ⟨[]⟩ = .ok run' ∧ run'.identifier ≠ run.identifier ∧
        run.files.cdf.IsDirectlyIn x.directory ("cdf_" ++ Identifier.ofSetup setup ++ ".csv") ∧
        (run.files.paths ++ run'.files.paths).Nodup := by
  intro x
  obtain ⟨setup, hsetup⟩ : ∃ setup, RunSetup.ofCombination (hostile "/etc/passwd") = .ok setup :=
    ⟨_, rfl⟩
  obtain ⟨run', hrun'⟩ : ∃ run', ofCombination (hostile "..") x ⟨[]⟩ = .ok run' := ⟨_, rfl⟩
  obtain ⟨-, hfiles⟩ := files_isDirectlyIn hsetup
  obtain ⟨run, hrun, hidentifier, hcdf, -, hdistinct⟩ := hfiles x ⟨[]⟩
  have hnamed : (RunSetup.ofCombination (hostile "/etc/passwd")).toOption.map Identifier.ofSetup
      = some "-etc-passwd_..-..----_.._buf1_scannan_sample0_frequency_hc0_cc0" := by decide +kernel
  have hnamed' : (ofCombination (hostile "..") x ⟨[]⟩).toOption.map identifier
      = some ".._..-..----_.._buf1_scannan_sample0_frequency_hc0_cc0" := by decide +kernel
  rw [hsetup] at hnamed
  rw [hrun'] at hnamed'
  have hsetup_name := Option.some.inj hnamed
  have hne : run'.identifier ≠ Identifier.ofSetup setup := by
    rw [hsetup_name, show run'.identifier = _ from Option.some.inj hnamed']
    decide
  exact ⟨setup, hsetup, hsetup_name, run, run', hrun, hrun', hidentifier ▸ hne, hcdf,
    (hdistinct _ _ run' hrun' hne).1⟩

end Run

end TierSweep
