import TierSweep.Proofs.Identifier.Characters
import TierSweep.Proofs.Run.Reading
import TierSweep.Run

/-!
# How runs are derived

A combination that is a run configuration determines the texts of all parameters of its run: each is
the text of the value that the combination has for it (`RunSetup.reads_of_ofCombination`). The
identifier, the files and the arguments of a run are those of its configuration.

## Main definitions

* `RunSetup.Reads` — a configuration has the texts of a combination.

## Main results

* `RunSetup.reads_of_ofCombination`.
* `Run.exists_ofSetup`.
-/

namespace TierSweep

/-- The text of the value of a parameter. -/
def Combination.text? (c : Combination) (name : String) : Option String :=
  (c.get? name).map Value.render

namespace RunSetup

/-- The texts of a configuration are those of the values that a combination has. -/
structure Reads (r : RunSetup) (c : Combination) : Prop where
  policy : c.get? CommonField.policyType.name = some (.text r.policy.name)
  pattern : c.text? CommonField.pattern.name = some r.pattern
  clientTierSizes : c.text? CommonField.clientTierSizes.name = some r.clientTierSizes
  serverMemSizes : c.text? CommonField.serverMemSizes.name = some r.serverMemSizes
  bufferSize : c.text? CommonField.bufferSize.name = some (toString r.bufferSize)
  runningTime : c.text? CommonField.runningTime.name = some r.runningTime.render
  numTiers : c.text? CommonField.numTiers.name = some (toString r.numTiers)
  scanInterval : c.text? CommonField.scanInterval.name = some r.scanInterval.render
  sampleRate : c.text? CommonField.sampleRate.name = some r.sampleRate.render
  tuning : ∀ p ∈ r.tuning, c.text? p.1.name = some p.2.render

variable {c : Combination} {r : RunSetup}

/-- A value that counts something is written as the number. -/
theorem render_of_nat? {v : Value} {n : Nat} (h : v.nat? = some n) : v.render = toString n := by
  rw [Value.nat?.eq_def] at h
  split at h
  · next k =>
    split at h
    · next hk =>
      obtain rfl := Option.some.inj h
      have hcast : ((k.toInt.toNat : Nat) : Int) = k.toInt := Int.toNat_of_nonneg hk
      rw [Value.render, Number.render, ← hcast]
      rfl
    · cases h
  · cases h

theorem render_of_text? {v : Value} {s : String} (h : v.text? = some s) : v.render = s := by
  cases v with
  | bool => cases h
  | number => cases h
  | text => exact Option.some.inj h

theorem render_of_sizes? {v : Value} {s : String} (h : v.sizes? = some s) : v.render = s := by
  cases v with
  | bool => cases h
  | number n =>
    cases n with
    | int => exact Option.some.inj h
    | float => cases h
  | text => exact Option.some.inj h

theorem render_of_number? {v : Value} {n : Number} (h : v.number? = some n) :
    v.render = n.render := by
  cases v with
  | bool => cases h
  | number => exact congrArg Number.render (Option.some.inj h)
  | text => cases h

/-- A parameter that is read has the text of what it is read as. -/
theorem text?_of_bind {α : Type} {name : String} {convert : Value → Option α} {a : α}
    {text : String} (h : c.get? name >>= convert = some a)
    (hrender : ∀ {v}, convert v = some a → v.render = text) : c.text? name = some text := by
  obtain ⟨v, hv, ha⟩ := Option.bind_eq_some_iff.mp h
  rw [Combination.text?, hv, Option.map_some, hrender ha]

/-- A configuration that has the values of a combination has their texts. -/
theorem Carries.reads (h : r.Carries c) : r.Reads c where
  policy := h.policy
  pattern := text?_of_bind h.pattern render_of_text?
  clientTierSizes := text?_of_bind h.clientTierSizes render_of_sizes?
  serverMemSizes := text?_of_bind h.serverMemSizes render_of_sizes?
  bufferSize := text?_of_bind h.bufferSize render_of_nat?
  runningTime := text?_of_bind h.runningTime render_of_number?
  numTiers := text?_of_bind h.numTiers render_of_nat?
  scanInterval := text?_of_bind h.scanInterval render_of_number?
  sampleRate := text?_of_bind h.sampleRate render_of_number?
  tuning := fun entry hentry => text?_of_bind (h.tuning entry hentry) render_of_number?

/-- A combination that is a run configuration has a value for every parameter of the run. -/
theorem reads_of_ofCombination (h : ofCombination c = .ok r) : r.Reads c :=
  (ofCombination_eq_ok_iff.mp h).reads

end RunSetup

namespace Run

variable {c : Combination} {x : Experiment} {executable : Path} {run : Run}

/-- A run is derived from its checked combination. -/
theorem exists_ofSetup (h : ofCombination c x executable = .ok run) :
    ∃ setup, RunSetup.ofCombination c = .ok setup ∧ run = ofSetup setup x executable := by
  rw [ofCombination] at h
  cases hsetup : RunSetup.ofCombination c with
  | error fault => rw [hsetup] at h; cases h
  | ok setup => rw [hsetup] at h; exact ⟨setup, rfl, (Except.ok.inj h).symm⟩

theorem setup_ofSetup (setup : RunSetup) (x : Experiment) (executable : Path) :
    (ofSetup setup x executable).setup = setup := by
  rw [ofSetup]

theorem identifier_ofSetup (setup : RunSetup) (x : Experiment) (executable : Path) :
    (ofSetup setup x executable).identifier = Identifier.ofSetup setup := by
  rw [ofSetup]

theorem files_ofSetup (setup : RunSetup) (x : Experiment) (executable : Path) :
    (ofSetup setup x executable).files = x.files (Identifier.ofSetup setup) := by
  rw [ofSetup]

theorem arguments_ofSetup (setup : RunSetup) (x : Experiment) (executable : Path) :
    (ofSetup setup x executable).invocation.arguments
      = Invocation.argumentsOf setup (x.files (Identifier.ofSetup setup)) := by
  simp only [ofSetup, Invocation.ofSetup]

/-- The identifier of every run is clean. -/
theorem isClean_identifier (h : ofCombination c x executable = .ok run) :
    Identifier.IsClean run.identifier := by
  obtain ⟨setup, -, rfl⟩ := exists_ofSetup h
  rw [identifier_ofSetup]
  exact Identifier.isClean_ofSetup setup

/-- The files of a run are those of its identifier. -/
theorem files_eq (h : ofCombination c x executable = .ok run) :
    run.files = x.files run.identifier := by
  obtain ⟨setup, -, rfl⟩ := exists_ofSetup h
  rw [identifier_ofSetup, files_ofSetup]

/-- A run is told where its files are to lie. -/
theorem files_infix_arguments (h : ofCombination c x executable = .ok run) :
    ["--output", run.files.cdf.display, "--periodic-output", run.files.periodic.display]
      <:+: run.invocation.arguments := by
  obtain ⟨setup, -, rfl⟩ := exists_ofSetup h
  rw [arguments_ofSetup, files_ofSetup]
  generalize x.files (Identifier.ofSetup setup) = files
  exact ⟨["-p", setup.pattern, "-c", setup.clientTierSizes, "-b", toString setup.bufferSize,
    "--running-time", setup.runningTime.render, "-s", setup.serverMemSizes,
    "--policy-type", setup.policy.name, "-t", toString setup.numTiers,
    "--scan-interval", setup.scanInterval.render, "--sample-rate", setup.sampleRate.render],
    setup.tuning.flatMap fun p => [p.1.flag, p.2.render], rfl⟩

end Run

end TierSweep
