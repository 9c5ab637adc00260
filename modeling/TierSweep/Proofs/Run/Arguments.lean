import Mathlib.Data.List.Nodup
import TierSweep.Proofs.Identifier.Injectivity

/-!
# Arguments of a run

The arguments of a run are options, each a flag and a value. Flags and values alternate, so that the
arguments are read pair by pair, whatever the values look like. No flag is given twice, so every
parameter has the one value that stands behind its flag (`Invocation.mem_optionsOf_common`,
`Invocation.mem_optionsOf_tuning`). The arguments of two runs of an experiment are therefore the
same only if all their parameters have the same texts; and then the identifiers are the same, too,
and so are the result files, which are the only other values.

## Main definitions

* `CommonField.flag` — the flag of a common parameter.
* `Invocation.options?`, `Invocation.optionsOf` — arguments as pairs of a flag and a value.

## Main results

* `Invocation.argumentsOf_eq`, `Invocation.nodup_flagsOf`.
* `Invocation.arguments_faithful`.
-/

namespace TierSweep

/-- The command line flag of a common parameter. -/
def CommonField.flag : CommonField → String
  | pattern => "-p"
  | clientTierSizes => "-c"
  | serverMemSizes => "-s"
  | bufferSize => "-b"
  | runningTime => "--running-time"
  | policyType => "--policy-type"
  | numTiers => "-t"
  | scanInterval => "--scan-interval"
  | sampleRate => "--sample-rate"

/-- The value that is looked up for a parameter is listed. -/
theorem RunSetup.tuningText?_eq_some_iff {r : RunSetup} {f : TuningField} {text : String} :
    r.tuningText? f = some text ↔ ∃ n, (f, n) ∈ r.tuning ∧ n.render = text := by
  constructor
  · intro h
    obtain ⟨n, hn, htext⟩ := Option.map_eq_some_iff.mp h
    obtain ⟨⟨g, m⟩, hfind, rfl⟩ := Option.map_eq_some_iff.mp hn
    have hname : g.name = f.name := by simpa using List.find?_some hfind
    obtain rfl := TuningField.name_injective hname
    exact ⟨m, List.mem_of_find?_eq_some hfind, htext⟩
  · rintro ⟨n, hn, rfl⟩
    exact tuningText?_of_mem hn

namespace Invocation

/-- Reads arguments as pairs of a flag and a value. -/
def options? : List String → Option (List (String × String))
  | [] => some []
  | [_] => none
  | flag :: value :: rest => (options? rest).map ((flag, value) :: ·)

/-- The common parameters in the order of the arguments. -/
def commonFields : List CommonField :=
  [.pattern, .clientTierSizes, .bufferSize, .runningTime, .serverMemSizes, .policyType, .numTiers,
    .scanInterval, .sampleRate]

/-- The options of a run. -/
def optionsOf (r : RunSetup) (o : ResultFiles) : List (String × String) :=
  commonFields.map (fun field => (field.flag, r.textOf field))
    ++ [("--output", o.cdf.display), ("--periodic-output", o.periodic.display)]
    ++ r.tuning.map fun entry => (entry.1.flag, entry.2.render)

/-- The flags of a run under a policy. -/
def flagsOf (p : Policy) : List String :=
  commonFields.map CommonField.flag ++ ["--output", "--periodic-output"]
    ++ p.tuned.map TuningField.flag

variable {r q : RunSetup} {o o' : ResultFiles} {value : String}

/-- Options are read back from their flags and values. -/
theorem options?_flatMap (options : List (String × String)) :
    options? (options.flatMap fun option => [option.1, option.2]) = some options := by
  induction options with
  | nil => rfl
  | cons option options ih =>
    rw [List.flatMap_cons, List.cons_append, List.cons_append, List.nil_append, options?, ih,
      Option.map_some]

theorem argumentsOf_eq (r : RunSetup) (o : ResultFiles) :
    argumentsOf r o = (optionsOf r o).flatMap fun option => [option.1, option.2] := by
  rw [argumentsOf, optionsOf, List.flatMap_append, List.flatMap_map]
  rfl

theorem options?_argumentsOf (r : RunSetup) (o : ResultFiles) :
    options? (argumentsOf r o) = some (optionsOf r o) := by
  rw [argumentsOf_eq, options?_flatMap]

theorem fst_optionsOf (r : RunSetup) (o : ResultFiles) :
    (optionsOf r o).map Prod.fst = flagsOf r.policy := by
  rw [optionsOf, flagsOf, List.map_append, List.map_append, ← r.tuning_eq]
  simp only [List.map_map]
  rfl

theorem nodup_flagsOf (p : Policy) : (flagsOf p).Nodup := by cases p <;> decide

theorem mem_commonFields (field : CommonField) : field ∈ commonFields := by cases field <;> decide

theorem flag_mem_flagsOf_iff {p : Policy} {f : TuningField} : f.flag ∈ flagsOf p ↔ f ∈ p.tuned := by
  cases p <;> cases f <;> decide

theorem length_argumentsOf (r : RunSetup) (o : ResultFiles) :
    (argumentsOf r o).length = 22 + 2 * r.policy.tuned.length := by
  have hlength : (optionsOf r o).length = 11 + r.policy.tuned.length := by
    rw [← List.length_map Prod.fst, fst_optionsOf, flagsOf, List.length_append, List.length_map]
    rfl
  have hpair : ∀ option ∈ optionsOf r o, [option.1, option.2].length = 2 := fun _ _ => rfl
  rw [argumentsOf_eq, List.length_flatMap, List.map_congr_left hpair, List.map_const',
    List.sum_replicate_nat, hlength]
  omega

/-- A flag has one value. -/
theorem snd_eq_of_mem {flag value value' : String} (h : (flag, value) ∈ optionsOf r o)
    (h' : (flag, value') ∈ optionsOf r o) : value = value' := by
  have hnodup : ((optionsOf r o).map Prod.fst).Nodup := by
    rw [fst_optionsOf]
    exact nodup_flagsOf r.policy
  exact congrArg Prod.snd (List.inj_on_of_nodup_map hnodup h h' rfl)

theorem mem_optionsOf_common {field : CommonField} :
    (field.flag, value) ∈ optionsOf r o ↔ value = r.textOf field := by
  have hmem : (field.flag, r.textOf field) ∈ optionsOf r o :=
    List.mem_append_left _ (List.mem_append_left _
      (List.mem_map_of_mem (f := fun field => (field.flag, r.textOf field))
        (mem_commonFields field)))
  exact ⟨fun h => snd_eq_of_mem h hmem, fun h => h ▸ hmem⟩

theorem mem_optionsOf_tuning {f : TuningField} :
    (f.flag, value) ∈ optionsOf r o ↔ r.tuningText? f = some value := by
  have hmem {g : TuningField} {n : Number} (hn : (g, n) ∈ r.tuning) :
      (g.flag, n.render) ∈ optionsOf r o :=
    List.mem_append_right _
      (List.mem_map_of_mem (f := fun entry => (entry.1.flag, entry.2.render)) hn)
  rw [RunSetup.tuningText?_eq_some_iff]
  constructor
  · intro h
    have hflag : f.flag ∈ flagsOf r.policy := fst_optionsOf r o ▸ List.mem_map_of_mem h
    rw [flag_mem_flagsOf_iff, ← r.tuning_eq] at hflag
    obtain ⟨⟨_, n⟩, hn, rfl⟩ := List.mem_map.mp hflag
    exact ⟨n, hn, snd_eq_of_mem (hmem hn) h⟩
  · rintro ⟨n, hn, rfl⟩
    exact hmem hn

/-- The texts of all parameters are read off the arguments. -/
theorem texts_eq_of_argumentsOf_eq (h : argumentsOf r o = argumentsOf q o') :
    r.policy = q.policy ∧ (∀ field, r.textOf field = q.textOf field) ∧
      ∀ f, r.tuningText? f = q.tuningText? f := by
  have hoptions : optionsOf r o = optionsOf q o' := by
    have hread := congrArg options? h
    rw [options?_argumentsOf, options?_argumentsOf] at hread
    exact Option.some.inj hread
  have hcommon (field : CommonField) : r.textOf field = q.textOf field :=
    mem_optionsOf_common.mp (hoptions ▸ mem_optionsOf_common.mpr rfl)
  refine ⟨Policy.name_injective (hcommon .policyType), hcommon, fun f => Option.ext fun value => ?_⟩
  rw [← mem_optionsOf_tuning (o := o), ← mem_optionsOf_tuning (o := o'), hoptions]

/-- Runs of one experiment have the same arguments exactly when the texts of all their parameters
are the same. -/
theorem arguments_eq_iff (r q : RunSetup) (x : Experiment) (executable : Path) :
    (Run.ofSetup r x executable).invocation.arguments
        = (Run.ofSetup q x executable).invocation.arguments ↔
      r.policy = q.policy ∧ (∀ field, r.textOf field = q.textOf field) ∧
        ∀ f ∈ r.policy.tuned, r.tuningText? f = q.tuningText? f := by
  rw [Run.arguments_ofSetup, Run.arguments_ofSetup]
  constructor
  · intro h
    obtain ⟨hpolicy, hcommon, htuning⟩ := texts_eq_of_argumentsOf_eq h
    exact ⟨hpolicy, hcommon, fun f _ => htuning f⟩
  · rintro ⟨hpolicy, hcommon, htuning⟩
    obtain ⟨hmatches, htexts⟩ := Identifier.matches_and_texts_eq_iff.mpr
      ⟨hpolicy, fun field _ => hcommon field, htuning⟩
    -- the identifier is part of the output paths, and it depends on the same texts
    have hidentifier : Identifier.ofSetup r = Identifier.ofSetup q := by
      rw [Identifier.ofSetup_eq_iff, Identifier.joinedTexts, Identifier.joinedTexts, htexts]
      exact ⟨hmatches, rfl⟩
    rw [hidentifier]
    exact (argumentsOf_eq_iff hmatches _).mpr ⟨htexts, hcommon .runningTime, hcommon .numTiers⟩

/-- **Arguments tell the parameters.** The arguments of a run are pairs of a flag and a value. No
flag is given twice. Each common parameter and each parameter of the policy has its text behind its
flag, and there are no flags of other parameters. The arguments of two runs of one experiment are
the same exactly when the policies are, and the texts of all parameters. -/
theorem arguments_faithful :
    (∀ (r : RunSetup) (o : ResultFiles),
      (argumentsOf r o).length = 22 + 2 * r.policy.tuned.length ∧
      ∃ options, options? (argumentsOf r o) = some options ∧
        (options.map Prod.fst).Nodup ∧
        (∀ field value, (CommonField.flag field, value) ∈ options ↔ value = r.textOf field) ∧
        (∀ f value, (TuningField.flag f, value) ∈ options ↔ r.tuningText? f = some value) ∧
        (∀ f, TuningField.flag f ∈ options.map Prod.fst ↔ f ∈ r.policy.tuned) ∧
        ("--output", o.cdf.display) ∈ options ∧
        ("--periodic-output", o.periodic.display) ∈ options) ∧
    ∀ (r q : RunSetup) (x : Experiment) (executable : Path),
      (Run.ofSetup r x executable).invocation.arguments
          = (Run.ofSetup q x executable).invocation.arguments ↔
        r.policy = q.policy ∧ (∀ field, r.textOf field = q.textOf field) ∧
          ∀ f ∈ r.policy.tuned, r.tuningText? f = q.tuningText? f := by
  refine ⟨fun r o => ⟨length_argumentsOf r o, optionsOf r o, options?_argumentsOf r o, ?_⟩,
    arguments_eq_iff⟩
  rw [fst_optionsOf]
  refine ⟨nodup_flagsOf r.policy, fun _ _ => mem_optionsOf_common, fun _ _ => mem_optionsOf_tuning,
    fun _ => flag_mem_flagsOf_iff, ?_, ?_⟩
  · simp [optionsOf]
  · simp [optionsOf]

-- sizes that look like a flag are read as a value
example (o : ResultFiles) :
    (options? (argumentsOf (Identifier.hyphens (.int 5) (.int 1)) o)).map (·.lookup "-c")
      = some (some "--") := rfl

end Invocation

end TierSweep
