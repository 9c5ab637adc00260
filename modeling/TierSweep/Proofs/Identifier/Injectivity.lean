import TierSweep.Proofs.Run.Dependence

/-!
# Identifiers of plain texts

Identifiers of configurations whose three texts are plain tell all that they carry: they are equal
exactly when the policies are, and the texts of all parameters that the identifiers of the policy
carry (`Identifier.ofSetup_eq_iff_of_plain`). The parameters of a policy are compared by name, as
they are looked up in a configuration; they stand in the order of the policy, so their texts make
up the whole list (`RunSetup.tuningTexts_eq_iff`).

## Main definitions

* `RunSetup.tuningText?` — the text of a parameter of the policy.

## Main results

* `Identifier.isPlain_iff`, `RunSetup.tuningTexts_eq_iff`.
* `Identifier.ofSetup_eq_iff_of_plain`.
-/

namespace TierSweep

theorem TuningField.name_injective {f g : TuningField} (h : f.name = g.name) : f = g := by
  cases f <;> cases g <;> first | rfl | exact absurd h (by decide)

theorem Policy.nodup_tuned (p : Policy) : p.tuned.Nodup := by cases p <;> decide

namespace RunSetup

variable {r q : RunSetup}

/-- The text that a configuration has for a parameter of its policy. -/
def tuningText? (r : RunSetup) (f : TuningField) : Option String :=
  (r.tuning? f.name).map Number.render

/-- The value listed for a parameter is the one that is looked up, as no parameter is listed twice.
-/
theorem tuning?_of_mem {p : TuningField × Number} (hp : p ∈ r.tuning) :
    r.tuning? p.1.name = some p.2 := by
  have hnodup : (r.tuning.map Prod.fst).Nodup := by
    rw [r.tuning_eq]
    exact r.policy.nodup_tuned
  rw [tuning?]
  revert hp hnodup
  induction r.tuning with
  | nil => simp
  | cons entry entries ih =>
    intro hp hnodup
    rw [List.map_cons, List.nodup_cons] at hnodup
    rcases List.mem_cons.mp hp with rfl | hp
    · simp
    · have hne : entry.1.name ≠ p.1.name := fun h =>
        hnodup.1 (TuningField.name_injective h ▸ List.mem_map_of_mem hp)
      simpa [hne] using ih hp hnodup.2

theorem tuningText?_of_mem {p : TuningField × Number} (hp : p ∈ r.tuning) :
    r.tuningText? p.1 = some p.2.render := by
  rw [tuningText?, tuning?_of_mem hp, Option.map_some]

theorem map_tuningTexts (r : RunSetup) :
    r.tuningTexts.map (fun p => (p.1, some p.2))
      = r.policy.tuned.map fun f => (f, r.tuningText? f) := by
  rw [tuningTexts, ← r.tuning_eq, List.map_map, List.map_map]
  exact List.map_congr_left fun p hp => by simp [tuningText?_of_mem hp]

/-- Under one policy the texts of its parameters are the same altogether when each of them is. -/
theorem tuningTexts_eq_iff (hpolicy : r.policy = q.policy) :
    r.tuningTexts = q.tuningTexts ↔ ∀ f ∈ r.policy.tuned, r.tuningText? f = q.tuningText? f := by
  have hinj (p p' : TuningField × String) (h : (p.1, some p.2) = (p'.1, some p'.2)) : p = p' :=
    Prod.ext (Prod.mk.inj h).1 (Option.some.inj (Prod.mk.inj h).2)
  rw [← List.map_inj_right hinj, map_tuningTexts, map_tuningTexts, ← hpolicy, List.map_inj_left]
  simp

end RunSetup

namespace Identifier

/-- The characters that plain texts do not contain: the separator and those that identifiers
replace. -/
theorem isPlain_iff {s : String} :
    IsPlain s ↔ ∀ c ∈ ['_', ' ', ',', '/', '\\', '\t'], c ∉ s.toList := by
  rw [IsPlain, isClean_iff, List.forall_mem_cons (l := [' ', ',', '/', '\\', '\t']), and_comm]
  rfl

variable {r q : RunSetup}

/-- Configurations match and have the same texts exactly when they agree, parameter by parameter, on
all that identifiers carry. -/
theorem matches_and_texts_eq_iff :
    r.Matches q ∧ r.texts = q.texts ↔
      r.policy = q.policy ∧ (∀ field ∈ commonFields, r.textOf field = q.textOf field) ∧
        ∀ f ∈ r.policy.tuned, r.tuningText? f = q.tuningText? f := by
  have hfields : (∀ field ∈ commonFields, r.textOf field = q.textOf field) ↔
      (r.pattern = q.pattern ∧ r.clientTierSizes = q.clientTierSizes ∧
        r.serverMemSizes = q.serverMemSizes ∧ toString r.bufferSize = toString q.bufferSize ∧
        r.scanInterval.render = q.scanInterval.render ∧ r.sampleRate.render = q.sampleRate.render ∧
        r.policy.name = q.policy.name) := by
    simp [commonFields, RunSetup.textOf]
  rw [hfields, RunSetup.texts, RunSetup.texts]
  constructor
  · rintro ⟨⟨hpolicy, hbuffer, hscan, hsample, htuning⟩, htexts⟩
    simp only [List.cons.injEq, and_true] at htexts
    obtain ⟨hpattern, hclient, hserver⟩ := htexts
    exact ⟨hpolicy, ⟨hpattern, hclient, hserver, hbuffer, hscan, hsample, by rw [hpolicy]⟩,
      (RunSetup.tuningTexts_eq_iff hpolicy).mp htuning⟩
  · rintro ⟨hpolicy, ⟨hpattern, hclient, hserver, hbuffer, hscan, hsample, -⟩, htuned⟩
    exact ⟨⟨hpolicy, hbuffer, hscan, hsample, (RunSetup.tuningTexts_eq_iff hpolicy).mpr htuned⟩,
      by rw [hpattern, hclient, hserver]⟩

/-- **Identifiers of plain texts tell all that they carry.** Take any two configurations whose
pattern and sizes contain neither the separator nor a blank, comma, slash, backslash or tabulator.
They share an identifier exactly when they have the same policy and the same text for every common
parameter that identifiers carry and for every parameter of the policy. -/
theorem ofSetup_eq_iff_of_plain
    (hr : ∀ s ∈ r.texts, ∀ c ∈ ['_', ' ', ',', '/', '\\', '\t'], c ∉ s.toList)
    (hq : ∀ s ∈ q.texts, ∀ c ∈ ['_', ' ', ',', '/', '\\', '\t'], c ∉ s.toList) :
    ofSetup r = ofSetup q ↔
      r.policy = q.policy ∧ (∀ field ∈ commonFields, r.textOf field = q.textOf field) ∧
        ∀ f ∈ r.policy.tuned, r.tuningText? f = q.tuningText? f := by
  rw [ofSetup_eq_iff, ← matches_and_texts_eq_iff]
  refine and_congr_right fun _ => ⟨fun h => ?_, fun h => ?_⟩
  · exact texts_eq_of_joinedTexts_eq (fun s hs => isPlain_iff.mpr (hr s hs))
      (fun s hs => isPlain_iff.mpr (hq s hs)) h
  · rw [joinedTexts, joinedTexts, h]

/-- A configuration with an empty text and one of hyphens. -/
def hyphens (runningTime scanInterval : Number) : RunSetup where
  pattern := ""
  clientTierSizes := "--"
  serverMemSizes := "100-200"
  bufferSize := 10
  runningTime := runningTime
  policy := .frequency
  numTiers := 2
  scanInterval := scanInterval
  sampleRate := .int 100
  tuning := [(.hotCount, .int 8), (.coldCount, .int (-2))]
  tuning_eq := rfl

theorem ofSetup_eq_iff_of_plain_hyphens :
    let r := hyphens (.int 5) (.float (.infinity true))
    let q := hyphens (.float .nan) (.float (.infinity true))
    let t := hyphens (.int 5) (.float (.infinity false))
    (∀ s ∈ r.texts ++ q.texts ++ t.texts, ∀ c ∈ ['_', ' ', ',', '/', '\\', '\t'], c ∉ s.toList) ∧
      r ≠ q ∧ ofSetup r = ofSetup q ∧ ofSetup r ≠ ofSetup t := by
  intro r q t
  have hplain : ∀ s ∈ r.texts ++ q.texts ++ t.texts,
      ∀ c ∈ ['_', ' ', ',', '/', '\\', '\t'], c ∉ s.toList := by
    simp [RunSetup.texts, r, q, t, hyphens]
  have hr := fun s hs => hplain s (List.mem_append_left _ (List.mem_append_left _ hs))
  have hq := fun s hs => hplain s (List.mem_append_left _ (List.mem_append_right _ hs))
  have ht := fun s hs => hplain s (List.mem_append_right _ hs)
  refine ⟨hplain, by decide, (ofSetup_eq_iff_of_plain hr hq).mpr ⟨rfl, by decide, by decide⟩,
    fun h => ?_⟩
  have hfields := ((ofSetup_eq_iff_of_plain hr ht).mp h).2.1
  exact absurd (hfields .scanInterval (by decide)) (by decide)

end Identifier

end TierSweep
