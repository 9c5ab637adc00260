import TierSweep.Proofs.Identifier.Splitting
import TierSweep.Proofs.Run.Derivation

/-!
# What runs depend on

Under a policy a run has to have the common parameters and those of the policy
(`Policy.required`). A combination is checked by reading these parameters one after another and
nothing else. So if one of two combinations has the same values for them, except that some are lost,
then the results are the same, or the second combination is refused because it lacks one of the lost
parameters (`RunSetup.same_ofCombination`). When nothing is lost, the results are the same; when one
parameter is removed from a valid combination, it is the one that is found to be missing.
Identifiers depend on fewer parameters, those that they carry
(`Identifier.ofSetup_eq_of_agreesOn`).

## Main definitions

* `Policy.required` — the parameters that a run must have under a policy.
* `Combination.AgreesOn`, `Combination.without`.
* `RunSetup.SameUnlessLost` — two results agree up to lost parameters.
* `RunSetup.textOf` — the texts of a configuration by parameter.

## Main results

* `RunSetup.same_ofCombination`, `Identifier.ofSetup_eq_of_agreesOn`.
* `RunSetup.depends_on_required`.
-/

namespace TierSweep

/-- The names of all parameters that a run must have under a policy. -/
def Policy.required (p : Policy) : List String :=
  CommonField.names ++ p.tuned.map TuningField.name

theorem Policy.commonField_mem_required (p : Policy) (field : CommonField) :
    field.name ∈ p.required :=
  List.mem_append_left _ (List.mem_map_of_mem field.mem_all)

theorem Policy.name_injective {p q : Policy} (h : p.name = q.name) : p = q := by
  cases p <;> cases q <;> first | rfl | exact absurd h (by decide)

namespace Combination

variable {c d : Combination} {name other : String}

/-- Two combinations have the same values for some parameters. -/
def AgreesOn (c d : Combination) (names : List String) : Prop :=
  ∀ name ∈ names, c.get? name = d.get? name

instance (c d : Combination) (names : List String) : Decidable (c.AgreesOn d names) :=
  inferInstanceAs (Decidable (∀ name ∈ names, c.get? name = d.get? name))

/-- A combination names a policy. -/
def HasPolicy (c : Combination) (p : Policy) : Prop :=
  c.get? CommonField.policyType.name = some (.text p.name)

/-- Removes a parameter: the first entry of its name. -/
def without (c : Combination) (name : String) : Combination :=
  ⟨c.entries.eraseP (·.1 = name)⟩

theorem get?_without_of_ne (h : other ≠ name) : (c.without name).get? other = c.get? other := by
  obtain ⟨entries⟩ := c
  simp only [without, get?]
  induction entries with
  | nil => rfl
  | cons entry entries ih =>
    by_cases hentry : entry.1 = name
    · have hskip : (other == entry.1) = false := beq_eq_false_iff_ne.mpr (hentry ▸ h)
      rw [List.eraseP_cons, decide_eq_true hentry, List.lookup_cons, hskip]
      rfl
    · rw [List.eraseP_cons, decide_eq_false hentry, cond_false, List.lookup_cons, List.lookup_cons,
        ih]

/-- A parameter that is removed is gone if it was there once. -/
theorem get?_without (h : c.names.Nodup) : (c.without name).get? name = none := by
  obtain ⟨entries⟩ := c
  simp only [without, get?, names] at h ⊢
  induction entries with
  | nil => rfl
  | cons entry entries ih =>
    rw [List.map_cons, List.nodup_cons] at h
    by_cases hentry : entry.1 = name
    · rw [List.eraseP_cons, decide_eq_true hentry, cond_true, List.lookup_eq_none_iff]
      exact fun p hp => bne_iff_ne.mpr fun heq =>
        h.1 (List.mem_map.mpr ⟨p, hp, heq.symm.trans hentry.symm⟩)
    · have hskip : (name == entry.1) = false := beq_eq_false_iff_ne.mpr (Ne.symm hentry)
      rw [List.eraseP_cons, decide_eq_false hentry, cond_false, List.lookup_cons, hskip]
      exact ih h.2

end Combination

namespace RunSetup

/-! ### Results up to lost parameters -/

/-- Two results are the same, unless the second one is that a lost parameter is missing. -/
def SameUnlessLost (lost : String → Prop) (p : Policy) {α : Type}
    (x y : Except SetupFault α) : Prop :=
  x = y ∨ ∃ name, lost name ∧ y = .error (.missing name (some p))

/-- The value for a parameter is the same, or the parameter is lost. -/
def KeptUnlessLost (lost : String → Prop) (c d : Combination) (name : String) : Prop :=
  c.get? name = d.get? name ∨ lost name ∧ d.get? name = none

section

variable {lost : String → Prop} {p : Policy} {α β : Type} {c d : Combination}

theorem SameUnlessLost.bind {x y : Except SetupFault α} {f g : α → Except SetupFault β}
    (h : SameUnlessLost lost p x y) (hrest : ∀ a, SameUnlessLost lost p (f a) (g a)) :
    SameUnlessLost lost p (x >>= f) (y >>= g) := by
  rcases h with rfl | ⟨name, hlost, rfl⟩
  · cases x with
    | error fault => exact .inl rfl
    | ok a => exact hrest a
  · exact .inr ⟨name, hlost, rfl⟩

theorem same_require {field : String} (h : KeptUnlessLost lost c d field) :
    SameUnlessLost lost p (require c field (some p)) (require d field (some p)) := by
  rcases h with h | ⟨hlost, hnone⟩
  · exact .inl (by rw [require, require, h])
  · exact .inr ⟨field, hlost, by rw [require, hnone]⟩

theorem same_text {field : CommonField} (h : KeptUnlessLost lost c d field.name) :
    SameUnlessLost lost p (text c field p) (text d field p) :=
  (same_require h).bind fun _ => .inl rfl

theorem same_sizes {field : CommonField} (h : KeptUnlessLost lost c d field.name) :
    SameUnlessLost lost p (sizes c field p) (sizes d field p) :=
  (same_require h).bind fun _ => .inl rfl

theorem same_count {field : CommonField} (h : KeptUnlessLost lost c d field.name) :
    SameUnlessLost lost p (count c field p) (count d field p) :=
  (same_require h).bind fun _ => .inl rfl

theorem same_number {field : String} (h : KeptUnlessLost lost c d field) :
    SameUnlessLost lost p (number c field p) (number d field p) :=
  (same_require h).bind fun _ => .inl rfl

theorem same_tune {fields : List TuningField}
    (h : ∀ f ∈ fields, KeptUnlessLost lost c d f.name) :
    SameUnlessLost lost p (tune c p fields) (tune d p fields) := by
  induction fields with
  | nil => exact .inl rfl
  | cons f fields ih =>
    refine (same_number (h f List.mem_cons_self)).bind fun _ => ?_
    exact (ih fun g hg => h g (List.mem_cons_of_mem f hg)).bind fun _ => .inl rfl

/-- A combination that has the same values for all required parameters, except that some are lost,
leads to the same result, unless one that is lost is found to be missing. -/
theorem same_ofCombination (hc : c.HasPolicy p) (hd : d.HasPolicy p)
    (h : ∀ name ∈ p.required, KeptUnlessLost lost c d name) :
    SameUnlessLost lost p (ofCombination c) (ofCombination d) := by
  have hcommon (field : CommonField) : KeptUnlessLost lost c d field.name :=
    h field.name (p.commonField_mem_required field)
  have htuned : ∀ f ∈ p.tuned, KeptUnlessLost lost c d f.name := fun f hf =>
    h f.name (List.mem_append_right _ (List.mem_map_of_mem hf))
  rw [ofCombination, ofCombination, policyOf_eq_ok_iff.mpr hc, policyOf_eq_ok_iff.mpr hd]
  -- the parameters in the order in which they are read
  refine (same_text (hcommon .pattern)).bind fun _ => ?_
  refine (same_sizes (hcommon .clientTierSizes)).bind fun _ => ?_
  refine (same_sizes (hcommon .serverMemSizes)).bind fun _ => ?_
  refine (same_count (hcommon .bufferSize)).bind fun _ => ?_
  refine (same_number (hcommon .runningTime)).bind fun _ => ?_
  refine (same_count (hcommon .numTiers)).bind fun _ => ?_
  refine (same_number (hcommon .scanInterval)).bind fun _ => ?_
  refine (same_number (hcommon .sampleRate)).bind fun _ => ?_
  exact (same_tune htuned).bind fun _ => .inl rfl

end

/-! ### Texts of a configuration -/

/-- The text that a configuration has for a common parameter. -/
def textOf (r : RunSetup) : CommonField → String
  | .pattern => r.pattern
  | .clientTierSizes => r.clientTierSizes
  | .serverMemSizes => r.serverMemSizes
  | .bufferSize => toString r.bufferSize
  | .runningTime => r.runningTime.render
  | .policyType => r.policy.name
  | .numTiers => toString r.numTiers
  | .scanInterval => r.scanInterval.render
  | .sampleRate => r.sampleRate.render

variable {p : Policy} {c d : Combination} {r q : RunSetup} {name : String}

theorem Reads.text?_common (h : r.Reads c) (field : CommonField) :
    c.text? field.name = some (r.textOf field) := by
  cases field with
  | pattern => exact h.pattern
  | clientTierSizes => exact h.clientTierSizes
  | serverMemSizes => exact h.serverMemSizes
  | bufferSize => exact h.bufferSize
  | runningTime => exact h.runningTime
  | policyType => exact congrArg (Option.map Value.render) h.policy
  | numTiers => exact h.numTiers
  | scanInterval => exact h.scanInterval
  | sampleRate => exact h.sampleRate

/-- The texts of the parameters of the policy are those that the combination has for them. -/
theorem Reads.map_tuningTexts (h : r.Reads c) :
    r.tuningTexts.map (fun p => (p.1, some p.2))
      = r.policy.tuned.map fun f => (f, c.text? f.name) := by
  rw [← r.fst_tuningTexts, List.map_map]
  refine List.map_congr_left fun entry hentry => ?_
  obtain ⟨p, hp, rfl⟩ := List.mem_map.mp hentry
  exact congrArg (Prod.mk p.1) (h.tuning p hp).symm

/-- A combination that is a run configuration has a text for every required parameter. -/
theorem Reads.exists_text_of_mem_required (h : r.Reads c) (hname : name ∈ r.policy.required) :
    ∃ text, c.text? name = some text := by
  rcases List.mem_append.mp hname with hname | hname
  · obtain ⟨field, -, rfl⟩ := List.mem_map.mp hname
    exact ⟨_, h.text?_common field⟩
  · obtain ⟨f, hf, rfl⟩ := List.mem_map.mp hname
    have hmem : (f, c.text? f.name) ∈ r.tuningTexts.map fun p => (p.1, some p.2) := by
      rw [h.map_tuningTexts]
      exact List.mem_map_of_mem hf
    obtain ⟨⟨_, text⟩, -, heq⟩ := List.mem_map.mp hmem
    exact ⟨text, (Prod.mk.inj heq).2.symm⟩

/-! ### The required parameters -/

theorem policy_of_hasPolicy (h : c.HasPolicy p) (hr : ofCombination c = .ok r) : r.policy = p := by
  have hread := (reads_of_ofCombination hr).policy
  rw [h] at hread
  exact (Policy.name_injective (Value.text.inj (Option.some.inj hread))).symm

/-- Combinations that have the same values for all required parameters lead to the same result. -/
theorem ofCombination_congr (hc : c.HasPolicy p) (h : c.AgreesOn d p.required) :
    ofCombination c = ofCombination d := by
  have hd : d.HasPolicy p := (h _ (p.commonField_mem_required .policyType)).symm.trans hc
  have hsame : SameUnlessLost (fun _ => False) p (ofCombination c) (ofCombination d) :=
    same_ofCombination hc hd fun name hname => .inl (h name hname)
  exact hsame.resolve_right fun ⟨_, hlost, _⟩ => hlost

/-- A valid combination from which a required parameter is removed is refused because it is missing.
-/
theorem ofCombination_without (hr : ofCombination c = .ok r) (hnames : c.names.Nodup)
    (hname : name ∈ r.policy.required) :
    ∃ policy?, ofCombination (c.without name) = .error (.missing name policy?) := by
  have hgone : (c.without name).get? name = none := Combination.get?_without hnames
  by_cases hpolicy : CommonField.policyType.name = name
  · -- nothing is read before the policy
    subst hpolicy
    refine ⟨none, ?_⟩
    rw [ofCombination, policyOf, require, hgone]
    rfl
  · have hc : c.HasPolicy r.policy := (reads_of_ofCombination hr).policy
    have hd : (c.without name).HasPolicy r.policy :=
      (Combination.get?_without_of_ne hpolicy).trans hc
    have hkept : ∀ other ∈ r.policy.required,
        KeptUnlessLost (· = name) c (c.without name) other := by
      intro other _
      by_cases hother : other = name
      · exact .inr ⟨hother, hother ▸ hgone⟩
      · exact .inl (Combination.get?_without_of_ne hother).symm
    rcases same_ofCombination hc hd hkept with hsame | ⟨_, rfl, hmissing⟩
    · obtain ⟨text, htext⟩ :=
        (reads_of_ofCombination (hsame ▸ hr)).exists_text_of_mem_required hname
      rw [Combination.text?, hgone] at htext
      cases htext
    · exact ⟨_, hmissing⟩

end RunSetup

/-- The identifier of a run depends on the parameters that it carries only. -/
theorem Identifier.ofSetup_eq_of_agreesOn {c d : Combination} {r q : RunSetup} (hr : r.Reads c)
    (hq : q.Reads d) (hpolicy : r.policy = q.policy) (h : c.AgreesOn d (fields r.policy)) :
    ofSetup r = ofSetup q := by
  have hcommon : ∀ field ∈ commonFields, r.textOf field = q.textOf field := by
    intro field hfield
    have hget := h field.name (List.mem_append_left _ (List.mem_map_of_mem hfield))
    have htext : c.text? field.name = d.text? field.name := congrArg (Option.map Value.render) hget
    rw [hr.text?_common, hq.text?_common] at htext
    exact Option.some.inj htext
  have htuning : r.tuningTexts = q.tuningTexts := by
    have hmap : r.tuningTexts.map (fun p => (p.1, some p.2))
        = q.tuningTexts.map fun p => (p.1, some p.2) := by
      rw [hr.map_tuningTexts, hq.map_tuningTexts, ← hpolicy]
      refine List.map_congr_left fun f hf => ?_
      have hget := h f.name (List.mem_append_right _ (List.mem_map_of_mem hf))
      rw [Combination.text?, Combination.text?, hget]
    refine (List.map_inj_right fun p p' heq => ?_).mp hmap
    obtain ⟨hfield, htext⟩ := Prod.mk.inj heq
    exact Prod.ext hfield (Option.some.inj htext)
  have htexts : r.texts = q.texts := by
    have hpattern := hcommon .pattern (by decide)
    have hclientTierSizes := hcommon .clientTierSizes (by decide)
    have hserverMemSizes := hcommon .serverMemSizes (by decide)
    simp only [RunSetup.textOf] at hpattern hclientTierSizes hserverMemSizes
    rw [RunSetup.texts, RunSetup.texts, hpattern, hclientTierSizes, hserverMemSizes]
  refine ofSetup_eq_iff.mpr ⟨⟨hpolicy, hcommon .bufferSize (by decide),
    hcommon .scanInterval (by decide), hcommon .sampleRate (by decide), htuning⟩, ?_⟩
  rw [joinedTexts, joinedTexts, htexts]

/-- The report of a missing parameter says which it is. -/
theorem SetupFault.toFailure_missing (field : String) (policy? : Option Policy) :
    (missing field policy?).toFailure.code = "missing_required_field" ∧
      Entries.get? "field" (missing field policy?).toFailure.detail.facts = some field := by
  cases policy? <;> exact ⟨rfl, rfl⟩

namespace RunSetup

/-- **A run depends on exactly the required parameters.** Two combinations under a policy that have
the same values for the common parameters and those of the policy lead to the same configuration,
the same identifier and the same run, or to the same fault, whatever other entries they have and in
whatever order. Two valid ones that have the same values for the parameters that identifiers carry
have the same identifier, however they differ otherwise. And a valid combination whose entries have
different names is refused when any of the required parameters is removed, with a report that says
that this parameter is missing. -/
theorem depends_on_required (p : Policy) :
    (∀ c d : Combination, c.HasPolicy p → c.AgreesOn d p.required →
      ofCombination c = ofCombination d ∧
      (ofCombination c).map Identifier.ofSetup = (ofCombination d).map Identifier.ofSetup ∧
      ∀ x executable, Run.ofCombination c x executable = Run.ofCombination d x executable) ∧
    (∀ (c d : Combination) (r q : RunSetup), c.HasPolicy p → d.HasPolicy p →
      ofCombination c = .ok r → ofCombination d = .ok q →
      c.AgreesOn d (Identifier.fields p) → Identifier.ofSetup r = Identifier.ofSetup q) ∧
    ∀ (c : Combination) (r : RunSetup), c.HasPolicy p → c.names.Nodup → ofCombination c = .ok r →
      ∀ name ∈ p.required, ∃ fault, ofCombination (c.without name) = .error fault ∧
        fault.toFailure.code = "missing_required_field" ∧
        Entries.get? "field" fault.toFailure.detail.facts = some name := by
  refine ⟨fun c d hc h => ?_, fun c d r q hc hd hr hq h => ?_,
    fun c r hc hnames hr name hname => ?_⟩
  · have hsame := ofCombination_congr hc h
    refine ⟨hsame, congrArg (Except.map Identifier.ofSetup) hsame, fun x executable => ?_⟩
    rw [Run.ofCombination, Run.ofCombination, hsame]
  · obtain rfl := policy_of_hasPolicy hc hr
    exact Identifier.ofSetup_eq_of_agreesOn (reads_of_ofCombination hr) (reads_of_ofCombination hq)
      (policy_of_hasPolicy hd hq).symm h
  · obtain rfl := policy_of_hasPolicy hc hr
    obtain ⟨policy?, hfault⟩ := ofCombination_without hr hnames hname
    exact ⟨_, hfault, SetupFault.toFailure_missing name policy?⟩

/-- A combination under one policy with some running time. -/
def timed (runningTime : Value) : Combination :=
  ⟨[("pattern", .text "uniform"), ("client_tier_sizes", .text "10-20"),
    ("server_mem_sizes", .int 30), ("buffer_size", .int 10), ("running_time", runningTime),
    ("policy_type", .text "lru"), ("num_tiers", .int 2), ("scan_interval", .int 1),
    ("sample_rate", .int 100), ("hot_threshold", .int 5), ("cold_threshold", .int 10)]⟩

theorem depends_on_required_timed :
    let c := timed (.int 5)
    let d : Combination := ⟨(("note", .text "again") :: c.entries).reverse⟩
    let e := timed (.int 6)
    (∃ r, ofCombination c = .ok r ∧ ofCombination d = .ok r) ∧
      (∃ r q, ofCombination c = .ok r ∧ ofCombination e = .ok q ∧ r ≠ q ∧
        Identifier.ofSetup r = Identifier.ofSetup q) ∧
      ∀ name ∈ Policy.lru.required, ∃ fault, ofCombination (c.without name) = .error fault ∧
        fault.toFailure.code = "missing_required_field" ∧
        Entries.get? "field" fault.toFailure.detail.facts = some name := by
  intro c d e
  obtain ⟨hdepends, hidentifier, hmissing⟩ := depends_on_required .lru
  have hsame : ofCombination c = ofCombination d := (hdepends c d rfl (by decide)).1
  have hvalid {c : Combination} (h : (ofCombination c).isOk = true) :
      ∃ r, ofCombination c = .ok r := by
    cases hr : ofCombination c with
    | error fault => rw [hr] at h; cases h
    | ok r => exact ⟨r, rfl⟩
  obtain ⟨r, hr⟩ := hvalid (by decide : (ofCombination c).isOk = true)
  obtain ⟨q, hq⟩ := hvalid (by decide : (ofCombination e).isOk = true)
  refine ⟨⟨r, hr, hsame ▸ hr⟩, ⟨r, q, hr, hq, ?_, ?_⟩, hmissing c r rfl (by decide) hr⟩
  · rintro rfl
    have hne : (ofCombination c).toOption ≠ (ofCombination e).toOption := by decide
    exact hne (congrArg Except.toOption (hr.trans hq.symm))
  · exact hidentifier c e r q rfl rfl hr hq (by decide)

end RunSetup

end TierSweep
