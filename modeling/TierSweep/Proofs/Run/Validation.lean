import TierSweep.Proofs.Identifier.Injectivity

/-!
# Which combinations are run configurations

A combination is a run configuration when it names a policy and has a value of the right kind for
each parameter that is demanded under this policy. The demands stand in the order in which they are
checked (`Policy.demands`), so the first one that is not met is the fault that is found
(`RunSetup.faultOf_ofCombination`). Entries that the policy does not demand are neither checked nor
kept (`RunSetup.Carries.tuning?_eq`).

## Main definitions

* `Demand`, `Policy.demands` — what is demanded of the parameters.
* `Refusal` — the report on a combination that is no run configuration.

## Main results

* `RunSetup.faultOf_ofCombination`, `RunSetup.exists_ofCombination_iff`.
* `RunSetup.refusal_iff`, `RunSetup.ofCombination_exact`.
-/

namespace TierSweep

/-- What is demanded of the value of a parameter. -/
inductive Demand where
  | text
  | sizes
  | count
  | number
  deriving DecidableEq

namespace Demand

/-- The values that meet a demand. -/
def admits : Demand → Value → Bool
  | text, .text _ => true
  | sizes, .text _ => true
  | sizes, .number (.int _) => true
  | count, .number (.int n) => decide (0 ≤ n.toInt)
  | number, .number _ => true
  | _, _ => false

/-- The words for what is demanded. -/
def words : Demand → String
  | text => "text"
  | sizes => "text"
  | count => "non-negative integer"
  | number => "number"

theorem admits_text (v : Value) : text.admits v = v.text?.isSome := by
  cases v <;> rfl

theorem admits_sizes (v : Value) : sizes.admits v = v.sizes?.isSome := by
  cases v with
  | bool => rfl
  | number n => cases n <;> rfl
  | text => rfl

theorem admits_count (v : Value) : count.admits v = v.nat?.isSome := by
  cases v with
  | bool => rfl
  | number n =>
    cases n with
    | int n => by_cases h : 0 ≤ n.toInt <;> simp [admits, Value.nat?, h]
    | float => rfl
  | text => rfl

theorem admits_number (v : Value) : number.admits v = v.number?.isSome := by
  cases v <;> rfl

end Demand

namespace Policy

/-- What is demanded of the parameters under a policy, in the order in which they are checked. -/
def demands (p : Policy) : List (String × Demand) :=
  [(CommonField.pattern.name, .text), (CommonField.clientTierSizes.name, .sizes),
    (CommonField.serverMemSizes.name, .sizes), (CommonField.bufferSize.name, .count),
    (CommonField.runningTime.name, .number), (CommonField.numTiers.name, .count),
    (CommonField.scanInterval.name, .number), (CommonField.sampleRate.name, .number)]
    ++ p.tuned.map fun f => (f.name, .number)

theorem ofName?_eq_none_iff {s : String} : ofName? s = none ↔ ∀ p : Policy, s ≠ p.name := by
  rw [Option.eq_none_iff_forall_ne_some]
  simp only [ne_eq, ofName?_eq_some_iff]

end Policy

namespace Combination

variable {c : Combination} {p : Policy} {name : String} {demand : Demand} {fault : SetupFault}

/-- The first entry of a name counts. -/
theorem get?_eq_some_iff {v : Value} :
    c.get? name = some v ↔ ∃ before after, c.entries = before ++ (name, v) :: after ∧
      ∀ entry ∈ before, entry.1 ≠ name := by
  rw [get?, List.lookup_eq_some_iff]
  simp only [bne_iff_ne, ne_comm (a := name)]

theorem policy_cases (c : Combination) :
    c.get? CommonField.policyType.name = none ∨
      (∃ v, c.get? CommonField.policyType.name = some v ∧ v.text? = none) ∨
      (∃ s, c.get? CommonField.policyType.name = some (.text s) ∧ ∀ p : Policy, s ≠ p.name) ∨
      ∃ p, c.HasPolicy p := by
  cases h : c.get? CommonField.policyType.name with
  | none => exact .inl rfl
  | some v =>
    cases v with
    | bool b => exact .inr (.inl ⟨_, rfl, rfl⟩)
    | number n => exact .inr (.inl ⟨_, rfl, rfl⟩)
    | text s =>
      by_cases hs : ∀ p : Policy, s ≠ p.name
      · exact .inr (.inr (.inl ⟨s, rfl, hs⟩))
      · obtain ⟨p, hp⟩ := not_forall.mp hs
        obtain rfl := not_not.mp hp
        exact .inr (.inr (.inr ⟨p, h⟩))

/-- A combination has a value that meets a demand. -/
def Meets (c : Combination) (name : String) (demand : Demand) : Prop :=
  ∃ v, c.get? name = some v ∧ demand.admits v = true

/-- The fault of a parameter if it does not meet a demand. -/
def fault? (c : Combination) (p : Policy) (name : String) (demand : Demand) : Option SetupFault :=
  match c.get? name with
  | none => some (.missing name (some p))
  | some v => if demand.admits v then none else some (.wrongKind name demand.words v)

theorem fault?_eq_none_iff : c.fault? p name demand = none ↔ c.Meets name demand := by
  rw [fault?, Meets]
  cases c.get? name with
  | none => simp
  | some v => simp

theorem fault?_eq_some_iff :
    c.fault? p name demand = some fault ↔
      c.get? name = none ∧ fault = .missing name (some p) ∨
        ∃ v, c.get? name = some v ∧ demand.admits v = false ∧
          fault = .wrongKind name demand.words v := by
  rw [fault?]
  cases c.get? name with
  | none => simp [eq_comm (a := fault)]
  | some v => simp [eq_comm (a := fault)]

end Combination

namespace RunSetup

variable {c : Combination} {p : Policy} {r : RunSetup} {α β : Type} {name : String}
  {demand : Demand} {fault : SetupFault}

/-! ### Faults of parameters -/

/-- The fault in which a check ends, if it fails. -/
def faultOf : Except SetupFault α → Option SetupFault
  | .error fault => some fault
  | .ok _ => none

theorem faultOf_eq_some_iff {x : Except SetupFault α} :
    faultOf x = some fault ↔ x = .error fault := by
  cases x <;> simp [faultOf]

theorem faultOf_eq_none_iff {x : Except SetupFault α} : faultOf x = none ↔ ∃ a, x = .ok a := by
  cases x <;> simp [faultOf]

theorem faultOf_bind_pure (x : Except SetupFault α) (g : α → β) :
    faultOf (x >>= fun a => pure (g a)) = faultOf x := by
  cases x <;> rfl

theorem faultOf_readAs {convert : Value → Option α}
    (h : ∀ v, demand.admits v = (convert v).isSome) :
    faultOf (readAs c p name demand.words convert) = c.fault? p name demand := by
  rw [readAs, require, Combination.fault?]
  cases c.get? name with
  | none => rfl
  | some v =>
    simp only [bind, Except.bind, h]
    cases convert v <;> rfl

/-- A check that begins with one demand goes on with the others if that one is met. -/
theorem faultOf_bind {x : Except SetupFault α} {f : α → Except SetupFault β}
    {demands : List (String × Demand)} (h : faultOf x = c.fault? p name demand)
    (hrest : ∀ a, faultOf (f a) = demands.findSome? fun d => c.fault? p d.1 d.2) :
    faultOf (x >>= f) = ((name, demand) :: demands).findSome? fun d => c.fault? p d.1 d.2 := by
  rw [List.findSome?_cons, ← h]
  cases x with
  | error fault => rfl
  | ok a => exact hrest a

theorem faultOf_text (field : CommonField) :
    faultOf (text c field p) = c.fault? p field.name .text := by
  rw [text_eq_readAs]
  exact faultOf_readAs Demand.admits_text

theorem faultOf_sizes (field : CommonField) :
    faultOf (sizes c field p) = c.fault? p field.name .sizes := by
  rw [sizes_eq_readAs]
  exact faultOf_readAs Demand.admits_sizes

theorem faultOf_count (field : CommonField) :
    faultOf (count c field p) = c.fault? p field.name .count := by
  rw [count_eq_readAs]
  exact faultOf_readAs Demand.admits_count

theorem faultOf_number : faultOf (number c name p) = c.fault? p name .number := by
  rw [number_eq_readAs]
  exact faultOf_readAs Demand.admits_number

theorem faultOf_tune (fields : List TuningField) :
    faultOf (tune c p fields)
      = (fields.map fun f => (f.name, Demand.number)).findSome? fun d => c.fault? p d.1 d.2 := by
  induction fields with
  | nil => rfl
  | cons f fields ih => exact faultOf_bind faultOf_number fun _ => (faultOf_bind_pure _ _).trans ih

/-- The fault of a combination under a policy is that of the first demand that it does not meet. -/
theorem faultOf_ofCombination (h : c.HasPolicy p) :
    faultOf (ofCombination c) = p.demands.findSome? fun d => c.fault? p d.1 d.2 := by
  rw [ofCombination, policyOf_eq_ok_iff.mpr h, Policy.demands]
  change faultOf (text c .pattern p >>= _) = _
  refine faultOf_bind (faultOf_text .pattern) fun _ => ?_
  refine faultOf_bind (faultOf_sizes .clientTierSizes) fun _ => ?_
  refine faultOf_bind (faultOf_sizes .serverMemSizes) fun _ => ?_
  refine faultOf_bind (faultOf_count .bufferSize) fun _ => ?_
  refine faultOf_bind faultOf_number fun _ => ?_
  refine faultOf_bind (faultOf_count .numTiers) fun _ => ?_
  refine faultOf_bind faultOf_number fun _ => ?_
  refine faultOf_bind faultOf_number fun _ => ?_
  exact (faultOf_bind_pure _ _).trans (faultOf_tune p.tuned)

/-- A demand that is not met, and before which all are, decides the fault. -/
theorem ofCombination_eq_error_iff (h : c.HasPolicy p) :
    ofCombination c = .error fault ↔ ∃ before name demand after,
      p.demands = before ++ (name, demand) :: after ∧ (∀ d ∈ before, c.Meets d.1 d.2) ∧
        c.fault? p name demand = some fault := by
  rw [← faultOf_eq_some_iff, faultOf_ofCombination h, List.findSome?_eq_some_iff]
  simp only [Combination.fault?_eq_none_iff]
  constructor
  · rintro ⟨before, ⟨name, demand⟩, after, hdemands, hfault, hbefore⟩
    exact ⟨before, name, demand, after, hdemands, hbefore, hfault⟩
  · rintro ⟨before, name, demand, after, hdemands, hbefore, hfault⟩
    exact ⟨before, (name, demand), after, hdemands, hfault, hbefore⟩

theorem exists_ofCombination_iff :
    (∃ r, ofCombination c = .ok r) ↔ ∃ p, c.HasPolicy p ∧ ∀ d ∈ p.demands, c.Meets d.1 d.2 := by
  have hmeets {p : Policy} (h : c.HasPolicy p) :
      (∃ r, ofCombination c = .ok r) ↔ ∀ d ∈ p.demands, c.Meets d.1 d.2 := by
    rw [← faultOf_eq_none_iff, faultOf_ofCombination h, List.findSome?_eq_none_iff]
    simp only [Combination.fault?_eq_none_iff]
  constructor
  · rintro ⟨r, hr⟩
    have h : c.HasPolicy r.policy := (ofCombination_eq_ok_iff.mp hr).policy
    exact ⟨_, h, (hmeets h).mp ⟨r, hr⟩⟩
  · rintro ⟨p, h, hdemands⟩
    exact (hmeets h).mpr hdemands

/-! ### Faults of the policy -/

/-- A combination without a policy is refused before anything else is read. -/
theorem ofCombination_of_get?_eq_none (h : c.get? CommonField.policyType.name = none) :
    ofCombination c = .error (.missing CommonField.policyType.name none) := by
  rw [ofCombination, policyOf, require, h]
  rfl

theorem ofCombination_of_text?_eq_none {v : Value}
    (h : c.get? CommonField.policyType.name = some v) (hv : v.text? = none) :
    ofCombination c = .error (.wrongKind CommonField.policyType.name "text" v) := by
  rw [ofCombination, policyOf, require, h]
  cases v with
  | bool => rfl
  | number => rfl
  | text => cases hv

theorem ofCombination_of_ne_name {s : String}
    (h : c.get? CommonField.policyType.name = some (.text s)) (hs : ∀ p : Policy, s ≠ p.name) :
    ofCombination c = .error (.unknownPolicy s) := by
  rw [ofCombination, policyOf, require, h]
  simp only [bind, Except.bind, Policy.ofName?_eq_none_iff.mpr hs]
  rfl

/-! ### Values -/

/-- The parameters of the policy are listed with the numbers that the combination has for them. -/
theorem Carries.map_tuning (h : r.Carries c) :
    r.tuning.map (fun entry => (entry.1, some entry.2))
      = r.policy.tuned.map fun f => (f, c.get? f.name >>= Value.number?) := by
  rw [← r.tuning_eq, List.map_map]
  refine List.map_congr_left fun entry hentry => ?_
  exact congrArg (Prod.mk entry.1) (h.tuning entry hentry).symm

/-- The parameters of other policies are absent. -/
theorem Carries.tuning?_eq (h : r.Carries c) (name : String) :
    r.tuning? name = if r.policy.takes name then c.get? name >>= Value.number? else none := by
  split
  · next htakes =>
    obtain ⟨f, hf, hname⟩ := List.any_eq_true.mp htakes
    obtain rfl : f.name = name := of_decide_eq_true hname
    rw [← r.tuning_eq] at hf
    obtain ⟨entry, hentry, rfl⟩ := List.mem_map.mp hf
    rw [tuning?_of_mem hentry, h.tuning entry hentry]
  · next htakes =>
    rw [tuning?, Option.map_eq_none_iff, List.find?_eq_none]
    refine fun entry hentry hname => htakes (List.any_eq_true.mpr ⟨entry.1, ?_, hname⟩)
    rw [← r.tuning_eq]
    exact List.mem_map_of_mem hentry

end RunSetup

/-- The report on a combination that is no run configuration. -/
inductive Refusal (c : Combination) : Failure → Prop where
  | noPolicy (h : c.get? CommonField.policyType.name = none) :
    Refusal c ⟨.configuration, "missing_required_field", "missing required field",
      [("field", CommonField.policyType.name)], none⟩
  | policyNotText {v : Value} (h : c.get? CommonField.policyType.name = some v)
      (hv : v.text? = none) :
    Refusal c ⟨.configuration, "invalid_field_type", "field has the wrong type",
      [("expected", "text"), ("field", CommonField.policyType.name), ("found", v.kind),
        ("value", v.render)], none⟩
  | unknownPolicy {s : String} (h : c.get? CommonField.policyType.name = some (.text s))
      (hs : ∀ p : Policy, s ≠ p.name) :
    Refusal c ⟨.configuration, "unknown_policy_type", "unsupported policy type",
      [("policy_type", s)], some "expected one of lru, frequency, hybrid"⟩
  | missing {p : Policy} {name : String} {demand : Demand} {before after : List (String × Demand)}
      (h : c.HasPolicy p) (hdemands : p.demands = before ++ (name, demand) :: after)
      (hbefore : ∀ d ∈ before, c.Meets d.1 d.2) (hname : c.get? name = none) :
    Refusal c ⟨.configuration, "missing_required_field", "missing required field",
      [("field", name), ("policy_type", p.name)], none⟩
  | wrongKind {p : Policy} {name : String} {demand : Demand} {before after : List (String × Demand)}
      {v : Value} (h : c.HasPolicy p) (hdemands : p.demands = before ++ (name, demand) :: after)
      (hbefore : ∀ d ∈ before, c.Meets d.1 d.2) (hname : c.get? name = some v)
      (hv : demand.admits v = false) :
    Refusal c ⟨.configuration, "invalid_field_type", "field has the wrong type",
      [("expected", demand.words), ("field", name), ("found", v.kind), ("value", v.render)], none⟩

namespace RunSetup

variable {c : Combination} {failure : Failure}

theorem refusal_iff :
    (ofCombination c).mapError SetupFault.toFailure = .error failure ↔ Refusal c failure := by
  rw [Traversal.mapError_eq_error_iff]
  constructor
  · rintro ⟨fault, hfault, rfl⟩
    rcases c.policy_cases with h | ⟨v, h, hv⟩ | ⟨s, h, hs⟩ | ⟨p, h⟩
    · obtain rfl := Except.error.inj ((ofCombination_of_get?_eq_none h).symm.trans hfault)
      exact .noPolicy h
    · obtain rfl := Except.error.inj ((ofCombination_of_text?_eq_none h hv).symm.trans hfault)
      exact .policyNotText h hv
    · obtain rfl := Except.error.inj ((ofCombination_of_ne_name h hs).symm.trans hfault)
      exact .unknownPolicy h hs
    · obtain ⟨before, name, demand, after, hdemands, hbefore, hfirst⟩ :=
        (ofCombination_eq_error_iff h).mp hfault
      rcases Combination.fault?_eq_some_iff.mp hfirst with ⟨hname, rfl⟩ | ⟨v, hname, hv, rfl⟩
      · exact .missing h hdemands hbefore hname
      · exact .wrongKind h hdemands hbefore hname hv
  · intro hrefusal
    cases hrefusal with
    | noPolicy h => exact ⟨_, ofCombination_of_get?_eq_none h, rfl⟩
    | policyNotText h hv => exact ⟨_, ofCombination_of_text?_eq_none h hv, rfl⟩
    | unknownPolicy h hs => exact ⟨_, ofCombination_of_ne_name h hs, rfl⟩
    | missing h hdemands hbefore hname =>
      exact ⟨_, (ofCombination_eq_error_iff h).mpr ⟨_, _, _, _, hdemands, hbefore,
        Combination.fault?_eq_some_iff.mpr (.inl ⟨hname, rfl⟩)⟩, rfl⟩
    | wrongKind h hdemands hbefore hname hv =>
      exact ⟨_, (ofCombination_eq_error_iff h).mpr ⟨_, _, _, _, hdemands, hbefore,
        Combination.fault?_eq_some_iff.mpr (.inr ⟨_, hname, hv, rfl⟩)⟩, rfl⟩

/-- **What a run configuration is.** A combination is one exactly when it names a policy and meets
every demand of this policy, where the first entry of a name counts. The configuration then has the
values of the combination and no others: the parameters of the policy are listed once each, in the
order of the policy, with their numbers, and those of other policies are absent even where the
combination has them. A combination that is refused lacks a policy, or it is refused for the first
demand that it does not meet. -/
theorem ofCombination_exact (c : Combination) :
    ((∃ r, ofCombination c = .ok r) ↔ ∃ p, c.HasPolicy p ∧ ∀ d ∈ p.demands, c.Meets d.1 d.2) ∧
    (∀ name v, c.get? name = some v ↔ ∃ before after,
      c.entries = before ++ (name, v) :: after ∧ ∀ entry ∈ before, entry.1 ≠ name) ∧
    (∀ r, ofCombination c = .ok r ↔ r.Carries c) ∧
    (∀ r, ofCombination c = .ok r →
      r.policy.tuned.Nodup ∧
      r.tuning.map (fun entry => (entry.1, some entry.2))
        = r.policy.tuned.map (fun f => (f, c.get? f.name >>= Value.number?)) ∧
      ∀ name, r.tuning? name
        = if r.policy.takes name then c.get? name >>= Value.number? else none) ∧
    ∀ failure, (ofCombination c).mapError SetupFault.toFailure = .error failure ↔
      Refusal c failure := by
  refine ⟨exists_ofCombination_iff, fun _ _ => Combination.get?_eq_some_iff,
    fun _ => ofCombination_eq_ok_iff, fun r hr => ?_, fun _ => refusal_iff⟩
  have h : r.Carries c := ofCombination_eq_ok_iff.mp hr
  exact ⟨r.policy.nodup_tuned, h.map_tuning, h.tuning?_eq⟩

end RunSetup

end TierSweep
