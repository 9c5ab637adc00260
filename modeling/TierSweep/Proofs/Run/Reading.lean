import TierSweep.Proofs.Traversal
import TierSweep.RunSetup

/-!
# How run configurations are read

Each parameter of a run is read in one way: it must be there, and its value must be of a certain
kind (`RunSetup.readAs`). The readers of the parameters are instances of this one. So a combination
is read as a configuration exactly when it names the policy of the configuration and has its values
for all parameters (`RunSetup.ofCombination_eq_ok_iff`).

## Main definitions

* `RunSetup.readAs` — the reader of a parameter.
* `RunSetup.Carries` — a configuration has the values of a combination.

## Main results

* `RunSetup.readAs_eq_ok_iff`, `RunSetup.policyOf_eq_ok_iff`.
* `RunSetup.ofCombination_eq_ok_iff`.
-/

namespace TierSweep

/-- The text of a list of sizes, for which a single integer may stand. -/
def Value.sizes? : Value → Option String
  | .text s => some s
  | .number (.int n) => some (toString n.toInt)
  | _ => none

theorem Policy.ofName?_eq_some_iff {s : String} {p : Policy} : ofName? s = some p ↔ s = p.name := by
  constructor
  · intro h
    have hname : p.name = s := by simpa using List.find?_some h
    exact hname.symm
  · rintro rfl
    cases p <;> decide

namespace RunSetup

variable {c : Combination} {p : Policy} {r : RunSetup} {α : Type} {name : String}

/-- A parameter is read: it must be there, and its value must be convertible. -/
def readAs (c : Combination) (p : Policy) (name words : String) (convert : Value → Option α) :
    Except SetupFault α := do
  let v ← require c name (some p)
  match convert v with
  | some a => pure a
  | none => throw (.wrongKind name words v)

theorem readAs_eq_ok_iff {words : String} {convert : Value → Option α} {a : α} :
    readAs c p name words convert = .ok a ↔ c.get? name >>= convert = some a := by
  rw [readAs, require]
  cases c.get? name with
  | none => constructor <;> intro h <;> cases h
  | some v =>
    change (match convert v with | some a => pure a | none => throw _) = _ ↔ convert v = _
    cases convert v with
    | none => constructor <;> intro h <;> cases h
    | some b =>
      exact ⟨fun h => congrArg some (Except.ok.inj h),
        fun h => congrArg Except.ok (Option.some.inj h)⟩

theorem text_eq_readAs (field : CommonField) :
    text c field p = readAs c p field.name "text" Value.text? := by
  refine congrArg (require c field.name (some p) >>= ·) (funext fun v => ?_)
  cases v <;> rfl

theorem sizes_eq_readAs (field : CommonField) :
    sizes c field p = readAs c p field.name "text" Value.sizes? := by
  refine congrArg (require c field.name (some p) >>= ·) (funext fun v => ?_)
  cases v with
  | bool => rfl
  | number n => cases n <;> rfl
  | text => rfl

theorem count_eq_readAs (field : CommonField) :
    count c field p = readAs c p field.name "non-negative integer" Value.nat? := by
  refine congrArg (require c field.name (some p) >>= ·) (funext fun v => ?_)
  cases v.nat? <;> rfl

theorem number_eq_readAs :
    number c name p = readAs c p name "number" Value.number? := by
  refine congrArg (require c name (some p) >>= ·) (funext fun v => ?_)
  cases v.number? <;> rfl

theorem text_eq_ok_iff {field : CommonField} {s : String} :
    text c field p = .ok s ↔ c.get? field.name >>= Value.text? = some s := by
  rw [text_eq_readAs, readAs_eq_ok_iff]

theorem sizes_eq_ok_iff {field : CommonField} {s : String} :
    sizes c field p = .ok s ↔ c.get? field.name >>= Value.sizes? = some s := by
  rw [sizes_eq_readAs, readAs_eq_ok_iff]

theorem count_eq_ok_iff {field : CommonField} {n : ℕ} :
    count c field p = .ok n ↔ c.get? field.name >>= Value.nat? = some n := by
  rw [count_eq_readAs, readAs_eq_ok_iff]

theorem number_eq_ok_iff {n : Number} :
    number c name p = .ok n ↔ c.get? name >>= Value.number? = some n := by
  rw [number_eq_readAs, readAs_eq_ok_iff]

theorem policyOf_eq_ok_iff :
    policyOf c = .ok p ↔ c.get? CommonField.policyType.name = some (.text p.name) := by
  rw [policyOf, require]
  cases c.get? CommonField.policyType.name with
  | none => constructor <;> intro h <;> cases h
  | some v =>
    cases v with
    | bool => constructor <;> intro h <;> cases h
    | number => constructor <;> intro h <;> cases h
    | text s =>
      rw [Option.some_inj, Value.text.injEq, ← Policy.ofName?_eq_some_iff]
      simp only [bind, Except.bind]
      cases Policy.ofName? s with
      | none => constructor <;> intro h <;> cases h
      | some q =>
        exact ⟨fun h => congrArg some (Except.ok.inj h),
          fun h => congrArg Except.ok (Option.some.inj h)⟩

theorem tune_eq_ok_iff {fields : List TuningField}
    (vs : { vs : List (TuningField × Number) // vs.map Prod.fst = fields }) :
    tune c p fields = .ok vs ↔
      ∀ entry ∈ vs.val, c.get? entry.1.name >>= Value.number? = some entry.2 := by
  induction fields with
  | nil =>
    obtain ⟨vs, h⟩ := vs
    obtain rfl := List.map_eq_nil_iff.mp h
    exact ⟨fun _ _ hentry => absurd hentry List.not_mem_nil, fun _ => rfl⟩
  | cons f fields ih =>
    obtain ⟨vs, h⟩ := vs
    obtain ⟨entry, rest, rfl, rfl, hrest⟩ := List.map_eq_cons_iff.mp h
    rw [tune, List.forall_mem_cons, ← number_eq_ok_iff (p := p), ← ih ⟨rest, hrest⟩]
    simp only [Traversal.bind_eq_ok_iff]
    constructor
    · rintro ⟨n, hn, ⟨vs, hvs⟩, htune, heq⟩
      obtain ⟨hentry, rfl⟩ := List.cons.inj (congrArg Subtype.val (Except.ok.inj heq))
      obtain rfl : n = entry.2 := congrArg Prod.snd hentry
      exact ⟨hn, htune⟩
    · rintro ⟨hn, htune⟩
      exact ⟨_, hn, _, htune, rfl⟩

/-- A configuration has the values of a combination. -/
structure Carries (r : RunSetup) (c : Combination) : Prop where
  policy : c.get? CommonField.policyType.name = some (.text r.policy.name)
  pattern : c.get? CommonField.pattern.name >>= Value.text? = some r.pattern
  clientTierSizes :
    c.get? CommonField.clientTierSizes.name >>= Value.sizes? = some r.clientTierSizes
  serverMemSizes : c.get? CommonField.serverMemSizes.name >>= Value.sizes? = some r.serverMemSizes
  bufferSize : c.get? CommonField.bufferSize.name >>= Value.nat? = some r.bufferSize
  runningTime : c.get? CommonField.runningTime.name >>= Value.number? = some r.runningTime
  numTiers : c.get? CommonField.numTiers.name >>= Value.nat? = some r.numTiers
  scanInterval : c.get? CommonField.scanInterval.name >>= Value.number? = some r.scanInterval
  sampleRate : c.get? CommonField.sampleRate.name >>= Value.number? = some r.sampleRate
  tuning : ∀ entry ∈ r.tuning, c.get? entry.1.name >>= Value.number? = some entry.2

/-- A configuration is read off a combination exactly when it has its values. -/
theorem ofCombination_eq_ok_iff : ofCombination c = .ok r ↔ r.Carries c := by
  constructor
  · intro h
    obtain ⟨policy, hpolicy, h⟩ := Traversal.bind_eq_ok_iff.mp h
    obtain ⟨pattern, hpattern, h⟩ := Traversal.bind_eq_ok_iff.mp h
    obtain ⟨clientTierSizes, hclientTierSizes, h⟩ := Traversal.bind_eq_ok_iff.mp h
    obtain ⟨serverMemSizes, hserverMemSizes, h⟩ := Traversal.bind_eq_ok_iff.mp h
    obtain ⟨bufferSize, hbufferSize, h⟩ := Traversal.bind_eq_ok_iff.mp h
    obtain ⟨runningTime, hrunningTime, h⟩ := Traversal.bind_eq_ok_iff.mp h
    obtain ⟨numTiers, hnumTiers, h⟩ := Traversal.bind_eq_ok_iff.mp h
    obtain ⟨scanInterval, hscanInterval, h⟩ := Traversal.bind_eq_ok_iff.mp h
    obtain ⟨sampleRate, hsampleRate, h⟩ := Traversal.bind_eq_ok_iff.mp h
    obtain ⟨tuning, htuning, h⟩ := Traversal.bind_eq_ok_iff.mp h
    obtain rfl := Except.ok.inj h
    exact ⟨policyOf_eq_ok_iff.mp hpolicy, text_eq_ok_iff.mp hpattern,
      sizes_eq_ok_iff.mp hclientTierSizes, sizes_eq_ok_iff.mp hserverMemSizes,
      count_eq_ok_iff.mp hbufferSize, number_eq_ok_iff.mp hrunningTime,
      count_eq_ok_iff.mp hnumTiers,
      number_eq_ok_iff.mp hscanInterval, number_eq_ok_iff.mp hsampleRate,
      (tune_eq_ok_iff _).mp htuning⟩
  · intro h
    refine Traversal.bind_eq_ok_iff.mpr ⟨_, policyOf_eq_ok_iff.mpr h.policy, ?_⟩
    refine Traversal.bind_eq_ok_iff.mpr ⟨_, text_eq_ok_iff.mpr h.pattern, ?_⟩
    refine Traversal.bind_eq_ok_iff.mpr ⟨_, sizes_eq_ok_iff.mpr h.clientTierSizes, ?_⟩
    refine Traversal.bind_eq_ok_iff.mpr ⟨_, sizes_eq_ok_iff.mpr h.serverMemSizes, ?_⟩
    refine Traversal.bind_eq_ok_iff.mpr ⟨_, count_eq_ok_iff.mpr h.bufferSize, ?_⟩
    refine Traversal.bind_eq_ok_iff.mpr ⟨_, number_eq_ok_iff.mpr h.runningTime, ?_⟩
    refine Traversal.bind_eq_ok_iff.mpr ⟨_, count_eq_ok_iff.mpr h.numTiers, ?_⟩
    refine Traversal.bind_eq_ok_iff.mpr ⟨_, number_eq_ok_iff.mpr h.scanInterval, ?_⟩
    refine Traversal.bind_eq_ok_iff.mpr ⟨_, number_eq_ok_iff.mpr h.sampleRate, ?_⟩
    exact Traversal.bind_eq_ok_iff.mpr
      ⟨⟨r.tuning, r.tuning_eq⟩, (tune_eq_ok_iff _).mpr h.tuning, rfl⟩

end RunSetup

end TierSweep
