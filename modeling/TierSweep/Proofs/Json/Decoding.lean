import Mathlib.Data.List.Permutation
import TierSweep.Failure
import TierSweep.Outcome
import TierSweep.Proofs.Json.Fields
import TierSweep.Value

/-!
# Reading records back

Failures, details, outcomes, policies and exact parameter values are read back from their canonical
bytes. A record leaves out the fields that are empty, and key order moves the fields that tell its
variant behind others; neither changes what is read. The facts of a detail are a map, so they are
taken to be in the order of their names, which is how every detail has them that is read or made
here.

## Main results

* `Detail.increasing_noting`, `Detail.increasing_of_ofSketch?`.
* `Detail.ofSketch?_shape`, `Failure.ofSketch?_shape`, `Outcome.ofSketch?_shape`.
* `read_encode_canonical` — decoding undoes encoding.
-/

namespace TierSweep

open Json (Sketch Keyed rawText shape)

/-! ### Details and failures -/

namespace Detail

variable {d : Detail}

/-- The fields a detail is written with. -/
def fields (d : Detail) : List (String × Json) :=
  [("code", .text d.code), ("message", .text d.message)]
    ++ (if d.facts.isEmpty then []
        else [("context", .object (d.facts.map fun p => (p.1, .text p.2)))])
    ++ (match d.advice? with | some h => [("hint", .text h)] | none => [])

theorem toJson_eq (d : Detail) : d.toJson = .object d.fields := rfl

theorem nodup_fields (d : Detail) : (d.fields.map Prod.fst).Nodup := by
  rw [fields]
  cases d.facts.isEmpty <;> cases d.advice? <;> simp

theorem isIntegral_toJson (d : Detail) : d.toJson.all Json.isIntegral = true := by
  rw [toJson_eq, Json.all_object, fields]
  cases d.facts.isEmpty <;> cases d.advice? <;> simp [Json.all, Json.isIntegral]

theorem depth_toJson_le (d : Detail) : d.toJson.depth ≤ 2 := by
  have hfacts : Json.depthOfFields (d.facts.map fun p => (p.1, .text p.2)) = 0 := by
    rw [← Nat.le_zero, Json.depthOfFields_le, List.forall_mem_map]
    exact fun _ _ => Nat.le_refl 0
  rw [toJson_eq, fields]
  refine Nat.succ_le_succ (Json.depthOfFields_le.mpr ?_)
  cases d.facts.isEmpty <;> cases d.advice? <;> simp [Json.depth, hfacts]

/-- However a detail is made, its facts stay in order. -/
theorem increasing_noting (h : Entries.Increasing d.facts) (key value : String) :
    Entries.Increasing (d.noting key value).facts :=
  Entries.increasing_insert h

theorem increasing_of_factsOfSketch? {s : Sketch} {facts : List (String × String)}
    (h : factsOfSketch? s = some facts) : Entries.Increasing facts := by
  cases s with
  | object raw =>
    simp only [factsOfSketch?, Option.bind_eq_bind, Option.bind_eq_some_iff] at h
    obtain ⟨keyed, -, pairs, -, hfacts⟩ := h
    exact Option.some_inj.mp hfacts ▸ Entries.increasing_ofList pairs
  | _ => cases h

/-- The facts of a detail that is read are in order, however it is written. -/
theorem increasing_of_ofSketch? {s : Sketch} (h : ofSketch? s = some d) :
    Entries.Increasing d.facts := by
  cases s with
  | object raw =>
    simp only [ofSketch?, Option.bind_eq_bind, Option.bind_eq_some_iff] at h
    obtain ⟨keyed, -, code?, -, code, -, message?, -, message, -, context?, -, h⟩ := h
    cases context? with
    | none =>
      rw [Option.bind_some] at h
      obtain ⟨hint?, -, h⟩ := Option.bind_eq_some_iff.mp h
      cases hint? with
      | none => exact Option.some_inj.mp h ▸ List.Pairwise.nil
      | some hint =>
        obtain ⟨advice?, -, h⟩ := Option.bind_eq_some_iff.mp h
        exact Option.some_inj.mp h ▸ List.Pairwise.nil
    | some context =>
      obtain ⟨facts, hfacts, h⟩ := Option.bind_eq_some_iff.mp h
      obtain ⟨hint?, -, h⟩ := Option.bind_eq_some_iff.mp h
      have hincreasing := increasing_of_factsOfSketch? hfacts
      cases hint? with
      | none => exact Option.some_inj.mp h ▸ hincreasing
      | some hint =>
        obtain ⟨advice?, -, h⟩ := Option.bind_eq_some_iff.mp h
        exact Option.some_inj.mp h ▸ hincreasing
  | array items =>
    rcases items with _ | ⟨code, _ | ⟨message, rest⟩⟩
    · cases h
    · cases h
    · simp only [ofSketch?, Option.bind_eq_bind, Option.bind_eq_some_iff] at h
      obtain ⟨code, -, message, -, h⟩ := h
      rcases rest with _ | ⟨context, _ | ⟨hint, _ | ⟨_, _⟩⟩⟩
      · exact Option.some_inj.mp h ▸ List.Pairwise.nil
      · obtain ⟨facts, hfacts, h⟩ := Option.bind_eq_some_iff.mp h
        exact Option.some_inj.mp h ▸ increasing_of_factsOfSketch? hfacts
      · obtain ⟨facts, hfacts, h⟩ := Option.bind_eq_some_iff.mp h
        obtain ⟨advice?, -, h⟩ := Option.bind_eq_some_iff.mp h
        exact Option.some_inj.mp h ▸ increasing_of_factsOfSketch? hfacts
      · cases h
  | _ => cases h

/-- Facts in order are written in that order and read back. -/
theorem factsOfSketch?_shape {facts : List (String × String)} (h : Entries.Increasing facts) :
    factsOfSketch? (Json.object (facts.map fun p => (p.1, .text p.2))).sorted.shape
      = some facts := by
  have hsorted : (Json.object (facts.map fun p => (p.1, .text p.2))).sorted
      = .object (facts.map fun p => (p.1, .text p.2)) := by
    rw [Json.sorted, Json.sortedFields_eq, List.map_map]
    exact congrArg Json.object (Entries.ofList_of_increasing (List.pairwise_map.mpr h))
  rw [hsorted, shape, factsOfSketch?, Json.keyed?_shapeOfFields, List.map_map]
  have hpairs : (facts.map fun p => (p.1, (Json.text p.2).shape)).mapM
      (fun p => p.2.text?.map (p.1, ·)) = some facts :=
    mapM_map_eq_some fun p _ => by simp [shape, Sketch.text?]
  simp [Function.comp_def, hpairs, Entries.ofList_of_increasing h]

/-- A detail is read back from its canonical form. -/
theorem ofSketch?_shape (h : Entries.Increasing d.facts) :
    ofSketch? d.toJson.sorted.shape = some d := by
  obtain ⟨raw, keyed, hshape, hkeyed, hfields⟩ := Json.exists_keyed d.nodup_fields
  have hcode : Sketch.field? "code" keyed = some (some (.text (rawText d.code))) :=
    hfields.field?_of_mem (v := .text d.code) (by simp [fields])
  have hmessage : Sketch.field? "message" keyed = some (some (.text (rawText d.message))) :=
    hfields.field?_of_mem (v := .text d.message) (by simp [fields])
  have hcontext : Sketch.field? "context" keyed = some (if d.facts.isEmpty then none
      else some (Json.object (d.facts.map fun p => (p.1, .text p.2))).sorted.shape) := by
    cases hempty : d.facts.isEmpty
    · exact hfields.field?_of_mem (by simp [fields, hempty])
    · refine hfields.field?_of_not_mem ?_
      cases hadvice : d.advice? <;> simp [fields, hempty, hadvice]
  have hhint : Sketch.field? "hint" keyed = some (d.advice?.map fun a => .text (rawText a)) := by
    cases hadvice : d.advice? with
    | some a => exact hfields.field?_of_mem (v := .text a) (by simp [fields, hadvice])
    | none =>
      refine hfields.field?_of_not_mem ?_
      cases hempty : d.facts.isEmpty <;> simp [fields, hempty, hadvice]
  rw [toJson_eq, hshape, ofSketch?]
  simp only [hkeyed, hcode, hmessage, hcontext, hhint, Option.bind_eq_bind, Option.bind_some,
    Sketch.text?, Json.text?_rawText]
  have hfacts := factsOfSketch?_shape h
  generalize (Json.object (d.facts.map fun p => (p.1, .text p.2))).sorted.shape = context
    at hfacts ⊢
  obtain ⟨code, message, facts, advice?⟩ := d
  cases facts <;> cases advice? <;> simp [hfacts, adviceOfSketch?, Sketch.text?]

end Detail

theorem Family.ofName?_name (f : Family) : ofName? f.name = some f := by cases f <;> rfl

namespace Failure

/-- The fields a failure is written with. -/
def fields (f : Failure) : List (String × Json) :=
  [("family", .text f.family.name), ("detail", f.detail.toJson)]

/-- A failure is read back from its canonical form, in which the detail comes before the family. -/
theorem ofSketch?_shape {f : Failure} (h : Entries.Increasing f.detail.facts) :
    ofSketch? f.toJson.sorted.shape = some f := by
  have hnodup : (f.fields.map Prod.fst).Nodup := by simp [fields]
  obtain ⟨raw, keyed, hshape, hkeyed, hfields⟩ := Json.exists_keyed hnodup
  have hdetail := Detail.ofSketch?_shape h
  have hresolve := Json.resolve?_shape (Json.isIntegral_sorted f.detail.isIntegral_toJson)
    (d := Sketch.maxDepth - 1)
    (((Json.depth_sorted_le _).trans f.detail.depth_toJson_le).trans (by decide))
  have hfamily : (Json.text f.family.name).sorted.shape.choice? = some f.family.name :=
    Json.text?_rawText _
  have hjson : f.toJson = .object f.fields := rfl
  rw [hjson, hshape, ofSketch?]
  rcases List.perm_pair.mp hfields.perm with rfl | rfl <;>
    simp [hkeyed, hfamily, Family.ofName?_name, hdetail, hresolve]

end Failure

/-! ### Outcomes, policies and values -/

namespace Outcome

theorem isIntegral_toJson (o : Outcome) : o.toJson.all Json.isIntegral = true := by
  suffices h : ∀ p ∈ o.particulars, p.2.all Json.isIntegral = true from
    Json.all_object.mpr ⟨rfl, List.forall_mem_cons.mpr ⟨rfl, h⟩⟩
  cases o with
  | success => simp [particulars]
  | cancelled => simp [particulars]
  | failure code? =>
    refine List.forall_mem_singleton.mpr ?_
    cases code? with
    | none => rfl
    | some code =>
      have hmin : Int64.minValue.toInt ≤ Int32.minValue.toInt := by decide
      have hmax : Int32.maxValue.toInt < (UInt64.size : Int) := by decide
      exact Json.all_isIntegral_int (hmin.trans code.minValue_le_toInt)
        (lt_of_le_of_lt code.toInt_le hmax)
  | timedOut afterMillis =>
    have hmin : Int64.minValue.toInt ≤ 0 := by decide
    exact List.forall_mem_singleton.mpr (Json.all_isIntegral_int
      (hmin.trans (Int.natCast_nonneg _)) (Int.ofNat_lt.mpr afterMillis.toNat_lt))

theorem codeOfJson?_toInt (code : Int32) : codeOfJson? (.int code.toInt) = some (some code) := by
  rw [codeOfJson?, if_pos ⟨code.minValue_le_toInt, code.toInt_le⟩, Int32.ofInt_toInt]

theorem millisOfJson?_toNat (n : UInt64) : millisOfJson? (.int n.toNat) = some n := by
  have hrange : (0 : Int) ≤ n.toNat ∧ (n.toNat : Int) < UInt64.size :=
    ⟨Int.natCast_nonneg _, Int.ofNat_lt.mpr n.toNat_lt⟩
  rw [millisOfJson?, if_pos hrange, Int.toNat_natCast, UInt64.ofNat_toNat]

/-- An outcome is read from its kind and its particulars. -/
theorem ofFields?_particulars (o : Outcome) : ofFields? o.kind o.particulars = some o := by
  cases o with
  | success => rfl
  | cancelled => rfl
  | failure code? =>
    cases code? with
    | none => rfl
    | some code => simp [ofFields?, kind, particulars, valuesOf, codeOfJson?_toInt]
  | timedOut afterMillis =>
    simp [ofFields?, kind, particulars, valuesOf, millisOfJson?_toNat]

/-- What is known beside the kind is neither an array nor an object. -/
theorem scalar_particulars (o : Outcome) :
    ∀ p ∈ o.particulars, p.2.sorted = p.2 ∧ p.2.depth = 0 := by
  cases o with
  | failure code? => cases code? <;> simp [particulars, Json.sorted, Json.depth]
  | _ => simp [particulars, Json.sorted, Json.depth]

/-- An outcome is read back from its canonical form, wherever its kind stands. -/
theorem ofSketch?_shape (o : Outcome) : ofSketch? o.toJson.sorted.shape = some o := by
  have hnodup : ((("kind", .text o.kind) :: o.particulars).map Prod.fst).Nodup := by
    cases o <;> simp [particulars]
  obtain ⟨raw, keyed, hshape, hkeyed, hfields⟩ := Json.exists_keyed hnodup
  have hkind : Sketch.field? "kind" keyed = some (some (.text (rawText o.kind))) :=
    hfields.field?_of_mem (v := .text o.kind) List.mem_cons_self
  have hothers : keyed.filter (·.1 ≠ "kind")
      = o.particulars.map fun p => (p.1, p.2.sorted.shape) := by
    have hperm := hfields.perm.filter (·.1 ≠ "kind")
    cases o <;> simpa [particulars] using hperm
  have hresolve : (o.particulars.map fun p => (p.1, p.2.sorted.shape)).mapM
      (fun p => (p.2.resolve? (Sketch.maxDepth - 1)).map (p.1, ·)) = some o.particulars := by
    refine mapM_map_eq_some fun p hp => ?_
    have hintegral := (Json.all_object.mp o.isIntegral_toJson).2 p (List.mem_cons_of_mem _ hp)
    obtain ⟨hsorted, hdepth⟩ := o.scalar_particulars p hp
    rw [hsorted, Json.resolve?_shape hintegral (hdepth ▸ Nat.zero_le _)]
    rfl
  rw [toJson, hshape, ofSketch?]
  simp only [hkeyed, hkind, hothers, hresolve, Option.bind_eq_bind, Option.bind_some, Sketch.text?,
    Json.text?_rawText, ofFields?_particulars]

end Outcome

theorem Policy.ofSketch?_shape (p : Policy) :
    ofSketch? (Json.text p.name).sorted.shape = some p := by
  have hname : (Json.text p.name).sorted.shape.choice? = some p.name := Json.text?_rawText _
  rw [ofSketch?, hname]
  cases p <;> rfl

/-- A value without a double is read back as itself; an integer stays an integer. -/
theorem Value.ofJson?_toJson {v : Value} (h : ∀ x, v ≠ .float x) : ofJson? v.toJson = some v := by
  cases v with
  | bool b => rfl
  | text s => rfl
  | number n =>
    cases n with
    | int n =>
      have hrange := And.intro n.minValue_le_toInt n.toInt_le
      rw [toJson, Number.toJson, ofJson?, ofInteger, if_pos hrange, Int64.ofInt_toInt]
      rfl
    | float x => exact absurd rfl (h x)

theorem Value.isIntegral_toJson {v : Value} (h : ∀ x, v ≠ .float x) :
    v.toJson.all Json.isIntegral = true := by
  cases v with
  | bool b => rfl
  | text s => rfl
  | number n =>
    cases n with
    | int n =>
      have hmax : Int64.maxValue.toInt < (UInt64.size : Int) := by decide
      exact Json.all_isIntegral_int n.minValue_le_toInt (lt_of_le_of_lt n.toInt_le hmax)
    | float x => exact absurd rfl (h x)

theorem Value.scalar_toJson (v : Value) : v.toJson.sorted = v.toJson ∧ v.toJson.depth = 0 := by
  rcases v with b | ⟨n | x⟩ | s <;> exact ⟨rfl, rfl⟩

/-- **Decoding undoes encoding.** Failures and details with their facts in order, outcomes, policies,
and values without a double are read back from their canonical bytes, whatever their texts and
numbers are. -/
theorem read_encode_canonical :
    (∀ f : Failure, Entries.Increasing f.detail.facts →
      Sketch.ofBytes? (Utf8.encode f.toJson.canonical) >>= Failure.ofSketch? = some f) ∧
    (∀ d : Detail, Entries.Increasing d.facts →
      Sketch.ofBytes? (Utf8.encode d.toJson.canonical) >>= Detail.ofSketch? = some d) ∧
    (∀ o : Outcome,
      Sketch.ofBytes? (Utf8.encode o.toJson.canonical) >>= Outcome.ofSketch? = some o) ∧
    (∀ p : Policy,
      Sketch.ofBytes? (Utf8.encode (Json.text p.name).canonical) >>= Policy.ofSketch? = some p) ∧
    (∀ v : Value, (∀ x, v ≠ .float x) →
      Json.ofBytes? (Utf8.encode v.toJson.canonical) >>= Value.ofJson? = some v) := by
  refine ⟨fun f h => ?_, fun d h => ?_, fun o => ?_, fun p => ?_, fun v h => ?_⟩
  · rw [Json.ofBytes?_encode_canonical]
    exact Failure.ofSketch?_shape h
  · rw [Json.ofBytes?_encode_canonical]
    exact Detail.ofSketch?_shape h
  · rw [Json.ofBytes?_encode_canonical]
    exact o.ofSketch?_shape
  · rw [Json.ofBytes?_encode_canonical]
    exact p.ofSketch?_shape
  · obtain ⟨hsorted, hdepth⟩ := v.scalar_toJson
    have hread : Json.ofBytes? (Utf8.encode v.toJson.canonical) = some v.toJson := by
      rw [Json.canonical, hsorted]
      exact Json.resolve?_encode_write (v.isIntegral_toJson h) (hdepth ▸ Nat.zero_le _)
    rw [hread]
    exact v.ofJson?_toJson h

/-- A failure with facts, advice and characters that are escaped. -/
def explained : Failure :=
  (Failure.new .launching "spawn_failed" "\x00 \"cannot\" 𝕏")
    |>.noting "path" "C:\\é" |>.noting "attempt" "" |>.advising "check the\npath"

theorem read_encode_canonical_explained :
    Entries.Increasing explained.detail.facts ∧
      Sketch.ofBytes? (Utf8.encode explained.toJson.canonical) >>= Failure.ofSketch?
        = some explained ∧
      Sketch.ofBytes? (Utf8.encode explained.detail.toJson.canonical) >>= Detail.ofSketch?
        = some explained.detail ∧
      Json.ofBytes? (Utf8.encode (Value.int (-1)).toJson.canonical) >>= Value.ofJson?
        = some (Value.int (-1)) := by
  have hfacts : Entries.Increasing explained.detail.facts :=
    Entries.increasing_insert (Entries.increasing_insert List.Pairwise.nil)
  obtain ⟨hfailure, hdetail, -, -, hvalue⟩ := read_encode_canonical
  exact ⟨hfacts, hfailure _ hfacts, hdetail _ hfacts, hvalue _ (by simp [Value.int, Value.float])⟩

end TierSweep
