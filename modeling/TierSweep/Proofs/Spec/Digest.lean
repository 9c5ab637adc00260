import TierSweep.Proofs.Json.Decoding
import TierSweep.Proofs.Json.Injectivity
import TierSweep.Report

/-!
# What the digest of a specification separates

The digest is taken of the canonical bytes of the list of parameters. The bytes tell the names, the
order of the parameters, the number and order of the values and the kind of every value, and they tell
every value but doubles that are not finite: these are all written as null, whichever they are. So
specifications of finite doubles have different bytes if they differ at all, while one specification
of infinity has the bytes of another one of minus infinity.

## Main definitions

* `Value.written?`, `Parameter.written` — what the bytes tell of a value and of a parameter.
* `Spec.IsFinite` — no value is infinite or not a number.

## Main results

* `Spec.encode_canonical_eq_iff`.
-/

namespace TierSweep

/-! ### Values and parameters -/

namespace Value

/-- The value as canonical bytes tell it: nothing but its place if it is a double that is not
finite. -/
def written? : Value → Option Value
  | .number (.float x) => if x.isFinite then some (float x) else none
  | v => some v

theorem nullified_toJson (v : Value) :
    v.toJson.nullified = (v.written?.map toJson).getD .null := by
  rcases v with b | ⟨n | x⟩ | s
  · rfl
  · rfl
  · simp only [toJson, Number.toJson, Json.nullified, written?]
    split <;> rfl
  · rfl

theorem ofJson?_nullified_toJson (v : Value) : ofJson? v.toJson.nullified = v.written? := by
  rw [nullified_toJson]
  rcases v with b | ⟨n | x⟩ | s
  · rfl
  · exact ofJson?_toJson (v := int n) (by simp [int, float])
  · simp only [written?]
    split <;> rfl
  · rfl

/-- What is left of two values is the same exactly if they are written alike. -/
theorem nullified_toJson_eq_iff {v w : Value} :
    v.toJson.nullified = w.toJson.nullified ↔ v.written? = w.written? := by
  constructor
  · intro h
    rw [← ofJson?_nullified_toJson, h, ofJson?_nullified_toJson]
  · intro h
    rw [nullified_toJson, h, ← nullified_toJson]

/-- The value is no double that is infinite or not a number. -/
def isFinite : Value → Bool
  | .number (.float x) => x.isFinite
  | _ => true

theorem written?_of_isFinite {v : Value} (h : v.isFinite = true) : v.written? = some v := by
  rcases v with b | ⟨n | x⟩ | s
  · rfl
  · rfl
  · exact if_pos h
  · rfl

end Value

/-- Lists are mapped alike by functions that identify the same things. -/
private theorem map_eq_map_iff {α β γ : Type} {f : α → β} {g : α → γ}
    (h : ∀ {x y}, f x = f y ↔ g x = g y) {xs ys : List α} :
    xs.map f = ys.map f ↔ xs.map g = ys.map g := by
  simp only [← List.forall₂_eq_eq_eq, List.forall₂_map_left_iff, List.forall₂_map_right_iff, h]

namespace Parameter

/-- The name of a parameter and its values as canonical bytes tell them. -/
def written (p : Parameter) : String × List (Option Value) := (p.name, p.values.map Value.written?)

theorem nullified_toJson_eq_iff {p q : Parameter} :
    p.toJson.nullified = q.toJson.nullified ↔ p.written = q.written := by
  have hvalues : p.values.map (fun v => v.toJson.nullified) =
      q.values.map (fun v => v.toJson.nullified) ↔
        p.values.map Value.written? = q.values.map Value.written? :=
    map_eq_map_iff Value.nullified_toJson_eq_iff
  simp [toJson, written, Json.nullified, ← hvalues, Function.comp_def]

/-- The keys of a parameter are in order already. -/
theorem sorted_toJson (p : Parameter) : p.toJson.sorted = p.toJson := by
  have hkeys (name values : Json) :
      Entries.ofList [("name", name), ("values", values)] = [("name", name), ("values", values)] :=
    Entries.ofList_of_increasing (List.pairwise_pair.mpr (by decide : "name" < "values"))
  have hvalues : (p.values.map Value.toJson).map Json.sorted = p.values.map Value.toJson := by
    rw [List.map_map]
    exact List.map_congr_left fun v _ => v.scalar_toJson.1
  simp [toJson, Json.sorted, -List.map_map, hvalues, hkeys]

end Parameter

namespace Spec

/-! ### Specifications -/

theorem sorted_toJson (s : Spec) : s.toJson.sorted = s.toJson := by
  rw [toJson, Json.sorted, Json.sortedItems_eq, List.map_map]
  exact congrArg Json.array (List.map_congr_left fun p _ => p.sorted_toJson)

/-- No value of a specification is a double that is infinite or not a number. -/
def IsFinite (s : Spec) : Prop := ∀ p ∈ s.params, ∀ v ∈ p.values, v.isFinite = true

instance (s : Spec) : Decidable s.IsFinite :=
  inferInstanceAs (Decidable (∀ p ∈ s.params, ∀ v ∈ p.values, v.isFinite = true))

theorem IsFinite.map_written {s : Spec} (h : s.IsFinite) :
    s.params.map Parameter.written = s.params.map fun p => (p.name, p.values.map some) := by
  refine List.map_congr_left fun p hp => ?_
  rw [Parameter.written, List.map_congr_left fun v hv => Value.written?_of_isFinite (h p hp v hv)]

theorem IsFinite.eq_of_map_written_eq {s t : Spec} (hs : s.IsFinite) (ht : t.IsFinite)
    (h : s.params.map Parameter.written = t.params.map Parameter.written) : s = t := by
  have hinjective : Function.Injective fun p : Parameter => (p.name, p.values.map some) := by
    rintro ⟨name, values⟩ ⟨name', values'⟩ hpq
    obtain ⟨hname, hvalues⟩ := Prod.mk.inj hpq
    rw [Parameter.mk.injEq]
    exact ⟨hname, (Option.some_injective _).list_map hvalues⟩
  rw [hs.map_written, ht.map_written] at h
  exact congrArg Spec.mk (hinjective.list_map h)

/-- The canonical bytes tell what is written of every parameter and no more. -/
theorem encode_canonical_eq_iff_written (s t : Spec) :
    Utf8.encode s.toJson.canonical = Utf8.encode t.toJson.canonical ↔
      s.params.map Parameter.written = t.params.map Parameter.written := by
  have hparams : s.params.map (fun p => p.toJson.nullified) =
      t.params.map (fun p => p.toJson.nullified) ↔
        s.params.map Parameter.written = t.params.map Parameter.written :=
    map_eq_map_iff Parameter.nullified_toJson_eq_iff
  rw [Json.canonical, Json.canonical, sorted_toJson, sorted_toJson, Json.encode_write_eq_iff,
    ← hparams]
  simp [toJson, Json.nullified, Function.comp_def]

/-- **What the digest of a specification separates.** Two specifications have the same canonical bytes
exactly if they have the same parameters in the same order with the same values, up to which double a
value is where it is not finite. So specifications whose doubles are finite have different bytes if
they differ in anything. -/
theorem encode_canonical_eq_iff (s t : Spec) :
    (Utf8.encode s.toJson.canonical = Utf8.encode t.toJson.canonical ↔
      s.params.map Parameter.written = t.params.map Parameter.written) ∧
    (s.IsFinite → t.IsFinite →
      (Utf8.encode s.toJson.canonical = Utf8.encode t.toJson.canonical ↔ s = t)) := by
  refine ⟨encode_canonical_eq_iff_written s t, fun hs ht => ⟨fun h => ?_, ?_⟩⟩
  · exact hs.eq_of_map_written_eq ht ((encode_canonical_eq_iff_written s t).mp h)
  · rintro rfl
    rfl

/-- One parameter with values of four kinds that look alike. -/
def lookalikes : List Spec :=
  [.int 1, .float (.ofInt 1), .text "1", .bool true, .text "true"].map (empty.setOne "x")

theorem encode_canonical_eq_iff_lookalikes :
    (lookalikes.map fun s => Utf8.encode s.toJson.canonical).Nodup := by
  have hfinite : ∀ s ∈ lookalikes, s.IsFinite := by decide +kernel
  have hnodup : lookalikes.Nodup := by decide +kernel
  refine (List.nodup_map_iff_inj_on hnodup).mpr fun s hs t ht h => ?_
  exact ((encode_canonical_eq_iff s t).2 (hfinite s hs) (hfinite t ht)).mp h

/-- Infinity and minus infinity are different values of one parameter, but no digest tells them
apart. -/
theorem infinities_share_digest :
    ∃ s t, s = empty.setOne "x" (.float (.infinity false)) ∧
      t = empty.setOne "x" (.float (.infinity true)) ∧ s ≠ t ∧
      Utf8.encode s.toJson.canonical = Utf8.encode t.toJson.canonical ∧ s.digest = t.digest := by
  have hbytes : Utf8.encode (empty.setOne "x" (.float (.infinity false))).toJson.canonical =
      Utf8.encode (empty.setOne "x" (.float (.infinity true))).toJson.canonical :=
    (encode_canonical_eq_iff_written _ _).mpr rfl
  refine ⟨_, _, rfl, rfl, by decide, hbytes, ?_⟩
  rw [digest, digest, Sha256.hexOfText, hbytes, Sha256.hexOfText]

end Spec

end TierSweep
