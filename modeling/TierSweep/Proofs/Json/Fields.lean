import TierSweep.Proofs.Json.Canonical

/-!
# Fields of canonical objects

In canonical bytes the fields of an object stand in the order of their keys and not in the order
they were put together, so a reader finds each field by its name. The fields a reader sees are
those of the object in some order (`Json.Keyed`), and with no key repeated a field is found
wherever it stands.

## Main definitions

* `Json.Keyed` — the fields of a canonical object as a reader sees them.

## Main results

* `Json.exists_keyed`, `Json.Keyed.field?_of_mem`, `Json.Keyed.field?_of_not_mem`.
* `Json.ofBytes?_encode_canonical`.
-/

namespace TierSweep

/-- Reading the entries of a list one by one gives the list that they were made from. -/
theorem mapM_map_eq_some {α β : Type} {f : β → Option α} {g : α → β} {l : List α}
    (h : ∀ a ∈ l, f (g a) = some a) : (l.map g).mapM f = some l := by
  induction l with
  | nil => rfl
  | cons a l ih =>
    obtain ⟨ha, hl⟩ := List.forall_mem_cons.mp h
    simp [-List.mapM_map, ha, ih hl]

namespace Json

namespace Sketch

variable {name : String} {s : Sketch} {fields : List (String × Sketch)}

private theorem filter_key_eq_nil (h : name ∉ fields.map Prod.fst) :
    fields.filter (·.1 = name) = [] := by
  rw [List.filter_eq_nil_iff]
  rintro p hp hname
  exact h (of_decide_eq_true hname ▸ List.mem_map_of_mem hp)

theorem field?_of_not_mem (h : name ∉ fields.map Prod.fst) : field? name fields = some none := by
  rw [field?, filter_key_eq_nil h]

/-- A field is found wherever it stands, if no key is repeated. -/
theorem field?_of_mem (hkeys : (fields.map Prod.fst).Nodup) (h : (name, s) ∈ fields) :
    field? name fields = some (some s) := by
  suffices hfilter : fields.filter (·.1 = name) = [(name, s)] by rw [field?, hfilter]
  induction fields with
  | nil => cases h
  | cons p fields ih =>
    obtain ⟨hnew, hfields⟩ := List.nodup_cons.mp hkeys
    rcases List.mem_cons.mp h with rfl | h
    · simp [filter_key_eq_nil hnew]
    · have hne : p.1 ≠ name := by
        rintro rfl
        exact hnew (List.mem_map.mpr ⟨_, h, rfl⟩)
      simp [hne, ih hfields h]

end Sketch

theorem keyed?_shapeOfFields (fields : List (String × Json)) :
    Sketch.keyed? (shapeOfFields fields) = some (fields.map fun p => (p.1, p.2.shape)) := by
  rw [shapeOfFields_eq, Sketch.keyed?, List.mapM_map]
  simp only [Function.comp_def, text?_rawText, Option.map_some]
  exact List.mapM_pure

/-- The keyed sketches are those of the fields in canonical form, in some order. -/
structure Keyed (fields : List (String × Json)) (keyed : List (String × Sketch)) : Prop where
  nodup : (fields.map Prod.fst).Nodup
  perm : keyed.Perm (fields.map fun p => (p.1, p.2.sorted.shape))

/-- A canonical object is read as an object with the fields given, in some order. -/
theorem exists_keyed {fields : List (String × Json)} (h : (fields.map Prod.fst).Nodup) :
    ∃ raw keyed, (object fields).sorted.shape = .object raw ∧ Sketch.keyed? raw = some keyed ∧
      Keyed fields keyed := by
  have hsorted : ((sortedFields fields).map Prod.fst).Nodup := by
    simpa [Function.comp_def] using h
  refine ⟨_, _, rfl, keyed?_shapeOfFields _, h, ?_⟩
  simpa [Function.comp_def] using (Entries.perm_ofList hsorted).map fun p => (p.1, p.2.shape)

namespace Keyed

variable {fields : List (String × Json)} {keyed : List (String × Sketch)} {name : String}

theorem perm_keys (h : Keyed fields keyed) :
    (keyed.map Prod.fst).Perm (fields.map Prod.fst) := by
  simpa [Function.comp_def] using h.perm.map Prod.fst

theorem field?_of_mem (h : Keyed fields keyed) {v : Json} (hv : (name, v) ∈ fields) :
    Sketch.field? name keyed = some (some v.sorted.shape) :=
  Sketch.field?_of_mem (h.perm_keys.nodup_iff.mpr h.nodup)
    (h.perm.mem_iff.mpr (List.mem_map.mpr ⟨_, hv, rfl⟩))

theorem field?_of_not_mem (h : Keyed fields keyed) (hname : name ∉ fields.map Prod.fst) :
    Sketch.field? name keyed = some none :=
  Sketch.field?_of_not_mem fun hmem => hname (h.perm_keys.mem_iff.mp hmem)

end Keyed

/-- The bytes of a canonical text are sketched as the shape of the canonical form. -/
theorem ofBytes?_encode_canonical (v : Json) :
    Sketch.ofBytes? (Utf8.encode v.canonical) = some v.sorted.shape :=
  ofBytes?_encode_write v.sorted

/-- Integers of sixty-four bits, signed or unsigned, are among those that are read as integers. -/
theorem all_isIntegral_int {n : Int} (h : Int64.minValue.toInt ≤ n) (h' : n < UInt64.size) :
    (int n).all isIntegral = true :=
  Bool.and_eq_true_iff.mpr ⟨decide_eq_true h, decide_eq_true h'⟩

end Json

end TierSweep
