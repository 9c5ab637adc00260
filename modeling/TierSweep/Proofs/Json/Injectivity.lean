import TierSweep.Proofs.Json.Shape
import TierSweep.Proofs.Traversal

/-!
# Trees with one text

Two trees have the same compact text exactly if they are equal where every double that is not finite
counts as null, for that is how it is written (`Json.encode_write_eq_iff`). Everything else can be
told from the text: the kind of a part, a number with its sign, the characters of a string and the
order of items and fields.

## Main definitions

* `Json.nullified` — the tree with null in place of the doubles that are not finite.

## Main results

* `Json.eq_of_shape_eq`, `Json.encode_write_eq_iff`.
-/

namespace TierSweep.Json

mutual

/-- The tree with null in place of every double that is not finite. -/
def nullified : Json → Json
  | .array items => .array (nullifiedItems items)
  | .object fields => .object (nullifiedFields fields)
  | .null => .null
  | .bool b => .bool b
  | .int n => .int n
  | .real x => if x.isFinite then .real x else .null
  | .text s => .text s

/-- Items, each with null in place of doubles that are not finite. -/
def nullifiedItems : List Json → List Json
  | [] => []
  | v :: rest => nullified v :: nullifiedItems rest

/-- Fields, each value with null in place of doubles that are not finite. -/
def nullifiedFields : List (String × Json) → List (String × Json)
  | [] => []
  | (k, v) :: rest => (k, nullified v) :: nullifiedFields rest

end

/-- The part is no double without a JSON text of its own. -/
def hasText : Json → Bool
  | .real x => x.isFinite
  | _ => true

section

variable {items : List Json} {fields : List (String × Json)}

@[simp] theorem nullifiedItems_eq : nullifiedItems items = items.map nullified := by
  induction items with
  | nil => rfl
  | cons v items ih => rw [nullifiedItems, ih, List.map_cons]

@[simp] theorem nullifiedFields_eq :
    nullifiedFields fields = fields.map fun p => (p.1, p.2.nullified) := by
  induction fields with
  | nil => rfl
  | cons p fields ih => rw [nullifiedFields, ih, List.map_cons]

theorem all_hasText_nullified (v : Json) : v.nullified.all hasText = true := by
  induction v with
  | real x =>
    rw [nullified]
    split
    · assumption
    · rfl
  | array items ih =>
    rw [nullified, nullifiedItems_eq]
    exact all_array.mpr ⟨rfl, List.forall_mem_map.mpr ih⟩
  | object fields ih =>
    rw [nullified, nullifiedFields_eq]
    exact all_object.mpr ⟨rfl, List.forall_mem_map.mpr ih⟩
  | _ => rfl

theorem charsOfItems_map {f : Json → Json} (h : ∀ v ∈ items, (f v).chars = v.chars) :
    charsOfItems (items.map f) = charsOfItems items := by
  induction items with
  | nil => rfl
  | cons v items ih =>
    obtain ⟨hv, hitems⟩ := List.forall_mem_cons.mp h
    cases items with
    | nil => exact hv
    | cons w items => simpa [charsOfItems, hv] using ih hitems

theorem charsOfFields_map {f : Json → Json} (h : ∀ p ∈ fields, (f p.2).chars = p.2.chars) :
    charsOfFields (fields.map fun p => (p.1, f p.2)) = charsOfFields fields := by
  induction fields with
  | nil => rfl
  | cons p fields ih =>
    obtain ⟨hp, hfields⟩ := List.forall_mem_cons.mp h
    cases fields with
    | nil => simp [charsOfFields, hp]
    | cons q fields => simpa [charsOfFields, hp] using ih hfields

/-- What is written as null may be null. -/
theorem chars_nullified (v : Json) : v.nullified.chars = v.chars := by
  induction v with
  | real x =>
    rw [nullified]
    split
    · rfl
    · next h => rw [chars, chars, realText, if_neg h]
  | array items ih => rw [nullified, nullifiedItems_eq, chars, chars, charsOfItems_map ih]
  | object fields ih => rw [nullified, nullifiedFields_eq, chars, chars, charsOfFields_map ih]
  | _ => rfl

end

/-! ### Shapes -/

/-- A finite double has a numeral as its shape that no integer has. -/
theorem exists_shape_real {x : Binary64} (h : (real x).hasText = true) : ∃ s r n,
    x = .finite s r ∧ (real x).shape = .number n ∧ n.negative = s ∧ n.IsReal ∧
      Binary64.RoundsTo n.toDecimal.value r := by
  cases x with
  | nan => cases h
  | infinity negative => cases h
  | finite s r =>
    obtain ⟨n, hn, hfacts⟩ := exists_ofWord?_realText s r
    exact ⟨s, r, n, rfl, by rw [shape, hn, Option.getD_some], hfacts⟩

theorem rawText_injective {s t : String} (h : rawText s = rawText t) : s = t := by
  have hs := text?_rawText s
  rw [h, text?_rawText] at hs
  exact (Option.some_inj.mp hs).symm

variable {v w : Json}

theorem eq_real_of_shape_eq {x : Binary64} (hx : (real x).all hasText = true)
    (hv : v.all hasText = true) (h : v.shape = (real x).shape) : v = real x := by
  obtain ⟨s, r, n, rfl, hshape, hs, hreal, hr⟩ := exists_shape_real hx
  rw [hshape] at h
  cases v with
  | real y =>
    obtain ⟨s', r', n', rfl, hshape', hs', -, hr'⟩ := exists_shape_real hv
    rw [hshape'] at h
    obtain rfl := Sketch.number.inj h
    rw [← hs, ← hs', Fin.ext (hr.rank_eq hr')]
  | int m =>
    rw [shape] at h
    exact absurd (Sketch.number.inj h ▸ hreal) (not_isReal_numeralOf m)
  | _ => cases h

/-- Trees in which every double is finite are told apart by their shapes. -/
theorem eq_of_shape_eq (hv : v.all hasText = true) (hw : w.all hasText = true)
    (h : v.shape = w.shape) : v = w := by
  induction v generalizing w with
  | null =>
    cases w with
    | null => rfl
    | real y => exact eq_real_of_shape_eq hw hv h
    | _ => cases h
  | bool b =>
    cases w with
    | bool c => rw [Sketch.bool.inj h]
    | real y => exact eq_real_of_shape_eq hw hv h
    | _ => cases h
  | int n =>
    cases w with
    | int m => rw [numeralOf_injective (Sketch.number.inj h)]
    | real y => exact eq_real_of_shape_eq hw hv h
    | _ => cases h
  | real x => exact (eq_real_of_shape_eq hv hw h.symm).symm
  | text s =>
    cases w with
    | text t => rw [rawText_injective (Sketch.text.inj h)]
    | real y => exact eq_real_of_shape_eq hw hv h
    | _ => cases h
  | array items ih =>
    cases w with
    | array others =>
      obtain ⟨-, hitems⟩ := all_array.mp hv
      obtain ⟨-, hothers⟩ := all_array.mp hw
      rw [shape, shape, shapeOfItems_eq, shapeOfItems_eq] at h
      rw [Traversal.eq_of_map_eq (fun v hv w hw => ih v hv (hitems v hv) (hothers w hw))
        (Sketch.array.inj h)]
    | real y => exact eq_real_of_shape_eq hw hv h
    | _ => cases h
  | object fields ih =>
    cases w with
    | object others =>
      obtain ⟨-, hfields⟩ := all_object.mp hv
      obtain ⟨-, hothers⟩ := all_object.mp hw
      rw [shape, shape, shapeOfFields_eq, shapeOfFields_eq] at h
      refine congrArg object (Traversal.eq_of_map_eq (fun p hp q hq hpq => ?_) (Sketch.object.inj h))
      obtain ⟨hkey, hvalue⟩ := Prod.mk.inj hpq
      exact Prod.ext (rawText_injective hkey) (ih p hp (hfields p hp) (hothers q hq) hvalue)
    | real y => exact eq_real_of_shape_eq hw hv h
    | _ => cases h

/-- **What a compact text tells.** Two trees have the same bytes exactly if they are equal with null in
place of the doubles that are not finite. -/
theorem encode_write_eq_iff :
    Utf8.encode v.write = Utf8.encode w.write ↔ v.nullified = w.nullified := by
  have hwrite (u : Json) : u.nullified.write = u.write := by rw [write, write, chars_nullified]
  constructor
  · intro h
    rw [← hwrite v, ← hwrite w] at h
    have hshape := ofBytes?_encode_write v.nullified
    rw [h, ofBytes?_encode_write] at hshape
    exact eq_of_shape_eq (all_hasText_nullified v) (all_hasText_nullified w)
      (Option.some_inj.mp hshape).symm
  · intro h
    rw [← hwrite v, ← hwrite w, h]

end TierSweep.Json
