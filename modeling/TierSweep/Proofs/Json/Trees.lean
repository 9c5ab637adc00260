import TierSweep.Json.Read

/-!
# Parts of JSON trees

A property of trees is proved from the leaves upwards: it holds of an array or object if it holds of
its items or of the values of its fields (`Json.inductionOn`). A condition can be required of every
part of a tree (`Json.all`); those used here concern the numbers and the keys of objects. All
functions on trees treat items and fields one by one, so they are maps of lists.

## Main definitions

* `Json.all` — a condition on all parts of a tree.
* `Json.isIntegral`, `Json.hasDistinctKeys` — conditions on one part.
* `Json.depth` — how deep a tree is nested.

## Main results

* `Json.inductionOn`.
-/

namespace TierSweep.Json

/-- Induction on trees: the items of an array and the values of an object come before it. -/
@[elab_as_elim, induction_eliminator]
theorem inductionOn {P : Json → Prop} (null : P .null) (bool : ∀ b, P (.bool b))
    (int : ∀ n, P (.int n)) (real : ∀ x, P (.real x)) (text : ∀ s, P (.text s))
    (array : ∀ items, (∀ v ∈ items, P v) → P (.array items))
    (object : ∀ fields, (∀ p ∈ fields, P p.2) → P (.object fields)) (v : Json) : P v := by
  refine Json.rec (motive_1 := P) (motive_2 := fun items => ∀ v ∈ items, P v)
    (motive_3 := fun fields => ∀ p ∈ fields, P p.2) (motive_4 := fun p => P p.2)
    null bool int real text array object (by simp) ?_ (by simp) ?_ (fun _ _ h => h) v
  · exact fun v items hv hitems => List.forall_mem_cons.mpr ⟨hv, hitems⟩
  · exact fun p fields hp hfields => List.forall_mem_cons.mpr ⟨hp, hfields⟩

/-! ### Conditions on all parts -/

mutual

/-- Whether all parts of a tree meet a condition, the tree itself included. -/
def all (p : Json → Bool) : Json → Bool
  | .array items => p (.array items) && allOfItems p items
  | .object fields => p (.object fields) && allOfFields p fields
  | .null => p .null
  | .bool b => p (.bool b)
  | .int n => p (.int n)
  | .real x => p (.real x)
  | .text s => p (.text s)

/-- The same for the items of an array. -/
def allOfItems (p : Json → Bool) : List Json → Bool
  | [] => true
  | v :: rest => all p v && allOfItems p rest

/-- The same for the values of the fields of an object. -/
def allOfFields (p : Json → Bool) : List (String × Json) → Bool
  | [] => true
  | (_, v) :: rest => all p v && allOfFields p rest

end

mutual

/-- How deep a tree is nested: how many arrays and objects are around its innermost part. -/
def depth : Json → Nat
  | .array items => depthOfItems items + 1
  | .object fields => depthOfFields fields + 1
  | .null => 0
  | .bool _ => 0
  | .int _ => 0
  | .real _ => 0
  | .text _ => 0

/-- The greatest depth of the items of an array. -/
def depthOfItems : List Json → Nat
  | [] => 0
  | v :: rest => max (depth v) (depthOfItems rest)

/-- The greatest depth of the values of the fields of an object. -/
def depthOfFields : List (String × Json) → Nat
  | [] => 0
  | (_, v) :: rest => max (depth v) (depthOfFields rest)

end

/-- The part is no number but an integer that fits in sixty-four bits, be they signed or unsigned.
-/
def isIntegral : Json → Bool
  | .int n => Int64.minValue.toInt ≤ n && n < UInt64.size
  | .real _ => false
  | _ => true

/-- The part is no object with two fields of one key. -/
def hasDistinctKeys : Json → Bool
  | .object fields => (fields.map Prod.fst).Nodup
  | _ => true

section

variable {p : Json → Bool} {items : List Json} {fields : List (String × Json)} {d : Nat}

@[simp] theorem allOfItems_eq : allOfItems p items = items.all (all p) := by
  induction items with
  | nil => rfl
  | cons v items ih => rw [allOfItems, ih, List.all_cons]

@[simp] theorem allOfFields_eq : allOfFields p fields = fields.all (all p ·.2) := by
  induction fields with
  | nil => rfl
  | cons q fields ih => rw [allOfFields, ih, List.all_cons]

theorem all_array : (array items).all p = true ↔ p (array items) = true ∧
    ∀ v ∈ items, v.all p = true := by
  simp [all]

theorem all_object : (object fields).all p = true ↔ p (object fields) = true ∧
    ∀ q ∈ fields, q.2.all p = true := by
  simp [all]

theorem depthOfItems_le : depthOfItems items ≤ d ↔ ∀ v ∈ items, v.depth ≤ d := by
  induction items with
  | nil => simp [depthOfItems]
  | cons v items ih => simp only [depthOfItems, Nat.max_le, ih, List.forall_mem_cons]

theorem depthOfFields_le : depthOfFields fields ≤ d ↔ ∀ q ∈ fields, q.2.depth ≤ d := by
  induction fields with
  | nil => simp [depthOfFields]
  | cons q fields ih => simp only [depthOfFields, Nat.max_le, ih, List.forall_mem_cons]

/-- In canonical form an array has the canonical forms of its items. -/
@[simp] theorem sortedItems_eq : sortedItems items = items.map sorted := by
  induction items with
  | nil => rfl
  | cons v items ih => rw [sortedItems, ih, List.map_cons]

@[simp] theorem sortedFields_eq : sortedFields fields = fields.map fun q => (q.1, q.2.sorted) := by
  induction fields with
  | nil => rfl
  | cons q fields ih => rw [sortedFields, ih, List.map_cons]

end

end TierSweep.Json
