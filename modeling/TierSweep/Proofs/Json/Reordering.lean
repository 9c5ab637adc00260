import TierSweep.Proofs.Entries.Order
import TierSweep.Proofs.Json.Trees

/-!
# Trees up to the order of fields

Two trees are the same value if they differ in the order of fields alone, in objects at any depth
(`Json.Reorders`). A tree without repeated keys is the same value as its canonical form, and trees
that are the same value have one canonical form, so being the same value and having the same
canonical form are the same thing.

## Main definitions

* `Json.Reorders` — the order of the fields of some objects differs and nothing else does.

## Main results

* `Json.reorders_sorted`.
* `Json.reorders_iff_sorted_eq`.
-/

namespace TierSweep.Json

/-- The second tree is the first one with the fields of some objects in another order, at any
depth. -/
inductive Reorders : Json → Json → Prop where
  | refl (v : Json) : Reorders v v
  /-- The fields of an object change places. -/
  | fields {fields others : List (String × Json)} (h : fields.Perm others) :
    Reorders (.object fields) (.object others)
  /-- An item of an array is reordered. -/
  | item (before after : List Json) {v w : Json} (h : Reorders v w) :
    Reorders (.array (before ++ v :: after)) (.array (before ++ w :: after))
  /-- The value of a field is reordered. -/
  | value (before after : List (String × Json)) (key : String) {v w : Json} (h : Reorders v w) :
    Reorders (.object (before ++ (key, v) :: after)) (.object (before ++ (key, w) :: after))
  | trans {u v w : Json} (h : Reorders u v) (h' : Reorders v w) : Reorders u w

namespace Reorders

variable {v w : Json}

theorem symm (h : Reorders v w) : Reorders w v := by
  induction h with
  | refl v => exact refl v
  | fields h => exact fields h.symm
  | item before after _ ih => exact item before after ih
  | value before after key _ ih => exact value before after key ih
  | trans _ _ ih ih' => exact ih'.trans ih

/-- Lists that are related whenever one place is replaced are related to the list with all places
replaced. -/
private theorem map_of_replace {α : Type} {f : α → α} {R : List α → List α → Prop}
    (hrefl : ∀ l, R l l) (htrans : ∀ {l₁ l₂ l₃}, R l₁ l₂ → R l₂ l₃ → R l₁ l₃) {l : List α}
    (h : ∀ a ∈ l, ∀ before after, R (before ++ a :: after) (before ++ f a :: after)) :
    R l (l.map f) := by
  suffices hbefore : ∀ before, R (before ++ l) (before ++ l.map f) from hbefore []
  induction l with
  | nil => exact fun before => hrefl _
  | cons a l ih =>
    obtain ⟨ha, hl⟩ := List.forall_mem_cons.mp h
    intro before
    have hrest := ih hl (before ++ [f a])
    rw [List.append_assoc, List.append_assoc] at hrest
    exact htrans (ha before l) hrest

theorem array_map {f : Json → Json} {items : List Json} (h : ∀ v ∈ items, Reorders v (f v)) :
    Reorders (.array items) (.array (items.map f)) :=
  map_of_replace (R := fun l l' => Reorders (.array l) (.array l')) (fun _ => refl _) trans
    fun v hv before after => item before after (h v hv)

theorem object_map {f : Json → Json} {fields : List (String × Json)}
    (h : ∀ p ∈ fields, Reorders p.2 (f p.2)) :
    Reorders (.object fields) (.object (fields.map fun p => (p.1, f p.2))) :=
  map_of_replace (R := fun l l' => Reorders (.object l) (.object l')) (fun _ => refl _) trans
    fun p hp before after => value before after p.1 (h p hp)

end Reorders

/-! ### Canonical forms -/

section

variable {v w : Json} {fields : List (String × Json)}

theorem nodup_keys_of_all (h : (object fields).all hasDistinctKeys = true) :
    (fields.map Prod.fst).Nodup := by
  simpa [hasDistinctKeys] using (all_object.mp h).1

/-- The fields of a canonical form are those of the object, each in canonical form. -/
theorem mem_sorted_object {p : String × Json}
    (h : p ∈ Entries.ofList (sortedFields fields)) : ∃ q ∈ fields, p = (q.1, q.2.sorted) := by
  rw [sortedFields_eq] at h
  obtain ⟨q, hq, rfl⟩ := List.mem_map.mp (Entries.mem_of_mem_ofList h)
  exact ⟨q, hq, rfl⟩

/-- A tree without repeated keys differs from its canonical form in the order of fields alone. -/
theorem reorders_sorted (h : v.all hasDistinctKeys = true) : v.Reorders v.sorted := by
  induction v with
  | array items ih =>
    rw [sorted, sortedItems_eq]
    exact .array_map fun v hv => ih v hv ((all_array.mp h).2 v hv)
  | object fields ih =>
    have hvalues : Reorders (.object fields) (.object (sortedFields fields)) := by
      rw [sortedFields_eq]
      exact .object_map fun p hp => ih p hp ((all_object.mp h).2 p hp)
    have hkeys : ((sortedFields fields).map Prod.fst).Nodup := by
      simpa [Function.comp_def] using nodup_keys_of_all h
    exact hvalues.trans (.fields (Entries.perm_ofList hkeys).symm)
  | _ => exact .refl _

/-- Reordering repeats no key and keeps the canonical form. -/
theorem Reorders.sorted_eq (h : v.Reorders w) (hv : v.all hasDistinctKeys = true) :
    w.all hasDistinctKeys = true ∧ v.sorted = w.sorted := by
  induction h with
  | refl v => exact ⟨hv, rfl⟩
  | fields h =>
    have hkeys := nodup_keys_of_all hv
    have hvalues := fun p hp => (all_object.mp hv).2 p (h.mem_iff.mpr hp)
    refine ⟨all_object.mpr ⟨?_, hvalues⟩, ?_⟩
    · simpa [hasDistinctKeys] using (h.map Prod.fst).nodup_iff.mp hkeys
    · rw [sorted, sorted, sortedFields_eq, sortedFields_eq]
      refine congrArg object (Entries.ofList_eq_of_perm ?_ (h.map _))
      simpa [Function.comp_def] using hkeys
  | item before after _ ih =>
    simp only [all_array, List.forall_mem_append, List.forall_mem_cons] at hv ⊢
    obtain ⟨-, hbefore, hitem, hafter⟩ := hv
    obtain ⟨hitem', heq⟩ := ih hitem
    exact ⟨⟨rfl, hbefore, hitem', hafter⟩, by simp [sorted, heq]⟩
  | value before after key _ ih =>
    simp only [all_object, List.forall_mem_append, List.forall_mem_cons] at hv ⊢
    obtain ⟨hkeys, hbefore, hvalue, hafter⟩ := hv
    obtain ⟨hvalue', heq⟩ := ih hvalue
    refine ⟨⟨?_, hbefore, hvalue', hafter⟩, by simp [sorted, heq]⟩
    simpa [hasDistinctKeys] using hkeys
  | trans _ _ ih ih' =>
    obtain ⟨hmid, heq⟩ := ih hv
    obtain ⟨hw, heq'⟩ := ih' hmid
    exact ⟨hw, heq.trans heq'⟩

/-- The canonical form of a canonical form is itself. -/
theorem sorted_sorted (h : v.all hasDistinctKeys = true) : v.sorted.sorted = v.sorted :=
  ((reorders_sorted h).sorted_eq h).2.symm

/-- Trees without repeated keys have one canonical form exactly if they differ in the order of
fields alone. -/
theorem reorders_iff_sorted_eq (hv : v.all hasDistinctKeys = true)
    (hw : w.all hasDistinctKeys = true) : v.Reorders w ↔ v.sorted = w.sorted := by
  refine ⟨fun h => (h.sorted_eq hv).2, fun h => ?_⟩
  exact (h ▸ reorders_sorted hv).trans (reorders_sorted hw).symm

end

end TierSweep.Json
