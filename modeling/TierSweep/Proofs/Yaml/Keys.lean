import TierSweep.Proofs.Traversal
import TierSweep.Yaml.Document

/-!
# The keys of a mapping

No two entries of a mapping have the same key, where keys are the same if they look the same after
reading. An entry that is set takes the place of the one with its key, and a document in which a key
occurs twice in a mapping is refused.

## Main definitions

* `Yaml.DistinctKeys` — no two entries of a mapping have the same key.

## Main results

* `Yaml.DistinctKeys.setEntry`, `Yaml.Node.distinctKeys_of_ofBytes`.
-/

namespace TierSweep.Yaml

open Traversal

/-- No two entries of a mapping have the same key. -/
def DistinctKeys (entries : List (Node × Node)) : Prop :=
  entries.Pairwise fun e f => Node.same f.1 e.1 = false

instance (entries : List (Node × Node)) : Decidable (DistinctKeys entries) :=
  inferInstanceAs (Decidable (entries.Pairwise fun e f => Node.same f.1 e.1 = false))

/-- A key that a mapping does not have can be set at its end. -/
theorem DistinctKeys.concat {entries : List (Node × Node)} {key : Node} (h : DistinctKeys entries)
    (hkey : Node.hasKey key entries = false) (value : Node) :
    DistinctKeys (entries ++ [(key, value)]) := by
  refine List.pairwise_append.mpr ⟨h, List.pairwise_singleton _ _, fun e he f hf => ?_⟩
  obtain rfl := List.mem_singleton.mp hf
  exact Bool.eq_false_iff.mpr (List.any_eq_false.mp hkey e he)

/-- Setting an entry keeps the keys different. -/
theorem DistinctKeys.setEntry {entries : List (Node × Node)} (h : DistinctKeys entries)
    (key value : Node) : DistinctKeys (Node.setEntry key value entries) := by
  have hmem {l : List (Node × Node)} {f : Node × Node} (hf : f ∈ Node.setEntry key value l) :
      f.1 = key ∨ ∃ e ∈ l, e.1 = f.1 := by
    induction l with
    | nil => exact .inl (by rw [List.mem_singleton.mp hf])
    | cons e l ih =>
      rw [Node.setEntry] at hf
      split at hf
      · obtain rfl | hf := List.mem_cons.mp hf
        · exact .inr ⟨e, List.mem_cons_self, rfl⟩
        · exact .inr ⟨f, List.mem_cons_of_mem _ hf, rfl⟩
      · obtain rfl | hf := List.mem_cons.mp hf
        · exact .inr ⟨_, List.mem_cons_self, rfl⟩
        · exact (ih hf).imp id fun ⟨g, hg, heq⟩ => ⟨g, List.mem_cons_of_mem _ hg, heq⟩
  induction entries with
  | nil => exact List.pairwise_singleton _ _
  | cons e entries ih =>
    obtain ⟨hhead, htail⟩ := List.pairwise_cons.mp h
    rw [Node.setEntry]
    split
    · exact List.pairwise_cons.mpr ⟨hhead, htail⟩
    · next hne =>
      refine List.pairwise_cons.mpr ⟨fun f hf => ?_, ih htail⟩
      obtain hkey | ⟨g, hg, hkey⟩ := hmem hf
      · exact hkey ▸ Bool.eq_false_iff.mpr hne
      · exact hkey ▸ hhead g hg

namespace Linked

variable {compose : Linked → Counting Node}

/-- The entries made of pairs have different keys, if those made before them have. -/
theorem distinctKeys_composePairs {pairs : List (Linked × Linked)}
    {reversed entries : List (Node × Node)} {n m : Nat} (hreversed : DistinctKeys reversed.reverse)
    (h : composePairs compose reversed pairs n = .ok (entries, m)) : DistinctKeys entries := by
  induction pairs generalizing reversed n with
  | nil =>
    obtain ⟨rfl, -⟩ := Prod.mk.inj (Except.ok.inj h)
    exact hreversed
  | cons pair pairs ih =>
    obtain ⟨f, g⟩ := pair
    rw [composePairs] at h
    obtain ⟨⟨key, k⟩, -, h⟩ := bind_eq_ok_iff.mp h
    dsimp only at h
    split at h
    · cases h
    · next hkey =>
      obtain ⟨⟨value, l⟩, -, h⟩ := bind_eq_ok_iff.mp h
      refine ih ?_ h
      rw [List.reverse_cons]
      refine hreversed.concat ?_ _
      rw [Node.hasKey, List.any_reverse]
      exact Bool.eq_false_iff.mpr hkey

/-- A value under a tag is no mapping. -/
theorem eq_mapping_of_wrap {tag? : Option String} {v : Node} {entries : List (Node × Node)}
    (h : wrap tag? v = .mapping entries) : v = .mapping entries := by
  cases tag? with
  | none => exact h
  | some tag => cases h

end Linked

/-- A plain scalar stands for no mapping. -/
theorem Scalar.resolve_ne_mapping (s : String) (entries : List (Node × Node)) :
    resolve s ≠ .ok (.mapping entries) := by
  rw [resolve]
  split
  · simp
  · split
    · simp
    · split
      · next n _ => cases n <;> simp [Except.map]
      · split
        · simp
        · split <;> simp

/-- A scalar under a standard tag stands for no mapping. -/
theorem Scalar.resolveTagged_ne_mapping (tag : Bytes) (s : String) (isPlain : Bool)
    (entries : List (Node × Node)) : resolveTagged tag s isPlain ≠ .ok (.mapping entries) := by
  rw [resolveTagged]
  split
  · split <;> simp
  · split
    · split
      · next n _ => cases n <;> simp [Except.map]
      · simp
    · split
      · split <;> simp
      · split
        · split <;> simp
        · split
          · exact resolve_ne_mapping s entries
          · simp

/-- Nothing that a scalar stands for is a mapping under a tag. -/
theorem Linked.bind_wrap_ne_mapping {x : Except Fault Node} {tag? : Option String} {n m : Nat}
    {entries : List (Node × Node)} (hx : ∀ entries, x ≠ .ok (.mapping entries)) :
    (x >>= fun v => pure (wrap tag? v, n)) ≠ .ok (.mapping entries, m) := by
  intro h
  obtain ⟨v, hv, h⟩ := bind_eq_ok_iff.mp h
  obtain rfl := eq_mapping_of_wrap (Prod.mk.inj (Except.ok.inj h)).1
  exact hx entries hv

/-- A scalar stands for no mapping. -/
theorem Linked.compose_scalar_ne_mapping {anchors : Anchors} {limit fuel depth n m : Nat}
    {tag? : Option Bytes} {text : List Char} {isPlain : Bool} {entries : List (Node × Node)} :
    compose anchors limit fuel depth (.scalar tag? text isPlain) n ≠ .ok (.mapping entries, m) := by
  have htext (s : String) (entries : List (Node × Node)) :
      (pure (.text s) : Except Fault Node) ≠ .ok (.mapping entries) := by
    intro h
    cases h
  cases fuel with
  | zero =>
    intro h
    cases h
  | succ fuel =>
    unfold compose
    dsimp only
    split
    · split
      · exact bind_wrap_ne_mapping (Scalar.resolve_ne_mapping _)
      · exact bind_wrap_ne_mapping (htext _)
    · exact bind_wrap_ne_mapping (Scalar.resolveTagged_ne_mapping _ _ _)
    · split
      · exact bind_wrap_ne_mapping (Scalar.resolve_ne_mapping _)
      · exact bind_wrap_ne_mapping (htext _)

/-- A mapping that a form stands for has different keys. -/
theorem Linked.distinctKeys_compose {anchors : Anchors} {limit fuel depth n m : Nat} {f : Linked}
    {entries : List (Node × Node)}
    (h : compose anchors limit fuel depth f n = .ok (.mapping entries, m)) :
    DistinctKeys entries := by
  induction fuel generalizing depth f n with
  | zero => cases h
  | succ fuel ih =>
    cases f with
    | reference id =>
      unfold compose at h
      dsimp only at h
      split at h
      · cases h
      · split at h
        · exact ih h
        · cases h
    | scalar tag? text isPlain => exact absurd h compose_scalar_ne_mapping
    | sequence tag? items =>
      cases depth with
      | zero => cases h
      | succ depth =>
        obtain ⟨vs, -, h⟩ := bind_eq_ok_iff.mp h
        cases eq_mapping_of_wrap (Prod.mk.inj (Except.ok.inj h)).1
    | mapping tag? pairs =>
      cases depth with
      | zero => cases h
      | succ depth =>
        obtain ⟨vs, hvs, h⟩ := bind_eq_ok_iff.mp h
        obtain rfl := Node.mapping.inj (eq_mapping_of_wrap (Prod.mk.inj (Except.ok.inj h)).1)
        have hnil : DistinctKeys ([] : List (Node × Node)).reverse := List.Pairwise.nil
        exact distinctKeys_composePairs hnil hvs

/-- A mapping that is read has different keys. -/
theorem Node.distinctKeys_of_ofBytes {bytes : Bytes} {entries : List (Node × Node)}
    (h : Node.ofBytes bytes = .ok (.mapping entries)) : DistinctKeys entries := by
  rw [Node.ofBytes] at h
  obtain ⟨cs, -, h⟩ := bind_eq_ok_iff.mp h
  obtain ⟨tokens, -, h⟩ := bind_eq_ok_iff.mp h
  obtain ⟨form?, -, h⟩ := bind_eq_ok_iff.mp h
  cases form? with
  | none => cases h
  | some form =>
    dsimp only [Form.toNode] at h
    obtain ⟨linked, -, h⟩ := bind_eq_ok_iff.mp h
    obtain ⟨⟨v, n⟩, hv, h⟩ := bind_eq_ok_iff.mp h
    obtain rfl := Except.ok.inj h
    exact Linked.distinctKeys_compose hv

end TierSweep.Yaml
