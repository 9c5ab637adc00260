import TierSweep.Proofs.Json.Reordering
import TierSweep.Proofs.Json.Shape
import TierSweep.Proofs.Text.Order

/-!
# Canonical texts of trees

The canonical text of a tree whose numbers are integers determines the tree up to the order of
fields and is determined by it: reading the text gives the canonical form back, so trees with one
text have one canonical form. In the text every object lists its keys in strictly increasing order
of their bytes.

## Main definitions

* `Json.hasIncreasingKeys` — the keys of an object are in strictly increasing order of their bytes.

## Main results

* `Json.write_injective` — different trees have different compact texts.
* `Json.bytes_eq_iff_reorders_and_reads_back`.
-/

namespace TierSweep.Json

/-- The keys of the part, if it is an object, are in strictly increasing order of their bytes. -/
def hasIncreasingKeys : Json → Bool
  | .object fields => (fields.map fun p => Utf8.encode p.1).Pairwise (· < ·)
  | _ => true

variable {v w : Json}

/-! ### What the canonical form keeps -/

theorem isIntegral_sorted (h : v.all isIntegral = true) : v.sorted.all isIntegral = true := by
  induction v with
  | array items ih =>
    obtain ⟨-, hitems⟩ := all_array.mp h
    refine all_array.mpr ⟨rfl, ?_⟩
    simpa using fun v hv => ih v hv (hitems v hv)
  | object fields ih =>
    obtain ⟨-, hfields⟩ := all_object.mp h
    refine all_object.mpr ⟨rfl, fun p hp => ?_⟩
    obtain ⟨q, hq, rfl⟩ := mem_sorted_object hp
    exact ih q hq (hfields q hq)
  | _ => exact h

theorem depth_sorted_le (v : Json) : v.sorted.depth ≤ v.depth := by
  induction v with
  | array items ih =>
    refine Nat.succ_le_succ (depthOfItems_le.mpr ?_)
    simpa using fun v hv => (ih v hv).trans (depthOfItems_le.mp le_rfl v hv)
  | object fields ih =>
    refine Nat.succ_le_succ (depthOfFields_le.mpr fun p hp => ?_)
    obtain ⟨q, hq, rfl⟩ := mem_sorted_object hp
    exact (ih q hq).trans (depthOfFields_le.mp le_rfl q hq)
  | _ => exact le_rfl

/-- In canonical form all objects have their keys in order. -/
theorem hasIncreasingKeys_sorted (v : Json) : v.sorted.all hasIncreasingKeys = true := by
  induction v with
  | array items ih =>
    refine all_array.mpr ⟨rfl, ?_⟩
    simpa using ih
  | object fields ih =>
    refine all_object.mpr ⟨?_, fun p hp => ?_⟩
    · have hkeys := Entries.increasing_ofList (sortedFields fields)
      have hbytes := List.pairwise_map.mpr (hkeys.imp Utf8.encode_lt_encode)
      exact decide_eq_true hbytes
    · obtain ⟨q, hq, rfl⟩ := mem_sorted_object hp
      exact ih q hq
  | _ => rfl

/-! ### Texts -/

/-- What a compact text is read as: the tree that was written. -/
theorem resolve?_encode_write (h : v.all isIntegral = true) {d : Nat} (hd : v.depth ≤ d) :
    Sketch.ofBytes? (Utf8.encode v.write) >>= Sketch.resolve? d = some v := by
  rw [ofBytes?_encode_write]
  exact resolve?_shape h hd

/-- Different trees have different compact texts. -/
theorem write_injective (hv : v.all isIntegral = true) (hw : w.all isIntegral = true)
    (h : Utf8.encode v.write = Utf8.encode w.write) : v = w := by
  have hread := resolve?_encode_write hv (Nat.le_max_left v.depth w.depth)
  rw [h, resolve?_encode_write hw (Nat.le_max_right v.depth w.depth)] at hread
  exact (Option.some_inj.mp hread).symm

/-- **Canonical bytes stand for a tree up to the order of fields.** Take any tree with integers of
sixty-four bits and no repeated keys. It has the same canonical bytes as another one exactly if the
two differ in the order of fields alone. The bytes are the compact text of such a tree whose objects
have their keys in increasing order, and they are read as that tree under every limit on the depth
that the tree keeps to, the limit of 127 that readers set among them. -/
theorem bytes_eq_iff_reorders_and_reads_back (hv : v.all isIntegral = true)
    (hkeys : v.all hasDistinctKeys = true) :
    (∀ w : Json, w.all isIntegral = true → w.all hasDistinctKeys = true →
      (Utf8.encode v.canonical = Utf8.encode w.canonical ↔ v.Reorders w)) ∧
    ∃ u : Json, v.Reorders u ∧ u.all hasIncreasingKeys = true ∧
      Utf8.encode v.canonical = Utf8.encode u.write ∧
      (∀ d, v.depth ≤ d →
        Sketch.ofBytes? (Utf8.encode v.canonical) >>= Sketch.resolve? d = some u) ∧
      (v.depth ≤ 127 → ofBytes? (Utf8.encode v.canonical) = some u ∧
        Utf8.encode u.canonical = Utf8.encode v.canonical) := by
  have hread (d : Nat) (hd : v.depth ≤ d) :
      Sketch.ofBytes? (Utf8.encode v.canonical) >>= Sketch.resolve? d = some v.sorted :=
    resolve?_encode_write (isIntegral_sorted hv) ((depth_sorted_le v).trans hd)
  refine ⟨fun w hw hkeys' => ?_, v.sorted, reorders_sorted hkeys, hasIncreasingKeys_sorted v, rfl,
    hread, fun hd => ⟨hread 127 hd, ?_⟩⟩
  · rw [reorders_iff_sorted_eq hkeys hkeys']
    refine ⟨fun h => write_injective (isIntegral_sorted hv) (isIntegral_sorted hw) h, fun h => ?_⟩
    rw [canonical, canonical, h]
  · rw [canonical, canonical, sorted_sorted hkeys]

/-- An object in an array in an object, keys out of order at both depths, with the extreme integers
and with characters that are escaped or take several bytes. -/
def disordered : Json :=
  .object [("z", .array [.object [("é", .int 18446744073709551615), ("\n", .text "\x01\"𝕏")]]),
    ("", .int (-9223372036854775808))]

/-- The same value in key order. -/
def ordered : Json :=
  .object [("", .int (-9223372036854775808)),
    ("z", .array [.object [("\n", .text "\x01\"𝕏"), ("é", .int 18446744073709551615)]])]

theorem bytes_eq_iff_reorders_and_reads_back_disordered :
    disordered.all isIntegral = true ∧ disordered.all hasDistinctKeys = true ∧
      Utf8.encode disordered.canonical = Utf8.encode ordered.canonical ∧
      ∃ u, ofBytes? (Utf8.encode disordered.canonical) = some u ∧ disordered.Reorders u ∧
        u.all hasIncreasingKeys = true := by
  have hintegral : disordered.all isIntegral = true := by decide
  have hdistinct : disordered.all hasDistinctKeys = true := by decide
  have hordered : disordered.Reorders ordered := reorders_sorted hdistinct
  obtain ⟨hbytes, u, hu, hincreasing, -, -, hread⟩ :=
    bytes_eq_iff_reorders_and_reads_back hintegral hdistinct
  exact ⟨hintegral, hdistinct, (hbytes ordered (by decide) (by decide)).mpr hordered,
    u, (hread (by decide)).1, hu, hincreasing⟩

end TierSweep.Json
