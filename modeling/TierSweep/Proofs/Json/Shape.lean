import TierSweep.Proofs.Json.Reals
import TierSweep.Proofs.Json.Tokens

/-!
# Reading written trees

The tokens of a tree build the tree's shape (`Json.shape`), whatever containers are open around it.
Resolving the strings and numerals of the shape gives the tree back if its numbers are integers, as
long as it is not nested more deeply than is read.

## Main definitions

* `Json.shape` — the sketch of a tree.

## Main results

* `Json.ofBytes?_encode_write` — the bytes of the compact text are sketched as the shape.
* `Json.resolve?_shape` — the shape resolves to the tree.
-/

namespace TierSweep.Json

open Sketch (State Frame)
open Sketch.State (step? finish)

/-! ### The shape of a tree -/

mutual

/-- The sketch of a tree: its containers in place, its strings as they are written and its numbers
as numerals. -/
def shape : Json → Sketch
  | .null => .null
  | .bool b => .bool b
  | .int n => .number (numeralOf n)
  | .real x => (Sketch.ofWord? (realText x).toList).getD .null
  | .text s => .text (rawText s)
  | .array items => .array (shapeOfItems items)
  | .object fields => .object (shapeOfFields fields)

/-- The sketches of items. -/
def shapeOfItems : List Json → List Sketch
  | [] => []
  | v :: rest => shape v :: shapeOfItems rest

/-- The keys of fields as they are written, and the sketches of the values. -/
def shapeOfFields : List (String × Json) → List (RawText × Sketch)
  | [] => []
  | (k, v) :: rest => (rawText k, shape v) :: shapeOfFields rest

end

section

variable {items : List Json} {fields : List (String × Json)}

@[simp] theorem shapeOfItems_eq : shapeOfItems items = items.map shape := by
  induction items with
  | nil => rfl
  | cons v items ih => rw [shapeOfItems, ih, List.map_cons]

@[simp] theorem shapeOfFields_eq :
    shapeOfFields fields = fields.map fun p => (rawText p.1, p.2.shape) := by
  induction fields with
  | nil => rfl
  | cons p fields ih => rw [shapeOfFields, ih, List.map_cons]

end

/-! ### Building a sketch -/

/-- The tokens build the sketch wherever a value may come, and nothing of what follows them. -/
def Builds (ts : List Token) (s : Sketch) : Prop :=
  ∀ stack rest, (ts ++ rest).foldlM step? (.value stack) = rest.foldlM step? (finish s stack)

theorem builds_word {cs : List Char} {s : Sketch} (h : Sketch.ofWord? cs = some s) :
    Builds [.word cs] s := by
  intro stack rest
  simp [step?, Sketch.State.begin?, h]

theorem builds_text (raw : RawText) : Builds [.text raw] (.text raw) := fun _ _ => rfl

/-- The items of an array are collected in front of its closing bracket. -/
theorem foldlM_tokensOfItems {items : List Json} (h : ∀ v ∈ items, Builds v.tokens v.shape)
    (hne : items ≠ []) (before : List Sketch) (stack : List Frame) (rest : List Token) :
    (tokensOfItems items ++ .closeArray :: rest).foldlM step? (.value (.array before :: stack))
      = rest.foldlM step? (finish (.array (before.reverse ++ items.map shape)) stack) := by
  induction items generalizing before with
  | nil => exact absurd rfl hne
  | cons v items ih =>
    obtain ⟨hv, hitems⟩ := List.forall_mem_cons.mp h
    cases items with
    | nil =>
      rw [tokensOfItems, hv, List.map_singleton, ← List.reverse_cons]
      rfl
    | cons w items =>
      rw [tokensOfItems_cons_cons, List.append_assoc, hv]
      refine (ih hitems (List.cons_ne_nil w items) (v.shape :: before)).trans ?_
      rw [List.reverse_cons, List.append_assoc]
      rfl

/-- The fields of an object are collected in front of its closing brace. -/
theorem foldlM_tokensOfFields {fields : List (String × Json)}
    (h : ∀ p ∈ fields, Builds p.2.tokens p.2.shape) (hne : fields ≠ [])
    (before : List (RawText × Sketch)) (stack : List Frame) (rest : List Token) :
    (tokensOfFields fields ++ .closeObject :: rest).foldlM step? (.key before stack)
      = rest.foldlM step? (finish
          (.object (before.reverse ++ fields.map fun p => (rawText p.1, p.2.shape))) stack) := by
  induction fields generalizing before with
  | nil => exact absurd rfl hne
  | cons p fields ih =>
    obtain ⟨hv, hfields⟩ := List.forall_mem_cons.mp h
    cases fields with
    | nil =>
      rw [tokensOfFields, List.append_assoc]
      refine (hv (.object before (rawText p.1) :: stack) (.closeObject :: rest)).trans ?_
      rw [List.map_singleton, ← List.reverse_cons]
      rfl
    | cons q fields =>
      rw [tokensOfFields_cons_cons, List.cons_append, List.cons_append, List.append_assoc]
      refine (hv (.object before (rawText p.1) :: stack) _).trans ?_
      refine (ih hfields (List.cons_ne_nil q fields) ((rawText p.1, p.2.shape) :: before)).trans ?_
      rw [List.reverse_cons, List.append_assoc]
      rfl

/-- No value begins with the closing bracket of an array, so the first item of an array is read like
any other value. -/
theorem tokens_head (v : Json) : ∃ t ts, v.tokens = t :: ts ∧
    ∀ stack, step? (.firstItem stack) t = step? (.value (.array [] :: stack)) t := by
  cases v <;> exact ⟨_, _, rfl, fun _ => rfl⟩

theorem builds_array {items : List Json} (h : ∀ v ∈ items, Builds v.tokens v.shape) :
    Builds (array items).tokens (array items).shape := by
  intro stack rest
  rw [tokens, shape, shapeOfItems_eq, List.append_assoc, List.cons_append]
  cases items with
  | nil => rfl
  | cons v items =>
    have hitems := foldlM_tokensOfItems h (List.cons_ne_nil v items) [] stack rest
    obtain ⟨t, ts, hts, hfirst⟩ := tokens_head v
    have hhead : ∃ us, tokensOfItems (v :: items) = t :: us := by
      cases items with
      | nil => exact ⟨ts, hts⟩
      | cons w items => exact ⟨_, by rw [tokensOfItems_cons_cons, hts, List.cons_append]⟩
    obtain ⟨us, hus⟩ := hhead
    rw [hus] at hitems ⊢
    refine Eq.trans ?_ hitems
    exact congrArg (· >>= (us ++ .closeArray :: rest).foldlM step?) (hfirst stack)

theorem builds_object {fields : List (String × Json)}
    (h : ∀ p ∈ fields, Builds p.2.tokens p.2.shape) :
    Builds (object fields).tokens (object fields).shape := by
  intro stack rest
  rw [tokens, shape, shapeOfFields_eq, List.append_assoc, List.cons_append]
  cases fields with
  | nil => rfl
  | cons p fields =>
    have hfields := foldlM_tokensOfFields h (List.cons_ne_nil p fields) [] stack rest
    have hhead : ∃ us, tokensOfFields (p :: fields) = .text (rawText p.1) :: us := by
      cases fields with
      | nil => exact ⟨_, rfl⟩
      | cons q fields => exact ⟨_, tokensOfFields_cons_cons p q fields⟩
    obtain ⟨us, hus⟩ := hhead
    rw [hus] at hfields ⊢
    exact hfields

/-- The tokens of a tree build its shape. -/
theorem builds_tokens (v : Json) : Builds v.tokens v.shape := by
  induction v with
  | null => exact builds_word rfl
  | bool b => cases b <;> exact builds_word rfl
  | int n => exact builds_word (ofWord?_toString_int n)
  | real x =>
    obtain ⟨s, hs⟩ := exists_ofWord?_realText_eq x
    rw [tokens, shape, hs, Option.getD_some]
    exact builds_word hs
  | text s => exact builds_text _
  | array items ih => exact builds_array ih
  | object fields ih => exact builds_object ih

/-- The bytes of a tree's compact text are sketched as its shape. -/
theorem ofBytes?_encode_write (v : Json) :
    Sketch.ofBytes? (Utf8.encode v.write) = some v.shape := by
  have hbuild := builds_tokens v [] []
  rw [List.append_nil] at hbuild
  rw [Sketch.ofBytes?, tokens?_units_encode_write]
  simp [Sketch.ofTokens?, hbuild, finish]

/-! ### The value of a shape -/

theorem resolveItems?_shape {d : Nat} {items : List Json}
    (h : ∀ v ∈ items, Sketch.resolve? d v.shape = some v) :
    Sketch.resolveItems? d (items.map shape) = some items := by
  induction items with
  | nil => rfl
  | cons v items ih =>
    obtain ⟨hv, hitems⟩ := List.forall_mem_cons.mp h
    simp [Sketch.resolveItems?, hv, ih hitems]

theorem resolveFields?_shape {d : Nat} {fields : List (String × Json)}
    (h : ∀ p ∈ fields, Sketch.resolve? d p.2.shape = some p.2) :
    Sketch.resolveFields? d (fields.map fun p => (rawText p.1, p.2.shape)) = some fields := by
  induction fields with
  | nil => rfl
  | cons p fields ih =>
    obtain ⟨hp, hfields⟩ := List.forall_mem_cons.mp h
    simp [Sketch.resolveFields?, hp, ih hfields]

/-- The shape of a tree resolves to the tree at every limit that its depth keeps to. -/
theorem resolve?_shape {v : Json} (h : v.all isIntegral = true) {d : Nat} (hd : v.depth ≤ d) :
    Sketch.resolve? d v.shape = some v := by
  induction v generalizing d with
  | null => rfl
  | bool b => rfl
  | int n => exact ofNumeral?_numeralOf h
  | real x => cases h
  | text s => simp [shape, Sketch.resolve?]
  | array items ih =>
    cases d with
    | zero => cases hd
    | succ d =>
      have hitems := depthOfItems_le.mp (Nat.le_of_succ_le_succ hd)
      have hresolve := resolveItems?_shape fun v hv =>
        ih v hv ((all_array.mp h).2 v hv) (hitems v hv)
      rw [shape, shapeOfItems_eq, Sketch.resolve?, hresolve, Option.map_some]
  | object fields ih =>
    cases d with
    | zero => cases hd
    | succ d =>
      have hfields := depthOfFields_le.mp (Nat.le_of_succ_le_succ hd)
      have hresolve := resolveFields?_shape fun p hp =>
        ih p hp ((all_object.mp h).2 p hp) (hfields p hp)
      rw [shape, shapeOfFields_eq, Sketch.resolve?, hresolve, Option.map_some]

end TierSweep.Json
