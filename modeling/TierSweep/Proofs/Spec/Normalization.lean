import TierSweep.Proofs.Yaml.Keys
import TierSweep.Spec

/-!
# What a mapping specifies

A specification is read from the entries of a mapping if every key is a text and every value a scalar
or a flat sequence of scalars. Each entry then gives one parameter, and the items of its value give
the values of the parameter, one by one. Otherwise the report is about the first entry that is not of
this form: about its key if that is no text, and about the first item of its value that is no scalar
if it is. A report names no entry further on.

The entries of a mapping have different keys (`Yaml.DistinctKeys`), and so the parameters have
different names.

## Main definitions

* `Yaml.Node.items`, `Yaml.Node.isScalar` — the parts of an entry's value.
* `Spec.Denotes`, `Spec.Specifies` — what scalars and entries stand for.
* `Spec.Grammatical`, `Spec.Offends` — entries that can be read, and the reports of those that cannot.

## Main results

* `Spec.ofMapping_eq_ok_iff`, `Spec.ofMapping_eq_error_iff`.
* `Spec.normalizes_grammatical`, `Spec.nodup_names_of_ofYaml`.
-/

namespace TierSweep

open Traversal

/-! ### The parts of a mapping -/

namespace Yaml

/-- The items of an entry's value: a value that is no sequence is its own single item. -/
def Node.items : Node → List Node
  | .sequence items => items
  | v => [v]

/-- Truth values, numbers and texts. -/
def Node.isScalar : Node → Bool
  | .bool _ | .int _ | .real _ | .text _ => true
  | _ => false

end Yaml

namespace Spec

/-! ### Scalars and entries -/

/-- What a scalar stands for. An integer that is no `i64` stands for the nearest double. -/
inductive Denotes : Yaml.Node → Value → Prop where
  | bool (b : Bool) : Denotes (.bool b) (.bool b)
  | int (n : Int64) : Denotes (.int n.toInt) (.int n)
  | beyond {n : Int} (h : ¬(Int64.minValue.toInt ≤ n ∧ n ≤ Int64.maxValue.toInt)) :
    Denotes (.int n) (.float (.ofInt n))
  | real (x : Binary64) : Denotes (.real x) (.float x)
  | text (s : String) : Denotes (.text s) (.text s)

/-- What an entry stands for: the parameter named by its key with the values its items denote. -/
structure Specifies (e : Yaml.Node × Yaml.Node) (p : Parameter) : Prop where
  key : e.1 = .text p.name
  items : List.Forall₂ Denotes e.2.items p.values

/-- An entry that can be read: its key is a text and the items of its value are scalars. -/
structure Grammatical (e : Yaml.Node × Yaml.Node) : Prop where
  key : ∃ name, e.1 = .text name
  items : ∀ v ∈ e.2.items, v.isScalar = true

/-- The report of an entry that cannot be read: of its key if that is no text, whatever the value,
and otherwise of the first item of its value that is no scalar. -/
inductive Offends : Yaml.Node × Yaml.Node → Failure → Prop where
  | key {key value : Yaml.Node} (hkey : ∀ name, key ≠ .text name) :
    Offends (key, value) ⟨.specification,
      { code := "spec_key"
        message := "parameter names must be strings"
        facts := [("key", key.display)]
        advice? := none }⟩
  | value {name : String} {value item : Yaml.Node} {before after : List Yaml.Node}
    (hitems : value.items = before ++ item :: after)
    (hbefore : ∀ v ∈ before, v.isScalar = true) (hitem : item.isScalar = false) :
    Offends (.text name, value) ⟨.specification,
      { code := "spec_value"
        message := "unsupported value shape"
        facts := [("field", name), ("found", item.kind)]
        advice? := some "values must be scalars or flat lists of scalars" }⟩

/-- No report is about the range of a number. -/
theorem Offends.code_ne {e : Yaml.Node × Yaml.Node} {failure : Failure} (h : Offends e failure) :
    failure.code ≠ "spec_number" := by
  cases h <;> simp [Failure.code]

theorem denotes_ofInteger (n : Int) : Denotes (.int n) (.ofInteger n) := by
  rw [Value.ofInteger]
  split
  · next hrange =>
    have hn : (Int64.ofInt n).toInt = n :=
      Int64.toInt_ofInt_of_le hrange.1 (Int.lt_add_one_of_le hrange.2)
    have h := Denotes.int (Int64.ofInt n)
    rwa [hn] at h
  · next hrange => exact .beyond hrange

theorem Denotes.eq_ofInteger {n : Int} {x : Value} (h : Denotes (.int n) x) : x = .ofInteger n := by
  cases h with
  | int n =>
    rw [Value.ofInteger, if_pos ⟨Int64.minValue_le_toInt n, Int64.toInt_le n⟩, Int64.ofInt_toInt]
  | beyond hrange => rw [Value.ofInteger, if_neg hrange]

theorem valueOf_eq_ok_iff {field : String} {v : Yaml.Node} {x : Value} :
    valueOf field v = .ok x ↔ Denotes v x := by
  constructor
  · intro h
    cases v with
    | bool b => exact Except.ok.inj h ▸ .bool b
    | int n => exact Except.ok.inj h ▸ denotes_ofInteger n
    | real x => exact Except.ok.inj h ▸ .real x
    | text s => exact Except.ok.inj h ▸ .text s
    | null | sequence | mapping | tagged => cases h
  · intro h
    cases v with
    | int n => rw [h.eq_ofInteger, valueOf]
    | bool | real | text => cases h; rfl
    | null | sequence | mapping | tagged => cases h

/-- A value that is no scalar is reported with its kind. -/
theorem valueOf_eq_error_iff {field : String} {v : Yaml.Node} {fault : SpecFault} :
    valueOf field v = .error fault ↔ v.isScalar = false ∧ fault = .unsupported field v.kind := by
  cases v <;> simp [valueOf, Yaml.Node.isScalar, eq_comm]

theorem exists_valueOf_eq_ok_iff {field : String} {v : Yaml.Node} :
    (∃ x, valueOf field v = .ok x) ↔ v.isScalar = true := by
  cases v <;> simp [valueOf, Yaml.Node.isScalar]

/-- The values of an entry are read off its items, one after another. -/
theorem valuesOf_eq_mapM (field : String) (v : Yaml.Node) :
    valuesOf field v = v.items.mapM (valueOf field) := by
  cases v <;> rfl

theorem parameterOf_eq_ok_iff {e : Yaml.Node × Yaml.Node} {p : Parameter} :
    parameterOf e = .ok p ↔ Specifies e p := by
  obtain ⟨key, value⟩ := e
  obtain ⟨name, values⟩ := p
  constructor
  · intro h
    cases key with
    | text s =>
      obtain ⟨vs, hvs, hp⟩ := map_eq_ok_iff.mp h
      obtain ⟨rfl, rfl⟩ := Parameter.mk.inj hp
      rw [valuesOf_eq_mapM, mapM_eq_ok_iff] at hvs
      exact ⟨rfl, hvs.imp fun _ _ => valueOf_eq_ok_iff.mp⟩
    | _ => cases h
  · rintro ⟨rfl, hitems⟩
    refine map_eq_ok_iff.mpr ⟨values, ?_, rfl⟩
    rw [valuesOf_eq_mapM, mapM_eq_ok_iff]
    exact hitems.imp fun _ _ => valueOf_eq_ok_iff.mpr

theorem exists_parameterOf_eq_ok_iff {e : Yaml.Node × Yaml.Node} :
    (∃ p, parameterOf e = .ok p) ↔ Grammatical e := by
  obtain ⟨key, value⟩ := e
  cases key with
  | text name =>
    have hvalues : (∃ vs, valuesOf name value = .ok vs) ↔ ∀ v ∈ value.items, v.isScalar = true := by
      simp only [valuesOf_eq_mapM, exists_mapM_eq_ok_iff, exists_valueOf_eq_ok_iff]
    constructor
    · rintro ⟨p, hp⟩
      obtain ⟨vs, hvs, -⟩ := map_eq_ok_iff.mp hp
      exact ⟨⟨name, rfl⟩, hvalues.mp ⟨vs, hvs⟩⟩
    · rintro ⟨-, hitems⟩
      obtain ⟨vs, hvs⟩ := hvalues.mpr hitems
      exact ⟨_, map_eq_ok_iff.mpr ⟨vs, hvs, rfl⟩⟩
  | _ =>
    constructor
    · rintro ⟨p, hp⟩
      cases hp
    · rintro ⟨⟨name, hname⟩, -⟩
      cases hname

theorem exists_parameterOf_eq_error_iff {e : Yaml.Node × Yaml.Node} {failure : Failure} :
    (∃ fault, parameterOf e = .error fault ∧ fault.toFailure = failure) ↔ Offends e failure := by
  constructor
  · obtain ⟨key, value⟩ := e
    rintro ⟨fault, h, rfl⟩
    cases key with
    | text name =>
      rw [parameterOf, map_eq_error_iff, valuesOf_eq_mapM, mapM_eq_error_iff] at h
      obtain ⟨before, item, after, hitems, hbefore, hitem⟩ := h
      obtain ⟨hscalar, rfl⟩ := valueOf_eq_error_iff.mp hitem
      exact .value hitems (fun v hv => exists_valueOf_eq_ok_iff.mp (hbefore v hv)) hscalar
    | _ =>
      obtain rfl := Except.error.inj h
      exact .key fun name => by simp
  · rintro (hkey | ⟨hitems, hbefore, hitem⟩)
    · next key value =>
      refine ⟨.nameNotText key, ?_, rfl⟩
      cases key with
      | text name => exact absurd rfl (hkey name)
      | _ => rfl
    · next name value item before after =>
      refine ⟨.unsupported name item.kind, ?_, rfl⟩
      rw [parameterOf, map_eq_error_iff, valuesOf_eq_mapM, mapM_eq_error_iff]
      exact ⟨before, item, after, hitems, fun v hv => exists_valueOf_eq_ok_iff.mpr (hbefore v hv),
        valueOf_eq_error_iff.mpr ⟨hitem, rfl⟩⟩

/-! ### Mappings -/

variable {entries : List (Yaml.Node × Yaml.Node)} {s : Spec} {failure : Failure}

theorem ofMapping_eq_ok_iff :
    ofMapping entries = .ok s ↔ List.Forall₂ Specifies entries s.params := by
  rw [ofMapping, map_eq_ok_iff]
  simp only [mapM_eq_ok_iff, parameterOf_eq_ok_iff]
  constructor
  · rintro ⟨ps, hps, rfl⟩
    exact hps
  · exact fun h => ⟨s.params, h, rfl⟩

/-- A mapping can be read if all its entries can. -/
theorem exists_ofMapping_eq_ok_iff :
    (∃ s, ofMapping entries = .ok s) ↔ ∀ e ∈ entries, Grammatical e := by
  simp only [← exists_parameterOf_eq_ok_iff, ← exists_mapM_eq_ok_iff, ofMapping, map_eq_ok_iff]
  exact ⟨fun ⟨_, ps, hps, _⟩ => ⟨ps, hps⟩, fun ⟨ps, hps⟩ => ⟨⟨ps⟩, ps, hps, rfl⟩⟩

/-- The first entry that cannot be read is reported. -/
theorem ofMapping_eq_error_iff :
    (ofMapping entries).mapError SpecFault.toFailure = .error failure ↔
      ∃ before e after, entries = before ++ e :: after ∧
        (∀ g ∈ before, Grammatical g) ∧ Offends e failure := by
  rw [mapError_eq_error_iff]
  simp only [ofMapping, map_eq_error_iff, mapM_eq_error_iff, exists_parameterOf_eq_ok_iff,
    ← exists_parameterOf_eq_error_iff]
  constructor
  · rintro ⟨fault, ⟨before, e, after, hentries, hbefore, he⟩, hreport⟩
    exact ⟨before, e, after, hentries, hbefore, fault, he, hreport⟩
  · rintro ⟨before, e, after, hentries, hbefore, fault, he, hreport⟩
    exact ⟨fault, ⟨before, e, after, hentries, hbefore, he⟩, hreport⟩

/-- The keys of the entries are the names of the parameters. -/
theorem map_fst_of_ofMapping (h : ofMapping entries = .ok s) :
    entries.map Prod.fst = s.names.map .text := by
  have hspecifies := ofMapping_eq_ok_iff.mp h
  rw [names, List.map_map, ← List.forall₂_eq_eq_eq, List.forall₂_map_left_iff,
    List.forall₂_map_right_iff]
  exact hspecifies.imp fun _ _ hp => hp.key

/-- Different keys are different names. -/
theorem nodup_names_of_ofMapping (hkeys : Yaml.DistinctKeys entries)
    (h : ofMapping entries = .ok s) : s.names.Nodup := by
  have hdistinct : (s.names.map Yaml.Node.text).Pairwise fun k l => Yaml.Node.same l k = false := by
    rw [← map_fst_of_ofMapping h, List.pairwise_map]
    exact hkeys
  refine (List.pairwise_map.mp hdistinct).imp fun {n m} hnm heq => ?_
  subst heq
  simp [Yaml.Node.same] at hnm

theorem nodup_names_of_ofYaml {bytes : Bytes} (h : ofYaml bytes = .ok s) : s.names.Nodup := by
  rw [ofYaml] at h
  obtain ⟨node, hnode, h⟩ := bind_eq_ok_iff.mp h
  obtain ⟨t, ht, h⟩ := bind_eq_ok_iff.mp h
  have hs : t = s := by
    split at h
    · cases h
    · exact Except.ok.inj h
  subst hs
  cases node with
  | mapping entries =>
    have hread := mapError_eq_ok_iff.mp hnode
    exact nodup_names_of_ofMapping (Yaml.Node.distinctKeys_of_ofBytes hread) ht
  | null =>
    obtain rfl := Except.ok.inj ht
    exact List.nodup_nil
  | _ => cases ht

/-- **Normalization.** The entries of a mapping specify parameters exactly if every key is a text and
every value a scalar or a flat sequence of scalars. Then the parameters are those the entries specify,
in the order of the document and under different names. Otherwise the first entry that is not of this
form is reported, by its key or by the first item that is no scalar. No number is ever reported. -/
theorem normalizes_grammatical (hkeys : Yaml.DistinctKeys entries) :
    ((∃ s, ofMapping entries = .ok s) ↔ ∀ e ∈ entries, Grammatical e) ∧
    (∀ s, ofMapping entries = .ok s ↔ List.Forall₂ Specifies entries s.params) ∧
    (∀ s, ofMapping entries = .ok s →
      entries.map Prod.fst = s.names.map .text ∧ s.names.Nodup) ∧
    (∀ failure, (ofMapping entries).mapError SpecFault.toFailure = .error failure ↔
      ∃ before e after, entries = before ++ e :: after ∧
        (∀ g ∈ before, Grammatical g) ∧ Offends e failure) ∧
    ∀ failure, (ofMapping entries).mapError SpecFault.toFailure = .error failure →
      failure.code ≠ "spec_number" := by
  refine ⟨exists_ofMapping_eq_ok_iff, fun s => ofMapping_eq_ok_iff, fun s hs =>
    ⟨map_fst_of_ofMapping hs, nodup_names_of_ofMapping hkeys hs⟩,
    fun failure => ofMapping_eq_error_iff, fun failure hfailure => ?_⟩
  obtain ⟨before, e, after, -, -, he⟩ := ofMapping_eq_error_iff.mp hfailure
  exact he.code_ne

/-- A scalar, a sequence with a repetition, and an empty one. -/
def readable : List (Yaml.Node × Yaml.Node) :=
  [(.text "policy_type", .text "lru"),
    (.text "hot_threshold", .sequence [.int 5, .real (.ofInt 5), .bool true, .int 5]),
    (.text "cold_threshold", .sequence [])]

/-- After a readable entry, one whose key and value are both bad and one whose value is. -/
def faulty : List (Yaml.Node × Yaml.Node) :=
  [(.text "policy_type", .text "lru"),
    (.int 7, .null),
    (.text "hot_threshold", .sequence [.int 5, .sequence [], .null])]

theorem normalizes_grammatical_samples :
    (Yaml.DistinctKeys readable ∧ ofMapping readable = .ok
      ⟨[⟨"policy_type", [.text "lru"]⟩,
        ⟨"hot_threshold", [.int 5, .float (.ofInt 5), .bool true, .int 5]⟩,
        ⟨"cold_threshold", []⟩]⟩) ∧
    Yaml.DistinctKeys faulty ∧ ∃ failure,
      (ofMapping faulty).mapError SpecFault.toFailure = .error failure ∧
        failure.render = "spec error [spec_key] parameter names must be strings (key=Number(7))" := by
  have hreadable : Yaml.DistinctKeys readable := by decide
  have hfaulty : Yaml.DistinctKeys faulty := by decide
  obtain ⟨-, hspec, -⟩ := normalizes_grammatical hreadable
  obtain ⟨-, -, -, hreport, -⟩ := normalizes_grammatical hfaulty
  have hfirst : Grammatical (.text "policy_type", .text "lru") := ⟨⟨_, rfl⟩, by decide⟩
  have hsecond : Offends (.int 7, .null) _ := .key (by simp)
  refine ⟨⟨hreadable, (hspec _).mpr ?_⟩, hfaulty, _, (hreport _).mpr
    ⟨[_], _, _, rfl, List.forall_mem_singleton.mpr hfirst, hsecond⟩, by decide⟩
  refine .cons ⟨rfl, .cons (.text _) .nil⟩ (.cons ⟨rfl, ?_⟩ (.cons ⟨rfl, .nil⟩ .nil))
  exact .cons (.int 5) (.cons (.real _) (.cons (.bool _) (.cons (.int 5) .nil)))

end Spec

end TierSweep
