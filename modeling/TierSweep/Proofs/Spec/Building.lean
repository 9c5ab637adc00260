import Mathlib.Data.List.Dedup
import TierSweep.Proofs.Enumeration.Draws
import TierSweep.Proofs.Spec.Normalization

/-!
# Building a specification

A specification is built by setting parameters one after another, from nothing or from what was
read. However often and in whatever order this is done, it is a map in the order of insertion: each
name occurs once, in the order in which the names were set first, and has the values that it was set
to last (`Spec.Gathers`). One more setting keeps this (`Spec.Gathers.set`), and a specification that
was read can as well be built from nothing by setting its parameters in their order
(`Spec.setAll_empty_of_nodup`), so all that is said of what is built from nothing holds here too.

Because the names are different, a combination has under the name of each parameter the value that
was chosen for it (`Enumeration.lookup_entriesAt`).

## Main definitions

* `Spec.Setting`, `Spec.setAll` — setting parameters one after another.
* `Spec.Begun` — a specification from which building begins.
* `Spec.Gathers` — the last of all parameters given, in the order in which their names came first.

## Main results

* `Spec.Gathers.setAll`, `Spec.Begun.nodup_names`.
* `Spec.setAll_ordered`.
-/

namespace TierSweep

namespace Spec

/-! ### Setting parameters -/

/-- A parameter is set to a single value or to several. -/
inductive Setting where
  | one (name : String) (value : Value)
  | many (name : String) (values : List Value)

/-- The parameter as it is set. -/
def Setting.parameter : Setting → Parameter
  | one name value => ⟨name, [value]⟩
  | many name values => ⟨name, values⟩

/-- The specification after a setting. -/
def Setting.apply (s : Spec) : Setting → Spec
  | one name value => s.setOne name value
  | many name values => s.set name values

/-- The specification after some settings, one after another. -/
def setAll (s : Spec) (settings : List Setting) : Spec := settings.foldl Setting.apply s

/-- A specification from which building begins: the empty one, or one read from a mapping. -/
inductive Begun : Spec → Prop where
  | empty : Begun .empty
  | read {entries : List (Yaml.Node × Yaml.Node)} {s : Spec} (hkeys : Yaml.DistinctKeys entries)
    (h : ofMapping entries = .ok s) : Begun s

theorem Begun.nodup_names {s : Spec} (h : s.Begun) : s.names.Nodup := by
  cases h with
  | empty => exact List.nodup_nil
  | read hkeys h => exact nodup_names_of_ofMapping hkeys h

variable {s : Spec} {given : List Parameter} {name : String} {values : List Value}

theorem Setting.apply_eq (s : Spec) (x : Setting) :
    x.apply s = s.set x.parameter.name x.parameter.values := by
  cases x <;> rfl

/-- A name that is there keeps its place. -/
theorem names_set_of_mem (h : name ∈ s.names) : (s.set name values).names = s.names := by
  obtain ⟨params⟩ := s
  simp only [set, names] at h ⊢
  induction params with
  | nil => exact absurd h List.not_mem_nil
  | cons p params ih =>
    rw [setIn]
    by_cases hp : p.name = name
    · rw [if_pos hp]
      rfl
    · rw [List.map_cons, List.mem_cons] at h
      rw [if_neg hp, List.map_cons, List.map_cons, ih (h.resolve_left (Ne.symm hp))]

/-- A parameter under a new name is set at the end. -/
theorem set_of_not_mem (h : name ∉ s.names) :
    s.set name values = ⟨s.params ++ [⟨name, values⟩]⟩ := by
  obtain ⟨params⟩ := s
  simp only [set, names, mk.injEq] at h ⊢
  induction params with
  | nil => rfl
  | cons p params ih =>
    rw [List.map_cons, List.mem_cons, not_or] at h
    rw [setIn, if_neg (Ne.symm h.1), ih h.2, List.cons_append]

/-- A specification with different names is built from nothing by setting its parameters in order.
-/
theorem setAll_empty_of_nodup (h : s.names.Nodup) :
    empty.setAll (s.params.map fun p => .many p.name p.values) = s := by
  obtain ⟨params⟩ := s
  suffices hfrom : ∀ t : Spec, (t.names ++ params.map Parameter.name).Nodup →
      t.setAll (params.map fun p => .many p.name p.values) = ⟨t.params ++ params⟩ from
    hfrom empty h
  clear h
  induction params with
  | nil => intro t _; rw [List.append_nil]; rfl
  | cons p params ih =>
    intro t ht
    have hnew : p.name ∉ t.names := by
      intro hmem
      exact (List.nodup_append.mp ht).2.2 _ hmem _ List.mem_cons_self rfl
    have hset : Setting.apply t (.many p.name p.values) = ⟨t.params ++ [p]⟩ := set_of_not_mem hnew
    rw [List.map_cons, setAll, List.foldl_cons, hset, ← setAll, ih]
    · rw [List.append_assoc, List.singleton_append]
    · simpa [names] using ht

/-- Under different names, what is found under the name of a parameter is the parameter itself. -/
theorem get?_eq_some_iff (h : s.names.Nodup) {p : Parameter} :
    s.get? p.name = some p ↔ p ∈ s.params := by
  rw [get?]
  refine ⟨List.mem_of_find?_eq_some, fun hp => ?_⟩
  cases hq : s.params.find? (·.name = p.name) with
  | none => exact absurd (decide_eq_true rfl) (List.find?_eq_none.mp hq p hp)
  | some q =>
    have hfound := List.find?_some hq
    rw [List.inj_on_of_nodup_map h (List.mem_of_find?_eq_some hq) hp (of_decide_eq_true hfound)]

/-! ### What is gathered -/

/-- The parameters are the last ones given under their names, and the names are in the order in
which they were given first. -/
structure Gathers (s : Spec) (given : List Parameter) : Prop where
  mem_names_iff : ∀ name, name ∈ s.names ↔ name ∈ given.map Parameter.name
  pairwise_names : s.names.Pairwise fun a b =>
    (given.map Parameter.name).idxOf a < (given.map Parameter.name).idxOf b
  get?_eq : ∀ name, s.get? name = given.findRev? (·.name = name)

namespace Gathers

theorem nothing : empty.Gathers [] := ⟨fun _ => Iff.rfl, .nil, fun _ => rfl⟩

/-- One more parameter is set. -/
theorem set (h : s.Gathers given) (name : String) (values : List Value) :
    (s.set name values).Gathers (given ++ [⟨name, values⟩]) where
  mem_names_iff other := by
    by_cases hname : name ∈ s.names
    · have hgiven := (h.mem_names_iff name).mp hname
      rw [names_set_of_mem hname, h.mem_names_iff, List.map_append, List.mem_append]
      refine ⟨.inl, fun hother => hother.elim id fun hother => ?_⟩
      rwa [List.mem_singleton.mp hother]
    · rw [set_of_not_mem hname, names, List.map_append, List.map_append, List.mem_append,
        List.mem_append, ← h.mem_names_iff]
      rfl
  pairwise_names := by
    rw [List.map_append]
    -- what is given later does not change where a name was given first
    have hfirst {a : String} (ha : a ∈ s.names) :
        (given.map Parameter.name ++ [name]).idxOf a = (given.map Parameter.name).idxOf a :=
      List.idxOf_append_of_mem ((h.mem_names_iff a).mp ha)
    have hkept : s.names.Pairwise fun a b =>
        (given.map Parameter.name ++ [name]).idxOf a
          < (given.map Parameter.name ++ [name]).idxOf b :=
      h.pairwise_names.imp_of_mem fun ha hb hab => by rwa [hfirst ha, hfirst hb]
    by_cases hname : name ∈ s.names
    · rw [names_set_of_mem hname]
      exact hkept
    · rw [set_of_not_mem hname, names, List.map_append, List.pairwise_append]
      refine ⟨hkept, List.pairwise_singleton _ _, fun a ha b hb => ?_⟩
      have ha' := List.idxOf_lt_length_iff.mpr ((h.mem_names_iff a).mp ha)
      have hname' := mt (h.mem_names_iff name).mpr hname
      rw [show b = name from List.mem_singleton.mp hb]
      calc (given.map Parameter.name ++ [name]).idxOf a
          = (given.map Parameter.name).idxOf a := hfirst ha
        _ < (given.map Parameter.name).length := ha'
        _ ≤ (given.map Parameter.name ++ [name]).idxOf name := by
          rw [List.idxOf_append_of_notMem hname']
          exact Nat.le_add_right _ _
  get?_eq other := by
    rw [get?_set, h.get?_eq, List.findRev?_eq_find?_reverse, List.findRev?_eq_find?_reverse,
      List.reverse_append, List.reverse_singleton, List.singleton_append, List.find?_cons]
    by_cases hother : other = name
    · simp [hother]
    · simp [hother, Ne.symm hother]

theorem setAll (h : s.Gathers given) (settings : List Setting) :
    (s.setAll settings).Gathers (given ++ settings.map Setting.parameter) := by
  induction settings generalizing s given with
  | nil => rw [List.map_nil, List.append_nil]; exact h
  | cons x settings ih =>
    rw [Spec.setAll, List.foldl_cons, Setting.apply_eq, List.map_cons,
      ← List.singleton_append, ← List.append_assoc]
    exact ih (h.set x.parameter.name x.parameter.values)

theorem nodup_names (h : s.Gathers given) : s.names.Nodup :=
  h.pairwise_names.imp fun hlt => by
    rintro rfl
    exact absurd hlt (Nat.lt_irrefl _)

/-- A specification with different names gathers its own parameters. -/
theorem of_nodup (h : s.names.Nodup) : s.Gathers s.params := by
  have hgathers := nothing.setAll (s.params.map fun p => .many p.name p.values)
  rw [setAll_empty_of_nodup h, List.nil_append, List.map_map] at hgathers
  have hgiven : s.params.map (Setting.parameter ∘ fun p => .many p.name p.values) = s.params :=
    List.map_id s.params
  rwa [hgiven] at hgathers

/-- The parameters are those after which no other was given under the same name. -/
theorem mem_params_iff (h : s.Gathers given) {p : Parameter} :
    p ∈ s.params ↔
      ∃ before after, given = before ++ p :: after ∧ ∀ q ∈ after, q.name ≠ p.name := by
  rw [← get?_eq_some_iff h.nodup_names, h.get?_eq, List.findRev?_eq_find?_reverse,
    List.find?_eq_some_iff_append]
  simp only [decide_true, true_and, Bool.not_eq_true', decide_eq_false_iff_not]
  constructor
  · rintro ⟨after, before, hreverse, hafter⟩
    refine ⟨before.reverse, after.reverse, ?_, fun q hq => hafter q (List.mem_reverse.mp hq)⟩
    rw [← List.reverse_reverse given, hreverse]
    simp
  · rintro ⟨before, after, rfl, hafter⟩
    exact ⟨after.reverse, before.reverse, by simp, fun q hq => hafter q (List.mem_reverse.mp hq)⟩

end Gathers

end Spec

namespace Enumeration

/-- Under different names, the entries at some indices have under each name the value at the index
of its parameter. -/
theorem lookup_entriesAt {params : List Parameter} {is : List Nat} {entries : List (String × Value)}
    (hnames : (params.map Parameter.name).Nodup) (h : entriesAt params is = some entries)
    {p : Parameter} {i : Nat} (hp : (p, i) ∈ params.zip is) :
    entries.lookup p.name = p.values[i]? := by
  induction params generalizing is entries with
  | nil => cases hp
  | cons q params ih =>
    cases is with
    | nil => cases hp
    | cons j is =>
      rw [List.map_cons, List.nodup_cons] at hnames
      simp only [entriesAt, Option.bind_eq_bind, Option.bind_eq_some_iff, Option.pure_def,
        Option.some.injEq] at h
      obtain ⟨v, hv, rest, hrest, rfl⟩ := h
      rw [List.zip_cons_cons, List.mem_cons] at hp
      rcases hp with hp | hp
      · obtain ⟨rfl, rfl⟩ := Prod.mk.inj hp
        rw [List.lookup_cons_self, hv]
      · have hne : (p.name == q.name) = false :=
          beq_eq_false_iff_ne.mpr fun heq =>
            hnames.1 (heq ▸ List.mem_map_of_mem (List.of_mem_zip hp).1)
        rw [List.lookup_cons, hne]
        exact ih hnames.2 hrest hp

end Enumeration

namespace Spec

/-- A combination that takes, under the name of each parameter, the value at an index in range. -/
structure ChosenAt (s : Spec) (is : List Nat) (c : Combination) : Prop where
  inRange : InRange s.params is
  entries_eq : Enumeration.entriesAt s.params is = some c.entries
  get?_eq : ∀ p i, (p, i) ∈ s.params.zip is →
    ∃ h : i < p.values.length, c.get? p.name = some p.values[i]

/-- If names are different, each combination takes the values that were chosen for it. -/
theorem exists_chosenAt {s : Spec} (hnames : s.names.Nodup) {c : Combination}
    (hc : c ∈ s.product) : ∃ is, s.ChosenAt is c := by
  have hplace : some c.entries ∈ s.places.map (Enumeration.entriesAt s.params) := by
    rw [map_entriesAt_places]
    exact List.mem_map_of_mem hc
  obtain ⟨is, his, hentries⟩ := List.mem_map.mp hplace
  have hrange := (mem_places.mp his).2
  refine ⟨is, hrange, hentries, fun p i hp => ?_⟩
  have hi : i < p.values.length := List.forall₂_zip hrange hp
  exact ⟨hi, (Enumeration.lookup_entriesAt hnames hentries hp).trans (List.getElem?_eq_getElem hi)⟩

/-- **A specification is a map in the order of insertion.** Let a specification be built from the
empty one, or from one that was read, by setting parameters one after another, and let the
parameters given be those that were read and then those that were set. Then

* the names are different, they are the names of the parameters given, and of two names the one that
  was given first stands first;
* the parameters are those that were given last under their names, which are also what is found
  under the names, and there are as many as there are names;
* whatever the constraints, every combination that is given out has each of the names once, in
  their order, and has under the name of each parameter the value that was chosen for it. -/
theorem setAll_ordered {s : Spec} (hs : s.Begun) (settings : List Setting) :
    let t := s.setAll settings
    let given := s.params ++ settings.map Setting.parameter
    t.names.Nodup ∧
      (∀ name, name ∈ t.names ↔ name ∈ given.map Parameter.name) ∧
      t.names.Pairwise (fun a b =>
        (given.map Parameter.name).idxOf a < (given.map Parameter.name).idxOf b) ∧
      (∀ p, p ∈ t.params ↔
        ∃ before after, given = before ++ p :: after ∧ ∀ q ∈ after, q.name ≠ p.name) ∧
      (∀ name, t.get? name = given.findRev? (·.name = name)) ∧
      t.size = (given.map Parameter.name).dedup.length ∧
      ∀ constraints, ∀ c ∈ (Enumeration.start t constraints).drain.1,
        c.names = t.names ∧ ∃ is, t.ChosenAt is c := by
  intro t given
  have ht : t.Gathers given := (Gathers.of_nodup hs.nodup_names).setAll settings
  have hsize : t.names.Perm (given.map Parameter.name).dedup := by
    rw [List.perm_ext_iff_of_nodup ht.nodup_names (List.nodup_dedup _)]
    intro name
    rw [List.mem_dedup, ht.mem_names_iff]
  refine ⟨ht.nodup_names, ht.mem_names_iff, ht.pairwise_names, fun p => ht.mem_params_iff,
    ht.get?_eq, ?_, fun constraints c hc => ?_⟩
  · rw [← hsize.length_eq, names, List.length_map, size]
  · rw [Enumeration.drain_start_eq, List.mem_filter] at hc
    exact ⟨names_of_mem_product hc.1, exists_chosenAt ht.nodup_names hc.1⟩

theorem setAll_ordered_readable :
    let s : Spec := ⟨[⟨"policy_type", [.text "lru"]⟩,
      ⟨"hot_threshold", [.int 5, .float (.ofInt 5), .bool true, .int 5]⟩, ⟨"cold_threshold", []⟩]⟩
    let settings : List Setting := [.many "cold_threshold" [.int 10, .int 20],
      .one "num_tiers" (.int 2), .one "policy_type" (.text "hybrid"),
      .many "cold_threshold" [.int 15]]
    let t := s.setAll settings
    ofMapping readable = .ok s ∧ s.Begun ∧ t.names.Nodup ∧
      t.names = ["policy_type", "hot_threshold", "cold_threshold", "num_tiers"] ∧ t.size = 4 ∧
      t.get? "cold_threshold" = some ⟨"cold_threshold", [.int 15]⟩ ∧
      ∃ c ∈ (Enumeration.start t .standard).drain.1, c.names = t.names ∧ ∃ is, t.ChosenAt is c := by
  intro s settings t
  have hread : ofMapping readable = .ok s := rfl
  have hbegun : s.Begun := .read (by decide) hread
  obtain ⟨hnodup, -, -, -, hget, hsize, hgiven⟩ := setAll_ordered hbegun settings
  obtain ⟨c, hc⟩ : ∃ c, c ∈ (Enumeration.start t .standard).drain.1 :=
    List.exists_mem_of_ne_nil _ (by decide +kernel)
  exact ⟨hread, hbegun, hnodup, rfl, hsize.trans (by decide), (hget _).trans rfl, c, hc,
    hgiven .standard c hc⟩

end Spec

end TierSweep
