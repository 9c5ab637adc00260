import Mathlib.Data.String.Basic
import TierSweep.Entries

/-!
# Entries made from assignments

A list of assignments becomes entries in strictly increasing order of the keys. If no key is
assigned twice the entries are the assignments in another order, and since there is only one
increasing order, they do not depend on the order of the assignments.

## Main definitions

* `Entries.Increasing` — the keys are in strictly increasing order.

## Main results

* `Entries.increasing_ofList`, `Entries.perm_ofList`.
* `Entries.ofList_eq_of_perm`, `Entries.ofList_of_increasing`.
-/

namespace TierSweep.Entries

variable {α : Type} {entries assignments : List (String × α)} {key : String} {value : α}

/-- The keys are in strictly increasing order. -/
def Increasing (entries : List (String × α)) : Prop := entries.Pairwise (·.1 < ·.1)

theorem mem_insert {p : String × α} (h : p ∈ insert key value entries) :
    p = (key, value) ∨ p ∈ entries := by
  induction entries with
  | nil => exact .inl (List.mem_singleton.mp h)
  | cons q entries ih =>
    obtain ⟨k, v⟩ := q
    rw [insert] at h
    split_ifs at h with hlt heq
    · simpa using h
    · subst heq
      rcases List.mem_cons.mp h with h | h
      · exact .inl h
      · exact .inr (List.mem_cons_of_mem _ h)
    · rcases List.mem_cons.mp h with h | h
      · exact .inr (h ▸ List.mem_cons_self)
      · exact (ih h).imp_right (List.mem_cons_of_mem _)

theorem increasing_insert (h : Increasing entries) : Increasing (insert key value entries) := by
  induction entries with
  | nil => exact List.pairwise_singleton _ _
  | cons q entries ih =>
    obtain ⟨k, v⟩ := q
    obtain ⟨hq, hentries⟩ := List.pairwise_cons.mp h
    rw [insert]
    split_ifs with hlt heq
    · refine List.pairwise_cons.mpr ⟨fun p hp => ?_, h⟩
      rcases List.mem_cons.mp hp with rfl | hp
      · exact hlt
      · exact lt_trans hlt (hq p hp)
    · exact List.pairwise_cons.mpr ⟨heq ▸ hq, hentries⟩
    · refine List.pairwise_cons.mpr ⟨fun p hp => ?_, ih hentries⟩
      rcases mem_insert hp with rfl | hp
      · exact lt_of_le_of_ne (not_lt.mp hlt) (Ne.symm heq)
      · exact hq p hp

/-- Assignments become entries in strictly increasing order, whatever they are. -/
theorem increasing_ofList (assignments : List (String × α)) : Increasing (ofList assignments) := by
  rw [ofList]
  exact List.foldlRecOn assignments _ (motive := Increasing) List.Pairwise.nil
    fun _ h p _ => increasing_insert h

/-- Every entry was assigned. -/
theorem mem_of_mem_ofList {p : String × α} (h : p ∈ ofList assignments) : p ∈ assignments := by
  suffices hfold : ∀ before : List (String × α),
      p ∈ assignments.foldl (fun entries q => insert q.1 q.2 entries) before →
        p ∈ before ∨ p ∈ assignments from (hfold [] h).resolve_left List.not_mem_nil
  clear h
  induction assignments with
  | nil => exact fun _ hp => .inl hp
  | cons q assignments ih =>
    intro before hp
    rcases ih _ hp with hp | hp
    · rcases mem_insert hp with rfl | hp
      · exact .inr List.mem_cons_self
      · exact .inl hp
    · exact .inr (List.mem_cons_of_mem _ hp)

/-- A key that is not there yet is added without touching the others. -/
theorem perm_insert (h : key ∉ entries.map Prod.fst) :
    (insert key value entries).Perm ((key, value) :: entries) := by
  induction entries with
  | nil => exact .refl _
  | cons q entries ih =>
    obtain ⟨k, v⟩ := q
    obtain ⟨hk, hentries⟩ : key ≠ k ∧ key ∉ entries.map Prod.fst := by simpa using h
    rw [insert, if_neg hk]
    split_ifs
    · exact .refl _
    · exact ((ih hentries).cons _).trans (.swap _ _ _)

/-- The entries are the assignments in another order if no key is assigned twice. -/
theorem perm_ofList (h : (assignments.map Prod.fst).Nodup) :
    (ofList assignments).Perm assignments := by
  suffices hfold : ∀ before : List (String × α), ((before ++ assignments).map Prod.fst).Nodup →
      (assignments.foldl (fun entries p => insert p.1 p.2 entries) before).Perm
        (before ++ assignments) from hfold [] h
  clear h
  induction assignments with
  | nil => exact fun before _ => (List.append_nil before).symm ▸ .refl before
  | cons p assignments ih =>
    intro before h
    have hnew : p.1 ∉ before.map Prod.fst := by
      rw [List.map_append, List.map_cons] at h
      exact fun hmem => (List.nodup_append.mp h).2.2 _ hmem _ List.mem_cons_self rfl
    have hperm : (insert p.1 p.2 before ++ assignments).Perm (before ++ p :: assignments) :=
      ((perm_insert hnew).append_right assignments).trans List.perm_middle.symm
    exact (ih _ ((hperm.map Prod.fst).nodup_iff.mpr h)).trans hperm

theorem Increasing.nodup_keys (h : Increasing entries) : (entries.map Prod.fst).Nodup :=
  List.pairwise_map.mpr (h.imp ne_of_lt)

theorem Increasing.eq_of_perm {others : List (String × α)} (h : Increasing entries)
    (h' : Increasing others) (hperm : entries.Perm others) : entries = others :=
  hperm.eq_of_pairwise (fun _ _ _ _ hlt hgt => absurd hlt (lt_asymm hgt)) h h'

/-- The order of assignments to different keys does not matter. -/
theorem ofList_eq_of_perm {others : List (String × α)} (h : (assignments.map Prod.fst).Nodup)
    (hperm : assignments.Perm others) : ofList assignments = ofList others :=
  (increasing_ofList _).eq_of_perm (increasing_ofList _) <|
    (perm_ofList h).trans <| hperm.trans (perm_ofList ((hperm.map _).nodup h)).symm

/-- Entries that are in order already stay as they are. -/
theorem ofList_of_increasing (h : Increasing entries) : ofList entries = entries :=
  (increasing_ofList _).eq_of_perm h (perm_ofList h.nodup_keys)

end TierSweep.Entries
