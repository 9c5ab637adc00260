import TierSweep.Invocation
import TierSweep.Proofs.Identifier.Characters
import TierSweep.Proofs.Traversal

/-!
# What an identifier determines

The parts of an identifier are joined by a separator that texts may contain as well. Behind the
three texts of a configuration all parts are free of it: they are written numbers behind fixed
marks, and the name of the policy. Read from its end, an identifier therefore determines these
parts, once the number of parts is known, and the last part tells the policy and with it the number
of parts. What is in front of them is determined as a whole only: the three texts, cleaned and
joined (`Identifier.ofSetup_eq_iff`). If they contain neither the separator nor any character that
is replaced, each of them is determined (`Identifier.texts_eq_of_joinedTexts_eq`).

## Main definitions

* `Identifier.joinedTexts` — the front of an identifier.
* `RunSetup.Matches` — two configurations agree in all that identifiers say of them otherwise.

## Main results

* `Identifier.ofSetup_eq_iff`.
* `Identifier.texts_eq_of_joinedTexts_eq`.
* `Invocation.argumentsOf_eq_iff`.
-/

namespace TierSweep

namespace RunSetup

/-- The texts that a configuration has by itself. -/
def texts (r : RunSetup) : List String := [r.pattern, r.clientTierSizes, r.serverMemSizes]

/-- The parameters of the policy with the texts of their values. -/
def tuningTexts (r : RunSetup) : List (TuningField × String) :=
  r.tuning.map fun p => (p.1, p.2.render)

/-- Two configurations have the same policy and the same numbers among those in identifiers. -/
structure Matches (r q : RunSetup) : Prop where
  policy : r.policy = q.policy
  bufferSize : toString r.bufferSize = toString q.bufferSize
  scanInterval : r.scanInterval.render = q.scanInterval.render
  sampleRate : r.sampleRate.render = q.sampleRate.render
  tuning : r.tuningTexts = q.tuningTexts

theorem fst_tuningTexts (r : RunSetup) : r.tuningTexts.map Prod.fst = r.policy.tuned := by
  rw [tuningTexts, List.map_map, ← r.tuning_eq]
  rfl

end RunSetup

namespace Identifier

/-- Parts with the separator between them. -/
def joined (parts : List String) : String := separator.toString.intercalate parts

/-- The front of an identifier: the three texts, cleaned and joined. -/
def joinedTexts (r : RunSetup) : String := joined (r.texts.map clean)

/-- The part of an identifier for a parameter of the policy. -/
def tuningPart (p : TuningField × String) : String := clean (p.1.mark ++ p.2)

/-- The parts of an identifier behind the three texts. -/
def numberParts (r : RunSetup) : List String :=
  ["buf" ++ toString r.bufferSize, clean ("scan" ++ r.scanInterval.render),
    clean ("sample" ++ r.sampleRate.render), r.policy.name]
  ++ r.tuningTexts.map tuningPart

theorem ofSetup_eq (r : RunSetup) :
    ofSetup r = joined (r.texts.map clean ++ numberParts r) := by
  rw [ofSetup, joined, parts, numberParts, RunSetup.tuningTexts, List.map_map]
  rfl

/-! ### Splitting at the last separator -/

private theorem toList_joined (parts : List String) :
    (joined parts).toList = [separator].intercalate (parts.map String.toList) := by
  rw [joined, String.toList_intercalate]
  rfl

/-- Behind the first parts every part stands behind a separator. -/
private theorem joined_append {xs : List String} (h : xs ≠ []) (ts : List String) :
    (joined (xs ++ ts)).toList
      = (joined xs).toList ++ ts.flatMap fun t => separator :: t.toList := by
  rw [toList_joined, toList_joined, List.map_append]
  induction xs with
  | nil => exact absurd rfl h
  | cons x xs ih =>
    cases xs with
    | nil =>
      clear ih h
      induction ts generalizing x with
      | nil => simp
      | cons t ts ih =>
        have hrest := ih t
        simp only [List.map_cons, List.map_nil, List.singleton_append, List.flatMap_cons] at hrest ⊢
        rw [List.intercalate_cons_cons, hrest]
        simp
    | cons y xs =>
      have hrest := ih (List.cons_ne_nil y xs)
      simp only [List.map_cons, List.cons_append] at hrest ⊢
      rw [List.intercalate_cons_cons, List.intercalate_cons_cons, hrest]
      simp only [List.append_assoc]

/-- What stands before the last separator and what stands behind it are determined. -/
private theorem append_separator_inj {a b s t : List Char} (hs : separator ∉ s)
    (ht : separator ∉ t) (h : a ++ separator :: s = b ++ separator :: t) : a = b ∧ s = t := by
  rcases List.append_eq_append_iff.mp h with ⟨m, hb, hm⟩ | ⟨m, ha, hm⟩
  · cases m with
    | nil => exact ⟨by rw [hb, List.append_nil], (List.cons.inj hm).2⟩
    | cons c m =>
      refine absurd ?_ hs
      rw [(List.cons.inj hm).2]
      exact List.mem_append_right m List.mem_cons_self
  · cases m with
    | nil => exact ⟨by rw [ha, List.append_nil], (List.cons.inj hm).2.symm⟩
    | cons c m =>
      refine absurd ?_ ht
      rw [(List.cons.inj hm).2]
      exact List.mem_append_right m List.mem_cons_self

/-- As many last parts without separators are determined as two texts have of them, and what stands
before them is determined as a whole. -/
theorem joined_append_inj {xs ys ts us : List String} (hxs : xs ≠ []) (hys : ys ≠ [])
    (hts : ∀ t ∈ ts, separator ∉ t.toList) (hus : ∀ u ∈ us, separator ∉ u.toList)
    (hlength : ts.length = us.length) (h : joined (xs ++ ts) = joined (ys ++ us)) :
    joined xs = joined ys ∧ ts = us := by
  -- induction on the parts from the last one backwards
  generalize hn : ts.length = n at hlength
  induction n generalizing ts us with
  | zero =>
    obtain rfl := List.length_eq_zero_iff.mp hn
    obtain rfl := List.length_eq_zero_iff.mp hlength.symm
    rw [List.append_nil, List.append_nil] at h
    exact ⟨h, rfl⟩
  | succ n ih =>
    obtain ⟨ts, t, rfl⟩ : ∃ init last, ts = init ++ [last] :=
      ⟨ts.dropLast, ts.getLast (List.ne_nil_of_length_eq_add_one hn),
        (List.dropLast_concat_getLast _).symm⟩
    obtain ⟨us, u, rfl⟩ : ∃ init last, us = init ++ [last] :=
      ⟨us.dropLast, us.getLast (List.ne_nil_of_length_eq_add_one hlength.symm),
        (List.dropLast_concat_getLast _).symm⟩
    have hlist := congrArg String.toList h
    rw [← List.append_assoc, ← List.append_assoc,
      joined_append (List.append_ne_nil_of_left_ne_nil hxs ts),
      joined_append (List.append_ne_nil_of_left_ne_nil hys us), List.flatMap_singleton,
      List.flatMap_singleton] at hlist
    obtain ⟨hinit, hlast⟩ := append_separator_inj
      (hts t (List.mem_append_right ts List.mem_cons_self))
      (hus u (List.mem_append_right us List.mem_cons_self)) hlist
    rw [List.length_append, List.length_singleton] at hn hlength
    obtain ⟨hfront, rfl⟩ := ih (fun t' ht' => hts t' (List.mem_append_left _ ht'))
      (fun u' hu' => hus u' (List.mem_append_left _ hu')) (String.toList_inj.mp hinit)
      (Nat.succ.inj hn) (Nat.succ.inj hlength)
    exact ⟨hfront, by rw [String.toList_inj.mp hlast]⟩

/-! ### The parts behind the texts -/

private theorem separator_not_mem_append {s t : String} (hs : separator ∉ s.toList)
    (ht : OfNumerals t) : separator ∉ (s ++ t).toList := by
  rw [String.toList_append, List.mem_append]
  exact fun h => h.elim hs fun h => absurd (ht separator h) (by decide)

private theorem clean_append {s t : String} (hs : IsClean s) (ht : OfNumerals t) :
    clean (s ++ t) = s ++ t :=
  clean_of_isClean (hs.append (isClean_of_ofNumerals ht))

theorem ofNumerals_of_mem_tuningTexts {r : RunSetup} {p : TuningField × String}
    (h : p ∈ r.tuningTexts) : OfNumerals p.2 := by
  obtain ⟨q, -, rfl⟩ := List.mem_map.mp h
  exact q.2.ofNumerals_render

theorem tuningPart_eq {p : TuningField × String} (h : OfNumerals p.2) :
    tuningPart p = p.1.mark ++ p.2 :=
  clean_append (isClean_mark p.1) h

/-- No part behind the three texts contains a separator. -/
theorem separator_not_mem_numberParts {r : RunSetup} :
    ∀ part ∈ numberParts r, separator ∉ part.toList := by
  intro part hpart
  have hbuf : separator ∉ "buf".toList := by decide
  have hscan : separator ∉ "scan".toList ∧ IsClean "scan" := by decide
  have hsample : separator ∉ "sample".toList ∧ IsClean "sample" := by decide
  rw [numberParts] at hpart
  rcases List.mem_append.mp hpart with hpart | hpart
  · simp only [List.mem_cons, List.not_mem_nil, or_false] at hpart
    rcases hpart with rfl | rfl | rfl | rfl
    · exact separator_not_mem_append hbuf (.toString _)
    · rw [clean_append hscan.2 r.scanInterval.ofNumerals_render]
      exact separator_not_mem_append hscan.1 r.scanInterval.ofNumerals_render
    · rw [clean_append hsample.2 r.sampleRate.ofNumerals_render]
      exact separator_not_mem_append hsample.1 r.sampleRate.ofNumerals_render
    · cases r.policy <;> decide
  · obtain ⟨p, hp, rfl⟩ := List.mem_map.mp hpart
    have hnumerals := ofNumerals_of_mem_tuningTexts hp
    have hmark : separator ∉ p.1.mark.toList := by cases p.1 <;> decide
    rw [tuningPart_eq hnumerals]
    exact separator_not_mem_append hmark hnumerals

/-- The marks are told apart by their characters that no number is written with. -/
private theorem takeWhile_mark_append (f : TuningField) {s : String} (h : OfNumerals s) :
    (f.mark ++ s).toList.takeWhile (!isNumeral ·) = f.mark.toList.takeWhile (!isNumeral ·) := by
  have hnil : s.toList.takeWhile (!isNumeral ·) = [] := by
    cases hs : s.toList with
    | nil => rfl
    | cons c cs => exact List.takeWhile_cons_of_neg (by simp [h c (hs ▸ List.mem_cons_self)])
  rw [String.toList_append, List.takeWhile_append, hnil, List.append_nil]
  split
  · next hall => exact (List.takeWhile_prefix _).eq_of_length hall |>.symm
  · rfl

/-- The part for a parameter tells the parameter and the text of its value. -/
theorem tuningPart_inj {p q : TuningField × String} (hp : OfNumerals p.2) (hq : OfNumerals q.2)
    (h : tuningPart p = tuningPart q) : p = q := by
  obtain ⟨f, s⟩ := p
  obtain ⟨g, t⟩ := q
  rw [tuningPart_eq hp, tuningPart_eq hq] at h
  have hmark := congrArg (fun s => s.toList.takeWhile (!isNumeral ·)) h
  simp only [takeWhile_mark_append f hp, takeWhile_mark_append g hq] at hmark
  have hmarks : ∀ f ∈ TuningField.all, ∀ g ∈ TuningField.all,
      f.mark.toList.takeWhile (!isNumeral ·) = g.mark.toList.takeWhile (!isNumeral ·) → f = g := by
    decide
  obtain rfl := hmarks f f.mem_all g g.mem_all hmark
  have hlist := congrArg String.toList h
  simp only [String.toList_append] at hlist
  rw [String.toList_inj.mp (List.append_cancel_left hlist)]

/-- The parameter that comes last in the identifiers of a policy. -/
private def lastTuned : Policy → TuningField
  | .lru => .coldThreshold
  | .frequency => .coldCount
  | .hybrid => .frequencyWeight

private theorem exists_tuningTexts_eq (r : RunSetup) :
    ∃ init s, r.tuningTexts = init ++ [(lastTuned r.policy, s)] := by
  have htuned : r.policy.tuned = r.policy.tuned.dropLast ++ [lastTuned r.policy] := by
    cases r.policy <;> rfl
  have hfst := r.fst_tuningTexts.trans htuned
  obtain ⟨init, rest, hsplit, -, hrest⟩ := List.map_eq_append_iff.mp hfst
  obtain ⟨p, rfl, hp⟩ := List.map_eq_singleton_iff.mp hrest
  exact ⟨init, p.2, by rw [hsplit, ← hp]⟩

/-- The last part of an identifier tells the policy. -/
theorem policy_eq_of_ofSetup_eq {r q : RunSetup} (h : ofSetup r = ofSetup q) :
    r.policy = q.policy := by
  have hlast (r : RunSetup) : ∃ front s, front ≠ [] ∧ (lastTuned r.policy, s) ∈ r.tuningTexts ∧
      ofSetup r = joined (front ++ [tuningPart (lastTuned r.policy, s)]) := by
    obtain ⟨init, s, hinit⟩ := exists_tuningTexts_eq r
    refine ⟨r.texts.map clean ++ (["buf" ++ toString r.bufferSize,
        clean ("scan" ++ r.scanInterval.render), clean ("sample" ++ r.sampleRate.render),
        r.policy.name] ++ init.map tuningPart), s, List.cons_ne_nil _ _,
      hinit ▸ List.mem_append_right init List.mem_cons_self, ?_⟩
    rw [ofSetup_eq, numberParts, hinit, List.map_append, ← List.append_assoc, ← List.append_assoc,
      ← List.append_assoc]
    rfl
  have hmem (r : RunSetup) {p : TuningField × String} (hp : p ∈ r.tuningTexts) :
      ∀ part ∈ [tuningPart p], separator ∉ part.toList := fun part hpart =>
    separator_not_mem_numberParts (r := r) part (List.mem_singleton.mp hpart ▸
      List.mem_append_right _ (List.mem_map_of_mem hp))
  obtain ⟨front, s, hfront, hs, hr⟩ := hlast r
  obtain ⟨front', s', hfront', hs', hq⟩ := hlast q
  rw [hr, hq] at h
  obtain ⟨-, hpart⟩ := joined_append_inj hfront hfront' (hmem r hs) (hmem q hs') rfl h
  have hpair := tuningPart_inj (ofNumerals_of_mem_tuningTexts hs)
    (ofNumerals_of_mem_tuningTexts hs') (List.cons.inj hpart).1
  have hpolicies : ∀ p ∈ Policy.all, ∀ p' ∈ Policy.all, lastTuned p = lastTuned p' → p = p' := by
    decide
  exact hpolicies r.policy r.policy.mem_all q.policy q.policy.mem_all (congrArg Prod.fst hpair)

private theorem length_numberParts (r : RunSetup) :
    (numberParts r).length = 4 + r.policy.tuned.length := by
  rw [← r.fst_tuningTexts, numberParts, List.length_append, List.length_map, List.length_map]
  rfl

/-- The parts behind the three texts tell the policy and the numbers. -/
theorem numberParts_eq_iff {r q : RunSetup} (hpolicy : r.policy = q.policy) :
    numberParts r = numberParts q ↔ r.Matches q := by
  have hscan : IsClean "scan" := by decide
  have hsample : IsClean "sample" := by decide
  have hcancel {s t u : String} (h : s ++ t = s ++ u) : t = u := by
    have hlist := congrArg String.toList h
    rw [String.toList_append, String.toList_append] at hlist
    exact String.toList_inj.mp (List.append_cancel_left hlist)
  refine ⟨fun h => ?_, fun h => ?_⟩
  · rw [numberParts, numberParts] at h
    simp only [List.cons_append, List.nil_append, List.cons.injEq] at h
    obtain ⟨hbuf, hscanPart, hsamplePart, -, htuning⟩ := h
    rw [clean_append hscan (Number.ofNumerals_render _),
      clean_append hscan (Number.ofNumerals_render _)] at hscanPart
    rw [clean_append hsample (Number.ofNumerals_render _),
      clean_append hsample (Number.ofNumerals_render _)] at hsamplePart
    exact ⟨hpolicy, hcancel hbuf, hcancel hscanPart, hcancel hsamplePart,
      Traversal.eq_of_map_eq (fun p hp p' hp' => tuningPart_inj (ofNumerals_of_mem_tuningTexts hp)
        (ofNumerals_of_mem_tuningTexts hp')) htuning⟩
  · rw [numberParts, numberParts, h.policy, h.bufferSize, h.scanInterval, h.sampleRate, h.tuning]

/-- Two configurations share an identifier exactly when they have the same policy and the same
numbers, and their texts, cleaned and joined, are the same. -/
theorem ofSetup_eq_iff {r q : RunSetup} :
    ofSetup r = ofSetup q ↔ r.Matches q ∧ joinedTexts r = joinedTexts q := by
  refine ⟨fun h => ?_, fun ⟨hmatches, htexts⟩ => ?_⟩
  · have hpolicy := policy_eq_of_ofSetup_eq h
    rw [ofSetup_eq, ofSetup_eq] at h
    obtain ⟨htexts, hparts⟩ := joined_append_inj (List.cons_ne_nil _ _) (List.cons_ne_nil _ _)
      separator_not_mem_numberParts separator_not_mem_numberParts
      (by rw [length_numberParts, length_numberParts, hpolicy]) h
    exact ⟨(numberParts_eq_iff hpolicy).mp hparts, htexts⟩
  · have hne (r : RunSetup) : r.texts.map clean ≠ [] := List.cons_ne_nil _ _
    have htexts := congrArg String.toList htexts
    rw [joinedTexts, joinedTexts] at htexts
    rw [ofSetup_eq, ofSetup_eq, (numberParts_eq_iff hmatches.policy).mpr hmatches,
      ← String.toList_inj, joined_append (hne r), joined_append (hne q), htexts]

/-! ### Plain texts -/

/-- A text with neither the separator nor a character that identifiers replace. -/
def IsPlain (s : String) : Prop := IsClean s ∧ separator ∉ s.toList

instance (s : String) : Decidable (IsPlain s) :=
  inferInstanceAs (Decidable (IsClean s ∧ separator ∉ s.toList))

/-- Plain texts are determined by the front of an identifier. -/
theorem texts_eq_of_joinedTexts_eq {r q : RunSetup} (hr : ∀ s ∈ r.texts, IsPlain s)
    (hq : ∀ s ∈ q.texts, IsPlain s) (h : joinedTexts r = joinedTexts q) : r.texts = q.texts := by
  have hclean {r : RunSetup} (hr : ∀ s ∈ r.texts, IsPlain s) : r.texts.map clean = r.texts :=
    (List.map_congr_left fun s hs => clean_of_isClean (hr s hs).1).trans (List.map_id' _)
  rw [joinedTexts, joinedTexts, hclean hr, hclean hq] at h
  have h : joined ([r.pattern] ++ [r.clientTierSizes, r.serverMemSizes])
      = joined ([q.pattern] ++ [q.clientTierSizes, q.serverMemSizes]) := h
  obtain ⟨hfront, hrest⟩ := joined_append_inj (List.cons_ne_nil _ _) (List.cons_ne_nil _ _)
    (fun t ht => (hr t (List.mem_cons_of_mem _ ht)).2)
    (fun t ht => (hq t (List.mem_cons_of_mem _ ht)).2) rfl h
  have hpattern : r.pattern = q.pattern := by
    have hlist := congrArg String.toList hfront
    rw [toList_joined, toList_joined, List.map_singleton, List.map_singleton,
      List.intercalate_singleton, List.intercalate_singleton] at hlist
    exact String.toList_inj.mp hlist
  rw [RunSetup.texts, RunSetup.texts, hpattern, hrest]

end Identifier

/-- The arguments of two configurations that match differ only in the three texts, in the running
time and in the number of tiers. -/
theorem Invocation.argumentsOf_eq_iff {r q : RunSetup} (h : r.Matches q) (o : ResultFiles) :
    argumentsOf r o = argumentsOf q o ↔
      r.texts = q.texts ∧ r.runningTime.render = q.runningTime.render ∧
        toString r.numTiers = toString q.numTiers := by
  have htuning (r : RunSetup) : (r.tuning.flatMap fun p => [p.1.flag, p.2.render])
      = r.tuningTexts.flatMap fun p => [p.1.flag, p.2] := by
    rw [RunSetup.tuningTexts, List.flatMap_map]
  rw [argumentsOf, argumentsOf, htuning, htuning, h.policy, h.bufferSize, h.scanInterval,
    h.sampleRate, h.tuning, RunSetup.texts, RunSetup.texts]
  simp only [List.append_cancel_right_eq, List.cons.injEq, and_true, true_and]
  exact ⟨fun ⟨hp, hc, ht, hs, hn⟩ => ⟨⟨hp, hc, hs⟩, ht, hn⟩,
    fun ⟨⟨hp, hc, hs⟩, ht, hn⟩ => ⟨hp, hc, ht, hs, hn⟩⟩

end TierSweep
