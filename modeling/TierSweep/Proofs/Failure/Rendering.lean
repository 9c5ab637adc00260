import TierSweep.Proofs.Entries.Order
import TierSweep.Proofs.Traversal
import TierSweep.RunSetup

/-!
# The order in which facts are shown

A detail is made of a code and a message, to which facts and advice are added one after another. It
is shown as these parts in that order, but the facts are a map, so among themselves they are shown
in the order of their names and not in the order in which they were added
(`Detail.render_annotateAll`). The two orders give one text if the facts were added by increasing
names. As long as the facts contain none of the characters that set them apart, they give different
texts otherwise: the pairs are then read back from the text, order included
(`Detail.factsText_injOn`).

## Main definitions

* `Note`, `Detail.annotateAll` — adding facts and advice.
* `Detail.text` — the parts of a detail, with the facts in a given order.

## Main results

* `Detail.render_eq_text`, `Detail.render_annotateAll`.
-/

namespace TierSweep

/-- Something that is added to a detail. -/
inductive Note where
  | fact (key value : String)
  | advice (text : String)

namespace Note

/-- The fact that is added, if it is one. -/
def fact? : Note → Option (String × String)
  | fact key value => some (key, value)
  | advice _ => none

/-- The advice that is added, if it is some. -/
def advice? : Note → Option String
  | fact _ _ => none
  | advice text => some text

/-- The facts among some notes, in the order in which they are added. -/
def facts (notes : List Note) : List (String × String) := notes.filterMap fact?

/-- The advice given last. -/
def lastAdvice? (notes : List Note) : Option String := (notes.filterMap advice?).getLast?

end Note

namespace Detail

/-- Adds a note to a detail. -/
def annotate (d : Detail) : Note → Detail
  | .fact key value => d.noting key value
  | .advice text => d.advising text

/-- Adds notes one after another. -/
def annotateAll (d : Detail) (notes : List Note) : Detail := notes.foldl annotate d

/-- A fact as it is shown. -/
def pair (p : String × String) : String := p.1 ++ "=" ++ p.2

/-- Facts as they are shown in a given order. -/
def factsText : List (String × String) → String
  | [] => ""
  | p :: rest => " (" ++ pair p ++ String.join (rest.map fun q => ", " ++ pair q) ++ ")"

/-- Code, message, facts in a given order, and advice. -/
def text (code message : String) (facts : List (String × String)) (advice? : Option String) :
    String :=
  "[" ++ code ++ "] " ++ message ++ factsText facts ++ (advice?.elim "" ("; hint: " ++ ·))

variable {facts others : List (String × String)}

/-! ### Showing a detail -/

private theorem intercalate_eq_join (s : String) (parts : List String) :
    ", ".intercalate (s :: parts) = s ++ String.join (parts.map (", " ++ ·)) := by
  induction parts generalizing s with
  | nil => simp
  | cons t parts ih =>
    rw [String.intercalate_cons_cons, ih, List.map_cons, String.join_cons, String.append_assoc,
      String.append_assoc]

theorem renderFacts_eq_factsText (d : Detail) : d.renderFacts = factsText d.facts := by
  rw [renderFacts]
  cases d.facts with
  | nil => rfl
  | cons p rest =>
    rw [List.map_cons, intercalate_eq_join, List.map_map]
    simp [factsText, pair, String.append_assoc, Function.comp_def]

/-- A detail is shown with its facts in the order in which it has them. -/
theorem render_eq_text (d : Detail) : d.render = text d.code d.message d.facts d.advice? := by
  rw [render, text, renderFacts_eq_factsText]
  cases d.advice? <;> rfl

/-! ### Adding notes -/

theorem code_annotateAll (d : Detail) (notes : List Note) :
    (d.annotateAll notes).code = d.code ∧ (d.annotateAll notes).message = d.message := by
  induction notes generalizing d with
  | nil => exact ⟨rfl, rfl⟩
  | cons note notes ih => cases note <;> exact ih _

/-- Facts are added to those that are there, whatever advice is given between them. -/
theorem facts_annotateAll (d : Detail) (notes : List Note) :
    (d.annotateAll notes).facts =
      (Note.facts notes).foldl (fun facts p => Entries.insert p.1 p.2 facts) d.facts := by
  induction notes generalizing d with
  | nil => rfl
  | cons note notes ih => cases note <;> exact ih _

/-- The advice given last is kept. -/
theorem advice?_annotateAll (d : Detail) (notes : List Note) :
    (d.annotateAll notes).advice? = (Note.lastAdvice? notes).or d.advice? := by
  induction notes generalizing d with
  | nil => rfl
  | cons note notes ih =>
    cases note with
    | fact key value => exact ih _
    | advice text =>
      have hlast : Note.lastAdvice? (.advice text :: notes) =
          some ((Note.lastAdvice? notes).getD text) := by
        exact List.getLast?_cons
      have hrest := ih (d.advising text)
      rw [hlast]
      cases h : Note.lastAdvice? notes with
      | none => rw [h] at hrest; exact hrest
      | some last => rw [h] at hrest; exact hrest

/-- A new detail has the facts that were added, as a map. -/
theorem facts_annotateAll_new (code message : String) (notes : List Note) :
    ((new code message).annotateAll notes).facts = Entries.ofList (Note.facts notes) :=
  facts_annotateAll _ _

theorem render_annotateAll_new (code message : String) (notes : List Note) :
    ((new code message).annotateAll notes).render =
      text code message (Entries.ofList (Note.facts notes)) (Note.lastAdvice? notes) := by
  obtain ⟨hcode, hmessage⟩ := code_annotateAll (new code message) notes
  rw [render_eq_text, hcode, hmessage, facts_annotateAll_new, advice?_annotateAll]
  simp [new]

/-! ### Reading facts back -/

/-- A fact without the characters that end its name and set it apart from others. -/
structure IsPlain (p : String × String) : Prop where
  equals_not_mem : '=' ∉ p.1.toList
  comma_not_mem_name : ',' ∉ p.1.toList
  comma_not_mem_value : ',' ∉ p.2.toList

theorem isPlain_iff {p : String × String} :
    IsPlain p ↔ '=' ∉ p.1.toList ∧ ',' ∉ p.1.toList ∧ ',' ∉ p.2.toList :=
  ⟨fun h => ⟨h.equals_not_mem, h.comma_not_mem_name, h.comma_not_mem_value⟩,
    fun h => ⟨h.1, h.2.1, h.2.2⟩⟩

instance (p : String × String) : Decidable (IsPlain p) := decidable_of_iff' _ isPlain_iff

theorem toList_pair (p : String × String) : (pair p).toList = p.1.toList ++ '=' :: p.2.toList := by
  simp [pair]

theorem IsPlain.comma_not_mem_pair {p : String × String} (h : IsPlain p) :
    ',' ∉ (pair p).toList := by
  rw [toList_pair, List.mem_append, List.mem_cons]
  rintro (hname | hequals | hvalue)
  · exact h.comma_not_mem_name hname
  · cases hequals
  · exact h.comma_not_mem_value hvalue

/-- The name of a fact ends at the first sign of equality. -/
theorem pair_injOn {p q : String × String} (hp : IsPlain p) (hq : IsPlain q)
    (h : pair p = pair q) : p = q := by
  have hlist := congrArg String.toList h
  rw [toList_pair, toList_pair] at hlist
  have hnames := congrArg (List.splitOn '=') hlist
  rw [List.splitOn_append_cons_self_of_not_mem hp.equals_not_mem,
    List.splitOn_append_cons_self_of_not_mem hq.equals_not_mem] at hnames
  have hname := (List.cons.inj hnames).1
  rw [hname] at hlist
  have hvalue := (List.cons.inj (List.append_cancel_left hlist)).2
  exact Prod.ext (String.toList_injective hname) (String.toList_injective hvalue)

/-- Facts without the characters that set them apart are found again by splitting at the commas. -/
theorem splitOn_pairs {p : String × String} (hp : IsPlain p) (hfacts : ∀ q ∈ facts, IsPlain q) :
    (pair p ++ String.join (facts.map fun q => ", " ++ pair q)).toList.splitOn ',' =
      (pair p).toList :: facts.map fun q => ' ' :: (pair q).toList := by
  induction facts generalizing p with
  | nil =>
    rw [List.map_nil, String.join_nil, String.append_empty, List.map_nil]
    exact List.splitOn_eq_singleton hp.comma_not_mem_pair
  | cons q facts ih =>
    obtain ⟨hq, hrest⟩ := List.forall_mem_cons.mp hfacts
    have hlist : (pair p ++ String.join ((q :: facts).map fun q => ", " ++ pair q)).toList =
        (pair p).toList ++ ',' :: ' ' ::
          (pair q ++ String.join (facts.map fun q => ", " ++ pair q)).toList := by
      simp
    rw [hlist, List.splitOn_append_cons_self_of_not_mem hp.comma_not_mem_pair,
      List.splitOn_cons_eq_if_modifyHead, if_neg (by decide), ih hq hrest]
    rfl

theorem factsText_cons_ne (p : String × String) : factsText (p :: facts) ≠ factsText [] := by
  simp [factsText, String.append_assoc]

/-- Facts without the characters that set them apart are determined by the text in which they are
shown, and so is their order. -/
theorem factsText_injOn (hfacts : ∀ p ∈ facts, IsPlain p) (hothers : ∀ p ∈ others, IsPlain p)
    (h : factsText facts = factsText others) : facts = others := by
  cases facts with
  | nil =>
    cases others with
    | nil => rfl
    | cons q others => exact absurd h.symm (factsText_cons_ne q)
  | cons p facts =>
    cases others with
    | nil => exact absurd h (factsText_cons_ne p)
    | cons q others =>
      obtain ⟨hp, hfacts⟩ := List.forall_mem_cons.mp hfacts
      obtain ⟨hq, hothers⟩ := List.forall_mem_cons.mp hothers
      rw [factsText, factsText, String.append_left_inj, String.append_assoc, String.append_assoc,
        String.append_right_inj] at h
      have hsplit := congrArg (fun s => s.toList.splitOn ',') h
      simp only [splitOn_pairs hp hfacts, splitOn_pairs hq hothers] at hsplit
      obtain ⟨hhead, htail⟩ := List.cons.inj hsplit
      rw [pair_injOn hp hq (String.toList_injective hhead)]
      refine congrArg (q :: ·) (Traversal.eq_of_map_eq (fun r hr r' hr' hpair => ?_) htail)
      exact pair_injOn (hfacts r hr) (hothers r' hr')
        (String.toList_injective (List.cons.inj hpair).2)

variable {code message : String} {advice? : Option String}

theorem factsText_eq_of_text_eq
    (h : text code message facts advice? = text code message others advice?) :
    factsText facts = factsText others := by
  rwa [text, text, String.append_left_inj, String.append_right_inj] at h

/-- **The order in which facts are shown.** A detail to which facts of different names and advice
were added is shown as its code, its message, the facts and the advice given last. The facts are
those that were added, but in strictly increasing order of their names. If they were added in this
order the text shows them in the order in which they were added. Otherwise it does not, unless a
fact contains a character that sets facts apart. -/
theorem render_annotateAll (code message : String) {notes : List Note}
    (h : ((Note.facts notes).map Prod.fst).Nodup) :
    (∃ shown, shown.Perm (Note.facts notes) ∧ Entries.Increasing shown ∧
      ((new code message).annotateAll notes).render =
        text code message shown (Note.lastAdvice? notes)) ∧
    (Entries.Increasing (Note.facts notes) →
      ((new code message).annotateAll notes).render =
        text code message (Note.facts notes) (Note.lastAdvice? notes)) ∧
    ((∀ p ∈ Note.facts notes, IsPlain p) →
      (((new code message).annotateAll notes).render =
        text code message (Note.facts notes) (Note.lastAdvice? notes) ↔
          Entries.Increasing (Note.facts notes))) := by
  have hperm := Entries.perm_ofList h
  have hincreasing := Entries.increasing_ofList (Note.facts notes)
  have hordered (hfacts : Entries.Increasing (Note.facts notes)) :
      ((new code message).annotateAll notes).render =
        text code message (Note.facts notes) (Note.lastAdvice? notes) := by
    rw [render_annotateAll_new, Entries.ofList_of_increasing hfacts]
  refine ⟨⟨_, hperm, hincreasing, render_annotateAll_new code message notes⟩, hordered, ?_⟩
  refine fun hplain => ⟨fun htext => ?_, hordered⟩
  rw [render_annotateAll_new] at htext
  have hshown : ∀ p ∈ Entries.ofList (Note.facts notes), IsPlain p := fun p hp =>
    hplain p (hperm.mem_iff.mp hp)
  exact factsText_injOn hshown hplain (factsText_eq_of_text_eq htext) ▸ hincreasing

/-- What is noted about a pattern that is an integer. -/
def patternNotes : List Note :=
  [.fact "field" "pattern", .fact "expected" "text", .fact "found" "int", .fact "value" "1"]

theorem wrongKind_eq_annotateAll :
    (SetupFault.wrongKind "pattern" "text" (.int 1)).toFailure.detail =
      (new "invalid_field_type" "field has the wrong type").annotateAll patternNotes :=
  rfl

theorem render_annotateAll_pattern :
    ((Note.facts patternNotes).map Prod.fst).Nodup ∧ (∀ p ∈ Note.facts patternNotes, IsPlain p) ∧
      (∃ shown, shown.Perm (Note.facts patternNotes) ∧ Entries.Increasing shown ∧
        ((new "invalid_field_type" "field has the wrong type").annotateAll patternNotes).render =
          text "invalid_field_type" "field has the wrong type" shown none) ∧
      ((new "invalid_field_type" "field has the wrong type").annotateAll patternNotes).render ≠
        text "invalid_field_type" "field has the wrong type" (Note.facts patternNotes) none := by
  have hnodup : ((Note.facts patternNotes).map Prod.fst).Nodup := by decide
  have hplain : ∀ p ∈ Note.facts patternNotes, IsPlain p := by decide
  have hdisordered : ¬Entries.Increasing (Note.facts patternNotes) := by
    rw [Entries.Increasing]
    decide
  obtain ⟨hshown, -, horder⟩ :=
    render_annotateAll "invalid_field_type" "field has the wrong type" hnodup
  exact ⟨hnodup, hplain, hshown, mt (horder hplain).mp hdisordered⟩

/-- The report on a value of the wrong kind shows the expected kind in front of the parameter,
although the parameter is noted first. -/
theorem expected_shown_first :
    ((Note.facts patternNotes).map Prod.fst).Nodup ∧
      (SetupFault.wrongKind "pattern" "text" (.int 1)).toFailure.detail =
        (new "invalid_field_type" "field has the wrong type").annotateAll patternNotes ∧
      ((new "invalid_field_type" "field has the wrong type").annotateAll patternNotes).render =
        "[invalid_field_type] field has the wrong type " ++
          "(expected=text, field=pattern, found=int, value=1)" ∧
      ((new "invalid_field_type" "field has the wrong type").annotateAll patternNotes).render ≠
        text "invalid_field_type" "field has the wrong type" (Note.facts patternNotes) none :=
  ⟨by decide, wrongKind_eq_annotateAll, by decide +kernel, by decide +kernel⟩

end Detail

end TierSweep
