import Mathlib.Data.List.Nodup
import TierSweep.Experiment
import TierSweep.Proofs.Identifier.Characters
import TierSweep.Proofs.Text.Encoding

/-!
# Where result files lie

Two paths lead to the same place when they agree up to repeated slashes and names that do not move;
`Path.components` is what is left of a path without them. A result file lies directly in the
directory of its experiment: the last component of its path is its name, which contains no slash
(`Path.fileName?_joinString`). The benchmark is given the path as a text, in which malformed
bytes of the root are replaced; the text again leads to a file of that name
(`Path.fileName?_shown_joinString`). Files of different names are therefore told apart both by their
paths and by what the benchmark is given, and the names of the two files of a run, and of the files
of runs with different identifiers, are different (`Experiment.fileName_injective`).

## Main definitions

* `Path.components` — where a path leads.
* `Path.shown` — the path that the text of a path stands for.
* `Path.fileName?` — the name of the file a path leads to.

## Main results

* `Path.components_joinString`, `Path.fileName?_joinString`, `Path.fileName?_shown_joinString`.
* `Experiment.isFileName_of_mem_fileNames`, `Experiment.nodup_components_files`.
-/

namespace TierSweep

namespace Path

/-- Whether a name leads anywhere else than where one is. -/
def moves (name : Bytes) : Bool := !(name.isEmpty || name = here)

/-- The front of a path and those of its names that move. -/
def components (p : Path) : Bytes × List Bytes :=
  (p.front, (segments (p.bytes.drop p.front.length)).filter moves)

/-- The path of the text that shows a path: what a program is led to that is given the text. -/
def shown (p : Path) : Path := .ofString p.display

/-- What stands in front of a name in a directory: the directory and a slash, unless it is there
already or the directory is empty. -/
def base (p : Path) : Bytes :=
  if p.bytes.isEmpty || p.bytes.getLast? = some slash then p.bytes else p.bytes ++ [slash]

/-- Bytes that end where a name can begin. -/
def EndsDirectory (bs : Bytes) : Prop := bs = [] ∨ ∃ before, bs = before ++ [slash]

theorem endsDirectory_base (p : Path) : EndsDirectory p.base := by
  rw [base]
  split
  · next h =>
    rcases Bool.or_eq_true_iff.mp h with h | h
    · exact .inl (List.isEmpty_iff.mp h)
    · obtain ⟨before, hbefore⟩ := List.getLast?_eq_some_iff.mp (of_decide_eq_true h)
      exact .inr ⟨before, hbefore⟩
  · exact .inr ⟨p.bytes, rfl⟩

theorem slash_not_mem_encode {s : String} (h : '/' ∉ s.toList) : slash ∉ Utf8.encode s :=
  fun hslash => h (Utf8.mem_encode_ascii (b := slash) (by decide) hslash)

/-- A text without a slash is put behind the directory. -/
theorem joinString_eq {p : Path} {s : String} (hs : '/' ∉ s.toList) :
    p.joinString s = ⟨p.base ++ Utf8.encode s⟩ := by
  have hrelative : (ofString s).isAbsolute = false :=
    decide_eq_false fun habs => slash_not_mem_encode hs (List.mem_of_mem_head? habs)
  rw [joinString, join, hrelative, base, if_neg Bool.false_ne_true]
  split
  · rfl
  · rw [List.append_assoc]
    rfl

/-! ### Names -/

private theorem segments_cons_slash (bs : Bytes) : segments (slash :: bs) = [] :: segments bs := by
  rw [segments, if_pos rfl]

private theorem segments_cons {b : UInt8} (hb : b ≠ slash) {bs s : Bytes} {more : List Bytes}
    (h : segments bs = s :: more) : segments (b :: bs) = (b :: s) :: more := by
  rw [segments, if_neg hb, h]

private theorem segments_append_slash (bs cs : Bytes) :
    segments (bs ++ slash :: cs) = segments bs ++ segments cs := by
  induction bs with
  | nil => exact segments_cons_slash cs
  | cons b bs ih =>
    by_cases hb : b = slash
    · rw [hb, List.cons_append, segments_cons_slash, segments_cons_slash, ih, List.cons_append]
    · obtain ⟨s, more, hs⟩ := List.exists_cons_of_ne_nil (segments_ne_nil bs)
      rw [hs] at ih
      rw [List.cons_append, segments_cons hb ih, segments_cons hb hs]
      rfl

private theorem segments_of_not_mem {bs : Bytes} (h : slash ∉ bs) : segments bs = [bs] := by
  induction bs with
  | nil => rfl
  | cons b bs ih =>
    have hb : b ≠ slash := fun hb => h (hb ▸ List.mem_cons_self)
    exact segments_cons hb (ih fun hmem => h (List.mem_cons_of_mem b hmem))

/-- A name of a file: not empty, without a slash, and not beginning with a dot. -/
structure IsFileName (name : Bytes) : Prop where
  ne_nil : name ≠ []
  slash_not_mem : slash ∉ name
  head_ne_dot : name.head? ≠ some 0x2E

theorem IsFileName.moves {name : Bytes} (h : IsFileName name) : Path.moves name = true := by
  have hne := h.ne_nil
  have hhere : name ≠ here := fun heq => h.head_ne_dot (heq ▸ rfl)
  simp [Path.moves, hne, hhere]

/-- A name behind a directory is one more name that moves. -/
private theorem filter_segments_append {before name : Bytes} (hbefore : EndsDirectory before)
    (hname : IsFileName name) :
    (segments (before ++ name)).filter moves = (segments before).filter moves ++ [name] := by
  have hlast : (segments name).filter moves = [name] := by
    rw [segments_of_not_mem hname.slash_not_mem, List.filter_cons_of_pos hname.moves,
      List.filter_nil]
  rcases hbefore with rfl | ⟨before, rfl⟩
  · exact hlast
  · rw [List.append_assoc, List.singleton_append, segments_append_slash, segments_append_slash,
      List.filter_append, List.filter_append, hlast]
    exact congrArg (· ++ [name]) (List.append_nil _).symm

private theorem filter_segments_append_slash (bs : Bytes) :
    (segments (bs ++ [slash])).filter moves = (segments bs).filter moves := by
  rw [segments_append_slash, List.filter_append]
  exact List.append_nil _

private theorem front_fileName {name : Bytes} (h : IsFileName name) : front ⟨name⟩ = [] := by
  cases name with
  | nil => exact absurd rfl h.ne_nil
  | cons b rest =>
    have hslash : b ≠ slash := fun hb => h.slash_not_mem (hb ▸ List.mem_cons_self)
    have hdot : b ≠ 0x2E := fun hb => h.head_ne_dot (hb ▸ rfl)
    rw [front]
    simp only [if_neg hslash, if_neg fun hb : b = 0x2E ∧ _ => hdot hb.1]

private theorem length_front_le (p : Path) : p.front.length ≤ p.bytes.length := by
  obtain ⟨bytes⟩ := p
  cases bytes with
  | nil => exact Nat.le_refl 0
  | cons b rest =>
    simp only [front, List.length_cons]
    split_ifs <;> simp

/-- What a path begins with is decided where its first name ends. -/
private theorem front_append {before name : Bytes} (hbefore : EndsDirectory before)
    (hname : IsFileName name) : front ⟨before ++ name⟩ = front ⟨before⟩ := by
  rcases hbefore with rfl | ⟨before, rfl⟩
  · exact front_fileName hname
  · cases before with
    | nil => simp [front]
    | cons b rest => cases rest <;> simp [front]

private theorem front_append_slash {bs : Bytes} (h : bs ≠ []) :
    front ⟨bs ++ [slash]⟩ = front ⟨bs⟩ := by
  obtain ⟨b, rest, rfl⟩ := List.exists_cons_of_ne_nil h
  cases rest <;> simp [front]

theorem EndsDirectory.drop {bs : Bytes} (h : EndsDirectory bs) (k : Nat) :
    EndsDirectory (bs.drop k) := by
  rcases h with rfl | ⟨before, rfl⟩
  · exact .inl List.drop_nil
  · rw [List.drop_append]
    rcases Nat.eq_zero_or_pos (k - before.length) with hk | hk
    · exact .inr ⟨before.drop k, by rw [hk, List.drop_zero]⟩
    · refine .inl (List.append_eq_nil_iff.mpr ⟨List.drop_eq_nil_iff.mpr (by omega), ?_⟩)
      exact List.drop_eq_nil_iff.mpr hk

/-- A file in a directory is one component behind those of the directory. -/
theorem components_append {before name : Bytes} (hbefore : EndsDirectory before)
    (hname : IsFileName name) : components ⟨before ++ name⟩
      = ((components ⟨before⟩).1, (components ⟨before⟩).2 ++ [name]) := by
  have hlength := length_front_le ⟨before⟩
  rw [components, components, front_append hbefore hname,
    List.drop_append_of_le_length hlength, filter_segments_append (hbefore.drop _) hname]

/-- The slash that is put behind a directory does not lead anywhere else. -/
theorem components_base (p : Path) : components ⟨p.base⟩ = p.components := by
  rw [base]
  split
  · rfl
  · next h =>
    have hne : p.bytes ≠ [] := fun hnil => h (by rw [hnil]; rfl)
    have hlength := length_front_le p
    rw [components, components, front_append_slash hne, List.drop_append_of_le_length hlength,
      filter_segments_append_slash]

/-- The last component of a file in a directory is the file's name. -/
theorem getLast?_components {before name : Bytes} (hbefore : EndsDirectory before)
    (hname : IsFileName name) : (components ⟨before ++ name⟩).2.getLast? = some name := by
  rw [components_append hbefore hname, List.getLast?_concat]

/-! ### What a program is shown -/

/-- The text that shows a file in a directory ends with the file's name, whatever bytes the
directory has. -/
theorem display_append {before : Bytes} (hbefore : EndsDirectory before) (s : String) :
    display ⟨before ++ Utf8.encode s⟩ = Utf8.decodeLossy before ++ s := by
  have hunits : Utf8.units (before ++ Utf8.encode s)
      = Utf8.units before ++ s.toList.map some := by
    rcases hbefore with rfl | ⟨before, rfl⟩
    · exact Utf8.units_encode_self s
    · have hslash : slash < 0x80 := by decide
      rw [List.append_assoc, List.singleton_append, Utf8.units_append_ascii hslash,
        Utf8.units_append_ascii hslash, Utf8.units_encode_self, List.append_assoc]
      rfl
  rw [display, Utf8.decodeLossy, hunits, List.map_append, String.ofList_append, List.map_map]
  exact congrArg _ ((congrArg String.ofList (List.map_id s.toList)).trans String.ofList_toList)

private theorem endsDirectory_encode_decodeLossy {before : Bytes} (h : EndsDirectory before) :
    EndsDirectory (Utf8.encode (Utf8.decodeLossy before)) := by
  rcases h with rfl | ⟨before, rfl⟩
  · exact .inl rfl
  · have hslash : display ⟨before ++ [slash]⟩ = Utf8.decodeLossy before ++ "/" := by
      rw [display, Utf8.decodeLossy, Utf8.units_append_ascii (by decide), List.map_append,
        String.ofList_append]
      rfl
    refine .inr ⟨Utf8.encode (Utf8.decodeLossy before), ?_⟩
    have hbytes : Utf8.decodeLossy (before ++ [slash]) = Utf8.decodeLossy before ++ "/" := hslash
    rw [hbytes, Utf8.encode_append]
    rfl

/-- A file put into a directory is one component behind those of the directory. -/
theorem components_joinString (p : Path) {s : String} (hs : '/' ∉ s.toList)
    (hname : IsFileName (Utf8.encode s)) :
    (p.joinString s).components = (p.components.1, p.components.2 ++ [Utf8.encode s]) := by
  rw [joinString_eq hs, components_append p.endsDirectory_base hname, components_base]

/-- The name of the file a path leads to. -/
def fileName? (p : Path) : Option Bytes := p.components.2.getLast?

/-- A file put into a directory is found there by its name. -/
theorem fileName?_joinString (p : Path) {s : String} (hs : '/' ∉ s.toList)
    (hname : IsFileName (Utf8.encode s)) : (p.joinString s).fileName? = some (Utf8.encode s) := by
  rw [fileName?, components_joinString p hs hname, List.getLast?_concat]

/-- A program that is given the text of a path to a file is led to a file of the same name. -/
theorem fileName?_shown_joinString (p : Path) {s : String} (hs : '/' ∉ s.toList)
    (hname : IsFileName (Utf8.encode s)) :
    (p.joinString s).shown.fileName? = some (Utf8.encode s) := by
  rw [fileName?, shown, joinString_eq hs, display_append p.endsDirectory_base, ofString,
    Utf8.encode_append]
  exact getLast?_components (endsDirectory_encode_decodeLossy p.endsDirectory_base) hname

end Path

/-- The paths of both result files. -/
def ResultFiles.paths (o : ResultFiles) : List Path := [o.cdf, o.periodic]

namespace Experiment

/-- The names of the two result files of an identifier. -/
def fileNames (identifier : String) : List String :=
  [fileName cdfStem identifier, fileName periodicStem identifier]

private theorem toList_fileName (stem identifier : String) :
    (fileName stem identifier).toList
      = stem.toList ++ ("_".toList ++ (identifier.toList ++ (".".toList ++ extension.toList))) := by
  simp only [fileName, String.toList_append, List.append_assoc]

/-- The name of a result file determines the identifier. -/
theorem fileName_injective {stem i j : String} (h : fileName stem i = fileName stem j) : i = j := by
  have hlist := congrArg String.toList h
  rw [toList_fileName, toList_fileName] at hlist
  have hlist := List.append_cancel_left (List.append_cancel_left hlist)
  exact String.toList_inj.mp (List.append_cancel_right hlist)

/-- The two kinds of result files never share a name. -/
theorem fileName_cdfStem_ne (i j : String) : fileName cdfStem i ≠ fileName periodicStem j := by
  intro h
  have hlist := congrArg String.toList h
  have hcdf : cdfStem.toList = ['c', 'd', 'f'] := by decide
  have hperiodic : periodicStem.toList = ['p', 'e', 'r', 'i', 'o', 'd', 'i', 'c'] := by decide
  rw [toList_fileName, toList_fileName, hcdf, hperiodic] at hlist
  exact absurd (List.cons.inj hlist).1 (by decide)

/-- Neither two files of one identifier nor files of different identifiers share a name. -/
theorem nodup_fileNames {identifiers : List String} (h : identifiers.Nodup) :
    (identifiers.flatMap fileNames).Nodup := by
  refine List.nodup_flatMap.mpr ⟨fun i _ => ?_, h.imp fun {i j} hij => ?_⟩
  · exact List.nodup_cons.mpr ⟨fun hmem =>
      fileName_cdfStem_ne i i (List.mem_singleton.mp hmem), List.nodup_singleton _⟩
  · intro name hi hj
    simp only [fileNames, List.mem_cons, List.not_mem_nil, or_false] at hi hj
    rcases hi with rfl | rfl <;> rcases hj with hj | hj
    · exact hij (fileName_injective hj)
    · exact fileName_cdfStem_ne i j hj
    · exact fileName_cdfStem_ne j i hj.symm
    · exact hij (fileName_injective hj)

private theorem slash_not_mem_fileName {stem identifier : String} (hstem : '/' ∉ stem.toList)
    (h : Identifier.IsClean identifier) : '/' ∉ (fileName stem identifier).toList := by
  have hidentifier : '/' ∉ identifier.toList := fun hmem => absurd (h '/' hmem) (by decide)
  have hrest : '/' ∉ "_".toList ∧ '/' ∉ ".".toList ∧ '/' ∉ extension.toList := by decide
  simp only [toList_fileName, List.mem_append]
  exact fun hmem => hmem.elim hstem fun hmem => hmem.elim hrest.1 fun hmem =>
    hmem.elim hidentifier fun hmem => hmem.elim hrest.2.1 hrest.2.2

private theorem isFileName_fileName {stem identifier : String} (hslash : '/' ∉ stem.toList)
    (hstem : Path.IsFileName (Utf8.encode stem)) (h : Identifier.IsClean identifier) :
    Path.IsFileName (Utf8.encode (fileName stem identifier)) := by
  obtain ⟨b, bs, hb⟩ := List.exists_cons_of_ne_nil hstem.ne_nil
  have hcons : Utf8.encode (fileName stem identifier)
      = b :: (bs ++ Utf8.encode ("_" ++ (identifier ++ ("." ++ extension)))) := by
    rw [← List.cons_append, ← hb, ← Utf8.encode_append, fileName, String.append_assoc,
      String.append_assoc, String.append_assoc]
  refine ⟨by rw [hcons]; exact List.cons_ne_nil _ _, ?_, ?_⟩
  · exact Path.slash_not_mem_encode (slash_not_mem_fileName hslash h)
  · have hdot := hstem.head_ne_dot
    rw [hb] at hdot
    rw [hcons]
    exact hdot

/-- The result files of a clean identifier have proper names. -/
theorem isFileName_of_mem_fileNames {identifier name : String} (h : Identifier.IsClean identifier)
    (hname : name ∈ fileNames identifier) :
    '/' ∉ name.toList ∧ Path.IsFileName (Utf8.encode name) := by
  have hcdf : '/' ∉ cdfStem.toList := by decide
  have hperiodic : '/' ∉ periodicStem.toList := by decide
  simp only [fileNames, List.mem_cons, List.not_mem_nil, or_false] at hname
  rcases hname with rfl | rfl
  · exact ⟨slash_not_mem_fileName hcdf h,
      isFileName_fileName hcdf ⟨by decide, by decide, by decide⟩ h⟩
  · exact ⟨slash_not_mem_fileName hperiodic h,
      isFileName_fileName hperiodic ⟨by decide, by decide, by decide⟩ h⟩

theorem paths_files (x : Experiment) (identifier : String) :
    (x.files identifier).paths = (fileNames identifier).map x.directory.joinString := rfl

/-- The result files of a clean identifier lie in the directory by their names, both by their paths
and by the texts that show the paths. -/
theorem map_fileName?_files (x : Experiment) {identifier : String}
    (h : Identifier.IsClean identifier) :
    (x.files identifier).paths.map Path.fileName?
        = (fileNames identifier).map (some ∘ Utf8.encode) ∧
      (x.files identifier).paths.map (Path.fileName? ∘ Path.shown)
        = (fileNames identifier).map (some ∘ Utf8.encode) := by
  rw [paths_files, List.map_map, List.map_map]
  refine ⟨List.map_congr_left fun name hname => ?_, List.map_congr_left fun name hname => ?_⟩
  · obtain ⟨hslash, hfile⟩ := isFileName_of_mem_fileNames h hname
    rw [Function.comp_apply, Path.fileName?_joinString x.directory hslash hfile,
      Function.comp_apply]
  · obtain ⟨hslash, hfile⟩ := isFileName_of_mem_fileNames h hname
    rw [Function.comp_apply, Function.comp_apply,
      Path.fileName?_shown_joinString x.directory hslash hfile, Function.comp_apply]

/-- The text that shows where a latency distribution lies tells the identifier, whatever bytes the
root has. -/
theorem identifier_eq_of_display_cdf_eq (x : Experiment) {i j : String}
    (hi : Identifier.IsClean i) (hj : Identifier.IsClean j)
    (h : (x.files i).cdf.display = (x.files j).cdf.display) : i = j := by
  have hshown : (x.files i).cdf.shown.fileName? = (x.files j).cdf.shown.fileName? := by
    rw [Path.shown, h, Path.shown]
  have hnamed {k : String} (hk : Identifier.IsClean k) :
      (x.files k).cdf.shown.fileName? = some (Utf8.encode (fileName cdfStem k)) := by
    have hnames := (x.map_fileName?_files hk).2
    simp only [ResultFiles.paths, fileNames, List.map_cons, Function.comp_apply,
      List.cons.injEq] at hnames
    exact hnames.1
  rw [hnamed hi, hnamed hj] at hshown
  exact fileName_injective (Utf8.encode_injective (Option.some.inj hshown))

/-- Result files of different clean identifiers, and the two of one identifier, lie at different
places, both by their paths and by the texts that show the paths. -/
theorem nodup_components_files (x : Experiment) {identifiers : List String}
    (hnodup : identifiers.Nodup) (hclean : ∀ i ∈ identifiers, Identifier.IsClean i) :
    ((identifiers.flatMap fun i => (x.files i).paths).map Path.components).Nodup ∧
      ((identifiers.flatMap fun i => (x.files i).paths).map
        (Path.components ∘ Path.shown)).Nodup := by
  have hnames : ((identifiers.flatMap fileNames).map (some ∘ Utf8.encode)).Nodup :=
    (nodup_fileNames hnodup).map fun _ _ h => Utf8.encode_injective (Option.some.inj h)
  -- a file that a path is seen as is told apart by its name
  have hseen (seen : Path → Path) (hfiles : ∀ i ∈ identifiers,
      (x.files i).paths.map (Path.fileName? ∘ seen) = (fileNames i).map (some ∘ Utf8.encode)) :
      ((identifiers.flatMap fun i => (x.files i).paths).map (Path.components ∘ seen)).Nodup := by
    refine List.Nodup.of_map (fun q => q.2.getLast?) ?_
    have hmap : ((identifiers.flatMap fun i => (x.files i).paths).map (Path.components ∘ seen)).map
        (fun q => q.2.getLast?) = (identifiers.flatMap fileNames).map (some ∘ Utf8.encode) := by
      rw [List.map_map, List.map_flatMap, List.map_flatMap]
      refine List.flatMap_congr fun i hi => ?_
      rw [← hfiles i hi]
      exact List.map_congr_left fun p _ => rfl
    rw [hmap]
    exact hnames
  exact ⟨hseen id fun i hi => (x.map_fileName?_files (hclean i hi)).1,
    hseen Path.shown fun i hi => (x.map_fileName?_files (hclean i hi)).2⟩

end Experiment

end TierSweep
