import TierSweep.Proofs.Json.Fields
import TierSweep.Proofs.Json.Lines
import TierSweep.Proofs.Plan.Printing
import TierSweep.Proofs.Run.Derivation

/-!
# Plans as lines of JSON

A plan in JSON has one object for each run. Whatever characters the texts of a run contain, its
object takes a single line, and the line is read back as what was planned: the position, the
identifier, the arguments and the paths of the result files (`PlanLine.ofLine?_canonical`). The root
of the results has to be a text, since a path that is none cannot be written in JSON.

## Main definitions

* `PlanLine` — what a line says of a run.
* `PlanLine.ofLine?` — reading a line.

## Main results

* `PlanLine.ofLine?_canonical`, `Run.jsonLine_eq`.
* `Machine.plan_json_lines`.
-/

namespace TierSweep

open Json (Sketch rawText shape)

/-! ### Reading values -/

namespace Json.Sketch

/-- The natural number that digits write. -/
def nat? : Sketch → Option Nat
  | .number ⟨false, whole, none, none⟩ => some (Decimal.ofDigits whole)
  | _ => none

/-- The texts of an array of strings. -/
def texts? : Sketch → Option (List String)
  | .array items => items.mapM text?
  | _ => none

/-- The value of a field that an object must have. -/
def get? (name : String) : Sketch → Option Sketch
  | .object raw => do (← field? name (← keyed? raw))
  | _ => none

theorem nat?_shape (n : Nat) : nat? (Json.int n).sorted.shape = some n := by
  have hpos : decide ((n : Int) < 0) = false := decide_eq_false (Int.not_lt.mpr (Int.natCast_nonneg n))
  rw [Json.sorted, shape, numeralOf, hpos, nat?, Int.natAbs_natCast, Decimal.ofDigits_toDigits]

theorem text?_shape (s : String) : text? (Json.text s).sorted.shape = some s := text?_rawText s

theorem texts?_shape (texts : List String) :
    texts? (Json.array (texts.map .text)).sorted.shape = some texts := by
  rw [Json.sorted, sortedItems_eq, shape, shapeOfItems_eq, List.map_map, List.map_map, texts?]
  exact mapM_map_eq_some fun s _ => text?_shape s

/-- A field of an object is found in its canonical form, if no key is repeated. -/
theorem get?_shape {fields : List (String × Json)} (hnodup : (fields.map Prod.fst).Nodup)
    {name : String} {v : Json} (h : (name, v) ∈ fields) :
    get? name (Json.object fields).sorted.shape = some v.sorted.shape := by
  obtain ⟨raw, keyed, hshape, hkeyed, hfields⟩ := exists_keyed hnodup
  rw [hshape, get?, hkeyed]
  simp only [Option.bind_eq_bind, Option.bind_some, hfields.field?_of_mem h]

end Json.Sketch

/-! ### Lines -/

/-- What a line of a plan says of a run. -/
structure PlanLine where
  index : Nat
  identifier : String
  arguments : List String
  files : ResultFiles
  deriving DecidableEq

namespace PlanLine

/-- What is said of a run at a position. -/
def ofRun (numbered : Nat × Run) : PlanLine :=
  ⟨numbered.1, numbered.2.identifier, numbered.2.invocation.arguments, numbered.2.files⟩

/-- Reads an object. -/
def ofSketch? (s : Sketch) : Option PlanLine := do
  let index ← (← s.get? "index").nat?
  let identifier ← (← s.get? "identifier").text?
  let arguments ← (← s.get? "argv").texts?
  let outputs ← s.get? "outputs"
  let cdf ← (← outputs.get? "cdf").text?
  let periodic ← (← outputs.get? "periodic").text?
  pure ⟨index, identifier, arguments, .ofString cdf, .ofString periodic⟩

/-- Reads a line. -/
def ofLine? (line : String) : Option PlanLine :=
  Sketch.ofBytes? (Utf8.encode line) >>= ofSketch?

/-- The fields of a line about a run whose result files have the given paths. -/
def fields (index : Nat) (identifier : String) (arguments : List String) (cdf periodic : String) :
    List (String × Json) :=
  [("index", .int index), ("identifier", .text identifier), ("argv", .array (arguments.map .text)),
    ("outputs", .object [("cdf", .text cdf), ("periodic", .text periodic)])]

/-- A line is read as what was written, whatever the texts contain. -/
theorem ofLine?_canonical (index : Nat) (identifier : String) (arguments : List String)
    (cdf periodic : String) :
    ofLine? (Json.object (fields index identifier arguments cdf periodic)).canonical
      = some ⟨index, identifier, arguments, .ofString cdf, .ofString periodic⟩ := by
  have hkeys : ((fields index identifier arguments cdf periodic).map Prod.fst).Nodup := by
    simp [fields]
  have hpaths : ([("cdf", Json.text cdf), ("periodic", Json.text periodic)].map Prod.fst).Nodup := by
    simp
  rw [ofLine?, Json.ofBytes?_encode_canonical, Option.bind_eq_bind, Option.bind_some]
  have hget {name : String} {v : Json}
      (h : (name, v) ∈ fields index identifier arguments cdf periodic) :=
    Sketch.get?_shape hkeys h
  generalize (Json.object (fields index identifier arguments cdf periodic)).sorted.shape = s at hget
  have hindex : s.get? "index" = some (Json.int index).sorted.shape := hget (by simp [fields])
  have hidentifier : s.get? "identifier" = some (Json.text identifier).sorted.shape :=
    hget (by simp [fields])
  have harguments : s.get? "argv" = some (Json.array (arguments.map .text)).sorted.shape :=
    hget (by simp [fields])
  have houtputs : s.get? "outputs" = some
      (Json.object [("cdf", .text cdf), ("periodic", .text periodic)]).sorted.shape :=
    hget (by simp [fields])
  have hpath {name path : String}
      (h : (name, Json.text path) ∈ [("cdf", Json.text cdf), ("periodic", Json.text periodic)]) :=
    Sketch.get?_shape hpaths h
  generalize (Json.object [("cdf", .text cdf), ("periodic", .text periodic)]).sorted.shape = outputs
    at houtputs hpath
  have hcdf : outputs.get? "cdf" = some (Json.text cdf).sorted.shape := hpath (by simp)
  have hperiodic : outputs.get? "periodic" = some (Json.text periodic).sorted.shape :=
    hpath (by simp)
  simp only [ofSketch?, hindex, hidentifier, harguments, houtputs, hcdf, hperiodic,
    Sketch.nat?_shape, Sketch.text?_shape, Sketch.texts?_shape, Option.bind_eq_bind,
    Option.bind_some, Option.pure_def]

/-- The line about a run. -/
def text (numbered : Nat × Run) : String :=
  (Json.object (fields numbered.1 numbered.2.identifier numbered.2.invocation.arguments
    numbered.2.files.cdf.display numbered.2.files.periodic.display)).canonical

end PlanLine

/-! ### Paths that are texts -/

theorem Utf8.decode?_encode (s : String) : decode? (encode s) = some s := by
  rw [decode?, units_encode_self, mapM_map_eq_some (f := id) (g := some) fun _ _ => rfl,
    Option.map_some, String.ofList_toList]

namespace Path

/-- A path that can be written in JSON. -/
def IsText (p : Path) : Prop := ∃ s, p = ofString s

theorem IsText.ofString_display {p : Path} (h : p.IsText) : ofString p.display = p := by
  obtain ⟨s, rfl⟩ := h
  exact congrArg ofString (Utf8.decodeLossy_encode s)

theorem IsText.toJson {p : Path} (h : p.IsText) : p.toJson = .ok (.text p.display) := by
  obtain ⟨s, rfl⟩ := h
  have htext : (ofString s).text? = some s := Utf8.decode?_encode s
  have hdisplay : (ofString s).display = s := Utf8.decodeLossy_encode s
  rw [Path.toJson, htext, hdisplay]

/-- Texts are joined to a text. -/
theorem IsText.joinString {p : Path} (h : p.IsText) (t : String) : (p.joinString t).IsText := by
  obtain ⟨s, rfl⟩ := h
  rw [Path.joinString, join]
  split
  · exact ⟨t, rfl⟩
  · split
    · exact ⟨s ++ t, congrArg Path.mk (Utf8.encode_append s t).symm⟩
    · refine ⟨s ++ "/" ++ t, congrArg Path.mk ?_⟩
      rw [Utf8.encode_append, Utf8.encode_append, List.append_assoc]
      rfl

end Path

namespace Run

variable {c : Combination} {x : Experiment} {executable : Path} {numbered : Nat × Run}

theorem isText_files (hrun : ofCombination c x executable = .ok numbered.2) (hroot : x.root.IsText) :
    numbered.2.files.cdf.IsText ∧ numbered.2.files.periodic.IsText := by
  rw [files_eq hrun]
  exact ⟨(hroot.joinString x.name).joinString _, (hroot.joinString x.name).joinString _⟩

/-- The line of a run can be written if the root of its results is a text. -/
theorem lineIn_json (hrun : ofCombination c x executable = .ok numbered.2)
    (hroot : x.root.IsText) : lineIn true numbered = .ok (PlanLine.text numbered) := by
  obtain ⟨hcdf, hperiodic⟩ := isText_files hrun hroot
  rw [lineIn, if_pos rfl, jsonLine, ResultFiles.toJson, hcdf.toJson, hperiodic.toJson]
  rfl

/-- The line of a run tells all that is planned for it. -/
theorem ofLine?_text (hrun : ofCombination c x executable = .ok numbered.2)
    (hroot : x.root.IsText) :
    PlanLine.ofLine? (PlanLine.text numbered) = some (PlanLine.ofRun numbered) := by
  obtain ⟨hcdf, hperiodic⟩ := isText_files hrun hroot
  rw [PlanLine.text, PlanLine.ofLine?_canonical, hcdf.ofString_display, hperiodic.ofString_display]
  rfl

end Run

namespace Machine

/-- **A plan in JSON loses nothing.** Take any specification that is read from its file, and a root
for its results that is a text. Planning succeeds and only prints: one line for each run that
survives filtering and validation, in the order of the enumeration and each ended by a newline. No
line contains a newline, whatever the texts of the specification and the name of the experiment
contain. Each line is read back as the position, the identifier, the arguments and the result files
of its run. The positions are those among all combinations that survive filtering, run
configurations or not, and they increase from line to line. -/
theorem plan_json_lines {m : Machine} {source : SpecSource} {spec : Spec} {x : Experiment}
    (hspec : m.tree.readSpec source.path = .ok spec) (hroot : x.root.IsText) (executable : Path) :
    let runs := spec.plannedRuns x executable
    (runs.map Prod.fst).Pairwise (· < ·) ∧
      (∀ index run, (index, run) ∈ runs ↔
        ∃ c, (spec.product.filter Constraints.standard.accepts)[index]? = some c ∧
          Run.ofCombination c x executable = .ok run) ∧
      ∃ lines,
        m.carryOut (.plan source x executable true) = .success (m.print (Lines.text lines)) ∧
        (∀ line ∈ lines, IsLine line) ∧
        lines.map PlanLine.ofLine? = runs.map (fun numbered => some (PlanLine.ofRun numbered)) := by
  intro runs
  have hrun : ∀ numbered ∈ runs, ∃ c, Run.ofCombination c x executable = .ok numbered.2 :=
    fun _ hnumbered => Spec.exists_ofCombination (List.mem_map_of_mem hnumbered)
  refine ⟨spec.pairwise_plannedRuns x executable, fun _ _ => Spec.mem_plannedRuns,
    runs.map PlanLine.text, carryOut_plan hspec ?_, ?_, ?_⟩
  · rw [List.forall₂_map_right_iff, List.forall₂_same]
    intro numbered hnumbered
    obtain ⟨c, hc⟩ := hrun numbered hnumbered
    exact Run.lineIn_json hc hroot
  · exact List.forall_mem_map.mpr fun numbered _ => Json.isLine_canonical _
  · rw [List.map_map]
    refine List.map_congr_left fun numbered hnumbered => ?_
    obtain ⟨c, hc⟩ := hrun numbered hnumbered
    exact Run.ofLine?_text hc hroot

theorem plan_json_lines_newline :
    let m := patterned "\"a\\nb\""
    let x := patternedExperiment
    m.tree.readSpec patternedSource.path = .ok (.patterned "a\nb") ∧ x.root.IsText ∧
      ∃ (run : Run) (line : String), run.identifier = "a\nb_10_20_buf4096_scan1_sample1_lru_h5_c10" ∧
        m.carryOut (.plan patternedSource x patternedBenchmark true)
          = .success (m.print (Lines.text [line])) ∧
        IsLine line ∧ PlanLine.ofLine? line
          = some ⟨1, run.identifier, run.invocation.arguments, run.files⟩ := by
  intro m x
  have hspec := readSpec_patterned_newline
  have hroot : x.root.IsText := ⟨"result", rfl⟩
  obtain ⟨run, hplanned, -, hidentifier⟩ := exists_plannedRuns_newline
  obtain ⟨-, -, lines, hplan, hlines, hread⟩ := plan_json_lines hspec hroot patternedBenchmark
  rw [hplanned, List.map_singleton] at hread
  obtain ⟨line, rfl, hline⟩ := List.map_eq_singleton_iff.mp hread
  exact ⟨hspec, hroot, run, line, hidentifier, hplan, hlines line List.mem_cons_self, hline⟩

end Machine

end TierSweep
