import FeaturePipeline.Proofs.DecisionOrder

/-! Which images a request is about. Main statement: a list file stands in for the list in the
options altogether and never for all images, and without one the options alone count. -/
namespace FeaturePipeline

def Strategy.images? : Strategy → Option (List String)
  | extraction o _ => some o.imageList
  | featureImport o _ => some o.imageList
  | matching _ _ _ => none

theorem Strategy.plan_of_no_images {o : ReaderOptions} (e : ExtractionOptions)
    (h : o.imageList = []) :
    (extraction o e).plan = s!"feature extraction from {o.imagePath} into {o.databasePath} ({o.cameraModel} camera, all images, max {e.maxNumFeatures.toNat} features)" := by
  have hscope : scope o.imageList = "all images" := by
    rw [h]
    rfl
  have hwords : " camera, " ++ ("all images" ++ ", max ") = " camera, all images, max " := by decide
  have hjoin (text : String) :
      text ++ " camera, " ++ "all images" ++ ", max " = text ++ " camera, all images, max " := by
    rw [String.append_assoc, String.append_assoc, hwords]
  unfold plan
  simp only [hscope, toString, hjoin]

namespace Request

def images? (r : Request) : Option (List String) := r.reader?.map (·.imageList)

def withImages (images : List String) : Request → Request
  | featureExtractor r =>
    featureExtractor { r with reader := { r.reader with imageList := images } }
  | featureImporter r =>
    featureImporter { r with reader := { r.reader with imageList := images } }
  | r => r

variable {files : FileSource} {r : Request} {s : Strategy}

theorem contentLines_ne_nil {path text : String} (hl : r.listFile? = some path)
    (hfile : files path = .ok (Text.encodeUtf8 text)) (hs : r.planned files = some s) :
    Text.contentLines text ≠ [] := by
  intro hblank
  have hread : ImageList.read files path = .ok [] :=
    ImageList.read_eq_ok_iff.mpr ⟨text, hfile, hblank.symm⟩
  have hfirst := firstCase_resolve files r
  rw [planned_eq_some_iff.mp hs] at hfirst
  obtain ⟨n, ha, hbefore⟩ := hfirst
  cases ha with
  | accepted _ =>
    exact hbefore 2 (by omega) _ (.blankList hl (ImageList.read_eq_nil_iff.mp hread))

section Images

variable {listPath : Option String} {own images : List String}

theorem Images.eq_of_listed {path : String} (hg : givenPath listPath = some path)
    (h : Images files listPath own images) :
    ∃ text, files path = .ok (Text.encodeUtf8 text) ∧ images = Text.contentLines text := by
  cases h with
  | ofFile hp hfile =>
    rw [hg] at hp
    cases hp
    exact ⟨_, hfile, rfl⟩
  | own hp =>
    rw [hg] at hp
    cases hp

theorem Images.eq_of_unlisted (hg : givenPath listPath = none)
    (h : Images files listPath own images) : images = own := h.unique (.own hg)

end Images

theorem images_of_listed {path : String} (hl : r.listFile? = some path)
    (hs : r.planned files = some s) :
    ∃ text, files path = .ok (Text.encodeUtf8 text) ∧
      s.images? = some (Text.contentLines text) ∧ Text.contentLines text ≠ [] := by
  cases prepared_of_planned hs with
  | extraction hi =>
    obtain ⟨text, hfile, rfl⟩ := hi.eq_of_listed hl
    exact ⟨text, hfile, rfl, contentLines_ne_nil hl hfile hs⟩
  | featureImport hi =>
    obtain ⟨text, hfile, rfl⟩ := hi.eq_of_listed hl
    exact ⟨text, hfile, rfl, contentLines_ne_nil hl hfile hs⟩
  | _ => cases hl

theorem images_of_unlisted (hl : r.listFile? = none) (hs : r.planned files = some s) :
    s.images? = r.images? := by
  cases prepared_of_planned hs with
  | extraction hi => exact congrArg some (hi.eq_of_unlisted hl)
  | featureImport hi => exact congrArg some (hi.eq_of_unlisted hl)
  | _ => rfl

theorem plan_of_unlisted {f : ExtractorRequest} (hl : givenPath f.imageListPath = none)
    (hs : (featureExtractor f).planned files = some s) (hempty : f.reader.imageList = []) :
    s.plan = s!"feature extraction from {f.reader.imagePath} into {f.reader.databasePath} ({f.reader.cameraModel} camera, all images, max {f.extraction.maxNumFeatures.toNat} features)" := by
  cases prepared_of_planned hs with
  | extraction hi =>
    rw [hi.eq_of_unlisted hl]
    exact Strategy.plan_of_no_images f.extraction hempty

end Request

/-- A list file is all that is looked at: the list in the options makes no difference. -/
theorem ReaderOptions.ready_of_listed {files : FileSource} {o : ReaderOptions}
    {listPath : Option String} {path : String} (hg : givenPath listPath = some path)
    (images : List String) :
    ({ o with imageList := images } : ReaderOptions).ready files listPath =
      o.ready files listPath := by
  simp only [ready, withList, hg]

theorem ReaderOptions.ready_of_unlisted {o : ReaderOptions} {listPath : Option String}
    (hg : givenPath listPath = none) (files others : FileSource) :
    o.ready others listPath = o.ready files listPath := by
  simp only [ready, withList, hg]

namespace Request

variable {r : Request}

@[simp] theorem name_withImages (images : List String) : (r.withImages images).name = r.name := by
  cases r <;> rfl

theorem resolve_withImages {path : String} (hl : r.listFile? = some path) (files : FileSource)
    (images : List String) : (r.withImages images).resolve files = r.resolve files := by
  have hstrategy : (r.withImages images).strategy files = r.strategy files := by
    cases r with
    | featureExtractor f =>
      simp only [withImages, strategy, ReaderOptions.ready_of_listed hl]
    | featureImporter f =>
      simp only [withImages, strategy, ReaderOptions.ready_of_listed hl]
    | _ => rfl
  simp only [resolve, hstrategy]

theorem resolve_of_unlisted (hl : r.listFile? = none) (files others : FileSource) :
    r.resolve others = r.resolve files := by
  have hstrategy : r.strategy others = r.strategy files := by
    cases r with
    | featureExtractor f => simp only [strategy, ReaderOptions.ready_of_unlisted hl files others]
    | featureImporter f => simp only [strategy, ReaderOptions.ready_of_unlisted hl files others]
    | _ => rfl
  simp only [resolve, hstrategy]

end Request

namespace Dispatcher

variable (d : Dispatcher)

/-- A request is known to a dispatcher by its name and by what it leads to. -/
theorem answer_congr {files others : FileSource} {r r' : Request} (hname : r.name = r'.name)
    (hresolve : r.resolve others = r'.resolve files) (mode : Mode) :
    d.answer others r mode = d.answer files r' mode := by
  have hdispatch : d.dispatch others r = d.dispatch files r' := by
    simp only [dispatch, hname, hresolve]
  have hrun : d.run others r = d.run files r' := by
    simp only [run, hname, hdispatch]
  cases mode with
  | dispatch => simp only [answer, hdispatch]
  | run => simp only [answer, hrun]
  | entry => simp only [answer, enter, Request.request_form, hrun]

/-- A list file takes the place of the list in the options: what is built names the trimmed lines
of the file that are not blank, at least one, and another list in the options changes nothing that
is answered or shown. Without a list file what is built names what the options name, an extraction
without any names plans for all images, and no file makes a difference. -/
theorem answer_images (files : FileSource) (r : Request) (mode : Mode) :
    (∀ path, r.listFile? = some path →
      (∀ s ∈ (d.answer files r mode).2.built, ∃ text,
        files path = .ok (Text.encodeUtf8 text) ∧
          s.images? = some (Text.contentLines text) ∧ Text.contentLines text ≠ []) ∧
      ∀ images, d.answer files (r.withImages images) mode = d.answer files r mode) ∧
    (r.listFile? = none →
      (∀ s ∈ (d.answer files r mode).2.built, s.images? = r.images? ∧
        ∀ f, r = .featureExtractor f → f.reader.imageList = [] →
          s.plan = s!"feature extraction from {f.reader.imagePath} into {f.reader.databasePath} ({f.reader.cameraModel} camera, all images, max {f.extraction.maxNumFeatures.toNat} features)") ∧
      ∀ others, d.answer others r mode = d.answer files r mode) := by
  have hplanned : ∀ s ∈ (d.answer files r mode).2.built, r.planned files = some s := by
    intro s hs
    rw [built_answer] at hs
    exact Option.mem_toList.mp hs
  constructor
  · intro path hl
    refine ⟨fun s hs => Request.images_of_listed hl (hplanned s hs), fun images => ?_⟩
    exact d.answer_congr (by simp) (Request.resolve_withImages hl files images) mode
  · intro hl
    refine ⟨fun s hs => ⟨Request.images_of_unlisted hl (hplanned s hs), ?_⟩, fun others => ?_⟩
    · intro f hf hempty
      subst hf
      exact Request.plan_of_unlisted hl (hplanned s hs) hempty
    · exact d.answer_congr rfl (Request.resolve_of_unlisted hl files others) mode

/-- A list file with a blank line and an image named twice takes the place of another list. -/
theorem answer_images_of_list :
    let d : Dispatcher := { factory := fun _ => .idle none, provider := .quiet, gpu := true }
    let files : FileSource := fun _ => .ok (Text.encodeUtf8 "a.png\n \n b.png \r\na.png")
    let r : Request := .featureExtractor
      { reader := { databasePath := "db", imagePath := "img", imageList := ["c.png"] },
        imageListPath := some "list.txt" }
    r.listFile? = some "list.txt" ∧
      (d.answer files r .run).2.built.map (·.images?) = [some ["a.png", "b.png", "a.png"]] ∧
      d.answer files (r.withImages []) .run = d.answer files r .run := by
  intro d files r
  refine ⟨rfl, ?_, ((d.answer_images files r .run).1 "list.txt" rfl).2 []⟩
  decide +kernel

/-- An import that names no images stands for all of them, too, but its plan does not say so. -/
theorem plan_of_import_without_images :
    let r : Request := .featureImporter
      { reader := { databasePath := "db", imagePath := "img" }, importPath := "features" }
    let d : Dispatcher := { factory := fun _ => .idle none, provider := .quiet, gpu := false }
    r.listFile? = none ∧ r.images? = some [] ∧
      ∃ s, (d.dispatch (fun _ => .error .notFound) r).2.built = [s] ∧ s.images? = some [] ∧
        ¬"all images".toList <:+: s.plan.toList := by
  refine ⟨rfl, rfl, .featureImport { databasePath := "db", imagePath := "img" } "features", ?_⟩
  decide +kernel

end Dispatcher
end FeaturePipeline
