import FeaturePipeline.Proofs.Conditions
import FeaturePipeline.Proofs.TaskRun
import FeaturePipeline.Proofs.TextLines

/-! How a request is decided before anything is run. The cases are stated each for itself, and
several may apply at once. Main statement: a dispatch does what the first of them says. -/
namespace FeaturePipeline

inductive Decision where
  | reject (e : PipelineError)
  | nothingToDo
  | build (s : Strategy)

namespace Request

def reader? : Request → Option ReaderOptions
  | featureExtractor r => some r.reader
  | featureImporter r => some r.reader
  | _ => none

/-- The images that count: those of the file, or the ones that the options name when no file is
given. -/
inductive Images (files : FileSource) (listPath : Option String) (own : List String) :
    List String → Prop where
  | ofFile {path s : String} (h : givenPath listPath = some path)
    (hs : files path = .ok (Text.encodeUtf8 s)) :
    Images files listPath own (Text.contentLines s)
  | own (h : givenPath listPath = none) : Images files listPath own own

/-- The strategy that a request describes, whether its camera and its options are valid or not. -/
inductive Prepared (files : FileSource) : Request → Strategy → Prop where
  | extraction {r : ExtractorRequest} {images : List String}
    (h : Images files r.imageListPath r.reader.imageList images) :
    Prepared files (featureExtractor r)
      (.extraction { r.reader with imageList := images } r.extraction)
  | featureImport {r : ImporterRequest} {images : List String}
    (h : Images files r.imageListPath r.reader.imageList images) :
    Prepared files (featureImporter r)
      (.featureImport { r.reader with imageList := images } r.importPath)
  | exhaustive (r : MatcherRequest ExhaustiveOptions) :
    Prepared files (exhaustiveMatcher r) (.matching r.databasePath r.matching (.exhaustive r.options))
  | sequential (r : MatcherRequest SequentialOptions) :
    Prepared files (sequentialMatcher r) (.matching r.databasePath r.matching (.sequential r.options))
  | spatial (r : MatcherRequest SpatialOptions) :
    Prepared files (spatialMatcher r) (.matching r.databasePath r.matching (.spatial r.options))
  | transitive (r : MatcherRequest TransitiveOptions) :
    Prepared files (transitiveMatcher r) (.matching r.databasePath r.matching (.transitive r.options))
  | vocabTree (r : MatcherRequest VocabTreeOptions) :
    Prepared files (vocabTreeMatcher r) (.matching r.databasePath r.matching (.vocabTree r.options))
  | pairs {r : MatchesImporterRequest} (h : r.matchType = "pairs") :
    Prepared files (matchesImporter r)
      (.matching r.databasePath r.matching (.imagePairs { matchListPath := r.matchListPath }))
  | raw {r : MatchesImporterRequest} (h : r.matchType = "raw") :
    Prepared files (matchesImporter r)
      (.matching r.databasePath r.matching
        (.featurePairs { verifyMatches := true, matchListPath := r.matchListPath }))
  | inliers {r : MatchesImporterRequest} (h : r.matchType = "inliers") :
    Prepared files (matchesImporter r)
      (.matching r.databasePath r.matching
        (.featurePairs { verifyMatches := false, matchListPath := r.matchListPath }))

/-- The cases, each with its place in the order. None looks at the others. -/
inductive Applies (files : FileSource) (r : Request) : Nat → Decision → Prop where
  | unreadableList {path : String} {fault : FileFault} (hl : r.listFile? = some path)
    (h : ImageList.Unreadable files path fault) :
    Applies files r 1 (.reject (.imageList path fault))
  | blankList {path : String} (hl : r.listFile? = some path)
    (h : ImageList.AllBlank files path) : Applies files r 2 .nothingToDo
  | unknownModel {o : ReaderOptions} (hr : r.reader? = some o)
    (h : ∀ m : Camera.Model, m.name ≠ o.cameraModel) :
    Applies files r 3 (.reject (.unknownCameraModel o.cameraModel))
  | unfitParameters {o : ReaderOptions} {m : Camera.Model} (hr : r.reader? = some o)
    (hm : m.name = o.cameraModel) (h : m.acceptsText o.cameraParameters = false) :
    Applies files r 4 (.reject (.invalidCameraParameters m o.cameraParameters))
  | unknownMatchType {f : MatchesImporterRequest} (hr : r = matchesImporter f)
    (h : f.matchType ∉ ["pairs", "raw", "inliers"]) :
    Applies files r 5 (.reject (.invalidMatchType f.matchType))
  | failingOption {s : Strategy} {fault : OptionFault} (hp : Prepared files r s)
    (h : Judged s.conditions (.error fault)) : Applies files r 6 (.reject (.invalidOption fault))
  | accepted {s : Strategy} (hp : Prepared files r s) : Applies files r 7 (.build s)

/-- The decision of the first case that applies. -/
def FirstCase (files : FileSource) (r : Request) (decision : Decision) : Prop :=
  ∃ n, Applies files r n decision ∧ ∀ m < n, ∀ other, ¬Applies files r m other

section Unique

variable {files : FileSource} {r : Request}

theorem Images.unique {listPath : Option String} {own images others : List String}
    (h : Images files listPath own images) (h' : Images files listPath own others) :
    images = others := by
  cases h with
  | ofFile hp hs =>
    cases h' with
    | ofFile hp' hs' =>
      rw [hp] at hp'
      cases hp'
      rw [hs, Except.ok.injEq] at hs'
      rw [Text.encodeUtf8_injective hs']
    | own hp' =>
      rw [hp] at hp'
      cases hp'
  | own hp =>
    cases h' with
    | ofFile hp' hs' =>
      rw [hp] at hp'
      cases hp'
    | own _ => rfl

theorem Prepared.unique {s t : Strategy} (h : Prepared files r s) (h' : Prepared files r t) :
    s = t := by
  cases h with
  | extraction h =>
    cases h' with
    | extraction h' => rw [h.unique h']
  | featureImport h =>
    cases h' with
    | featureImport h' => rw [h.unique h']
  | pairs h | raw h | inliers h => cases h' <;> simp_all
  | _ =>
    cases h'
    rfl

theorem Applies.unique {n : Nat} {d e : Decision} (h : Applies files r n d)
    (h' : Applies files r n e) : d = e := by
  cases h with
  | unreadableList hl h =>
    cases h' with
    | unreadableList hl' h' =>
      rw [hl] at hl'
      cases hl'
      have hf := ImageList.read_eq_error_iff.mpr h
      rw [ImageList.read_eq_error_iff.mpr h'] at hf
      cases hf
      rfl
  | blankList _ _ =>
    cases h' with
    | blankList _ _ => rfl
  | unknownModel hr _ =>
    cases h' with
    | unknownModel hr' _ =>
      rw [hr] at hr'
      cases hr'
      rfl
  | unfitParameters hr hm _ =>
    cases h' with
    | unfitParameters hr' hm' _ =>
      rw [hr] at hr'
      cases hr'
      rw [Camera.Model.name_injective (hm.trans hm'.symm)]
  | unknownMatchType hr _ =>
    cases h' with
    | unknownMatchType hr' _ =>
      rw [hr] at hr'
      cases hr'
      rfl
  | failingOption hp h =>
    cases h' with
    | failingOption hp' h' =>
      obtain rfl := hp.unique hp'
      cases h.unique h'
      rfl
  | accepted hp =>
    cases h' with
    | accepted hp' => rw [hp.unique hp']

theorem FirstCase.unique {d e : Decision} (h : FirstCase files r d) (h' : FirstCase files r e) :
    d = e := by
  obtain ⟨n, hn, hfirst⟩ := h
  obtain ⟨m, hm, hfirst'⟩ := h'
  have hmn : m = n := by
    rcases Nat.lt_trichotomy m n with hlt | heq | hlt
    · exact absurd hm (hfirst m hlt e)
    · exact heq
    · exact absurd hn (hfirst' n hlt d)
  subst hmn
  exact hn.unique hm

end Unique

end Request

def Decision.ofResolution : Except PipelineError (Option Strategy) → Decision
  | .error e => .reject e
  | .ok none => .nothingToDo
  | .ok (some s) => .build s

namespace Request

section Existence

variable {files : FileSource} {r : Request}

def ListClear (files : FileSource) (r : Request) : Prop :=
  ∀ path, r.listFile? = some path →
    ∃ image images, ImageList.read files path = .ok (image :: images)

def CameraClear (r : Request) : Prop :=
  ∀ o, r.reader? = some o → ∃ m, Camera.check o.cameraModel o.cameraParameters = .ok m

def TypeClear (r : Request) : Prop :=
  ∀ f, r = matchesImporter f → f.matchType ∈ ["pairs", "raw", "inliers"]

theorem ListClear.not_applies (h : ListClear files r) {n : Nat} (hn : n < 3) (d : Decision) :
    ¬Applies files r n d := by
  intro ha
  cases ha with
  | unreadableList hl hu =>
    obtain ⟨image, images, hok⟩ := h _ hl
    rw [ImageList.read_eq_error_iff.mpr hu] at hok
    cases hok
  | blankList hl hb =>
    obtain ⟨image, images, hok⟩ := h _ hl
    rw [ImageList.read_eq_nil_iff.mpr hb] at hok
    cases hok
  | _ => omega

theorem CameraClear.not_applies (h : CameraClear r) {n : Nat} (hlo : 2 < n) (hhi : n < 5)
    (d : Decision) : ¬Applies files r n d := by
  intro ha
  cases ha with
  | unknownModel hr hu =>
    obtain ⟨m, hm⟩ := h _ hr
    exact hu m (Camera.check_eq_ok_iff.mp hm).1
  | unfitParameters hr hm hu =>
    obtain ⟨n, hn⟩ := h _ hr
    obtain ⟨hname, hfit⟩ := Camera.check_eq_ok_iff.mp hn
    rw [Camera.Model.name_injective (hname.trans hm.symm), hu] at hfit
    cases hfit
  | _ => omega

theorem TypeClear.not_applies (h : TypeClear r) (d : Decision) : ¬Applies files r 5 d := by
  intro ha
  cases ha with
  | unknownMatchType hr hu => exact hu (h _ hr)

theorem not_applies_of_clear (hl : ListClear files r) (hc : CameraClear r) (ht : TypeClear r)
    {n : Nat} (hn : n < 6) (d : Decision) : ¬Applies files r n d := by
  by_cases h3 : n < 3
  · exact hl.not_applies h3 d
  by_cases h5 : n < 5
  · exact hc.not_applies (by omega) h5 d
  obtain rfl : n = 5 := by omega
  exact ht.not_applies d

/-- Once list, camera and match type are clear, the options decide. -/
theorem firstCase_of_prepared {s : Strategy} (hl : ListClear files r) (hc : CameraClear r)
    (ht : TypeClear r) (hp : Prepared files r s) (hs : r.strategy files = .ok (some s)) :
    FirstCase files r (.ofResolution (r.resolve files)) := by
  have hj := s.judged_check
  cases hk : s.check with
  | error fault =>
    rw [hk] at hj
    have hr : r.resolve files = .error (.invalidOption fault) := by
      simp [resolve, hs, Strategy.checked, hk, bind, Except.bind]
    rw [hr]
    exact ⟨6, .failingOption hp hj, fun n hn => not_applies_of_clear hl hc ht hn⟩
  | ok u =>
    rw [hk] at hj
    have hr : r.resolve files = .ok (some s) := by
      simp [resolve, hs, Strategy.checked, hk, bind, Except.bind, pure, Except.pure]
    rw [hr]
    refine ⟨7, .accepted hp, fun n hn d ha => ?_⟩
    by_cases h6 : n < 6
    · exact not_applies_of_clear hl hc ht h6 d ha
    obtain rfl : n = 6 := by omega
    cases ha with
    | failingOption hp' h' =>
      rw [hp.unique hp'] at hj
      cases hj.unique h'

section Reader

variable {o : ReaderOptions} {listPath : Option String} {wrap : ReaderOptions → Strategy}

theorem firstCase_of_images {images : List String} (hr : r.reader? = some o)
    (ht : TypeClear r)
    (hs : r.strategy files = (o.ready files listPath).map (Option.map wrap))
    (hw : o.withList files listPath = .ok (some { o with imageList := images }))
    (hp : Prepared files r (wrap { o with imageList := images })) (hl : ListClear files r) :
    FirstCase files r (.ofResolution (r.resolve files)) := by
  cases hc : Camera.check o.cameraModel o.cameraParameters with
  | error e =>
    have hres : r.resolve files = .error e := by
      simp [resolve, hs, ReaderOptions.ready, hw, hc, bind, Except.bind, Except.map]
    rw [hres]
    rcases Camera.check_eq_error_iff.mp hc with ⟨hn, rfl⟩ | ⟨m, hm, hu, rfl⟩
    · exact ⟨3, .unknownModel hr hn, fun n hn => hl.not_applies hn⟩
    · refine ⟨4, .unfitParameters hr hm hu, fun n hn d ha => ?_⟩
      by_cases h3 : n < 3
      · exact hl.not_applies h3 d ha
      obtain rfl : n = 3 := by omega
      cases ha with
      | unknownModel hr' hn =>
        rw [hr] at hr'
        cases hr'
        exact hn m hm
  | ok m =>
    have hcc : CameraClear r := by
      intro o' ho'
      rw [hr] at ho'
      cases ho'
      exact ⟨m, hc⟩
    apply firstCase_of_prepared hl hcc ht hp
    simp [hs, ReaderOptions.ready, hw, hc, bind, Except.bind, pure, Except.pure, Except.map]

theorem firstCase_reader (hr : r.reader? = some o) (hf : r.listFile? = givenPath listPath)
    (ht : TypeClear r)
    (hs : r.strategy files = (o.ready files listPath).map (Option.map wrap))
    (hp : ∀ images, Images files listPath o.imageList images →
      Prepared files r (wrap { o with imageList := images })) :
    FirstCase files r (.ofResolution (r.resolve files)) := by
  cases hg : givenPath listPath with
  | none =>
    have hw : o.withList files listPath = .ok (some o) := by simp [ReaderOptions.withList, hg]
    have hl : ListClear files r := by
      intro path hpath
      rw [hf, hg] at hpath
      cases hpath
    exact firstCase_of_images hr ht hs hw (hp _ (.own hg)) hl
  | some path =>
    rw [hg] at hf
    cases hread : ImageList.read files path with
    | error fault =>
      have hres : r.resolve files = .error (.imageList path fault) := by
        simp [resolve, hs, ReaderOptions.ready, ReaderOptions.withList, hg, hread, bind,
          Except.bind, Except.map]
      rw [hres]
      refine ⟨1, .unreadableList hf (ImageList.read_eq_error_iff.mp hread), fun n hn d ha => ?_⟩
      cases ha <;> omega
    | ok images =>
      obtain ⟨text, hbytes, himages⟩ := ImageList.read_eq_ok_iff.mp hread
      cases images with
      | nil =>
        have hres : r.resolve files = .ok none := by
          simp [resolve, hs, ReaderOptions.ready, ReaderOptions.withList, hg, hread, bind,
            Except.bind, pure, Except.pure, Except.map]
        rw [hres]
        refine ⟨2, .blankList hf (ImageList.read_eq_nil_iff.mp hread), fun n hn d ha => ?_⟩
        cases ha with
        | unreadableList hl hu =>
          rw [hf] at hl
          cases hl
          rw [ImageList.read_eq_error_iff.mpr hu] at hread
          cases hread
        | _ => omega
      | cons image images =>
        have hw : o.withList files listPath =
            .ok (some { o with imageList := image :: images }) := by
          simp [ReaderOptions.withList, hg, hread]
        have hl : ListClear files r := by
          intro path' hpath
          rw [hf] at hpath
          cases hpath
          exact ⟨image, images, hread⟩
        have hi : Images files listPath o.imageList (image :: images) := by
          rw [himages]
          exact .ofFile hg hbytes
        exact firstCase_of_images hr ht hs hw (hp _ hi) hl

end Reader

theorem firstCase_matcher {s : Strategy} (hr : r.reader? = none) (hf : r.listFile? = none)
    (ht : TypeClear r) (hp : Prepared files r s) (hs : r.strategy files = .ok (some s)) :
    FirstCase files r (.ofResolution (r.resolve files)) := by
  have hl : ListClear files r := by simp [ListClear, hf]
  have hc : CameraClear r := by simp [CameraClear, hr]
  exact firstCase_of_prepared hl hc ht hp hs

theorem firstCase_matchesImporter (f : MatchesImporterRequest) :
    FirstCase files (matchesImporter f) (.ofResolution ((matchesImporter f).resolve files)) := by
  cases hm : MatchType.read f.matchType with
  | error e =>
    obtain ⟨rfl, hu⟩ := MatchType.read_eq_error_iff.mp hm
    have hres : (matchesImporter f).resolve files = .error (.invalidMatchType f.matchType) := by
      simp [resolve, strategy, hm, bind, Except.bind]
    rw [hres]
    refine ⟨5, .unknownMatchType rfl hu, fun n hn d ha => ?_⟩
    cases ha with
    | unreadableList hl _ | blankList hl _ => cases hl
    | unknownModel hr _ | unfitParameters hr _ _ => cases hr
    | _ => omega
  | ok t =>
    have hname := MatchType.read_eq_ok_iff.mp hm
    have ht : TypeClear (matchesImporter f) := by
      intro g hg
      cases hg
      rw [← hname]
      cases t <;> decide
    have hs : (matchesImporter f).strategy files =
        .ok (some (.matching f.databasePath f.matching (t.method f.matchListPath))) := by
      simp [strategy, hm, bind, Except.bind, pure, Except.pure]
    cases t with
    | pairs => exact firstCase_matcher rfl rfl ht (.pairs hname.symm) hs
    | raw => exact firstCase_matcher rfl rfl ht (.raw hname.symm) hs
    | inliers => exact firstCase_matcher rfl rfl ht (.inliers hname.symm) hs

theorem strategy_featureExtractor (f : ExtractorRequest) :
    (featureExtractor f).strategy files =
      (f.reader.ready files f.imageListPath).map (Option.map (.extraction · f.extraction)) := by
  simp only [strategy]
  cases f.reader.ready files f.imageListPath <;> rfl

theorem strategy_featureImporter (f : ImporterRequest) :
    (featureImporter f).strategy files =
      (f.reader.ready files f.imageListPath).map (Option.map (.featureImport · f.importPath)) := by
  simp only [strategy]
  cases f.reader.ready files f.imageListPath <;> rfl

theorem typeClear_of_ne (h : ∀ f, r ≠ matchesImporter f) : TypeClear r := by
  intro f hf
  exact absurd hf (h f)

variable (files r) in
theorem firstCase_resolve : FirstCase files r (.ofResolution (r.resolve files)) := by
  cases r with
  | featureExtractor f =>
    exact firstCase_reader rfl rfl (typeClear_of_ne nofun) (strategy_featureExtractor f)
      fun images h => .extraction h
  | featureImporter f =>
    exact firstCase_reader rfl rfl (typeClear_of_ne nofun) (strategy_featureImporter f)
      fun images h => .featureImport h
  | matchesImporter f => exact firstCase_matchesImporter f
  | exhaustiveMatcher f => exact firstCase_matcher rfl rfl (typeClear_of_ne nofun) (.exhaustive f) rfl
  | sequentialMatcher f => exact firstCase_matcher rfl rfl (typeClear_of_ne nofun) (.sequential f) rfl
  | spatialMatcher f => exact firstCase_matcher rfl rfl (typeClear_of_ne nofun) (.spatial f) rfl
  | transitiveMatcher f => exact firstCase_matcher rfl rfl (typeClear_of_ne nofun) (.transitive f) rfl
  | vocabTreeMatcher f => exact firstCase_matcher rfl rfl (typeClear_of_ne nofun) (.vocabTree f) rfl

theorem prepared_of_planned {s : Strategy} (h : r.planned files = some s) :
    Prepared files r s := by
  have hfirst := firstCase_resolve files r
  rw [planned_eq_some_iff.mp h] at hfirst
  obtain ⟨n, ha, -⟩ := hfirst
  cases ha with
  | accepted hp => exact hp

end Existence

end Request

/-- The decision about a request is that of the first case, and there is one in every case. A
request that is turned down leaves no trace, one for which nothing is to be done is answered at
once, and for an accepted one exactly the described strategy is handed over and run. -/
theorem dispatch_firstCase (d : Dispatcher) (files : FileSource) (r : Request) :
    ∃ decision, r.FirstCase files decision ∧
      (∀ other, r.FirstCase files other → other = decision) ∧
      match decision with
      | .reject e => d.dispatch files r = (.returned (.error e), [])
      | .nothingToDo =>
        (d.dispatch files r).1 = .returned (.ok .emptyImageList) ∧
          (d.dispatch files r).2.built = [] ∧ (d.dispatch files r).2.calls = []
      | .build s => d.dispatch files r = d.perform s ∧ (d.dispatch files r).2.built = [s] := by
  have hfirst := Request.firstCase_resolve files r
  refine ⟨_, hfirst, fun other h => h.unique hfirst, ?_⟩
  unfold Dispatcher.dispatch
  cases r.resolve files with
  | error e => rfl
  | ok planned =>
    cases planned with
    | none => exact ⟨rfl, rfl, rfl⟩
    | some s => exact ⟨rfl, d.built_perform s⟩

end FeaturePipeline
