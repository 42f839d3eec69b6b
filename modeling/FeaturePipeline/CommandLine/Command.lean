import FeaturePipeline.Request
import FeaturePipeline.CommandLine.Setting

/-! The commands, one for each entry point. A command fills in a form, which starts with the
defaults of the library, and the filled form is the request. -/
namespace FeaturePipeline

namespace CommandLine

variable {α : Type}

def databasePath (l : Lens α String) : Setting α :=
  { name := "database-path", description := "path to the feature database", required := true,
    field := .text l }

def cameraSettings (l : Lens α ReaderOptions) : List (Setting α) :=
  [{ name := "camera-model", description := "name of the camera model",
     field := .text ⟨fun a => (l.get a).cameraModel,
       fun v a => l.set { l.get a with cameraModel := v } a⟩ },
   { name := "camera-params", description := "comma separated camera parameters",
     field := .text ⟨fun a => (l.get a).cameraParameters,
       fun v a => l.set { l.get a with cameraParameters := v } a⟩ },
   { name := "single-camera", description := "whether all images share the same camera",
     field := .switch ⟨fun a => (l.get a).singleCamera,
       fun v a => l.set { l.get a with singleCamera := v } a⟩ }]

def imagePath (l : Lens α ReaderOptions) : Setting α :=
  { name := "image-path", description := "root folder of the images", required := true,
    field := .text ⟨fun a => (l.get a).imagePath,
      fun v a => l.set { l.get a with imagePath := v } a⟩ }

def readerDatabasePath (l : Lens α ReaderOptions) : Setting α :=
  databasePath ⟨fun a => (l.get a).databasePath,
    fun v a => l.set { l.get a with databasePath := v } a⟩

def imageListPath (l : Lens α (Option String)) : Setting α :=
  { name := "image-list-path", description := "file with the images to process, one per line",
    field := .optionalText l }

def deviceSettings (useGpu : Lens α Bool) (gpuIndex : Lens α String)
    (numThreads : Lens α Int32) : List (Setting α) :=
  [{ name := "use-gpu", description := "whether to run on the GPU", field := .flag useGpu },
   { name := "gpu-index", description := "comma separated GPU indices, -1 for all",
     field := .text gpuIndex },
   { name := "num-threads", description := "number of CPU threads, -1 for all cores",
     field := .integer numThreads }]

def matchingSettings (l : Lens α MatchingOptions) : List (Setting α) :=
  deviceSettings
    ⟨fun a => (l.get a).useGpu, fun v a => l.set { l.get a with useGpu := v } a⟩
    ⟨fun a => (l.get a).gpuIndex, fun v a => l.set { l.get a with gpuIndex := v } a⟩
    ⟨fun a => (l.get a).numThreads, fun v a => l.set { l.get a with numThreads := v } a⟩

def featureExtractorSettings : List (Setting ExtractorRequest) :=
  let reader : Lens ExtractorRequest ReaderOptions :=
    ⟨fun a => a.reader, fun v a => { a with reader := v }⟩
  let extraction : Lens ExtractorRequest ExtractionOptions :=
    ⟨fun a => a.extraction, fun v a => { a with extraction := v }⟩
  [readerDatabasePath reader, imagePath reader,
    imageListPath ⟨fun a => a.imageListPath, fun v a => { a with imageListPath := v }⟩] ++
  cameraSettings reader ++
  deviceSettings
    ⟨fun a => a.extraction.useGpu,
      fun v a => extraction.set { a.extraction with useGpu := v } a⟩
    ⟨fun a => a.extraction.gpuIndex,
      fun v a => extraction.set { a.extraction with gpuIndex := v } a⟩
    ⟨fun a => a.extraction.numThreads,
      fun v a => extraction.set { a.extraction with numThreads := v } a⟩ ++
  [{ name := "max-num-features", description := "maximum number of features per image",
     field := .size ⟨fun a => a.extraction.maxNumFeatures,
       fun v a => extraction.set { a.extraction with maxNumFeatures := v } a⟩ }]

def featureImporterSettings : List (Setting ImporterRequest) :=
  let reader : Lens ImporterRequest ReaderOptions :=
    ⟨fun a => a.reader, fun v a => { a with reader := v }⟩
  [readerDatabasePath reader, imagePath reader,
    { name := "import-path", description := "folder with one feature file per image",
      required := true, field := .text ⟨fun a => a.importPath, fun v a => { a with importPath := v }⟩ },
    imageListPath ⟨fun a => a.imageListPath, fun v a => { a with imageListPath := v }⟩] ++
  cameraSettings reader

def matcherSettings {Options : Type} (own : Lens (MatcherRequest Options) Options →
    List (Setting (MatcherRequest Options))) : List (Setting (MatcherRequest Options)) :=
  databasePath ⟨fun a => a.databasePath, fun v a => { a with databasePath := v }⟩ ::
    own ⟨fun a => a.options, fun v a => { a with options := v }⟩ ++
    matchingSettings ⟨fun a => a.matching, fun v a => { a with matching := v }⟩

def exhaustiveMatcherSettings : List (Setting (MatcherRequest ExhaustiveOptions)) :=
  matcherSettings fun l =>
    [{ name := "block-size", description := "number of images loaded at the same time",
       field := .size ⟨fun a => (l.get a).blockSize,
         fun v a => l.set { l.get a with blockSize := v } a⟩ }]

def matchesImporterSettings : List (Setting MatchesImporterRequest) :=
  [databasePath ⟨fun a => a.databasePath, fun v a => { a with databasePath := v }⟩,
   { name := "match-list-path", description := "file with the image pairs or feature matches",
     required := true,
     field := .text ⟨fun a => a.matchListPath, fun v a => { a with matchListPath := v }⟩ },
   { name := "match-type", description := "one of pairs, raw or inliers",
     field := .text ⟨fun a => a.matchType, fun v a => { a with matchType := v }⟩ }] ++
  matchingSettings ⟨fun a => a.matching, fun v a => { a with matching := v }⟩

def sequentialMatcherSettings : List (Setting (MatcherRequest SequentialOptions)) :=
  matcherSettings fun l =>
    [{ name := "overlap", description := "number of subsequent images to match",
       field := .size ⟨fun a => (l.get a).overlap,
         fun v a => l.set { l.get a with overlap := v } a⟩ },
     { name := "quadratic-overlap",
       description := "whether to also match images at quadratic offsets",
       field := .flag ⟨fun a => (l.get a).quadraticOverlap,
         fun v a => l.set { l.get a with quadraticOverlap := v } a⟩ },
     { name := "loop-detection", description := "enable the loop detection",
       field := .switch ⟨fun a => (l.get a).loopDetection,
         fun v a => l.set { l.get a with loopDetection := v } a⟩ },
     { name := "vocab-tree-path", description := "vocabulary tree used by the loop detection",
       field := .optionalText ⟨fun a => (l.get a).vocabTreePath,
         fun v a => l.set { l.get a with vocabTreePath := v } a⟩ }]

def spatialMatcherSettings : List (Setting (MatcherRequest SpatialOptions)) :=
  matcherSettings fun l =>
    [{ name := "is-gps", description := "whether the location priors are GPS coordinates",
       field := .flag ⟨fun a => (l.get a).isGps, fun v a => l.set { l.get a with isGps := v } a⟩ },
     { name := "ignore-z", description := "whether to ignore the altitude",
       field := .flag ⟨fun a => (l.get a).ignoreZ,
         fun v a => l.set { l.get a with ignoreZ := v } a⟩ },
     { name := "max-num-neighbors", description := "maximum number of neighbours per image",
       field := .size ⟨fun a => (l.get a).maxNumNeighbors,
         fun v a => l.set { l.get a with maxNumNeighbors := v } a⟩ },
     { name := "max-distance", description := "maximum distance to a neighbour",
       field := .number ⟨fun a => (l.get a).maxDistance,
         fun v a => l.set { l.get a with maxDistance := v } a⟩ }]

def transitiveMatcherSettings : List (Setting (MatcherRequest TransitiveOptions)) :=
  matcherSettings fun l =>
    [{ name := "batch-size", description := "number of image pairs matched per batch",
       field := .size ⟨fun a => (l.get a).batchSize,
         fun v a => l.set { l.get a with batchSize := v } a⟩ },
     { name := "num-iterations", description := "number of transitive passes",
       field := .size ⟨fun a => (l.get a).numIterations,
         fun v a => l.set { l.get a with numIterations := v } a⟩ }]

def vocabTreeMatcherSettings : List (Setting (MatcherRequest VocabTreeOptions)) :=
  matcherSettings fun l =>
    [{ name := "vocab-tree-path", description := "path to the vocabulary tree", required := true,
       field := .text ⟨fun a => (l.get a).vocabTreePath,
         fun v a => l.set { l.get a with vocabTreePath := v } a⟩ },
     { name := "num-images", description := "number of nearest images per query",
       field := .size ⟨fun a => (l.get a).numImages,
         fun v a => l.set { l.get a with numImages := v } a⟩ },
     { name := "match-list-path", description := "optional list of query images",
       field := .optionalText ⟨fun a => (l.get a).matchListPath,
         fun v a => l.set { l.get a with matchListPath := v } a⟩ }]

end CommandLine

namespace EntryPoint

open CommandLine

/-- The entry points in the order in which the help lists them. -/
def all : List EntryPoint :=
  [featureExtractor, featureImporter, exhaustiveMatcher, matchesImporter, sequentialMatcher,
   spatialMatcher, transitiveMatcher, vocabTreeMatcher]

/-- The letter that may stand for the name of a command. None is chosen, which leaves NUL. -/
def letter : EntryPoint → Char := fun _ => '\x00'

/-- The first entry point with a name or letter. -/
def ofName? (s : String) : Option EntryPoint :=
  all.find? fun e => e.name == s || s.toList == [e.letter]

def description : EntryPoint → String
  | featureExtractor => "Extract features from a set of images"
  | featureImporter => "Import features computed by another tool"
  | exhaustiveMatcher => "Match every image against every other image"
  | matchesImporter => "Import image pairs or feature matches from a list file"
  | sequentialMatcher => "Match images against their neighbours in the sequence"
  | spatialMatcher => "Match images against their spatial neighbours"
  | transitiveMatcher => "Match transitively connected images"
  | vocabTreeMatcher => "Match images retrieved from a vocabulary tree"

/-- The form before any option; imported matches are image pairs by default. -/
def blank : (e : EntryPoint) → e.Form
  | featureExtractor => ({} : ExtractorRequest)
  | featureImporter => ({} : ImporterRequest)
  | exhaustiveMatcher => ({ options := {} } : MatcherRequest ExhaustiveOptions)
  | matchesImporter => ({ matchType := "pairs" } : MatchesImporterRequest)
  | sequentialMatcher => ({ options := {} } : MatcherRequest SequentialOptions)
  | spatialMatcher => ({ options := {} } : MatcherRequest SpatialOptions)
  | transitiveMatcher => ({ options := {} } : MatcherRequest TransitiveOptions)
  | vocabTreeMatcher => ({ options := {} } : MatcherRequest VocabTreeOptions)

def settings : (e : EntryPoint) → List (Setting e.Form)
  | featureExtractor => featureExtractorSettings
  | featureImporter => featureImporterSettings
  | exhaustiveMatcher => exhaustiveMatcherSettings
  | matchesImporter => matchesImporterSettings
  | sequentialMatcher => sequentialMatcherSettings
  | spatialMatcher => spatialMatcherSettings
  | transitiveMatcher => transitiveMatcherSettings
  | vocabTreeMatcher => vocabTreeMatcherSettings

/-- As no letter is chosen, NUL stands for the first command. -/
theorem ofName?_eq_some_iff {s : String} {e : EntryPoint} :
    ofName? s = some e ↔ e.name = s ∨ s = "\x00" ∧ e = featureExtractor := by
  constructor
  · intro h
    have hs := List.find?_some h
    simp only [Bool.or_eq_true, beq_iff_eq] at hs
    refine hs.imp id fun hs => ?_
    obtain rfl : s = "\x00" := String.toList_inj.mp hs
    exact ⟨rfl, (Option.some.inj h).symm⟩
  · rintro (rfl | ⟨rfl, rfl⟩)
    · cases e <;> decide
    · decide

end EntryPoint
end FeaturePipeline
