import FeaturePipeline.Strategy.Basic

/-! Requests, one kind for each entry point of the pipeline. -/
namespace FeaturePipeline

/-- An empty path counts as not given. -/
def givenPath (path : Option String) : Option String := path.filter (· ≠ "")

structure ExtractorRequest where
  reader : ReaderOptions := {}
  extraction : ExtractionOptions := {}
  /-- A file that replaces the image list of the reader. -/
  imageListPath : Option String := none
deriving DecidableEq

structure ImporterRequest where
  reader : ReaderOptions := {}
  importPath : String := ""
  /-- A file that replaces the image list of the reader. -/
  imageListPath : Option String := none
deriving DecidableEq

structure MatcherRequest (Options : Type) where
  databasePath : String := ""
  matching : MatchingOptions := {}
  options : Options
deriving DecidableEq

structure MatchesImporterRequest where
  databasePath : String := ""
  matching : MatchingOptions := {}
  matchListPath : String := ""
  matchType : String
deriving DecidableEq

inductive EntryPoint where
  | featureExtractor
  | featureImporter
  | exhaustiveMatcher
  | matchesImporter
  | sequentialMatcher
  | spatialMatcher
  | transitiveMatcher
  | vocabTreeMatcher
deriving DecidableEq

def EntryPoint.name : EntryPoint → String
  | featureExtractor => "feature_extractor"
  | featureImporter => "feature_importer"
  | exhaustiveMatcher => "exhaustive_matcher"
  | matchesImporter => "matches_importer"
  | sequentialMatcher => "sequential_matcher"
  | spatialMatcher => "spatial_matcher"
  | transitiveMatcher => "transitive_matcher"
  | vocabTreeMatcher => "vocab_tree_matcher"

theorem EntryPoint.name_injective {e f : EntryPoint} (h : e.name = f.name) : e = f := by
  revert h
  cases e <;> cases f <;> decide

inductive Request where
  | featureExtractor (r : ExtractorRequest)
  | featureImporter (r : ImporterRequest)
  | exhaustiveMatcher (r : MatcherRequest ExhaustiveOptions)
  | matchesImporter (r : MatchesImporterRequest)
  | sequentialMatcher (r : MatcherRequest SequentialOptions)
  | spatialMatcher (r : MatcherRequest SpatialOptions)
  | transitiveMatcher (r : MatcherRequest TransitiveOptions)
  | vocabTreeMatcher (r : MatcherRequest VocabTreeOptions)
deriving DecidableEq

def EntryPoint.Form : EntryPoint → Type
  | featureExtractor => ExtractorRequest
  | featureImporter => ImporterRequest
  | exhaustiveMatcher => MatcherRequest ExhaustiveOptions
  | matchesImporter => MatchesImporterRequest
  | sequentialMatcher => MatcherRequest SequentialOptions
  | spatialMatcher => MatcherRequest SpatialOptions
  | transitiveMatcher => MatcherRequest TransitiveOptions
  | vocabTreeMatcher => MatcherRequest VocabTreeOptions

def EntryPoint.request : (e : EntryPoint) → e.Form → Request
  | featureExtractor, r => .featureExtractor r
  | featureImporter, r => .featureImporter r
  | exhaustiveMatcher, r => .exhaustiveMatcher r
  | matchesImporter, r => .matchesImporter r
  | sequentialMatcher, r => .sequentialMatcher r
  | spatialMatcher, r => .spatialMatcher r
  | transitiveMatcher, r => .transitiveMatcher r
  | vocabTreeMatcher, r => .vocabTreeMatcher r

namespace Request

def entryPoint : Request → EntryPoint
  | featureExtractor _ => .featureExtractor
  | featureImporter _ => .featureImporter
  | exhaustiveMatcher _ => .exhaustiveMatcher
  | matchesImporter _ => .matchesImporter
  | sequentialMatcher _ => .sequentialMatcher
  | spatialMatcher _ => .spatialMatcher
  | transitiveMatcher _ => .transitiveMatcher
  | vocabTreeMatcher _ => .vocabTreeMatcher

def form : (r : Request) → r.entryPoint.Form
  | featureExtractor r => r
  | featureImporter r => r
  | exhaustiveMatcher r => r
  | matchesImporter r => r
  | sequentialMatcher r => r
  | spatialMatcher r => r
  | transitiveMatcher r => r
  | vocabTreeMatcher r => r

def name (r : Request) : String := r.entryPoint.name

def listFile? : Request → Option String
  | featureExtractor r => givenPath r.imageListPath
  | featureImporter r => givenPath r.imageListPath
  | _ => none

@[simp] theorem entryPoint_request (e : EntryPoint) (f : e.Form) : (e.request f).entryPoint = e := by
  cases e <;> rfl

@[simp] theorem request_form (r : Request) : r.entryPoint.request r.form = r := by
  cases r <;> rfl

end Request
end FeaturePipeline
