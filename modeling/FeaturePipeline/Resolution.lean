import FeaturePipeline.Camera.Check
import FeaturePipeline.ImageList
import FeaturePipeline.Strategy.MatchType
import FeaturePipeline.Request

/-! From a request to the strategy that it leads to, or to the reason why it leads to none. The
image list comes first, then the camera, and the conditions on the options last. -/
namespace FeaturePipeline

/-- The options with the image list that counts: that of the file, or their own when no file is
given. Nothing stands for a file without images. -/
def ReaderOptions.withList (files : FileSource) (o : ReaderOptions) (listPath : Option String) :
    Except PipelineError (Option ReaderOptions) :=
  match givenPath listPath with
  | none => .ok (some o)
  | some path =>
    match ImageList.read files path with
    | .error fault => .error (.imageList path fault)
    | .ok [] => .ok none
    | .ok images => .ok (some { o with imageList := images })

def ReaderOptions.ready (files : FileSource) (o : ReaderOptions) (listPath : Option String) :
    Except PipelineError (Option ReaderOptions) := do
  let listed ← o.withList files listPath
  match listed with
  | none => return none
  | some o =>
    let _ ← Camera.check o.cameraModel o.cameraParameters
    return some o

/-- Image pairs are matched; feature matches are imported. -/
def MatchType.method (t : MatchType) (matchListPath : String) : MatchingMethod :=
  match t with
  | pairs => .imagePairs { matchListPath := matchListPath }
  | raw | inliers =>
    .featurePairs { verifyMatches := t.verifiesMatches, matchListPath := matchListPath }

def MatcherRequest.strategy {Options : Type} (r : MatcherRequest Options)
    (method : Options → MatchingMethod) : Strategy :=
  .matching r.databasePath r.matching (method r.options)

/-- The strategy of a request, before its options are checked; nothing for an empty list. -/
def Request.strategy (files : FileSource) : Request → Except PipelineError (Option Strategy)
  | featureExtractor r => do
    let reader ← r.reader.ready files r.imageListPath
    return reader.map fun o => .extraction o r.extraction
  | featureImporter r => do
    let reader ← r.reader.ready files r.imageListPath
    return reader.map fun o => .featureImport o r.importPath
  | matchesImporter r => do
    let t ← MatchType.read r.matchType
    return some (.matching r.databasePath r.matching (t.method r.matchListPath))
  | exhaustiveMatcher r => .ok (some (r.strategy .exhaustive))
  | sequentialMatcher r => .ok (some (r.strategy .sequential))
  | spatialMatcher r => .ok (some (r.strategy .spatial))
  | transitiveMatcher r => .ok (some (r.strategy .transitive))
  | vocabTreeMatcher r => .ok (some (r.strategy .vocabTree))

def Strategy.checked (s : Strategy) : Except PipelineError Strategy :=
  match s.check with
  | .ok () => .ok s
  | .error fault => .error (.invalidOption fault)

/-- The strategy that a request leads to, all checks passed. -/
def Request.resolve (files : FileSource) (r : Request) : Except PipelineError (Option Strategy) := do
  match ← r.strategy files with
  | none => return none
  | some s => return some (← s.checked)

end FeaturePipeline
