import FeaturePipeline.Number.Shortest
import FeaturePipeline.Strategy.Basic

/-! The plan of a strategy in one line of text. -/
namespace FeaturePipeline

def MatchingMethod.plan : MatchingMethod → String
  | exhaustive o => s!"exhaustive matching, block size {o.blockSize.toNat}"
  | sequential o =>
    s!"sequential matching, overlap {o.overlap.toNat} (quadratic: {o.quadraticOverlap}, loop detection: {o.loopDetection})"
  | spatial o =>
    s!"spatial matching, {o.maxNumNeighbors.toNat} neighbors within {o.maxDistance.text}"
  | transitive o =>
    s!"transitive matching, {o.numIterations.toNat} iterations of {o.batchSize.toNat} pairs"
  | vocabTree o =>
    s!"vocabulary tree matching with {o.vocabTreePath}, {o.numImages.toNat} images per query"
  | imagePairs o => s!"image pairs matching from {o.matchListPath}"
  | featurePairs o => s!"feature pairs import from {o.matchListPath} (verify: {o.verifyMatches})"

namespace Strategy

/-- How many images an extraction names; an empty list stands for all. -/
def scope (images : List String) : String :=
  if images.isEmpty then "all images" else s!"{images.length} images"

def plan : Strategy → String
  | extraction r e =>
    s!"feature extraction from {r.imagePath} into {r.databasePath} ({r.cameraModel} camera, {scope r.imageList}, max {e.maxNumFeatures.toNat} features)"
  | featureImport r importPath => s!"feature import from {importPath} into {r.databasePath}"
  | matching databasePath _ method => s!"{method.plan} in {databasePath}"

end Strategy
end FeaturePipeline
