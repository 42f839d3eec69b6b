import FeaturePipeline.Options.Reader
import FeaturePipeline.Options.Sift
import FeaturePipeline.Options.Method

/-! A strategy is one fully configured step of the pipeline. -/
namespace FeaturePipeline

inductive StrategyKind where
  | featureExtraction
  | featureImport
  | exhaustiveMatching
  | sequentialMatching
  | spatialMatching
  | transitiveMatching
  | vocabTreeMatching
  | imagePairsMatching
  | featurePairsMatching
deriving DecidableEq

def StrategyKind.name : StrategyKind → String
  | featureExtraction => "FeatureExtraction"
  | featureImport => "FeatureImport"
  | exhaustiveMatching => "ExhaustiveMatching"
  | sequentialMatching => "SequentialMatching"
  | spatialMatching => "SpatialMatching"
  | transitiveMatching => "TransitiveMatching"
  | vocabTreeMatching => "VocabTreeMatching"
  | imagePairsMatching => "ImagePairsMatching"
  | featurePairsMatching => "FeaturePairsMatching"

def MatchingMethod.kind : MatchingMethod → StrategyKind
  | exhaustive _ => .exhaustiveMatching
  | sequential _ => .sequentialMatching
  | spatial _ => .spatialMatching
  | transitive _ => .transitiveMatching
  | vocabTree _ => .vocabTreeMatching
  | imagePairs _ => .imagePairsMatching
  | featurePairs _ => .featurePairsMatching

inductive Strategy where
  | extraction (reader : ReaderOptions) (extraction : ExtractionOptions)
  | featureImport (reader : ReaderOptions) (importPath : String)
  | matching (databasePath : String) (matching : MatchingOptions) (method : MatchingMethod)
deriving DecidableEq

namespace Strategy

def kind : Strategy → StrategyKind
  | extraction _ _ => .featureExtraction
  | featureImport _ _ => .featureImport
  | matching _ _ method => method.kind

/-- Whether the strategy asks for the GPU; an import never does. -/
def usesGpu : Strategy → Bool
  | extraction _ e => e.useGpu
  | featureImport _ _ => false
  | matching _ m _ => m.useGpu

/-- All the conditions on the options, the most general ones first. -/
def check : Strategy → Except OptionFault Unit
  | extraction reader e => do
    reader.check
    e.check
  | featureImport reader _ => reader.check
  | matching databasePath m method => do
    require (databasePath ≠ "") (.missing "database_path")
    m.check
    method.check

end Strategy
end FeaturePipeline
