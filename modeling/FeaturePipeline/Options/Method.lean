import FeaturePipeline.Number.Binary64
import FeaturePipeline.Options.Requirement

/-! The matching methods, each with its options: which image pairs are matched. -/
namespace FeaturePipeline

/-- Every image against every other one, in blocks. -/
structure ExhaustiveOptions where
  blockSize : UInt64 := 50
deriving DecidableEq

def ExhaustiveOptions.check (o : ExhaustiveOptions) : Except OptionFault Unit :=
  require (1 < o.blockSize) (.notAboveOne "block_size")

/-- Images in the order of their names against the next ones. -/
structure SequentialOptions where
  overlap : UInt64 := 10
  quadraticOverlap : Bool := true
  loopDetection : Bool := false
  loopDetectionPeriod : UInt64 := 10
  loopDetectionNumImages : UInt64 := 50
  vocabTreePath : Option String := none
deriving DecidableEq

def SequentialOptions.check (o : SequentialOptions) : Except OptionFault Unit := do
  require (0 < o.overlap) (.notPositive "overlap")
  require (0 < o.loopDetectionPeriod) (.notPositive "loop_detection_period")
  require (0 < o.loopDetectionNumImages) (.notPositive "loop_detection_num_images")
  require (o.loopDetection → o.vocabTreePath.isSome) .loopDetectionWithoutTree

/-- Images against those that were taken close by. -/
structure SpatialOptions where
  isGps : Bool := true
  ignoreZ : Bool := true
  maxNumNeighbors : UInt64 := 50
  /-- By default 100. -/
  maxDistance : Binary64 := ⟨0x4059000000000000⟩
deriving DecidableEq

def SpatialOptions.check (o : SpatialOptions) : Except OptionFault Unit := do
  require (0 < o.maxNumNeighbors) (.notPositive "max_num_neighbors")
  require (o.maxDistance.isPositive) (.notPositive "max_distance")

/-- Images that matches connect already. -/
structure TransitiveOptions where
  batchSize : UInt64 := 1000
  numIterations : UInt64 := 3
deriving DecidableEq

def TransitiveOptions.check (o : TransitiveOptions) : Except OptionFault Unit := do
  require (0 < o.batchSize) (.notPositive "batch_size")
  require (0 < o.numIterations) (.notPositive "num_iterations")

/-- Images against their nearest neighbours in a vocabulary tree. -/
structure VocabTreeOptions where
  numImages : UInt64 := 100
  numNearestNeighbors : UInt64 := 5
  numChecks : UInt64 := 256
  numImagesAfterVerification : UInt64 := 0
  maxNumFeatures : Int32 := -1
  vocabTreePath : String := ""
  matchListPath : Option String := none
deriving DecidableEq

def VocabTreeOptions.check (o : VocabTreeOptions) : Except OptionFault Unit := do
  require (0 < o.numImages) (.notPositive "num_images")
  require (0 < o.numNearestNeighbors) (.notPositive "num_nearest_neighbors")
  require (0 < o.numChecks) (.notPositive "num_checks")
  require (o.vocabTreePath ≠ "") (.missing "vocab_tree_path")

/-- The image pairs of a list. -/
structure ImagePairsOptions where
  blockSize : UInt64 := 1225
  matchListPath : String := ""
deriving DecidableEq

def ImagePairsOptions.check (o : ImagePairsOptions) : Except OptionFault Unit :=
  require (0 < o.blockSize) (.notPositive "block_size")

/-- Matches that were computed elsewhere. -/
structure FeaturePairsOptions where
  verifyMatches : Bool := true
  matchListPath : String := ""
deriving DecidableEq

inductive MatchingMethod where
  | exhaustive (o : ExhaustiveOptions)
  | sequential (o : SequentialOptions)
  | spatial (o : SpatialOptions)
  | transitive (o : TransitiveOptions)
  | vocabTree (o : VocabTreeOptions)
  | imagePairs (o : ImagePairsOptions)
  | featurePairs (o : FeaturePairsOptions)
deriving DecidableEq

def MatchingMethod.check : MatchingMethod → Except OptionFault Unit
  | exhaustive o => o.check
  | sequential o => o.check
  | spatial o => o.check
  | transitive o => o.check
  | vocabTree o => o.check
  | imagePairs o => o.check
  | featurePairs _ => .ok ()

theorem ExhaustiveOptions.check_eq_ok_iff (o : ExhaustiveOptions) :
    o.check = .ok () ↔ 1 < o.blockSize := by
  simp [check]

theorem SequentialOptions.check_eq_ok_iff (o : SequentialOptions) :
    o.check = .ok () ↔ 0 < o.overlap ∧ 0 < o.loopDetectionPeriod ∧
      0 < o.loopDetectionNumImages ∧
      (o.loopDetection = true → o.vocabTreePath.isSome = true) := by
  simp [check]

theorem SpatialOptions.check_eq_ok_iff (o : SpatialOptions) :
    o.check = .ok () ↔ 0 < o.maxNumNeighbors ∧ o.maxDistance.isPositive = true := by
  simp [check]

theorem TransitiveOptions.check_eq_ok_iff (o : TransitiveOptions) :
    o.check = .ok () ↔ 0 < o.batchSize ∧ 0 < o.numIterations := by
  simp [check]

theorem VocabTreeOptions.check_eq_ok_iff (o : VocabTreeOptions) :
    o.check = .ok () ↔ 0 < o.numImages ∧ 0 < o.numNearestNeighbors ∧ 0 < o.numChecks ∧
      o.vocabTreePath ≠ "" := by
  simp [check]

theorem ImagePairsOptions.check_eq_ok_iff (o : ImagePairsOptions) :
    o.check = .ok () ↔ 0 < o.blockSize := by
  simp [check]

end FeaturePipeline
