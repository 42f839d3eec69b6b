import FeaturePipeline.Strategy.Basic

/-! The conditions on the options of a strategy as a list. Main statement: a check tests its list
from the front, and the first condition that fails is the fault. -/
namespace FeaturePipeline

/-- A condition, and what is wrong when it fails. -/
abbrev Condition := Prop × OptionFault

/-- The result of testing conditions one after the other. -/
inductive Judged : List Condition → Except OptionFault Unit → Prop where
  | passed : Judged [] (.ok ())
  | failed {p : Prop} {fault : OptionFault} {cs : List Condition} (h : ¬p) :
    Judged ((p, fault) :: cs) (.error fault)
  | next {p : Prop} {fault : OptionFault} {cs : List Condition} {result : Except OptionFault Unit}
    (h : p) (rest : Judged cs result) : Judged ((p, fault) :: cs) result

namespace Judged

variable {cs ds : List Condition} {result other : Except OptionFault Unit}

theorem unique (h : Judged cs result) (h' : Judged cs other) : result = other := by
  induction h with
  | passed =>
    cases h'
    rfl
  | failed hp =>
    cases h' with
    | failed _ => rfl
    | next hp' _ => exact absurd hp' hp
  | next hp _ ih =>
    cases h' with
    | failed hp' => exact absurd hp hp'
    | next _ rest => exact ih rest

theorem ok_iff (h : Judged cs result) : result = .ok () ↔ ∀ c ∈ cs, c.1 := by
  induction h with
  | passed => simp
  | failed hp => simp [hp]
  | next hp _ ih => simp [hp, ih]

theorem bind (h : Judged cs result) (h' : Judged ds other) :
    Judged (cs ++ ds) (result >>= fun _ => other) := by
  induction h with
  | passed => exact h'
  | failed hp => exact failed hp
  | next hp _ ih => exact next hp ih

end Judged

theorem judged_require (p : Prop) [Decidable p] (fault : OptionFault) :
    Judged [(p, fault)] (require p fault) := by
  by_cases hp : p
  · rw [require, if_pos hp]
    exact .next hp .passed
  · rw [require, if_neg hp]
    exact .failed hp

def ReaderOptions.conditions (o : ReaderOptions) : List Condition :=
  [(o.databasePath ≠ "", .missing "database_path"),
   (o.imagePath ≠ "", .missing "image_path"),
   (o.defaultFocalLengthFactor.isPositive, .notPositive "default_focal_length_factor"),
   (¬(o.singleCamera ∧ o.singleCameraPerFolder), .exclusiveCameras)]

def ExtractionOptions.conditions (o : ExtractionOptions) : List Condition :=
  [(0 < o.maxImageSize, .notPositive "max_image_size"),
   (0 < o.maxNumFeatures, .notPositive "max_num_features")]

def MatchingOptions.conditions (o : MatchingOptions) : List Condition :=
  [(inUnitInterval o.maxRatio, .outsideUnitInterval "max_ratio"),
   (inUnitInterval o.maxDistance, .outsideUnitInterval "max_distance"),
   (0 < o.maxNumMatches, .notPositive "max_num_matches")]

def MatchingMethod.conditions : MatchingMethod → List Condition
  | exhaustive o => [(1 < o.blockSize, .notAboveOne "block_size")]
  | sequential o =>
    [(0 < o.overlap, .notPositive "overlap"),
     (0 < o.loopDetectionPeriod, .notPositive "loop_detection_period"),
     (0 < o.loopDetectionNumImages, .notPositive "loop_detection_num_images"),
     (o.loopDetection → o.vocabTreePath.isSome, .loopDetectionWithoutTree)]
  | spatial o =>
    [(0 < o.maxNumNeighbors, .notPositive "max_num_neighbors"),
     (o.maxDistance.isPositive, .notPositive "max_distance")]
  | transitive o =>
    [(0 < o.batchSize, .notPositive "batch_size"),
     (0 < o.numIterations, .notPositive "num_iterations")]
  | vocabTree o =>
    [(0 < o.numImages, .notPositive "num_images"),
     (0 < o.numNearestNeighbors, .notPositive "num_nearest_neighbors"),
     (0 < o.numChecks, .notPositive "num_checks"),
     (o.vocabTreePath ≠ "", .missing "vocab_tree_path")]
  | imagePairs o => [(0 < o.blockSize, .notPositive "block_size")]
  | featurePairs _ => []

def Strategy.conditions : Strategy → List Condition
  | extraction reader e => reader.conditions ++ e.conditions
  | featureImport reader _ => reader.conditions
  | matching databasePath m method =>
    (databasePath ≠ "", .missing "database_path") :: m.conditions ++ method.conditions

theorem ReaderOptions.judged_check (o : ReaderOptions) : Judged o.conditions o.check :=
  (judged_require _ _).bind ((judged_require _ _).bind
    ((judged_require _ _).bind (judged_require _ _)))

theorem ExtractionOptions.judged_check (o : ExtractionOptions) : Judged o.conditions o.check :=
  (judged_require _ _).bind (judged_require _ _)

theorem MatchingOptions.judged_check (o : MatchingOptions) : Judged o.conditions o.check :=
  (judged_require _ _).bind ((judged_require _ _).bind (judged_require _ _))

theorem MatchingMethod.judged_check (m : MatchingMethod) : Judged m.conditions m.check := by
  cases m with
  | exhaustive o => exact judged_require _ _
  | sequential o =>
    exact (judged_require _ _).bind ((judged_require _ _).bind
      ((judged_require _ _).bind (judged_require _ _)))
  | spatial o => exact (judged_require _ _).bind (judged_require _ _)
  | transitive o => exact (judged_require _ _).bind (judged_require _ _)
  | vocabTree o =>
    exact (judged_require _ _).bind ((judged_require _ _).bind
      ((judged_require _ _).bind (judged_require _ _)))
  | imagePairs o => exact judged_require _ _
  | featurePairs o => exact .passed

theorem Strategy.judged_check (s : Strategy) : Judged s.conditions s.check := by
  cases s with
  | extraction reader e => exact reader.judged_check.bind e.judged_check
  | featureImport reader path => exact reader.judged_check
  | matching path m method =>
    exact (judged_require _ _).bind (m.judged_check.bind method.judged_check)

end FeaturePipeline
