import FeaturePipeline.Proofs.Conditions
import FeaturePipeline.Proofs.DoubleOrder

/-! The ranges of the options, in numbers. Sizes are natural numbers, and what a double holds is
the number that it stands for. Main statement: a strategy passes its check exactly when all of its
options are in range, and otherwise the fault is said of the first one that is not. -/
namespace FeaturePipeline

/-- A range, and what is said of an option that is outside it. -/
abbrev Range := Prop × String

/-- The first range that is left, by what is said of it. -/
def FirstBreach (ranges : List Range) (text : String) : Prop :=
  ∃ before p after, ranges = before ++ (p, text) :: after ∧ (∀ r ∈ before, r.1) ∧ ¬p

theorem firstBreach_cons {p : Prop} {said text : String} {ranges : List Range} :
    FirstBreach ((p, said) :: ranges) text ↔ ¬p ∧ said = text ∨ p ∧ FirstBreach ranges text := by
  constructor
  · rintro ⟨before, q, after, h, hbefore, hq⟩
    cases before with
    | nil =>
      cases h
      exact .inl ⟨hq, rfl⟩
    | cons r before =>
      cases h
      obtain ⟨hp, hbefore⟩ := List.forall_mem_cons.mp hbefore
      exact .inr ⟨hp, before, q, after, rfl, hbefore, hq⟩
  · rintro (⟨hp, rfl⟩ | ⟨hp, before, q, after, rfl, hbefore, hq⟩)
    · exact ⟨[], p, ranges, rfl, List.forall_mem_nil _, hp⟩
    · exact ⟨(p, said) :: before, q, after, rfl, List.forall_mem_cons.mpr ⟨hp, hbefore⟩, hq⟩

/-- A condition tests a range, and its fault is told in the words of the range. -/
def Tests (c : Condition) (r : Range) : Prop := (c.1 ↔ r.1) ∧ c.2.message = r.2

namespace Judged

variable {cs : List Condition} {result : Except OptionFault Unit} {ranges : List Range}

theorem ok_iff_ranges (h : Judged cs result) (hr : List.Forall₂ Tests cs ranges) :
    result = .ok () ↔ ∀ r ∈ ranges, r.1 := by
  rw [h.ok_iff]
  clear h
  induction hr with
  | nil => simp
  | cons hc _ ih => rw [List.forall_mem_cons, List.forall_mem_cons, hc.1, ih]

theorem error_iff_firstBreach (h : Judged cs result) (hr : List.Forall₂ Tests cs ranges)
    {text : String} :
    result.mapError OptionFault.message = .error text ↔ FirstBreach ranges text := by
  induction h generalizing ranges with
  | passed =>
    cases hr
    simp [FirstBreach, Except.mapError]
  | failed hp =>
    cases hr with
    | cons hc _ =>
      obtain ⟨hiff, hsaid⟩ := hc
      rw [firstBreach_cons, ← hiff, ← hsaid]
      simp [Except.mapError, hp]
  | next hp _ ih =>
    cases hr with
    | cons hc hr =>
      obtain ⟨hiff, hsaid⟩ := hc
      rw [firstBreach_cons, ← hiff, ih hr]
      simp [hp]

end Judged

namespace Binary64

/-- A number greater than zero; infinity is one. -/
def IsAboveZero (x : Binary64) : Prop := ∃ v ∈ x.number?, 0 < v

def IsRatio (x : Binary64) : Prop := ∃ v ∈ x.number?, 0 < v ∧ v ≤ 1

end Binary64

def ReaderOptions.ranges (o : ReaderOptions) : List Range :=
  [(o.databasePath ≠ "", "database_path is required"),
   (o.imagePath ≠ "", "image_path is required"),
   (o.defaultFocalLengthFactor.IsAboveZero, "default_focal_length_factor must be positive"),
   (¬(o.singleCamera = true ∧ o.singleCameraPerFolder = true),
    "single_camera and single_camera_per_folder are exclusive")]

def ExtractionOptions.ranges (o : ExtractionOptions) : List Range :=
  [(0 < o.maxImageSize.toNat, "max_image_size must be positive"),
   (0 < o.maxNumFeatures.toNat, "max_num_features must be positive")]

def MatchingOptions.ranges (o : MatchingOptions) : List Range :=
  [(o.maxRatio.IsRatio, "max_ratio must be in (0, 1]"),
   (o.maxDistance.IsRatio, "max_distance must be in (0, 1]"),
   (0 < o.maxNumMatches.toNat, "max_num_matches must be positive")]

def MatchingMethod.ranges : MatchingMethod → List Range
  | exhaustive o => [(1 < o.blockSize.toNat, "block_size must be greater than 1")]
  | sequential o =>
    [(0 < o.overlap.toNat, "overlap must be positive"),
     (0 < o.loopDetectionPeriod.toNat, "loop_detection_period must be positive"),
     (0 < o.loopDetectionNumImages.toNat, "loop_detection_num_images must be positive"),
     (o.loopDetection = true → ∃ path, o.vocabTreePath = some path,
      "loop_detection requires vocab_tree_path")]
  | spatial o =>
    [(0 < o.maxNumNeighbors.toNat, "max_num_neighbors must be positive"),
     (o.maxDistance.IsAboveZero, "max_distance must be positive")]
  | transitive o =>
    [(0 < o.batchSize.toNat, "batch_size must be positive"),
     (0 < o.numIterations.toNat, "num_iterations must be positive")]
  | vocabTree o =>
    [(0 < o.numImages.toNat, "num_images must be positive"),
     (0 < o.numNearestNeighbors.toNat, "num_nearest_neighbors must be positive"),
     (0 < o.numChecks.toNat, "num_checks must be positive"),
     (o.vocabTreePath ≠ "", "vocab_tree_path is required")]
  | imagePairs o => [(0 < o.blockSize.toNat, "block_size must be positive")]
  | featurePairs _ => []

/-- The ranges of all options, in the order in which a fault is looked for. -/
def Strategy.ranges : Strategy → List Range
  | extraction reader e => reader.ranges ++ e.ranges
  | featureImport reader _ => reader.ranges
  | matching databasePath m method =>
    (databasePath ≠ "", "database_path is required") :: m.ranges ++ method.ranges

section Tests

variable {option : String} {n : UInt64} {x : Binary64}

theorem tests_missing (path : String) :
    Tests (path ≠ "", .missing option) (path ≠ "", s!"{option} is required") := ⟨Iff.rfl, rfl⟩

theorem tests_size : Tests (0 < n, .notPositive option)
    (0 < n.toNat, s!"{option} must be positive") := ⟨UInt64.lt_iff_toNat_lt, rfl⟩

theorem tests_number : Tests (x.isPositive, .notPositive option)
    (x.IsAboveZero, s!"{option} must be positive") := ⟨Binary64.isPositive_iff_number, rfl⟩

end Tests

theorem tests_ratio : Tests (MatchingOptions.inUnitInterval x, .outsideUnitInterval option)
    (x.IsRatio, s!"{option} must be in (0, 1]") := by
  refine ⟨?_, rfl⟩
  rw [MatchingOptions.inUnitInterval, Bool.and_eq_true, Binary64.isPositive_iff_number,
    Binary64.le_iff, Binary64.number?_one, Binary64.IsRatio]
  cases x.number? <;> simp

theorem ReaderOptions.tests_ranges (o : ReaderOptions) :
    List.Forall₂ Tests o.conditions o.ranges :=
  .cons (tests_missing _) (.cons (tests_missing _) (.cons tests_number
    (.cons ⟨Iff.rfl, rfl⟩ .nil)))

theorem ExtractionOptions.tests_ranges (o : ExtractionOptions) :
    List.Forall₂ Tests o.conditions o.ranges :=
  .cons tests_size (.cons tests_size .nil)

theorem MatchingOptions.tests_ranges (o : MatchingOptions) :
    List.Forall₂ Tests o.conditions o.ranges :=
  .cons tests_ratio (.cons tests_ratio (.cons tests_size .nil))

theorem MatchingMethod.tests_ranges (m : MatchingMethod) :
    List.Forall₂ Tests m.conditions m.ranges := by
  cases m with
  | exhaustive o => exact .cons ⟨UInt64.lt_iff_toNat_lt, rfl⟩ .nil
  | sequential o =>
    have htree : Tests (o.loopDetection → o.vocabTreePath.isSome, .loopDetectionWithoutTree)
        (o.loopDetection = true → ∃ path, o.vocabTreePath = some path,
          "loop_detection requires vocab_tree_path") :=
      ⟨imp_congr_right fun _ => Option.isSome_iff_exists, rfl⟩
    exact .cons tests_size (.cons tests_size (.cons tests_size (.cons htree .nil)))
  | spatial o => exact .cons tests_size (.cons tests_number .nil)
  | transitive o => exact .cons tests_size (.cons tests_size .nil)
  | vocabTree o =>
    exact .cons tests_size (.cons tests_size (.cons tests_size (.cons (tests_missing _) .nil)))
  | imagePairs o => exact .cons tests_size .nil
  | featurePairs o => exact .nil

theorem Strategy.tests_ranges (s : Strategy) : List.Forall₂ Tests s.conditions s.ranges := by
  cases s with
  | extraction reader e => exact List.rel_append reader.tests_ranges e.tests_ranges
  | featureImport reader path => exact reader.tests_ranges
  | matching path m method =>
    exact .cons (tests_missing _) (List.rel_append m.tests_ranges method.tests_ranges)

/-- A strategy passes its check when every option is in its range, whatever bits its doubles have.
Otherwise the fault is that of the first range that is left, and it names the option. -/
theorem Strategy.check_within_ranges (s : Strategy) :
    (s.check = .ok () ↔ ∀ r ∈ s.ranges, r.1) ∧
    ∀ text, s.check.mapError OptionFault.message = .error text ↔ FirstBreach s.ranges text :=
  ⟨s.judged_check.ok_iff_ranges s.tests_ranges,
    fun _ => s.judged_check.error_iff_firstBreach s.tests_ranges⟩

/-- The least positive double and one are ratios, and a NaN is none. -/
example : MatchingOptions.check { maxRatio := ⟨1⟩, maxDistance := .one } = .ok () ∧
    MatchingOptions.check { maxRatio := ⟨0xFFF0000000000001⟩ } =
      .error (.outsideUnitInterval "max_ratio") := by decide

end FeaturePipeline
