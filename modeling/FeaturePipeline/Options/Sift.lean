import FeaturePipeline.Number.Binary64
import FeaturePipeline.Options.Requirement

/-! How SIFT features are extracted, and how their descriptors are matched. -/
namespace FeaturePipeline

structure ExtractionOptions where
  useGpu : Bool := true
  /-- Separated by commas; `-1` for all. -/
  gpuIndex : String := "-1"
  /-- `-1` for all cores. -/
  numThreads : Int32 := -1
  maxImageSize : UInt64 := 3200
  maxNumFeatures : UInt64 := 8192
deriving DecidableEq

namespace ExtractionOptions

def check (o : ExtractionOptions) : Except OptionFault Unit := do
  require (0 < o.maxImageSize) (.notPositive "max_image_size")
  require (0 < o.maxNumFeatures) (.notPositive "max_num_features")

theorem check_eq_ok_iff (o : ExtractionOptions) :
    o.check = .ok () ↔ 0 < o.maxImageSize ∧ 0 < o.maxNumFeatures := by
  simp [check]

end ExtractionOptions

structure MatchingOptions where
  useGpu : Bool := true
  /-- Separated by commas; `-1` for all. -/
  gpuIndex : String := "-1"
  /-- `-1` for all cores. -/
  numThreads : Int32 := -1
  /-- Between the first and the second best match; by default 0.8. -/
  maxRatio : Binary64 := ⟨0x3FE999999999999A⟩
  /-- Between descriptors; by default 0.7. -/
  maxDistance : Binary64 := ⟨0x3FE6666666666666⟩
  crossCheck : Bool := true
  maxNumMatches : UInt64 := 32768
  guidedMatching : Bool := false
deriving DecidableEq

namespace MatchingOptions

def inUnitInterval (x : Binary64) : Bool := x.isPositive && x.le .one

def check (o : MatchingOptions) : Except OptionFault Unit := do
  require (inUnitInterval o.maxRatio) (.outsideUnitInterval "max_ratio")
  require (inUnitInterval o.maxDistance) (.outsideUnitInterval "max_distance")
  require (0 < o.maxNumMatches) (.notPositive "max_num_matches")

theorem check_eq_ok_iff (o : MatchingOptions) :
    o.check = .ok () ↔ inUnitInterval o.maxRatio = true ∧ inUnitInterval o.maxDistance = true ∧
      0 < o.maxNumMatches := by
  simp [check]

end MatchingOptions
end FeaturePipeline
