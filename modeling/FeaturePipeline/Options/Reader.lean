import FeaturePipeline.Number.Binary64
import FeaturePipeline.Options.Requirement

/-! How images are read and which cameras they get. -/
namespace FeaturePipeline

structure ReaderOptions where
  databasePath : String := ""
  imagePath : String := ""
  /-- Relative to the image path; no entries stand for all images. -/
  imageList : List String := []
  cameraModel : String := "SIMPLE_RADIAL"
  /-- Blank for the defaults of the model. -/
  cameraParameters : String := ""
  singleCamera : Bool := false
  singleCameraPerFolder : Bool := false
  /-- The camera that all images get; `-1` for none. -/
  existingCameraId : Int32 := -1
  /-- A factor of the image size; by default 1.2. -/
  defaultFocalLengthFactor : Binary64 := ⟨0x3FF3333333333333⟩
  cameraMaskPath : Option String := none
deriving DecidableEq

namespace ReaderOptions

def ofPaths (databasePath imagePath : String) : ReaderOptions :=
  { databasePath := databasePath, imagePath := imagePath }

def check (o : ReaderOptions) : Except OptionFault Unit := do
  require (o.databasePath ≠ "") (.missing "database_path")
  require (o.imagePath ≠ "") (.missing "image_path")
  require (o.defaultFocalLengthFactor.isPositive) (.notPositive "default_focal_length_factor")
  require (¬(o.singleCamera ∧ o.singleCameraPerFolder)) .exclusiveCameras

theorem check_eq_ok_iff (o : ReaderOptions) :
    o.check = .ok () ↔ o.databasePath ≠ "" ∧ o.imagePath ≠ "" ∧
      o.defaultFocalLengthFactor.isPositive = true ∧
      ¬(o.singleCamera = true ∧ o.singleCameraPerFolder = true) := by
  simp [check]

end ReaderOptions
end FeaturePipeline
