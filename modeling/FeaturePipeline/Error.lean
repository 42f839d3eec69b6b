import FeaturePipeline.Camera.Model

/-! The ways in which a request can be turned down, and their texts. -/
namespace FeaturePipeline

inductive FileFault where
  | notFound
  | notDirectory
  | isDirectory
  | nameTooLong
  | nulInPath
  | notUtf8
  /-- Any other error of the system, with its number and its text. -/
  | system (code : Nat) (text : String)
deriving DecidableEq

def FileFault.message : FileFault → String
  | .notFound => "No such file or directory (os error 2)"
  | .notDirectory => "Not a directory (os error 20)"
  | .isDirectory => "Is a directory (os error 21)"
  | .nameTooLong => "File name too long (os error 36)"
  | .nulInPath => "file name contained an unexpected NUL byte"
  | .notUtf8 => "stream did not contain valid UTF-8"
  | .system code text => s!"{text} (os error {code})"

/-- Which condition on the options fails first. -/
inductive OptionFault where
  | missing (option : String)
  | notPositive (option : String)
  | outsideUnitInterval (option : String)
  | notAboveOne (option : String)
  | exclusiveCameras
  | loopDetectionWithoutTree
deriving DecidableEq

def OptionFault.message : OptionFault → String
  | .missing o => s!"{o} is required"
  | .notPositive o => s!"{o} must be positive"
  | .outsideUnitInterval o => s!"{o} must be in (0, 1]"
  | .notAboveOne o => s!"{o} must be greater than 1"
  | .exclusiveCameras => "single_camera and single_camera_per_folder are exclusive"
  | .loopDetectionWithoutTree => "loop_detection requires vocab_tree_path"

inductive PipelineError where
  | unknownCameraModel (name : String)
  | invalidCameraParameters (model : Camera.Model) (text : String)
  | invalidMatchType (text : String)
  | invalidOption (fault : OptionFault)
  | imageList (path : String) (fault : FileFault)
  | renderContext (reason : String)
deriving DecidableEq

def PipelineError.message : PipelineError → String
  | .unknownCameraModel name => s!"Camera model does not exist: {name}"
  | .invalidCameraParameters model text =>
    s!"Invalid camera parameters for {model.name}: `{text}` (expected {model.layout})"
  | .invalidMatchType text => s!"Invalid `match_type`: {text}"
  | .invalidOption fault => s!"Invalid option: {fault.message}"
  | .imageList path fault => s!"Failed to read the image list {path}. {fault.message}"
  | .renderContext reason => s!"Failed to acquire a rendering context: {reason}"

end FeaturePipeline
