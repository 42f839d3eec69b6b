/-! The registered camera models. A model is known by its name, by its number in a feature
database, and by the names of its parameters in order. -/
namespace FeaturePipeline.Camera

inductive Model where
  | simplePinhole
  | pinhole
  | simpleRadial
  | radial
  | opencv
  | opencvFisheye
  | fullOpencv
  | fieldOfView
  | simpleRadialFisheye
  | radialFisheye
  | thinPrismFisheye
deriving DecidableEq

namespace Model

/-- All models; the number of a model is its place in this list. -/
def all : List Model :=
  [simplePinhole, pinhole, simpleRadial, radial, opencv, opencvFisheye, fullOpencv, fieldOfView,
   simpleRadialFisheye, radialFisheye, thinPrismFisheye]

def number (m : Model) : Nat := all.idxOf m

def name : Model → String
  | simplePinhole => "SIMPLE_PINHOLE"
  | pinhole => "PINHOLE"
  | simpleRadial => "SIMPLE_RADIAL"
  | radial => "RADIAL"
  | opencv => "OPENCV"
  | opencvFisheye => "OPENCV_FISHEYE"
  | fullOpencv => "FULL_OPENCV"
  | fieldOfView => "FOV"
  | simpleRadialFisheye => "SIMPLE_RADIAL_FISHEYE"
  | radialFisheye => "RADIAL_FISHEYE"
  | thinPrismFisheye => "THIN_PRISM_FISHEYE"

/-- Names are matched exactly, letter case included. -/
def ofName? (s : String) : Option Model := all.find? fun m => m.name == s

/-- The names of the parameters, focal lengths first. -/
def parameters : Model → List String
  | simplePinhole => ["f", "cx", "cy"]
  | pinhole => ["fx", "fy", "cx", "cy"]
  | simpleRadial | simpleRadialFisheye => ["f", "cx", "cy", "k"]
  | radial | radialFisheye => ["f", "cx", "cy", "k1", "k2"]
  | opencv => ["fx", "fy", "cx", "cy", "k1", "k2", "p1", "p2"]
  | opencvFisheye => ["fx", "fy", "cx", "cy", "k1", "k2", "k3", "k4"]
  | fullOpencv => ["fx", "fy", "cx", "cy", "k1", "k2", "p1", "p2", "k3", "k4", "k5", "k6"]
  | fieldOfView => ["fx", "fy", "cx", "cy", "omega"]
  | thinPrismFisheye =>
    ["fx", "fy", "cx", "cy", "k1", "k2", "p1", "p2", "k3", "k4", "sx1", "sy1"]

def arity (m : Model) : Nat := m.parameters.length

def layout (m : Model) : String := ", ".intercalate m.parameters

/-- The places of the focal lengths: one for both axes, or one for each. -/
def focalIndices (m : Model) : List Nat := if m.parameters.head? = some "f" then [0] else [0, 1]

theorem name_injective {m n : Model} (h : m.name = n.name) : m = n := by
  revert h
  cases m <;> cases n <;> decide

theorem ofName?_eq_some_iff {s : String} {m : Model} : ofName? s = some m ↔ m.name = s := by
  constructor
  · intro h
    simpa using List.find?_some h
  · rintro rfl
    cases m <;> decide

theorem lt_arity_of_mem_focalIndices {m : Model} {i : Nat} (h : i ∈ m.focalIndices) :
    i < m.arity := by
  cases m <;> simp [focalIndices, arity, parameters] at h ⊢ <;> omega

end Model
end FeaturePipeline.Camera
