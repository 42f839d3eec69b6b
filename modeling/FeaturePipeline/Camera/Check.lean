import FeaturePipeline.Camera.Parameters
import FeaturePipeline.Error
import FeaturePipeline.Log

/-! The check of a camera model and its parameters, both given as texts. An unknown model is
reported whatever the parameters are. -/
namespace FeaturePipeline.Camera

def check (name parameters : String) : Except PipelineError Model :=
  match Model.ofName? name with
  | none => .error (.unknownCameraModel name)
  | some m =>
    if m.acceptsText parameters then .ok m else .error (.invalidCameraParameters m parameters)

/-- The check as a plain answer; what is wrong goes to the log. -/
def verify (name parameters : String) : Bool × List Log.Record :=
  match check name parameters with
  | .ok _ => (true, [])
  | .error e => (false, [⟨.error, .camera, e.message⟩])

theorem check_of_unknown {name : String} (h : Model.ofName? name = none) (parameters : String) :
    check name parameters = .error (.unknownCameraModel name) := by
  simp [check, h]

theorem check_of_known {name : String} {m : Model} (h : Model.ofName? name = some m)
    (parameters : String) :
    check name parameters =
      if m.acceptsText parameters then .ok m else .error (.invalidCameraParameters m parameters) := by
  simp [check, h]

theorem check_eq_ok_iff {name parameters : String} {m : Model} :
    check name parameters = .ok m ↔ m.name = name ∧ m.acceptsText parameters = true := by
  rw [← Model.ofName?_eq_some_iff]
  cases h : Model.ofName? name with
  | none => simp [check_of_unknown h]
  | some n =>
    rw [check_of_known h]
    by_cases ha : n.acceptsText parameters = true
    · rw [if_pos ha]
      constructor
      · intro hn
        cases hn
        exact ⟨rfl, ha⟩
      · intro ⟨hn, _⟩
        cases hn
        rfl
    · rw [if_neg ha]
      constructor
      · intro hn
        cases hn
      · intro ⟨hn, hm⟩
        cases hn
        exact absurd hm ha

theorem check_eq_error_iff {name parameters : String} {e : PipelineError} :
    check name parameters = .error e ↔
      (∀ m : Model, m.name ≠ name) ∧ e = .unknownCameraModel name ∨
      ∃ m : Model, m.name = name ∧ m.acceptsText parameters = false ∧
        e = .invalidCameraParameters m parameters := by
  cases h : Model.ofName? name with
  | none =>
    have hn : ∀ m : Model, m.name ≠ name := by
      intro m hm
      rw [← Model.ofName?_eq_some_iff, h] at hm
      cases hm
    rw [check_of_unknown h]
    constructor
    · intro he
      cases he
      exact .inl ⟨hn, rfl⟩
    · intro he
      cases he with
      | inl hunknown => rw [hunknown.2]
      | inr hunfit =>
        obtain ⟨m, hm, _⟩ := hunfit
        exact absurd hm (hn m)
  | some m =>
    have hm := Model.ofName?_eq_some_iff.mp h
    rw [check_of_known h]
    constructor
    · intro he
      by_cases ha : m.acceptsText parameters = true
      · rw [if_pos ha] at he
        cases he
      · rw [if_neg ha] at he
        cases he
        exact .inr ⟨m, hm, by simpa using ha, rfl⟩
    · intro he
      cases he with
      | inl hunknown => exact absurd hm (hunknown.1 m)
      | inr hunfit =>
        obtain ⟨n, hn, ha, he⟩ := hunfit
        have hsame : n = m := Model.name_injective (hn.trans hm.symm)
        subst hsame
        rw [if_neg (by simp [ha]), he]

end FeaturePipeline.Camera
