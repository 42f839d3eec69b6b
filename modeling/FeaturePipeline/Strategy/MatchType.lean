import FeaturePipeline.Error

/-! What a list of imported matches holds. -/
namespace FeaturePipeline

inductive MatchType where
  | pairs
  | raw
  | inliers
deriving DecidableEq

namespace MatchType

def all : List MatchType := [pairs, raw, inliers]

def name : MatchType → String
  | pairs => "pairs"
  | raw => "raw"
  | inliers => "inliers"

def read (s : String) : Except PipelineError MatchType :=
  match all.find? fun t => t.name == s with
  | some t => .ok t
  | none => .error (.invalidMatchType s)

/-- Raw matches still go through the geometric verification. -/
def verifiesMatches (t : MatchType) : Bool := t == raw

theorem read_eq_ok_iff {s : String} {t : MatchType} : read s = .ok t ↔ t.name = s := by
  constructor
  · intro h
    cases hu : all.find? fun u => u.name == s with
    | none => simp [read, hu] at h
    | some u =>
      have hname : u.name = s := by simpa using List.find?_some hu
      have hread : read s = .ok u := by simp [read, hu]
      rw [hread] at h
      cases h
      exact hname
  · intro h
    subst h
    cases t <;> rfl

theorem read_eq_error_iff {s : String} {e : PipelineError} :
    read s = .error e ↔ e = .invalidMatchType s ∧ s ∉ all.map name := by
  cases hu : all.find? fun u => u.name == s with
  | none =>
    have hm : s ∉ all.map name := by
      intro hs
      obtain ⟨t, ht, rfl⟩ := List.mem_map.mp hs
      simpa using List.find?_eq_none.mp hu t ht
    simp [read, hu, hm, eq_comm]
  | some t =>
    have hm : s ∈ all.map name := by
      have hname : t.name = s := by simpa using List.find?_some hu
      exact List.mem_map.mpr ⟨t, List.mem_of_find?_eq_some hu, hname⟩
    simp [read, hu, hm]

end MatchType
end FeaturePipeline
