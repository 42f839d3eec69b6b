import FeaturePipeline.Error

/-! Conditions on options. They are tested in order, and the first that fails is the fault. -/
namespace FeaturePipeline

def require (p : Prop) [Decidable p] (fault : OptionFault) : Except OptionFault Unit :=
  if p then .ok () else .error fault

@[simp] theorem require_eq_ok_iff {p : Prop} [Decidable p] {fault : OptionFault} :
    require p fault = .ok () ↔ p := by
  by_cases hp : p <;> simp [require, hp]

@[simp] theorem require_bind_eq_ok_iff {p : Prop} [Decidable p] {fault : OptionFault}
    {k : Unit → Except OptionFault Unit} :
    (require p fault >>= k) = .ok () ↔ p ∧ k () = .ok () := by
  by_cases hp : p <;> simp [require, hp, bind, Except.bind]

end FeaturePipeline
