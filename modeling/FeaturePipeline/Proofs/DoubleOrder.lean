import Mathlib.Algebra.Order.Monoid.Unbundled.WithTop
import Mathlib.Data.Int.ConditionallyCompleteOrder
import Mathlib.Order.Monotone.Odd
import FeaturePipeline.Proofs.NearestDouble

/-! The order of doubles. The magnitude bits behind their sign are an integer, and that integer
grows strictly with the value. Main statement: one double is less than another exactly when both
are numbers and the first number is less, infinities included; a NaN is neither less nor equal. -/
namespace FeaturePipeline.Binary64

/-- The number that a double stands for, infinities included. A NaN stands for none. -/
def number? (x : Binary64) : Option (WithBot (WithTop ℚ)) :=
  if x.isNaN then none
  else if x.isInfinite then some (if x.isNegative then ⊥ else ⊤)
  else some (x.value : WithTop ℚ)

def valueAt (order : ℤ) : ℚ := signed (decide (order < 0)) (units order.natAbs * unit)

theorem valueAt_natCast (rank : Nat) : valueAt rank = units rank * unit := by
  rw [valueAt, Int.natAbs_natCast, decide_eq_false (not_lt.mpr (Int.natCast_nonneg rank))]
  rfl

theorem valueAt_neg (order : ℤ) : valueAt (-order) = -valueAt order := by
  rcases lt_trichotomy order 0 with h | rfl | h
  · simp [valueAt, signed, h, h.le]
  · simp [valueAt, signed, units]
  · simp [valueAt, signed, h, h.le]

theorem strictMono_valueAt : StrictMono valueAt := by
  refine strictMono_of_odd_strictMonoOn_nonneg valueAt_neg fun a ha b _ hab => ?_
  obtain ⟨m, rfl⟩ := Int.eq_ofNat_of_zero_le ha
  obtain ⟨n, rfl⟩ := Int.eq_ofNat_of_zero_le (le_trans ha hab.le)
  rw [valueAt_natCast, valueAt_natCast]
  exact mul_lt_mul_of_pos_right (cast_units_lt (Int.ofNat_lt.mp hab)) unit_pos

theorem value_eq_valueAt (x : Binary64) : x.value = valueAt x.order := by
  rw [value_eq, order]
  cases x.isNegative with
  | false => exact (valueAt_natCast x.rank).symm
  | true => exact ((valueAt_neg x.rank).trans (congrArg Neg.neg (valueAt_natCast x.rank))).symm

def numberAt (order : ℤ) : WithBot (WithTop ℚ) :=
  if order = infinityRank then ⊤ else if order = -infinityRank then ⊥ else (valueAt order : WithTop ℚ)

theorem strictMonoOn_numberAt :
    StrictMonoOn numberAt (Set.Icc (-infinityRank : ℤ) infinityRank) := by
  intro a ha b hb h
  have hatop : a ≠ infinityRank := (h.trans_le hb.2).ne
  have hbbot : b ≠ -infinityRank := (ha.1.trans_lt h).ne'
  rw [numberAt, numberAt, if_neg hatop, if_neg hbbot]
  split
  · split
    · exact bot_lt_top
    · exact WithBot.bot_lt_coe _
  · split
    · exact WithBot.coe_lt_coe.mpr (WithTop.coe_lt_top _)
    · exact WithBot.coe_lt_coe.mpr (WithTop.coe_lt_coe.mpr (strictMono_valueAt h))

section Numbers

variable {x y : Binary64}

theorem natAbs_order (x : Binary64) : x.order.natAbs = x.rank := by
  rw [order]
  cases x.isNegative <;> simp

theorem order_mem_Icc (hx : x.isNaN = false) :
    x.order ∈ Set.Icc (-infinityRank : ℤ) infinityRank := by
  have hrank : x.rank ≤ infinityRank := by simpa [isNaN] using hx
  have hnat := natAbs_order x
  rw [Set.mem_Icc]
  omega

theorem number?_eq_some (hx : x.isNaN = false) : x.number? = some (numberAt x.order) := by
  have hpos := zero_lt_infinityRank
  rw [number?, if_neg (by simp [hx])]
  by_cases hi : x.rank = infinityRank
  · have hinfinite : x.isInfinite = true := decide_eq_true hi
    rw [if_pos hinfinite, order, numberAt, hi]
    cases x.isNegative with
    | false => rfl
    | true =>
      have hne : -(infinityRank : ℤ) ≠ infinityRank := by omega
      exact congrArg some (if_neg hne).symm
  · have hinfinite : ¬x.isInfinite = true := by simp [isInfinite, hi]
    have hnat := natAbs_order x
    have htop : x.order ≠ infinityRank := by omega
    have hbot : x.order ≠ -infinityRank := by omega
    rw [if_neg hinfinite, numberAt, if_neg htop, if_neg hbot, value_eq_valueAt]

theorem number?_eq_none (hx : x.isNaN = true) : x.number? = none := if_pos hx

theorem lt_iff : x.lt y = true ↔ ∃ v ∈ x.number?, ∃ w ∈ y.number?, v < w := by
  unfold lt
  cases hx : x.isNaN with
  | true => simp [number?_eq_none hx]
  | false =>
    cases hy : y.isNaN with
    | true => simp [number?_eq_none hy]
    | false =>
      have hlt := strictMonoOn_numberAt.lt_iff_lt (order_mem_Icc hx) (order_mem_Icc hy)
      simp [number?_eq_some hx, number?_eq_some hy, hlt]

theorem le_iff : x.le y = true ↔ ∃ v ∈ x.number?, ∃ w ∈ y.number?, v ≤ w := by
  unfold le
  cases hx : x.isNaN with
  | true => simp [number?_eq_none hx]
  | false =>
    cases hy : y.isNaN with
    | true => simp [number?_eq_none hy]
    | false =>
      have hle := strictMonoOn_numberAt.le_iff_le (order_mem_Icc hx) (order_mem_Icc hy)
      simp [number?_eq_some hx, number?_eq_some hy, hle]

theorem number?_zero : zero.number? = some 0 := by
  have hvalue : zero.value = 0 := by norm_num [value, signed, magnitude, zero, rank]
  rw [number?, if_neg (by decide), if_neg (by decide), hvalue]
  rfl

theorem number?_one : one.number? = some 1 := by
  have hsign : one.isNegative = false := by decide
  have hrank : one.rank = 1023 * 0x10000000000000 := by decide
  have hvalue : one.value = 1 := by
    rw [value, hsign, hrank]
    norm_num [signed, magnitude]
  rw [number?, if_neg (by decide), if_neg (by decide), hvalue]
  rfl

theorem isPositive_iff_number : x.isPositive = true ↔ ∃ v ∈ x.number?, 0 < v := by
  rw [isPositive, lt_iff, number?_zero]
  simp

end Numbers

end FeaturePipeline.Binary64
