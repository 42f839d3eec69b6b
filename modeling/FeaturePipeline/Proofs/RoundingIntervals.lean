import Mathlib.Algebra.Order.Field.Power
import Mathlib.Data.Rat.Cast.Order
import Mathlib.Tactic.Linarith
import Mathlib.Tactic.NormNum
import Mathlib.Tactic.Positivity
import Mathlib.Tactic.Ring
import FeaturePipeline.Number.Rounding

/-! Rounding intervals on the rational line. A number of units, whole or not, rounds to the one rank
whose interval it meets, and that is the rank at the least distance. Main statement: the rank that
is found for a decimal is that of its exact value. -/
namespace FeaturePipeline.Binary64

def unit : ℚ := 2 ^ (-1074 : ℤ)

theorem unit_pos : 0 < unit := by
  unfold unit
  positivity

theorem zero_lt_infinityRank : 0 < infinityRank := by decide

theorem infinityRank_lt : infinityRank < 0x8000000000000000 := by decide

theorem cast_units_lt {a b : Nat} (h : a < b) : (units a : ℚ) < units b :=
  Nat.cast_lt.mpr (units_lt_units h)

theorem cast_lowerHalf (rank : Nat) :
    (lowerHalf rank : ℚ) = units (rank - 1) + units rank := Nat.cast_add _ _

theorem cast_upperHalf (rank : Nat) :
    (upperHalf rank : ℚ) = units rank + units (rank + 1) := Nat.cast_add _ _

/-- The number is between the ends of the interval, or it is an end that belongs to it. -/
def InInterval (u : ℚ) (rank : Nat) : Prop :=
  (lowerHalf rank < 2 * u ∨ rank % 2 = 0 ∧ lowerHalf rank = 2 * u) ∧
    (2 * u < upperHalf rank ∨ rank % 2 = 0 ∧ 2 * u = upperHalf rank)

theorem InInterval.lower_le {u : ℚ} {rank : Nat} (h : InInterval u rank) :
    lowerHalf rank ≤ 2 * u := by
  obtain h | ⟨-, h⟩ := h.1
  · exact h.le
  · exact h.le

theorem InInterval.le_upper {u : ℚ} {rank : Nat} (h : InInterval u rank) :
    2 * u ≤ upperHalf rank := by
  obtain h | ⟨-, h⟩ := h.2
  · exact h.le
  · exact h.le

/-- The rank that a number of units rounds to, that of infinity included. -/
inductive RoundsToRank (u : ℚ) : Nat → Prop where
  | finite {rank : Nat} (hr : rank < infinityRank) (h : InInterval u rank) : RoundsToRank u rank
  | overflow (h : upperHalf (infinityRank - 1) ≤ 2 * u) : RoundsToRank u infinityRank

theorem upperHalf_le_lowerHalf {a b : Nat} (h : a < b) :
    upperHalf a ≤ lowerHalf b ∧ (upperHalf a = lowerHalf b → b = a + 1) := by
  obtain ⟨c, rfl⟩ := Nat.exists_eq_succ_of_ne_zero (Nat.ne_zero_of_lt h)
  rw [Nat.succ_eq_add_one, ← upperHalf_eq_lowerHalf_succ]
  rcases Nat.lt_or_eq_of_le (Nat.le_of_lt_succ h) with hlt | rfl
  · have hhalf := upperHalf_lt_upperHalf hlt
    exact ⟨hhalf.le, fun heq => absurd heq hhalf.ne⟩
  · exact ⟨le_rfl, fun _ => rfl⟩

theorem InInterval.not_lt {u : ℚ} {a b : Nat} (ha : InInterval u a) (hb : InInterval u b) :
    ¬a < b := by
  intro h
  obtain ⟨hle, hnext⟩ := upperHalf_le_lowerHalf h
  have hle : (upperHalf a : ℚ) ≤ lowerHalf b := Nat.cast_le.mpr hle
  have hmeet : (upperHalf a : ℚ) = lowerHalf b :=
    le_antisymm hle (hb.lower_le.trans ha.le_upper)
  have hab := hnext (Nat.cast_injective hmeet)
  obtain hlt | ⟨hea, -⟩ := ha.2
  · linarith [hb.lower_le]
  obtain hlt | ⟨heb, -⟩ := hb.1
  · linarith [ha.le_upper]
  omega

theorem InInterval.not_overflow {u : ℚ} {rank : Nat} (hr : rank < infinityRank)
    (h : InInterval u rank) : ¬(upperHalf (infinityRank - 1) : ℚ) ≤ 2 * u := by
  intro ho
  rcases Nat.lt_or_eq_of_le (Nat.le_sub_one_of_lt hr) with hlt | heq
  · have hhalf : (upperHalf rank : ℚ) < upperHalf (infinityRank - 1) :=
      Nat.cast_lt.mpr (upperHalf_lt_upperHalf hlt)
    linarith [h.le_upper]
  · have hodd : rank % 2 = 1 := by
      rw [heq]
      decide
    rw [← heq] at ho
    obtain hlt | ⟨heven, -⟩ := h.2
    · linarith
    · omega

theorem RoundsToRank.unique {u : ℚ} {a b : Nat} (ha : RoundsToRank u a) (hb : RoundsToRank u b) :
    a = b := by
  cases ha with
  | finite hra ha =>
    cases hb with
    | finite hrb hb =>
      exact Nat.le_antisymm (Nat.le_of_not_lt (hb.not_lt ha)) (Nat.le_of_not_lt (ha.not_lt hb))
    | overflow hb => exact absurd hb (ha.not_overflow hra)
  | overflow ha =>
    cases hb with
    | finite hrb hb => exact absurd ha (hb.not_overflow hrb)
    | overflow _ => rfl

theorem inInterval_zero_iff {u : ℚ} : InInterval u 0 ↔ 0 ≤ u ∧ 2 * u ≤ 1 := by
  have hlower : (lowerHalf 0 : ℚ) = 0 := Nat.cast_zero
  have hupper : (upperHalf 0 : ℚ) = 1 := Nat.cast_one
  constructor
  · intro h
    have hlo := h.lower_le
    have hup := h.le_upper
    rw [hlower] at hlo
    rw [hupper] at hup
    exact ⟨by linarith, hup⟩
  · intro ⟨hlo, hup⟩
    rw [InInterval, hlower, hupper]
    refine ⟨?_, hup.lt_or_eq.imp_right fun h => ⟨rfl, h⟩⟩
    exact (show 0 ≤ 2 * u by linarith).lt_or_eq.imp_right fun h => ⟨rfl, h⟩

theorem InInterval.convex {u v w : ℚ} {rank : Nat} (hu : InInterval u rank)
    (hw : InInterval w rank) (huv : u ≤ v) (hvw : v ≤ w) : InInterval v rank := by
  constructor
  · obtain hlt | ⟨heven, heq⟩ := hu.1
    · exact .inl (by linarith)
    · exact (show (lowerHalf rank : ℚ) ≤ 2 * v by linarith).lt_or_eq.imp_right (⟨heven, ·⟩)
  · obtain hlt | ⟨heven, heq⟩ := hw.2
    · exact .inl (by linarith)
    · exact (show 2 * v ≤ (upperHalf rank : ℚ) by linarith).lt_or_eq.imp_right (⟨heven, ·⟩)

theorem inInterval_units (rank : Nat) : InInterval (units rank) rank := by
  by_cases h0 : rank = 0
  · subst h0
    exact inInterval_zero_iff.mpr ⟨Nat.cast_nonneg _, by simp [units]⟩
  · have hprev := cast_units_lt (Nat.sub_one_lt h0)
    have hnext := cast_units_lt rank.lt_succ_self
    rw [InInterval, cast_lowerHalf, cast_upperHalf]
    exact ⟨.inl (by linarith), .inl (by linarith)⟩

theorem RoundsToRank.lt_infinityRank_iff {u : ℚ} {rank : Nat} (h : RoundsToRank u rank) :
    rank < infinityRank ↔ 2 * u < upperHalf (infinityRank - 1) := by
  cases h with
  | finite hr h => exact iff_of_true hr (not_le.mp (h.not_overflow hr))
  | overflow h => exact iff_of_false (lt_irrefl _) (not_lt.mpr h)

theorem RoundsToRank.pos_iff {u : ℚ} {rank : Nat} (h : RoundsToRank u rank) (hu : 0 ≤ u) :
    0 < rank ↔ 1 < 2 * u := by
  rw [Nat.pos_iff_ne_zero, ← not_le, not_iff_not]
  constructor
  · rintro rfl
    cases h with
    | finite hr h => exact (inInterval_zero_iff.mp h).2
  · intro hle
    exact h.unique (.finite (by decide) (inInterval_zero_iff.mpr ⟨hu, hle⟩))

/-- The comparison in whole numbers is that of the quotient. -/
theorem roundsTo_iff_inInterval {num den rank : Nat} (hd : 0 < den) {u : ℚ}
    (hu : 2 * u = (num : ℚ) / den) : roundsTo num den rank = true ↔ InInterval u rank := by
  have hden : (0 : ℚ) < den := Nat.cast_pos.mpr hd
  rw [roundsTo_iff, InInterval, hu, lt_div_iff₀ hden, div_lt_iff₀ hden, eq_div_iff hden.ne',
    div_eq_iff hden.ne']
  norm_cast

theorem roundsToRank_nearestRank (num : Nat) {den : Nat} (hd : 0 < den) :
    RoundsToRank ((num : ℚ) / den) (nearestRank num den) := by
  have htwice : 2 * ((num : ℚ) / den) = (2 * num : Nat) / den := by
    push_cast
    ring
  rcases Nat.lt_or_eq_of_le (nearestRank_le num den) with hn | hn
  · exact .finite hn ((roundsTo_iff_inInterval hd htwice).mp (roundsTo_of_nearestRank hd hn))
  · rw [hn]
    refine .overflow ?_
    rw [htwice, le_div_iff₀ (Nat.cast_pos.mpr hd)]
    exact_mod_cast upperHalf_le_of_nearestRank hd hn

theorem unitsOfOne_mul_unit : (unitsOfOne : ℚ) * unit = 1 := by
  have hpow : (unitsOfOne : ℚ) = 2 ^ (1074 : ℤ) := by
    rw [unitsOfOne, Nat.one_shiftLeft, Nat.cast_pow, Nat.cast_ofNat, ← zpow_natCast, Nat.cast_ofNat]
  rw [hpow, unit, ← zpow_add₀ two_ne_zero, add_neg_cancel, zpow_zero]

def decimalUnits (c : Nat) (e : ℤ) : ℚ := c * 10 ^ e / unit

theorem decimalUnits_nonneg (c : Nat) (e : ℤ) : 0 ≤ decimalUnits c e := by
  have hunit := unit_pos
  unfold decimalUnits
  positivity

theorem decimalUnits_mul_unit (c : Nat) (e : ℤ) : decimalUnits c e * unit = c * 10 ^ e :=
  div_mul_cancel₀ _ unit_pos.ne'

theorem decimalUnits_eq (c : Nat) (e : ℤ) : decimalUnits c e = c * 10 ^ e * unitsOfOne := by
  rw [← decimalUnits_mul_unit, mul_assoc, mul_comm unit, unitsOfOne_mul_unit, mul_one]

theorem decimalUnits_le_decimalUnits {c d : Nat} {e f : ℤ} (hcd : c ≤ d) (hef : e ≤ f) :
    decimalUnits c e ≤ decimalUnits d f := by
  have hunit := unit_pos
  have hcd : (c : ℚ) ≤ d := Nat.cast_le.mpr hcd
  have hpow : (10 : ℚ) ^ e ≤ 10 ^ f := zpow_le_zpow_right₀ (by norm_num) hef
  unfold decimalUnits
  gcongr

/-- Beyond `10 ^ 400` all is infinite. -/
theorem upperHalf_le_of_large {c k : Nat} (hc : c ≠ 0) (hk : 401 ≤ k) :
    upperHalf (infinityRank - 1) ≤ 2 * (c * Nat.pow 10 k * unitsOfOne) := by
  have hbound : upperHalf (infinityRank - 1) ≤ 2 * (Nat.pow 10 401 * unitsOfOne) := by
    decide +kernel
  have hpow : Nat.pow 10 401 ≤ c * Nat.pow 10 k :=
    (Nat.pow_le_pow_right (by decide) hk).trans (Nat.le_mul_of_pos_left _ (Nat.pos_of_ne_zero hc))
  exact hbound.trans (Nat.mul_le_mul_left 2 (Nat.mul_le_mul_right unitsOfOne hpow))

/-- With so many places behind the point less than half a unit is left. -/
theorem lt_pow_of_small {c k : Nat} (hk : c.log2 + 400 < k) :
    2 * (c * unitsOfOne) < Nat.pow 10 (k + 1) := by
  have hc : c < 2 ^ (c.log2 + 1) := Nat.lt_log2_self
  have hexponent : c.log2 + 401 ≤ k + 1 := by omega
  have hbound : 4 * unitsOfOne ≤ Nat.pow 10 401 := by decide +kernel
  calc 2 * (c * unitsOfOne) < 2 * (2 ^ (c.log2 + 1) * unitsOfOne) := by
        have hpos : 0 < unitsOfOne := by decide +kernel
        exact Nat.mul_lt_mul_of_pos_left (Nat.mul_lt_mul_of_pos_right hc hpos) (by decide)
    _ = 2 ^ c.log2 * (4 * unitsOfOne) := by ring
    _ ≤ 10 ^ c.log2 * Nat.pow 10 401 :=
        Nat.mul_le_mul (Nat.pow_le_pow_left (by decide) _) hbound
    _ = 10 ^ (c.log2 + 401) := (Nat.pow_add 10 _ _).symm
    _ ≤ Nat.pow 10 (k + 1) := Nat.pow_le_pow_right (by decide) hexponent

theorem cast_pow_ten (k : Nat) : ((Nat.pow 10 k : Nat) : ℚ) = 10 ^ k := Nat.cast_pow 10 k

/-- The cut-offs of the reader change nothing: it finds the rank of the exact value. -/
theorem roundsToRank_nearestDecimal (c : Nat) (e : ℤ) :
    RoundsToRank (decimalUnits c e) (nearestDecimal c e) := by
  rw [decimalUnits_eq]
  cases e with
  | ofNat k =>
    have hvalue : (c : ℚ) * 10 ^ Int.ofNat k * unitsOfOne =
        (c * Nat.pow 10 k * unitsOfOne : Nat) := by
      rw [Int.ofNat_eq_natCast, zpow_natCast, Nat.cast_mul, Nat.cast_mul, cast_pow_ten]
    rw [hvalue, nearestDecimal]
    split
    · rename_i hc
      rw [hc, Nat.zero_mul, Nat.zero_mul, Nat.cast_zero]
      exact .finite (by decide) (inInterval_zero_iff.mpr ⟨le_rfl, by norm_num⟩)
    · rename_i hc
      split
      · rename_i hk
        have hlarge := upperHalf_le_of_large hc hk
        generalize c * Nat.pow 10 k * unitsOfOne = n at *
        exact .overflow (by exact_mod_cast hlarge)
      · have hround := roundsToRank_nearestRank (c * Nat.pow 10 k * unitsOfOne) Nat.one_pos
        rwa [Nat.cast_one, div_one] at hround
  | negSucc k =>
    have hvalue : (c : ℚ) * 10 ^ Int.negSucc k * unitsOfOne =
        (c * unitsOfOne : Nat) / (Nat.pow 10 (k + 1) : Nat) := by
      rw [zpow_negSucc, Nat.cast_mul, cast_pow_ten, div_eq_mul_inv]
      ring
    rw [hvalue, nearestDecimal]
    have hpos : 0 < Nat.pow 10 (k + 1) := Nat.pow_pos (by decide)
    split
    · rename_i hk
      have hsmall := lt_pow_of_small hk
      generalize c * unitsOfOne = n, Nat.pow 10 (k + 1) = d at *
      have hd : (0 : ℚ) < d := Nat.cast_pos.mpr hpos
      refine .finite (by decide) (inInterval_zero_iff.mpr ⟨by positivity, ?_⟩)
      rw [← mul_div_assoc, div_le_one hd]
      exact_mod_cast hsmall.le
    · exact roundsToRank_nearestRank (c * unitsOfOne) hpos

theorem nearestDecimal_eq_iff {c : Nat} {e : ℤ} {rank : Nat} :
    nearestDecimal c e = rank ↔ RoundsToRank (decimalUnits c e) rank := by
  constructor
  · rintro rfl
    exact roundsToRank_nearestDecimal c e
  · exact (roundsToRank_nearestDecimal c e).unique

theorem nearestDecimal_congr {c d : Nat} {e f : ℤ} (h : (c : ℚ) * 10 ^ e = d * 10 ^ f) :
    nearestDecimal c e = nearestDecimal d f := by
  rw [nearestDecimal_eq_iff, decimalUnits, h]
  exact roundsToRank_nearestDecimal d f

theorem nearestDecimal_lt (c : Nat) (e : ℤ) : nearestDecimal c e < 0x8000000000000000 :=
  (nearestDecimal_le c e).trans_lt infinityRank_lt

section Distances

variable {u a b : ℚ}

theorem abs_sub_lesser_le_iff (h : a < b) : |u - a| ≤ |u - b| ↔ 2 * u ≤ a + b := by
  rw [← sq_le_sq, ← sub_nonneg]
  have hfactor : (u - b) ^ 2 - (u - a) ^ 2 = (b - a) * (a + b - 2 * u) := by ring
  rw [hfactor, mul_nonneg_iff_of_pos_left (sub_pos.mpr h), sub_nonneg]

theorem abs_sub_greater_le_iff (h : a < b) : |u - b| ≤ |u - a| ↔ a + b ≤ 2 * u := by
  rw [← sq_le_sq, ← sub_nonneg]
  have hfactor : (u - a) ^ 2 - (u - b) ^ 2 = (b - a) * (2 * u - (a + b)) := by ring
  rw [hfactor, mul_nonneg_iff_of_pos_left (sub_pos.mpr h), sub_nonneg]

end Distances

/-- No finite rank is nearer, and in a tie the rank is even. -/
structure NearestUnits (u : ℚ) (rank : Nat) : Prop where
  nearest : ∀ k < infinityRank, |u - units rank| ≤ |u - units k|
  tie : ∀ k < infinityRank, k ≠ rank → |u - units k| = |u - units rank| → rank % 2 = 0

theorem InInterval.nearestUnits {u : ℚ} {rank : Nat} (h : InInterval u rank) :
    NearestUnits u rank := by
  -- What lies below the rank is at most the rank before it, so the lower end separates them.
  have hbelow : ∀ {k}, k < rank → (units k : ℚ) < units rank ∧
      (units k + units rank : ℚ) ≤ lowerHalf rank := by
    intro k hk
    have hprev : units k ≤ units (rank - 1) := units_le_units_iff.mpr (Nat.le_sub_one_of_lt hk)
    have hsum : units k + units rank ≤ lowerHalf rank := Nat.add_le_add_right hprev _
    exact ⟨cast_units_lt hk, by exact_mod_cast hsum⟩
  have habove : ∀ {k}, rank < k → (units rank : ℚ) < units k ∧
      (upperHalf rank : ℚ) ≤ units rank + units k := by
    intro k hk
    have hnext : units (rank + 1) ≤ units k := units_le_units_iff.mpr hk
    have hsum : upperHalf rank ≤ units rank + units k := Nat.add_le_add_left hnext _
    exact ⟨cast_units_lt hk, by exact_mod_cast hsum⟩
  constructor
  · intro k _
    rcases Nat.lt_trichotomy k rank with hk | rfl | hk
    · obtain ⟨hlt, hsum⟩ := hbelow hk
      exact (abs_sub_greater_le_iff hlt).mpr (hsum.trans h.lower_le)
    · exact le_rfl
    · obtain ⟨hlt, hsum⟩ := habove hk
      exact (abs_sub_lesser_le_iff hlt).mpr (h.le_upper.trans hsum)
  · intro k _ hne heq
    rcases Nat.lt_or_gt_of_ne hne with hk | hk
    · obtain ⟨hlt, hsum⟩ := hbelow hk
      have hle := (abs_sub_lesser_le_iff hlt).mp heq.le
      obtain hin | ⟨heven, -⟩ := h.1
      · linarith
      · exact heven
    · obtain ⟨hlt, hsum⟩ := habove hk
      have hle := (abs_sub_greater_le_iff hlt).mp heq.le
      obtain hin | ⟨heven, -⟩ := h.2
      · linarith
      · exact heven

/-- The two neighbours of a rank decide that it is the nearest. -/
theorem NearestUnits.inInterval {u : ℚ} {rank : Nat} (h : NearestUnits u rank) (hu : 0 ≤ u)
    (hr : rank < infinityRank) (ho : 2 * u < upperHalf (infinityRank - 1)) :
    InInterval u rank := by
  constructor
  · cases rank with
    | zero =>
      have hlower : (lowerHalf 0 : ℚ) = 0 := Nat.cast_zero
      rw [hlower]
      exact (mul_nonneg zero_le_two hu).lt_or_eq.imp_right fun heq => ⟨rfl, heq⟩
    | succ k =>
      have hk : k < infinityRank := Nat.lt_of_succ_lt hr
      have hlt := cast_units_lt k.lt_succ_self
      have hle := (abs_sub_greater_le_iff hlt).mp (h.nearest k hk)
      rw [cast_lowerHalf]
      refine hle.lt_or_eq.imp_right fun heq => ⟨?_, heq⟩
      exact h.tie k hk k.lt_succ_self.ne
        (le_antisymm ((abs_sub_lesser_le_iff hlt).mpr heq.ge) (h.nearest k hk))
  · by_cases hlast : rank + 1 < infinityRank
    · have hlt := cast_units_lt rank.lt_succ_self
      have hle := (abs_sub_lesser_le_iff hlt).mp (h.nearest (rank + 1) hlast)
      rw [cast_upperHalf]
      refine hle.lt_or_eq.imp_right fun heq => ⟨?_, heq⟩
      exact h.tie (rank + 1) hlast rank.lt_succ_self.ne'
        (le_antisymm ((abs_sub_greater_le_iff hlt).mpr heq.ge) (h.nearest (rank + 1) hlast))
    · -- Above the greatest finite rank there is no neighbour, but the bound ends its interval.
      have hrank : infinityRank - 1 = rank := by omega
      rw [hrank] at ho
      exact .inl ho

end FeaturePipeline.Binary64
