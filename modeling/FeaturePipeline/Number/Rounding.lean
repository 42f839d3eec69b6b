import FeaturePipeline.Number.Units

/-! Rounding to the nearest double, a half to the even rank. The rounding interval of a rank,
counted in half units, ends half way to each neighbour; an end belongs to it when the rank is
even. Reading a number finds the interval it lies in, and printing looks for a short decimal
in the interval of the double. Main statement: a number is read as a finite rank exactly when it
lies in the rounding interval of that rank. -/
namespace FeaturePipeline.Binary64

/-- The lower end of the rounding interval, in half units. -/
def lowerHalf (rank : Nat) : Nat := units (rank - 1) + units rank

def upperHalf (rank : Nat) : Nat := units rank + units (rank + 1)

/-- Whether `num / den` half units round to the rank. -/
def roundsTo (num den rank : Nat) : Bool :=
  if rank % 2 = 0 then
    decide (lowerHalf rank * den ≤ num) && decide (num ≤ upperHalf rank * den)
  else decide (lowerHalf rank * den < num) && decide (num < upperHalf rank * den)

/-- The rank nearest to `num / den` units, at most that of infinity. -/
def nearestRank (num den : Nat) : Nat :=
  let below := rankBelow (num / den)
  if infinityRank ≤ below then infinityRank
  else if 2 * num < upperHalf below * den then below
  else if upperHalf below * den < 2 * num then below + 1
  else below + below % 2

def unitsOfOne : Nat := 1 <<< 1074

/-- The rank nearest to `coefficient * 10 ^ exponent`. Past the bounds tested first the value
is beyond every finite double, or below half the least positive one. -/
def nearestDecimal (coefficient : Nat) : Int → Nat
  | .ofNat k =>
    if coefficient = 0 then 0
    else if 400 < k then infinityRank
    else nearestRank (coefficient * Nat.pow 10 k * unitsOfOne) 1
  | .negSucc k =>
    if coefficient.log2 + 400 < k then 0
    else nearestRank (coefficient * unitsOfOne) (Nat.pow 10 (k + 1))

theorem nearestRank_le (num den : Nat) : nearestRank num den ≤ infinityRank := by
  unfold nearestRank
  have he : infinityRank % 2 = 0 := by decide
  simp only
  split
  · exact Nat.le_refl _
  · split
    · omega
    · split <;> omega

theorem nearestDecimal_le (coefficient : Nat) (exponent : Int) :
    nearestDecimal coefficient exponent ≤ infinityRank := by
  unfold nearestDecimal
  split
  · split
    · exact Nat.zero_le _
    · split
      · exact Nat.le_refl _
      · exact nearestRank_le _ _
  · split
    · exact Nat.zero_le _
    · exact nearestRank_le _ _

theorem upperHalf_eq_lowerHalf_succ (rank : Nat) : upperHalf rank = lowerHalf (rank + 1) := rfl

theorem upperHalf_lt_upperHalf {a b : Nat} (h : a < b) : upperHalf a < upperHalf b := by
  have h1 := units_lt_units h
  have h2 : units (a + 1) < units (b + 1) := units_lt_units (by omega)
  unfold upperHalf
  omega

theorem roundsTo_iff {num den rank : Nat} : roundsTo num den rank = true ↔
    (lowerHalf rank * den < num ∨ rank % 2 = 0 ∧ lowerHalf rank * den = num) ∧
      (num < upperHalf rank * den ∨ rank % 2 = 0 ∧ num = upperHalf rank * den) := by
  unfold roundsTo
  split <;> simp only [Bool.and_eq_true, decide_eq_true_eq] <;> omega

theorem roundsTo_mul_right {num den s rank : Nat} (hs : 0 < s) :
    roundsTo (num * s) (den * s) rank = roundsTo num den rank := by
  have hle : ∀ a b : Nat, a * s ≤ b * s ↔ a ≤ b := fun a b => Nat.mul_le_mul_right_iff hs
  have hlt : ∀ a b : Nat, a * s < b * s ↔ a < b := fun a b => Nat.mul_lt_mul_right hs
  simp only [roundsTo, ← Nat.mul_assoc, hle, hlt]

theorem roundsTo_unique {num den a b : Nat} (hd : 0 < den) (ha : roundsTo num den a = true)
    (hb : roundsTo num den b = true) : a = b := by
  have apart : ∀ {a b : Nat}, a < b → roundsTo num den a = true → roundsTo num den b = true →
      False := by
    intro a b hab ha hb
    rw [roundsTo_iff] at ha hb
    rcases Nat.lt_or_eq_of_le (Nat.succ_le_of_lt hab) with h | h
    · obtain ⟨c, rfl⟩ : ∃ c, b = c + 1 := ⟨b - 1, by omega⟩
      have hac : upperHalf a < upperHalf c := upperHalf_lt_upperHalf (by omega)
      have := Nat.mul_lt_mul_of_pos_right hac hd
      rw [← upperHalf_eq_lowerHalf_succ] at hb
      omega
    · subst h
      rw [← upperHalf_eq_lowerHalf_succ] at hb
      omega
  rcases Nat.lt_trichotomy a b with h | h | h
  · exact (apart h ha hb).elim
  · exact h
  · exact (apart h hb ha).elim

theorem rankBelow_bounds (num : Nat) {den : Nat} (hd : 0 < den) :
    units (rankBelow (num / den)) * den ≤ num ∧
      num < units (rankBelow (num / den) + 1) * den := by
  obtain ⟨hlo, hhi⟩ := units_rankBelow (num / den)
  exact ⟨(Nat.le_div_iff_mul_le hd).mp hlo, (Nat.div_lt_iff_lt_mul hd).mp hhi⟩

theorem roundsTo_of_nearestRank {num den : Nat} (hd : 0 < den)
    (h : nearestRank num den < infinityRank) :
    roundsTo (2 * num) den (nearestRank num den) = true := by
  obtain ⟨hlo, hhi⟩ := rankBelow_bounds num hd
  unfold nearestRank at h ⊢
  generalize rankBelow (num / den) = b at *
  have hb : ¬infinityRank ≤ b := fun hb => by simp [hb] at h
  have hprev : b = 0 ∨ units (b - 1) * den < units b * den := by
    rcases Nat.eq_zero_or_pos b with h0 | h0
    · exact .inl h0
    · exact .inr (Nat.mul_lt_mul_of_pos_right (units_lt_units (by omega)) hd)
  have hnext : units (b + 1) * den < units (b + 2) * den :=
    Nat.mul_lt_mul_of_pos_right (units_lt_units (by omega)) hd
  have hlower : lowerHalf b * den = units (b - 1) * den + units b * den := Nat.add_mul _ _ _
  have hupper : upperHalf b * den = units b * den + units (b + 1) * den := Nat.add_mul _ _ _
  have hupper' : upperHalf (b + 1) * den = units (b + 1) * den + units (b + 2) * den :=
    Nat.add_mul _ _ _
  simp only [hb, if_false]
  by_cases h1 : 2 * num < upperHalf b * den
  · rw [if_pos h1, roundsTo_iff]
    refine ⟨?_, .inl h1⟩
    rcases hprev with rfl | hprev
    · simp only [Nat.zero_sub] at hlower
      omega
    · omega
  · rw [if_neg h1]
    by_cases h2 : upperHalf b * den < 2 * num
    · rw [if_pos h2, roundsTo_iff, ← upperHalf_eq_lowerHalf_succ]
      exact ⟨.inl h2, .inl (by omega)⟩
    · rw [if_neg h2]
      rcases Nat.mod_two_eq_zero_or_one b with hp | hp
      · rw [hp, Nat.add_zero, roundsTo_iff]
        refine ⟨?_, .inr ⟨hp, by omega⟩⟩
        rcases hprev with rfl | hprev
        · simp only [Nat.zero_sub] at hlower
          omega
        · omega
      · rw [hp, roundsTo_iff, ← upperHalf_eq_lowerHalf_succ]
        exact ⟨.inr ⟨by omega, by omega⟩, .inl (by omega)⟩

/-- From the last finite rank half way up, everything rounds to infinity. -/
theorem upperHalf_le_of_nearestRank {num den : Nat} (hd : 0 < den)
    (h : nearestRank num den = infinityRank) :
    upperHalf (infinityRank - 1) * den ≤ 2 * num := by
  obtain ⟨hlo, hhi⟩ := rankBelow_bounds num hd
  unfold nearestRank at h
  generalize rankBelow (num / den) = b at *
  have hsum : upperHalf (infinityRank - 1) * den =
      units (infinityRank - 1) * den + units infinityRank * den := Nat.add_mul _ _ _
  by_cases hb : infinityRank ≤ b
  · have h1 : units (infinityRank - 1) * den ≤ units b * den :=
      Nat.mul_le_mul_right _ (units_le_units_iff.mpr (by omega))
    have h2 : units infinityRank * den ≤ units b * den :=
      Nat.mul_le_mul_right _ (units_le_units_iff.mpr hb)
    omega
  · simp only [hb, if_false] at h
    by_cases h1 : 2 * num < upperHalf b * den
    · rw [if_pos h1] at h
      omega
    · have hbm : b = infinityRank - 1 := by
        rw [if_neg h1] at h
        split at h <;> omega
      rw [hbm] at h1
      omega

/-- A number is read as a finite rank exactly when it lies in the rounding interval of it. -/
theorem nearestRank_eq_iff {num den rank : Nat} (hd : 0 < den) (hr : rank < infinityRank) :
    nearestRank num den = rank ↔ roundsTo (2 * num) den rank = true := by
  constructor
  · rintro rfl
    exact roundsTo_of_nearestRank hd hr
  · intro h
    rcases Nat.lt_or_eq_of_le (nearestRank_le num den) with hn | hn
    · exact roundsTo_unique hd (roundsTo_of_nearestRank hd hn) h
    · have hle := upperHalf_le_of_nearestRank hd hn
      rw [roundsTo_iff] at h
      rcases Nat.lt_or_eq_of_le (Nat.le_sub_one_of_lt hr) with hlt | heq
      · have := Nat.mul_lt_mul_of_pos_right (upperHalf_lt_upperHalf hlt) hd
        omega
      · have hodd : rank % 2 = 1 := by
          rw [heq]
          decide
        rw [← heq] at hle
        omega

end FeaturePipeline.Binary64
