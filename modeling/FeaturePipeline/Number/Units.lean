import FeaturePipeline.Number.Binary64

/-! The units of consecutive ranks. They increase strictly, so every number of units lies between
those of one rank and the next. -/
namespace FeaturePipeline.Binary64

/-- The units between a rank and the next one. -/
def gap (rank : Nat) : Nat :=
  if rank < 0x20000000000000 then 1 else 1 <<< (rank / 0x10000000000000 - 1)

theorem gap_pos (rank : Nat) : 0 < gap rank := by
  unfold gap
  split
  · decide
  · rw [Nat.one_shiftLeft]
    exact Nat.pow_pos (by decide)

theorem units_of_small {rank : Nat} (h : rank < 0x20000000000000) : units rank = rank := by
  rw [units, if_pos h]

theorem units_of_parts {exponent fraction : Nat} (he : 1 ≤ exponent)
    (hf : fraction < 0x10000000000000) :
    units (exponent * 0x10000000000000 + fraction) =
      (0x10000000000000 + fraction) <<< (exponent - 1) := by
  unfold units
  have hd : (exponent * 0x10000000000000 + fraction) / 0x10000000000000 = exponent := by omega
  have hm : (exponent * 0x10000000000000 + fraction) % 0x10000000000000 = fraction := by omega
  rw [hd, hm]
  split
  · have h1 : exponent = 1 := by omega
    subst h1
    rw [Nat.sub_self, Nat.shiftLeft_zero, Nat.one_mul]
  · rfl

theorem units_succ (rank : Nat) : units (rank + 1) = units rank + gap rank := by
  by_cases h : rank < 0x10000000000000
  · rw [units_of_small (by omega), units_of_small (by omega), gap, if_pos (by omega)]
  · obtain ⟨e, f, he, hf, rfl⟩ :
        ∃ e f, 1 ≤ e ∧ f < 0x10000000000000 ∧ rank = e * 0x10000000000000 + f :=
      ⟨rank / 0x10000000000000, rank % 0x10000000000000, by omega, by omega, by omega⟩
    have hs : gap (e * 0x10000000000000 + f) = 1 <<< (e - 1) := by
      unfold gap
      have hd : (e * 0x10000000000000 + f) / 0x10000000000000 = e := by omega
      rw [hd]
      split
      · have h1 : e = 1 := by omega
        subst h1
        rfl
      · rfl
    rw [units_of_parts he hf, hs]
    by_cases hlast : f + 1 < 0x10000000000000
    · rw [Nat.add_assoc, units_of_parts he hlast, ← Nat.add_assoc]
      simp only [Nat.shiftLeft_eq, Nat.add_mul]
    · have hf' : f = 0x10000000000000 - 1 := by omega
      have hr : e * 0x10000000000000 + f + 1 = (e + 1) * 0x10000000000000 + 0 := by omega
      rw [hr, units_of_parts (by omega) (by decide), hf']
      obtain ⟨k, rfl⟩ : ∃ k, e = k + 1 := ⟨e - 1, by omega⟩
      simp only [Nat.add_sub_cancel, Nat.shiftLeft_eq, Nat.pow_succ]
      omega

theorem units_lt_units {a b : Nat} (h : a < b) : units a < units b := by
  induction h with
  | refl =>
    rw [units_succ]
    exact Nat.lt_add_of_pos_right (gap_pos a)
  | step _ ih =>
    rw [units_succ]
    exact Nat.lt_add_right _ ih

theorem units_le_units_iff {a b : Nat} : units a ≤ units b ↔ a ≤ b := by
  constructor
  · intro h
    refine Nat.le_of_not_lt fun hba => ?_
    have := units_lt_units hba
    omega
  · intro h
    rcases Nat.lt_or_eq_of_le h with h | rfl
    · exact Nat.le_of_lt (units_lt_units h)
    · exact Nat.le_refl _

theorem units_rankBelow (n : Nat) : units (rankBelow n) ≤ n ∧ n < units (rankBelow n + 1) := by
  unfold rankBelow
  split
  · rename_i h
    rw [units_succ, units_of_small h]
    exact ⟨Nat.le_refl _, Nat.lt_add_of_pos_right (gap_pos n)⟩
  · rename_i h
    have hn : n ≠ 0 := by omega
    have hlog : 53 ≤ n.log2 := (Nat.le_log2 hn).mpr (by omega)
    have hlo : 2 ^ n.log2 ≤ n := Nat.log2_self_le hn
    have hhi : n < 2 ^ (n.log2 + 1) := Nat.lt_log2_self
    obtain ⟨k, hk⟩ : ∃ k, n.log2 = k + 52 := ⟨n.log2 - 52, by omega⟩
    rw [hk, Nat.pow_add] at hlo
    rw [hk, Nat.pow_succ, Nat.pow_add] at hhi
    rw [hk, Nat.add_sub_cancel, Nat.shiftRight_eq_div_pow]
    have hpos : 0 < 2 ^ k := Nat.pow_pos (by decide)
    have hq1 : 0x10000000000000 ≤ n / 2 ^ k := by
      rw [Nat.le_div_iff_mul_le hpos]
      omega
    have hq2 : n / 2 ^ k < 0x20000000000000 := by
      rw [Nat.div_lt_iff_lt_mul hpos]
      omega
    have hdm := Nat.div_add_mod n (2 ^ k)
    have hmod := Nat.mod_lt n hpos
    generalize n / 2 ^ k = q at *
    have hr : k * 0x10000000000000 + q =
        (k + 1) * 0x10000000000000 + (q - 0x10000000000000) := by omega
    have hd : (k * 0x10000000000000 + q) / 0x10000000000000 = k + 1 := by omega
    have hu : units (k * 0x10000000000000 + q) = q * 2 ^ k := by
      rw [hr, units_of_parts (by omega) (by omega), Nat.add_sub_cancel, Nat.add_sub_cancel' hq1,
        Nat.shiftLeft_eq]
    have hs : gap (k * 0x10000000000000 + q) = 2 ^ k := by
      unfold gap
      rw [hd, Nat.add_sub_cancel]
      split
      · have : k = 0 := by omega
        subst this
        rfl
      · exact Nat.one_shiftLeft k
    rw [units_succ, hu, hs, Nat.mul_comm q]
    exact ⟨by omega, by omega⟩

end FeaturePipeline.Binary64
