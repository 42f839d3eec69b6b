import FeaturePipeline.Number.Shortest
import FeaturePipeline.Proofs.RoundingIntervals

/-! The decimal that a double is written with. The grids of powers of ten are nested, so where the
next coarser grid misses the rounding interval all the coarser ones do. Main statement: no decimal
that rounds to a finite double has fewer digits than the one it is written with. -/
namespace FeaturePipeline.Binary64

theorem two_mul_decimalUnits (c j : Nat) : 2 * decimalUnits c ((j : ℤ) - finestPlaces) =
    ((c * gridStep j : Nat) : ℚ) / gridScale := by
  have hscale : (gridScale : ℚ) = 10 ^ finestPlaces := cast_pow_ten finestPlaces
  rw [decimalUnits_eq, hscale, gridStep, Nat.cast_mul, Nat.cast_mul, Nat.cast_mul,
    cast_pow_ten, zpow_sub₀ (by norm_num), zpow_natCast, zpow_natCast, Nat.cast_ofNat]
  ring

theorem roundsTo_gridStep_iff {c j rank : Nat} :
    roundsTo (c * gridStep j) gridScale rank = true ↔
      InInterval (decimalUnits c ((j : ℤ) - finestPlaces)) rank :=
  roundsTo_iff_inInterval gridScale_pos (two_mul_decimalUnits c j)

theorem decimalUnits_le_units_iff {c j rank : Nat} :
    decimalUnits c ((j : ℤ) - finestPlaces) ≤ units rank ↔
      c * gridStep j ≤ 2 * units rank * gridScale := by
  have hscale : (0 : ℚ) < gridScale := Nat.cast_pos.mpr gridScale_pos
  rw [← mul_le_mul_iff_right₀ two_pos, two_mul_decimalUnits, div_le_iff₀ hscale]
  norm_cast

/-- A grid that meets the interval is found to do so: of its points there, one is next to the value
of the rank itself. -/
theorem onGrid?_ne_none {c j rank : Nat}
    (h : InInterval (decimalUnits c ((j : ℤ) - finestPlaces)) rank) : onGrid? rank j ≠ none := by
  have hvalue := inInterval_units rank
  have hstep : 0 < gridStep j :=
    Nat.mul_pos (pow_ten_pos j) (by decide +kernel)
  intro hnone
  unfold onGrid? at hnone
  dsimp only at hnone
  generalize hbelow : 2 * units rank * gridScale / gridStep j = below at hnone
  have hlow : decimalUnits below ((j : ℤ) - finestPlaces) ≤ units rank := by
    rw [decimalUnits_le_units_iff, ← Nat.le_div_iff_mul_le hstep, hbelow]
  have hhigh : (units rank : ℚ) ≤ decimalUnits (below + 1) ((j : ℤ) - finestPlaces) := by
    refine le_of_not_ge fun hle => ?_
    rw [decimalUnits_le_units_iff, ← Nat.le_div_iff_mul_le hstep, hbelow] at hle
    exact Nat.not_succ_le_self below hle
  split at hnone
  · cases hnone
  · rename_i hnohigh
    split at hnone
    · cases hnone
    · rename_i hnolow
      rcases Nat.lt_or_ge below c with hc | hc
      · have hin := hvalue.convex h hhigh (decimalUnits_le_decimalUnits hc le_rfl)
        exact hnohigh (by simp [roundsTo_gridStep_iff.mpr hin, hnolow])
      · exact hnolow (roundsTo_gridStep_iff.mpr
          (h.convex hvalue (decimalUnits_le_decimalUnits hc le_rfl) hlow))

theorem le_coarsest {rank j n : Nat} (h : onGrid? rank j ≠ none) (hj : j < n) :
    j ≤ (coarsest rank n).2 := by
  induction n with
  | zero => exact absurd hj j.not_lt_zero
  | succ n ih =>
    rw [coarsest]
    cases hg : onGrid? rank n with
    | some c => exact Nat.le_of_lt_succ hj
    | none =>
      refine ih (Nat.lt_of_le_of_ne (Nat.le_of_lt_succ hj) ?_)
      rintro rfl
      exact h hg

theorem exponent_le_of_inInterval {c rank : Nat} {e : ℤ} (hc : 0 < c) (hr : rank < infinityRank)
    (h : InInterval (decimalUnits c e) rank) : e ≤ 308 := by
  by_contra he
  have hbound : upperHalf (infinityRank - 1) ≤ 2 * (Nat.pow 10 309 * unitsOfOne) := by
    decide +kernel
  have hunits : 2 * decimalUnits 1 309 = (2 * (Nat.pow 10 309 * unitsOfOne) : Nat) := by
    rw [decimalUnits_eq, Nat.cast_mul, Nat.cast_mul, cast_pow_ten, Nat.cast_one, one_mul]
    rfl
  have hle := decimalUnits_le_decimalUnits hc (show (309 : ℤ) ≤ e by omega)
  have hcast := Nat.cast_le (α := ℚ).mpr hbound
  rw [← hunits] at hcast
  exact h.not_overflow hr (by linarith)

theorem not_inInterval_of_coarser {rank c : Nat} {e : ℤ} (h1 : rank < infinityRank) (hc : 0 < c)
    (he : (shortest rank).2 < e) : ¬InInterval (decimalUnits c e) rank := by
  intro h
  have hbound := exponent_le_of_inInterval hc h1 h
  have hshortest : (shortest rank).2 = ((coarsest rank 634).2 : ℤ) - finestPlaces := rfl
  have hfinest : finestPlaces = 324 := rfl
  obtain ⟨j, hj⟩ : ∃ j : Nat, e = (j : ℤ) - finestPlaces := ⟨(e + 324).toNat, by omega⟩
  rw [hj] at h
  have hle := le_coarsest (onGrid?_ne_none h) (show j < 634 by omega)
  omega

theorem inInterval_of_nearestDecimal {c rank : Nat} {e : ℤ} (h1 : rank < infinityRank)
    (h : nearestDecimal c e = rank) : InInterval (decimalUnits c e) rank := by
  cases nearestDecimal_eq_iff.mp h with
  | finite _ h => exact h
  | overflow _ => exact absurd rfl h1.ne

/-- No decimal that rounds to the rank has fewer digits. -/
theorem length_shortest_le {rank : Nat} (h0 : 0 < rank) (h1 : rank < infinityRank) {c : Nat}
    {e : ℤ} (h : nearestDecimal c e = rank) :
    (Nat.toDigits 10 (shortest rank).1).length ≤ (Nat.toDigits 10 c).length := by
  have hin := inInterval_of_nearestDecimal h1 h
  have hshortest := inInterval_of_nearestDecimal h1 (nearestDecimal_shortest h0 h1)
  have hcoarser := fun {k e} => not_inInterval_of_coarser (c := k) (e := e) h1
  generalize (shortest rank).1 = d, (shortest rank).2 = f at *
  obtain ⟨n, hn⟩ : ∃ n, (Nat.toDigits 10 c).length = n + 1 :=
    Nat.exists_eq_succ_of_ne_zero (by simp)
  have hlength : ∀ k, (Nat.toDigits 10 k).length ≤ n + 1 ↔ k < 10 ^ (n + 1) := fun k =>
    Nat.length_toDigits_le_iff (by decide) n.succ_pos
  have hc := (hlength c).mp hn.le
  rw [hn]
  by_contra hd
  rw [hlength, not_lt] at hd
  rcases lt_or_ge f e with hfe | hef
  · refine hcoarser (Nat.pos_of_ne_zero ?_) hfe hin
    rintro rfl
    have hzero := ((nearestDecimal_eq_iff.mp h).pos_iff (decimalUnits_nonneg 0 e)).mp h0
    norm_num [decimalUnits] at hzero
  · -- The power of ten with one more digit lies in between, and it is on the next coarser grid.
    have hpower : decimalUnits (10 ^ (n + 1)) f = decimalUnits (10 ^ n) (f + 1) := by
      rw [decimalUnits, decimalUnits, zpow_add_one₀ (by norm_num)]
      push_cast
      ring
    exact hcoarser (Nat.pow_pos (by decide)) (lt_add_one f) (hpower ▸ hin.convex hshortest
      (decimalUnits_le_decimalUnits hc.le hef) (decimalUnits_le_decimalUnits hd le_rfl))

end FeaturePipeline.Binary64
