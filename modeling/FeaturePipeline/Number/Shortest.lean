import FeaturePipeline.Number.Rounding

/-! The shortest decimal of a double. Among the grids of multiples of a power of ten the
coarsest that meets the rounding interval gives the fewest digits; of the two multiples around
the value the nearer is taken, and the greater one when both are equally near. The text has no
exponent and no point unless digits stand behind it. Main statement: the shortest decimal of a
rank is read as that rank. -/
namespace FeaturePipeline.Binary64

def finestPlaces : Nat := 324

/-- Grids are compared in parts of a half unit so small that those of the finest grid are whole. -/
def gridScale : Nat := Nat.pow 10 finestPlaces

/-- The parts in `10 ^ (j - finestPlaces)`. -/
def gridStep (j : Nat) : Nat := Nat.pow 10 j * (2 * unitsOfOne)

/-- The multiple of the grid step that stands for the rank, if one rounds to it. -/
def onGrid? (rank j : Nat) : Option Nat :=
  let value := 2 * units rank * gridScale
  let below := value / gridStep j
  let low := roundsTo (below * gridStep j) gridScale rank
  let high := roundsTo ((below + 1) * gridStep j) gridScale rank
  let highNearer := decide ((below + 1) * gridStep j - value ≤ value - below * gridStep j)
  if high && (highNearer || !low) then some (below + 1)
  else if low then some below
  else none

/-- Try the grids below the given index, the coarsest first; the result is a coefficient and the
index of its grid. -/
def coarsest (rank : Nat) : Nat → Nat × Nat
  | 0 => (0, 0)
  | j + 1 =>
    match onGrid? rank j with
    | some c => (c, j)
    | none => coarsest rank j

/-- Coefficient and exponent of the shortest decimal that rounds to the rank. No grid coarser
than `10 ^ 309` meets the interval of a finite double. -/
def shortest (rank : Nat) : Nat × Int :=
  let r := coarsest rank 634
  (r.1, (r.2 : Int) - finestPlaces)

def positional (coefficient : Nat) : Int → List Char
  | .ofNat k => Nat.toDigits 10 coefficient ++ List.replicate k '0'
  | .negSucc k =>
    let ds := Nat.toDigits 10 coefficient
    let places := k + 1
    if places < ds.length then ds.take (ds.length - places) ++ '.' :: ds.drop (ds.length - places)
    else '0' :: '.' :: List.replicate (places - ds.length) '0' ++ ds

def magnitudeText (rank : Nat) : List Char :=
  if rank = 0 then ['0']
  else
    let d := shortest rank
    positional d.1 d.2

/-- The text of a double. NaN has no sign. -/
def text (x : Binary64) : String :=
  if x.isNaN then "NaN"
  else
    let sign := if x.isNegative then ['-'] else []
    let magnitude := if x.isInfinite then "inf".toList else magnitudeText x.rank
    String.ofList (sign ++ magnitude)

theorem gridScale_pos : 0 < gridScale := by decide +kernel

theorem roundsTo_of_onGrid? {rank j c : Nat} (h : onGrid? rank j = some c) :
    roundsTo (c * gridStep j) gridScale rank = true := by
  unfold onGrid? at h
  simp only at h
  split at h
  · rename_i hc
    cases h
    simp only [Bool.and_eq_true] at hc
    exact hc.1
  · split at h
    · rename_i hc
      cases h
      exact hc
    · cases h

theorem onGrid?_zero_ne_none {rank : Nat} (h : 0 < rank) : onGrid? rank 0 ≠ none := by
  have hprev : units (rank - 1) < units rank := units_lt_units (by omega)
  have hnext : units rank < units (rank + 1) := units_lt_units (by omega)
  have hlow : roundsTo (2 * units rank * gridScale / gridStep 0 * gridStep 0) gridScale rank =
      true := by
    rw [roundsTo_iff]
    have hpos : 0 < gridStep 0 := by decide +kernel
    have hgt : gridStep 0 < gridScale := by decide +kernel
    have hdm := Nat.div_add_mod (2 * units rank * gridScale) (gridStep 0)
    have hmod := Nat.mod_lt (2 * units rank * gridScale) hpos
    rw [Nat.mul_comm (gridStep 0)] at hdm
    generalize gridStep 0 = g, gridScale = t at *
    have h1 : (units rank) * t = units (rank - 1) * t + (units rank - units (rank - 1)) * t := by
      rw [← Nat.add_mul, Nat.add_sub_cancel' (Nat.le_of_lt hprev)]
    have h2 : 1 * t ≤ (units rank - units (rank - 1)) * t := Nat.mul_le_mul_right _ (by omega)
    have h3 : units rank * t < units (rank + 1) * t :=
      Nat.mul_lt_mul_of_pos_right hnext (by omega)
    have h4 : 2 * units rank * t = 2 * (units rank * t) := Nat.mul_assoc _ _ _
    unfold lowerHalf upperHalf
    simp only [Nat.add_mul]
    exact ⟨.inl (by omega), .inl (by omega)⟩
  intro hn
  unfold onGrid? at hn
  dsimp only at hn
  rw [hlow] at hn
  split at hn
  · cases hn
  · cases hn

theorem onGrid?_coarsest {rank : Nat} (h : 0 < rank) (n : Nat) :
    onGrid? rank (coarsest rank (n + 1)).2 = some (coarsest rank (n + 1)).1 := by
  induction n with
  | zero =>
    cases hg : onGrid? rank 0 with
    | none => exact (onGrid?_zero_ne_none h hg).elim
    | some c => simp [coarsest, hg]
  | succ n ih =>
    rw [coarsest]
    cases hg : onGrid? rank (n + 1) with
    | none => exact ih
    | some c => exact hg

theorem coarsest_lt (rank n : Nat) : (coarsest rank (n + 1)).2 ≤ n := by
  induction n with
  | zero =>
    rw [coarsest]
    split <;> simp [coarsest]
  | succ n ih =>
    rw [coarsest]
    split
    · exact Nat.le_refl _
    · omega

theorem pos_of_roundsTo {num den rank : Nat} (h : roundsTo num den rank = true) (hd : 0 < den)
    (hr : 0 < rank) : 0 < num := by
  have hl : 0 < lowerHalf rank * den := by
    refine Nat.mul_pos ?_ hd
    have : units 0 < units rank := units_lt_units hr
    unfold lowerHalf
    omega
  rw [roundsTo_iff] at h
  omega

theorem pow_ten_pos (k : Nat) : 0 < Nat.pow 10 k := Nat.pow_pos (by decide)

theorem pow_ten_add (a b : Nat) : Nat.pow 10 (a + b) = Nat.pow 10 a * Nat.pow 10 b :=
  Nat.pow_add 10 a b

/-- The shortest decimal of a rank is read as that rank. -/
theorem nearestDecimal_shortest {rank : Nat} (h0 : 0 < rank) (h1 : rank < infinityRank) :
    nearestDecimal (shortest rank).1 (shortest rank).2 = rank := by
  have hr := roundsTo_of_onGrid? (onGrid?_coarsest h0 633)
  have hj := coarsest_lt rank 633
  unfold shortest
  simp only
  generalize coarsest rank 634 = d at *
  obtain ⟨c, j⟩ := d
  simp only [gridStep] at hr hj ⊢
  have hc : c ≠ 0 := by
    rintro rfl
    have := pos_of_roundsTo hr gridScale_pos h0
    rw [Nat.zero_mul] at this
    exact Nat.lt_irrefl 0 this
  have hf : finestPlaces = 324 := rfl
  by_cases hj' : finestPlaces ≤ j
  · obtain ⟨k, rfl⟩ : ∃ k, j = k + finestPlaces := ⟨j - finestPlaces, by omega⟩
    have he : ((k + finestPlaces : Nat) : Int) - finestPlaces = Int.ofNat k := by simp
    have hk : ¬400 < k := by
      clear hr
      omega
    rw [he, nearestDecimal, if_neg hc, if_neg hk, nearestRank_eq_iff (by decide) h1,
      ← roundsTo_mul_right (s := gridScale) gridScale_pos, Nat.one_mul]
    have hp : Nat.pow 10 (k + finestPlaces) = Nat.pow 10 k * gridScale := by
      simp only [gridScale, pow_ten_add]
    rw [← hr, hp]
    generalize gridScale = t, unitsOfOne = u
    exact congrArg (roundsTo · t rank) (by ac_rfl)
  · obtain ⟨k, hk⟩ : ∃ k, finestPlaces = j + (k + 1) := ⟨finestPlaces - j - 1, by omega⟩
    have he : ((j : Nat) : Int) - finestPlaces = Int.negSucc k := by
      clear hr
      omega
    have hlog : ¬c.log2 + 400 < k := by
      clear hr
      omega
    rw [he, nearestDecimal, if_neg hlog, nearestRank_eq_iff (pow_ten_pos _) h1,
      ← roundsTo_mul_right (s := Nat.pow 10 j) (pow_ten_pos j)]
    have hp : Nat.pow 10 (k + 1) * Nat.pow 10 j = gridScale := by
      rw [← pow_ten_add, Nat.add_comm, ← hk, gridScale]
    rw [← hr, hp]
    generalize gridScale = t, unitsOfOne = u
    exact congrArg (roundsTo · t rank) (by ac_rfl)

end FeaturePipeline.Binary64
