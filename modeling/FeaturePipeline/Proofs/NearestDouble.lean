import FeaturePipeline.Proofs.LiteralGrammar
import FeaturePipeline.Proofs.RoundingIntervals

/-! Doubles as rational numbers. The value of a double is read off the fields of its bits, and the
nearest double is said in terms of distances alone. Main statement: the double that a literal is
rounded to is the nearest one, with ties to even, and beyond all finite doubles infinity. -/
namespace FeaturePipeline.Binary64

/-- The value of a magnitude. The low 52 bits of the rank are the fraction, the bits above them the
exponent; with an exponent there is one more bit in front of the fraction. -/
def magnitude (rank : Nat) : ℚ :=
  if rank / 0x10000000000000 = 0 then (rank % 0x10000000000000 : Nat) * 2 ^ (-1074 : ℤ)
  else (0x10000000000000 + rank % 0x10000000000000 : Nat) *
    2 ^ ((rank / 0x10000000000000 : Nat) - 1075 : ℤ)

/-- A magnitude behind a sign; true is minus. -/
def signed (negative : Bool) (q : ℚ) : ℚ := if negative then -q else q

def value (x : Binary64) : ℚ := signed x.isNegative (magnitude x.rank)

/-- Half way from the greatest finite double to the next power of two. -/
def overflowBound : ℚ := 2 ^ 1024 - 2 ^ 970

/-- The double nearest to a number. Of two that are equally near the one whose last bit is zero is
taken, and numbers from the bound on go to infinity. -/
inductive Nearest (q : ℚ) (x : Binary64) : Prop where
  | overflow (hq : overflowBound ≤ |q|) (hx : x.isInfinite = true)
  | finite (hq : |q| < overflowBound) (hx : x.isFinite = true)
    (hn : ∀ y : Binary64, y.isFinite = true → |q - x.value| ≤ |q - y.value|)
    (ht : ∀ y : Binary64, y.isFinite = true → y.value ≠ x.value →
      |q - y.value| = |q - x.value| → x.bits.toNat % 2 = 0)

theorem magnitude_eq (rank : Nat) : magnitude rank = units rank * unit := by
  have hf : rank % 0x10000000000000 < 0x10000000000000 := Nat.mod_lt _ (by decide)
  have hrank : rank / 0x10000000000000 * 0x10000000000000 + rank % 0x10000000000000 = rank :=
    Nat.div_add_mod' rank 0x10000000000000
  unfold magnitude
  generalize rank / 0x10000000000000 = e, rank % 0x10000000000000 = f at *
  subst hrank
  split
  · rename_i he
    subst he
    rw [units_of_small (by omega), Nat.zero_mul, Nat.zero_add]
    exact rfl
  · rename_i he
    obtain ⟨k, rfl⟩ := Nat.exists_eq_succ_of_ne_zero he
    have hexponent : ((k.succ : Nat) : ℤ) - 1075 = (k : ℤ) + (-1074) := by
      push_cast
      ring
    rw [units_of_parts (by omega) hf, Nat.succ_sub_one, Nat.shiftLeft_eq, hexponent,
      zpow_add₀ (by norm_num), zpow_natCast, unit]
    push_cast
    ring

section Signs

variable {a b : ℚ}

theorem abs_signed (s : Bool) (ha : 0 ≤ a) : |signed s a| = a := by
  cases s with
  | false => exact abs_of_nonneg ha
  | true => exact (abs_neg a).trans (abs_of_nonneg ha)

theorem abs_signed_sub (s : Bool) (a b : ℚ) : |signed s a - signed s b| = |a - b| := by
  cases s with
  | false => rfl
  | true =>
    have hneg : -a - -b = -(a - b) := by ring
    rw [signed, signed, if_pos rfl, if_pos rfl, hneg, abs_neg]

theorem abs_signed_sub_not (s : Bool) (ha : 0 ≤ a) (hb : 0 ≤ b) :
    |signed s a - signed (!s) b| = a + b := by
  cases s with
  | false =>
    have hsum : signed false a - signed (!false) b = a + b := sub_neg_eq_add a b
    rw [hsum, abs_of_nonneg (add_nonneg ha hb)]
  | true =>
    have hsum : signed true a - signed (!true) b = -(a + b) := (neg_add' a b).symm
    rw [hsum, abs_neg, abs_of_nonneg (add_nonneg ha hb)]

end Signs

theorem value_eq (x : Binary64) : x.value = signed x.isNegative (units x.rank * unit) := by
  rw [value, magnitude_eq]

theorem value_pos_iff {x : Binary64} : 0 < x.value ↔ x.isNegative = false ∧ 0 < x.rank := by
  have hunits : 0 < (units x.rank : ℚ) * unit ↔ 0 < x.rank := by
    rw [mul_pos_iff_of_pos_right unit_pos, Nat.cast_pos, ← not_le, ← not_le]
    exact not_congr (units_le_units_iff (b := 0))
  rw [value_eq]
  cases x.isNegative with
  | false => exact hunits.trans (and_iff_right rfl).symm
  | true =>
    have hpos : (0 : ℚ) ≤ units x.rank * unit := mul_nonneg (Nat.cast_nonneg _) unit_pos.le
    simpa [signed] using hpos

theorem abs_units_sub (u : ℚ) (rank : Nat) :
    |u * unit - units rank * unit| = |u - units rank| * unit := by
  rw [← sub_mul, abs_mul, abs_of_pos unit_pos]

theorem distance_same {u : ℚ} {s : Bool} {y : Binary64} (hs : y.isNegative = s) :
    |signed s (u * unit) - y.value| = |u - units y.rank| * unit := by
  rw [value_eq, hs, abs_signed_sub, abs_units_sub]

theorem distance_other {u : ℚ} {s : Bool} {y : Binary64} (hs : y.isNegative = !s) (hu : 0 ≤ u) :
    |signed s (u * unit) - y.value| = (u + units y.rank) * unit := by
  have hunit := unit_pos.le
  rw [value_eq, hs, abs_signed_sub_not s (mul_nonneg hu hunit)
    (mul_nonneg (Nat.cast_nonneg _) hunit), add_mul]

theorem bits_mod_two (x : Binary64) : x.bits.toNat % 2 = x.rank % 2 := by
  rw [rank, Nat.mod_mod_of_dvd _ (by decide)]

theorem overflowBound_eq : 2 * overflowBound = upperHalf (infinityRank - 1) * unit := by
  have hunits : upperHalf (infinityRank - 1) + Nat.pow 2 2045 = Nat.pow 2 2099 := by
    decide +kernel
  have hpow : ∀ k, ((Nat.pow 2 k : Nat) : ℚ) = 2 ^ (k : ℤ) := fun k =>
    (Nat.cast_pow 2 k).trans (zpow_natCast 2 k).symm
  have hcast := congrArg (Nat.cast (R := ℚ)) hunits
  rw [Nat.cast_add, hpow, hpow] at hcast
  rw [eq_sub_of_add_eq hcast, unit, sub_mul, ← zpow_add₀ two_ne_zero, ← zpow_add₀ two_ne_zero,
    overflowBound, mul_sub, ← pow_succ', ← pow_succ']
  norm_num

theorem NearestUnits.le {u : ℚ} {rank : Nat} (h : NearestUnits u rank) (hu : 0 ≤ u) :
    |u - units rank| ≤ u := by
  have hzero : u - units 0 = u := sub_zero u
  have hle := h.nearest 0 zero_lt_infinityRank
  rwa [hzero, abs_of_nonneg hu] at hle

section Finite

variable {u : ℚ} {s : Bool} {x : Binary64}

/-- Doubles of the other sign lie beyond zero and cannot be nearer. -/
theorem NearestUnits.distance_le (h : NearestUnits u x.rank) (hu : 0 ≤ u)
    (hs : x.isNegative = s) {y : Binary64} (hy : y.isFinite = true) :
    |signed s (u * unit) - x.value| ≤ |signed s (u * unit) - y.value| := by
  rw [distance_same hs]
  by_cases hsame : y.isNegative = s
  · rw [distance_same hsame]
    exact mul_le_mul_of_nonneg_right (h.nearest _ (of_decide_eq_true hy)) unit_pos.le
  · rw [distance_other (Bool.eq_not_of_ne hsame) hu]
    refine mul_le_mul_of_nonneg_right ((h.le hu).trans ?_) unit_pos.le
    exact le_add_of_nonneg_right (Nat.cast_nonneg _)

theorem NearestUnits.even_of_tie (h : NearestUnits u x.rank) (hu : 0 ≤ u)
    (hs : x.isNegative = s) {y : Binary64} (hy : y.isFinite = true) (hne : y.value ≠ x.value)
    (heq : |signed s (u * unit) - y.value| = |signed s (u * unit) - x.value|) :
    x.rank % 2 = 0 := by
  rw [distance_same hs] at heq
  by_cases hsame : y.isNegative = s
  · rw [distance_same hsame] at heq
    refine h.tie y.rank (of_decide_eq_true hy) ?_ (mul_right_cancel₀ unit_pos.ne' heq)
    intro hrank
    exact hne (by rw [value_eq, value_eq, hsame, hs, hrank])
  · -- A tie across zero is one with zero itself.
    rw [distance_other (Bool.eq_not_of_ne hsame) hu] at heq
    have hsum := mul_right_cancel₀ unit_pos.ne' heq
    have hle := h.le hu
    have hpos : (0 : ℚ) ≤ units y.rank := Nat.cast_nonneg _
    have hzero : (units y.rank : ℚ) = 0 := by linarith
    have hu0 : u - units 0 = u := sub_zero u
    refine h.tie 0 zero_lt_infinityRank ?_ ?_
    · intro hrank
      have hx : (units x.rank : ℚ) = 0 := by rw [← hrank]; exact Nat.cast_zero
      refine hne ?_
      rw [value_eq, value_eq, hzero, hx, zero_mul]
      cases y.isNegative <;> cases x.isNegative <;> simp [signed]
    · rw [hu0, abs_of_nonneg hu]
      linarith

theorem rank_eq_of_value_eq {y : Binary64} (hx : x.isNegative = s) (hy : y.isNegative = s)
    (h : y.value = x.value) : y.rank = x.rank := by
  have hsigned : ∀ a b : ℚ, signed s a = signed s b → a = b := by
    intro a b
    cases s with
    | false => exact id
    | true => exact neg_inj.mp
  rw [value_eq, value_eq, hx, hy] at h
  have hunits := Nat.cast_injective (mul_right_cancel₀ unit_pos.ne' (hsigned _ _ h))
  exact Nat.le_antisymm (units_le_units_iff.mp hunits.le) (units_le_units_iff.mp hunits.ge)

theorem nearestUnits_of_distance (hs : x.isNegative = s)
    (hn : ∀ y : Binary64, y.isFinite = true →
      |signed s (u * unit) - x.value| ≤ |signed s (u * unit) - y.value|)
    (ht : ∀ y : Binary64, y.isFinite = true → y.value ≠ x.value →
      |signed s (u * unit) - y.value| = |signed s (u * unit) - x.value| → x.bits.toNat % 2 = 0) :
    NearestUnits u x.rank := by
  have hof : ∀ k < infinityRank, ∃ y : Binary64, y.isNegative = s ∧ y.rank = k ∧
      y.isFinite = true := by
    intro k hk
    have hrank := rank_ofRank s (hk.trans infinityRank_lt)
    refine ⟨ofRank s k, isNegative_ofRank s (hk.trans infinityRank_lt), hrank, ?_⟩
    rw [isFinite, hrank]
    exact decide_eq_true hk
  constructor
  · intro k hk
    obtain ⟨y, hys, rfl, hyf⟩ := hof k hk
    have hle := hn y hyf
    rw [distance_same hs, distance_same hys] at hle
    exact le_of_mul_le_mul_right hle unit_pos
  · intro k hk hne heq
    obtain ⟨y, hys, rfl, hyf⟩ := hof k hk
    rw [← bits_mod_two]
    refine ht y hyf (fun hvalue => hne (rank_eq_of_value_eq hs hys hvalue)) ?_
    rw [distance_same hs, distance_same hys, heq]

/-- A number behind the sign of a double is nearest to it when its units round to the rank. -/
theorem nearest_iff (hu : 0 ≤ u) (hs : x.isNegative = s) :
    Nearest (signed s (u * unit)) x ↔ RoundsToRank u x.rank := by
  have habs : |signed s (u * unit)| = u * unit := abs_signed s (mul_nonneg hu unit_pos.le)
  have hbound : overflowBound ≤ u * unit ↔ (upperHalf (infinityRank - 1) : ℚ) ≤ 2 * u := by
    rw [← mul_le_mul_iff_right₀ two_pos, overflowBound_eq, ← mul_assoc,
      mul_le_mul_iff_left₀ unit_pos]
  constructor
  · intro h
    cases h with
    | overflow hq hx =>
      rw [habs, hbound] at hq
      have hrank : x.rank = infinityRank := of_decide_eq_true hx
      rw [hrank]
      exact .overflow hq
    | finite hq hx hn ht =>
      rw [habs, ← not_le, hbound, not_le] at hq
      have hr : x.rank < infinityRank := of_decide_eq_true hx
      exact .finite hr ((nearestUnits_of_distance hs hn ht).inInterval hu hr hq)
  · intro h
    generalize hrank : x.rank = rank at h
    cases h with
    | overflow h =>
      refine .overflow ?_ (decide_eq_true hrank)
      rwa [habs, hbound]
    | finite hr h =>
      subst hrank
      have hunits := h.nearestUnits
      refine .finite ?_ (decide_eq_true hr) (fun y hy => hunits.distance_le hu hs hy) ?_
      · rw [habs, ← not_le, hbound]
        exact h.not_overflow hr
      · intro y hy hne heq
        rw [bits_mod_two]
        exact hunits.even_of_tie hu hs hy hne heq

end Finite

theorem eq_ofRank_iff {x : Binary64} {s : Bool} {r : Nat} (hr : r < 0x8000000000000000) :
    x = ofRank s r ↔ x.isNegative = s ∧ x.rank = r := by
  constructor
  · rintro rfl
    exact ⟨isNegative_ofRank s hr, rank_ofRank s hr⟩
  · rintro ⟨rfl, rfl⟩
    exact (ofRank_isNegative_rank x).symm

end FeaturePipeline.Binary64

namespace FeaturePipeline.Literal

open Binary64

/-- The double that a literal denotes. The sign is kept on a zero and on a NaN. -/
inductive Denotes : Literal → Binary64 → Prop where
  | infinity {negative : Bool} {x : Binary64} (hs : x.isNegative = negative)
    (hx : x.isInfinite = true) : Denotes (.infinity negative) x
  | nan {negative : Bool} {x : Binary64} (hs : x.isNegative = negative) (hx : x.isNaN = true)
    (hq : x.rank = infinityRank + 0x8000000000000) : Denotes (.nan negative) x
  | decimal {negative : Bool} {coefficient : Nat} {exponent : ℤ} {x : Binary64}
    (hs : x.isNegative = negative)
    (hx : Nearest (signed negative (coefficient * 10 ^ exponent)) x) :
    Denotes (.decimal negative coefficient exponent) x

/-- The exact value of digits in front of a point and behind it, with an exponent. -/
def decimalValue (ds fs : List Char) (e : ℤ) : ℚ :=
  (digitsValue ds + digitsValue fs / 10 ^ fs.length) * 10 ^ e

theorem decimalValue_eq (ds fs : List Char) (e : ℤ) :
    decimalValue ds fs e = digitsValue (ds ++ fs) * 10 ^ (e - fs.length) := by
  have hpow : (10 : ℚ) ^ fs.length ≠ 0 := by positivity
  rw [decimalValue, digitsValue_append, zpow_sub₀ (by norm_num), zpow_natCast, Nat.cast_add,
    Nat.cast_mul, cast_pow_ten, mul_div_left_comm, mul_comm (10 ^ e), add_div,
    mul_div_cancel_left₀ _ hpow]

theorem eq_toBinary64_iff {l : Literal} {x : Binary64} : x = l.toBinary64 ↔ l.Denotes x := by
  cases l with
  | infinity s =>
    rw [toBinary64, Binary64.infinity, eq_ofRank_iff infinityRank_lt]
    constructor
    · rintro ⟨hs, hr⟩
      exact .infinity hs (decide_eq_true hr)
    · rintro ⟨hs, hx⟩
      exact ⟨hs, of_decide_eq_true hx⟩
  | nan s =>
    rw [toBinary64, Binary64.nan, eq_ofRank_iff (by decide)]
    constructor
    · rintro ⟨hs, hr⟩
      refine .nan hs ?_ hr
      rw [isNaN, hr]
      decide
    · intro h
      cases h with
      | nan hs _ hq => exact ⟨hs, hq⟩
  | decimal s c e =>
    have hround : x.isNegative = s →
        (Nearest (signed s (c * 10 ^ e)) x ↔ x.rank = nearestDecimal c e) := by
      intro hs
      rw [← decimalUnits_mul_unit, nearest_iff (decimalUnits_nonneg c e) hs,
        ← nearestDecimal_eq_iff, eq_comm]
    rw [toBinary64, eq_ofRank_iff (nearestDecimal_lt c e)]
    constructor
    · rintro ⟨hs, hr⟩
      exact .decimal hs ((hround hs).mpr hr)
    · intro h
      cases h with
      | decimal hs hx => exact ⟨hs, (hround hs).mp hx⟩

theorem denotes_toBinary64 (l : Literal) : l.Denotes l.toBinary64 := eq_toBinary64_iff.mp rfl

inductive Bounded : Literal → Prop where
  | decimal {negative : Bool} {coefficient : Nat} {exponent : ℤ}
    (h : coefficient * 10 ^ exponent < overflowBound) :
    Bounded (.decimal negative coefficient exponent)

/-- Infinity, or a decimal that does not vanish: more than half of the least positive double. -/
inductive Positive : Literal → Prop where
  | infinity : Positive (.infinity false)
  | decimal {coefficient : Nat} {exponent : ℤ} (h : unit < 2 * (coefficient * 10 ^ exponent)) :
    Positive (.decimal false coefficient exponent)

section Decimals

variable (c : Nat) (e : ℤ)

theorem nearestDecimal_lt_infinityRank_iff :
    nearestDecimal c e < infinityRank ↔ (c : ℚ) * 10 ^ e < overflowBound := by
  rw [(roundsToRank_nearestDecimal c e).lt_infinityRank_iff, ← mul_lt_mul_iff_left₀ unit_pos,
    mul_assoc, decimalUnits_mul_unit, ← overflowBound_eq, mul_lt_mul_iff_right₀ two_pos]

theorem nearestDecimal_pos_iff : 0 < nearestDecimal c e ↔ unit < 2 * ((c : ℚ) * 10 ^ e) := by
  rw [(roundsToRank_nearestDecimal c e).pos_iff (decimalUnits_nonneg c e),
    ← mul_lt_mul_iff_left₀ unit_pos, one_mul, mul_assoc, decimalUnits_mul_unit]

end Decimals

theorem isFinite_toBinary64_iff {l : Literal} : l.toBinary64.isFinite = true ↔ l.Bounded := by
  cases l with
  | infinity s =>
    refine iff_of_false ?_ (fun h => nomatch h)
    cases s <;> decide
  | nan s =>
    refine iff_of_false ?_ (fun h => nomatch h)
    cases s <;> decide
  | decimal s c e =>
    rw [toBinary64, isFinite, rank_ofRank s (nearestDecimal_lt c e), decide_eq_true_iff,
      nearestDecimal_lt_infinityRank_iff]
    constructor
    · exact .decimal
    · rintro ⟨h⟩
      exact h

theorem isPositive_toBinary64_iff {l : Literal} :
    l.toBinary64.isPositive = true ↔ l.Positive := by
  cases l with
  | infinity s =>
    cases s with
    | false => exact iff_of_true (by decide) .infinity
    | true => exact iff_of_false (by decide) (fun h => nomatch h)
  | nan s =>
    refine iff_of_false ?_ (fun h => nomatch h)
    cases s <;> decide
  | decimal s c e =>
    rw [toBinary64, isPositive_iff, rank_ofRank s (nearestDecimal_lt c e),
      isNegative_ofRank s (nearestDecimal_lt c e), nearestDecimal_pos_iff]
    constructor
    · rintro ⟨rfl, h, -⟩
      exact .decimal h
    · intro h
      cases h with
      | decimal h => exact ⟨rfl, h, nearestDecimal_le c e⟩

end FeaturePipeline.Literal
