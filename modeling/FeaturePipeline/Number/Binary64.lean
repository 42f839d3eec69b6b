/-! IEEE 754 doubles as bit patterns. The magnitude bits of a double, read as a natural number,
are its rank: ranks are ordered as the absolute values are. Every finite magnitude is a whole
number of units of `2^-1074`, so exact values need no fractions. -/
namespace FeaturePipeline

/-- A double, held as its 64 bits. -/
structure Binary64 where
  bits : UInt64
deriving DecidableEq

namespace Binary64

/-- The rank of infinity; it is also the first rank beyond the finite ones. -/
def infinityRank : Nat := 0x7FF0000000000000

def isNegative (x : Binary64) : Bool := decide (0x8000000000000000 ≤ x.bits.toNat)

def rank (x : Binary64) : Nat := x.bits.toNat % 0x8000000000000000

def isNaN (x : Binary64) : Bool := decide (infinityRank < x.rank)

def isInfinite (x : Binary64) : Bool := decide (x.rank = infinityRank)

def isFinite (x : Binary64) : Bool := decide (x.rank < infinityRank)

def ofRank (negative : Bool) (rank : Nat) : Binary64 :=
  ⟨.ofNat (bif negative then 0x8000000000000000 + rank else rank)⟩

def infinity (negative : Bool) : Binary64 := ofRank negative infinityRank

/-- The quiet NaN with no payload. -/
def nan (negative : Bool) : Binary64 := ofRank negative (infinityRank + 0x8000000000000)

/-- The units of `2^-1074` in the magnitude of a finite rank. Below `2^53` they are the rank
itself; above, the low 52 bits of the rank are the fraction of a 53-bit significand, which the
bits above them shift. At `infinityRank` this is `2^1024`, where the next finite binade would
start. -/
def units (rank : Nat) : Nat :=
  if rank < 0x20000000000000 then rank
  else (0x10000000000000 + rank % 0x10000000000000) <<< (rank / 0x10000000000000 - 1)

def rankBelow (n : Nat) : Nat :=
  if n < 0x20000000000000 then n
  else (n.log2 - 52) * 0x10000000000000 + (n >>> (n.log2 - 52))

/-- An integer that orders the doubles other than NaN as their values are ordered. Both zeros
have the order zero. -/
def order (x : Binary64) : Int := bif x.isNegative then -(x.rank : Int) else x.rank

/-- Less than; false as soon as one side is NaN. -/
def lt (x y : Binary64) : Bool := !x.isNaN && !y.isNaN && decide (x.order < y.order)

def le (x y : Binary64) : Bool := !x.isNaN && !y.isNaN && decide (x.order ≤ y.order)

def zero : Binary64 := ⟨0⟩

def one : Binary64 := ⟨0x3FF0000000000000⟩

def isPositive (x : Binary64) : Bool := zero.lt x

theorem toNat_bits (x : Binary64) :
    x.bits.toNat = bif x.isNegative then 0x8000000000000000 + x.rank else x.rank := by
  have h := x.bits.toNat_lt
  unfold isNegative rank
  by_cases hx : 0x8000000000000000 ≤ x.bits.toNat
  · simp only [hx, decide_true, cond_true]
    omega
  · simp only [hx, decide_false, cond_false]
    omega

theorem ofRank_isNegative_rank (x : Binary64) : ofRank x.isNegative x.rank = x := by
  rw [ofRank, ← toNat_bits]
  cases x
  simp

@[simp] theorem rank_ofRank (s : Bool) {r : Nat} (h : r < 0x8000000000000000) :
    (ofRank s r).rank = r := by
  cases s <;> simp only [ofRank, rank, cond_true, cond_false, UInt64.toNat_ofNat'] <;> omega

@[simp] theorem isNegative_ofRank (s : Bool) {r : Nat} (h : r < 0x8000000000000000) :
    (ofRank s r).isNegative = s := by
  cases s <;> simp only [ofRank, isNegative, cond_true, cond_false, UInt64.toNat_ofNat',
    decide_eq_true_eq, decide_eq_false_iff_not] <;> omega

theorem isPositive_iff (x : Binary64) :
    x.isPositive = true ↔ x.isNegative = false ∧ 0 < x.rank ∧ x.rank ≤ infinityRank := by
  have h0 : zero.order = 0 := by decide
  have hz : zero.isNaN = false := by decide
  rw [isPositive, lt, h0, hz]
  cases hs : x.isNegative with
  | false =>
    simp [order, isNaN, hs]
    omega
  | true => simp [order, isNaN, hs]

end Binary64
end FeaturePipeline
