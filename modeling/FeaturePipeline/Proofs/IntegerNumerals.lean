import FeaturePipeline.Number.Integer
import FeaturePipeline.Proofs.LiteralGrammar

/-! The grammar of integer texts: decimal digits behind an optional sign, with any number of zeros
in front. Main statement: the reader takes exactly the texts of this grammar whose value is within
its bounds, and reads that value. -/
namespace FeaturePipeline

section Mapped

variable {ε ε' α β : Type} {x : Except ε α}

theorem map_eq_ok_iff {f : α → β} {b : β} : x.map f = .ok b ↔ ∃ a, x = .ok a ∧ f a = b := by
  cases x <;> simp [Except.map]

theorem mapError_eq_ok_iff {f : ε → ε'} {a : α} : x.mapError f = .ok a ↔ x = .ok a := by
  cases x <;> simp [Except.mapError]

end Mapped

namespace Integer

/-- Decimal digits behind an optional sign, and their value. A minus stands only before the digits
of a signed number. -/
inductive Numeral (signed : Bool) : List Char → Int → Prop where
  | plain {ds : List Char} (hd : Digits ds) (hne : ds ≠ []) :
    Numeral signed ds (Literal.digitsValue ds)
  | plus {ds : List Char} (hd : Digits ds) (hne : ds ≠ []) :
    Numeral signed ('+' :: ds) (Literal.digitsValue ds)
  | minus {ds : List Char} (hs : signed = true) (hd : Digits ds) (hne : ds ≠ []) :
    Numeral signed ('-' :: ds) (-Literal.digitsValue ds)

variable {limit n : Nat} {excess : Fault} {cs : List Char}

theorem scan_of_digits (excess : Fault) (hd : Digits cs) :
    ∀ {value : Nat}, Nat.ofDigitChars 10 cs value ≤ limit →
      scan limit excess value cs = .ok (Nat.ofDigitChars 10 cs value) := by
  induction cs with
  | nil => exact fun _ => rfl
  | cons c cs ih =>
    intro value hle
    obtain ⟨hc, hcs⟩ := List.forall_mem_cons.mp hd
    rw [Nat.ofDigitChars_cons] at hle
    have hgrows := @Nat.ofDigitChars_eq_ofDigitChars_zero cs
      (10 * value + (c.toNat - '0'.toNat))
    have hpos : 0 < 10 ^ cs.length := Nat.pow_pos (by decide)
    have hnext : 10 * value + (c.toNat - '0'.toNat) ≤ limit := by
      have hmul := Nat.le_mul_of_pos_left (10 * value + (c.toNat - '0'.toNat)) hpos
      omega
    rw [scan, if_pos hc, if_neg (by omega), ih hcs hle, Nat.ofDigitChars_cons]

theorem digits_of_scan {value : Nat} (h : scan limit excess value cs = .ok n) :
    Digits cs ∧ Nat.ofDigitChars 10 cs value = n := by
  induction cs generalizing value with
  | nil =>
    cases h
    exact ⟨List.forall_mem_nil _, rfl⟩
  | cons c cs ih =>
    rw [scan] at h
    split at h
    · rename_i hc
      dsimp only at h
      split at h
      · cases h
      · obtain ⟨hcs, hvalue⟩ := ih h
        exact ⟨List.forall_mem_cons.mpr ⟨hc, hcs⟩, hvalue⟩
    · cases h

theorem magnitude_eq_ok_iff : magnitude limit excess cs = .ok n ↔
    cs ≠ [] ∧ Digits cs ∧ Literal.digitsValue cs = n ∧ n ≤ limit := by
  rw [magnitude]
  split
  · simp [*]
  · rename_i hne
    refine ⟨fun h => ?_, fun ⟨_, hd, hvalue, hn⟩ => ?_⟩
    · obtain ⟨hd, hvalue⟩ := digits_of_scan h
      exact ⟨hne, hd, hvalue, scan_le (Nat.zero_le _) h⟩
    · subst hvalue
      exact scan_of_digits excess hd hn

theorem readNat_of_digits (hd : Digits cs) (hne : cs ≠ []) :
    readNat limit cs = magnitude limit .tooLarge cs := by
  unfold readNat
  split
  · exact absurd rfl hne
  · cases hd '+' List.mem_cons_self
  · rfl

theorem readInt_of_digits {least greatest : Nat} (hd : Digits cs) (hne : cs ≠ []) :
    readInt least greatest cs = (magnitude greatest .tooLarge cs).map Int.ofNat := by
  unfold readInt
  split
  · exact absurd rfl hne
  · cases hd '-' List.mem_cons_self
  · cases hd '+' List.mem_cons_self
  · rfl

theorem readNat_eq_ok_iff : readNat limit cs = .ok n ↔ Numeral false cs n ∧ n ≤ limit := by
  constructor
  · intro h
    unfold readNat at h
    split at h
    · cases h
    · obtain ⟨hne, hd, rfl, hn⟩ := magnitude_eq_ok_iff.mp h
      exact ⟨.plus hd hne, hn⟩
    · obtain ⟨hne, hd, rfl, hn⟩ := magnitude_eq_ok_iff.mp h
      exact ⟨.plain hd hne, hn⟩
  · rintro ⟨hnum, hn⟩
    generalize hz : (n : Int) = z at hnum
    cases hnum with
    | plain hd hne =>
      rw [readNat_of_digits hd hne]
      exact magnitude_eq_ok_iff.mpr ⟨hne, hd, by omega, hn⟩
    | plus hd hne => exact magnitude_eq_ok_iff.mpr ⟨hne, hd, by omega, hn⟩
    | minus hs => cases hs

theorem map_magnitude_eq_ok_iff {f : Nat → Int} {z : Int} :
    (magnitude limit excess cs).map f = .ok z ↔
      cs ≠ [] ∧ Digits cs ∧ Literal.digitsValue cs ≤ limit ∧ f (Literal.digitsValue cs) = z := by
  rw [map_eq_ok_iff]
  constructor
  · rintro ⟨n, hm, rfl⟩
    obtain ⟨hne, hd, rfl, hn⟩ := magnitude_eq_ok_iff.mp hm
    exact ⟨hne, hd, hn, rfl⟩
  · rintro ⟨hne, hd, hn, hz⟩
    exact ⟨_, magnitude_eq_ok_iff.mpr ⟨hne, hd, rfl, hn⟩, hz⟩

theorem readInt_eq_ok_iff {least greatest : Nat} {z : Int} : readInt least greatest cs = .ok z ↔
    Numeral true cs z ∧ -(least : Int) ≤ z ∧ z ≤ greatest := by
  constructor
  · intro h
    unfold readInt at h
    split at h
    · cases h
    · obtain ⟨hne, hd, hn, rfl⟩ := map_magnitude_eq_ok_iff.mp h
      exact ⟨.minus rfl hd hne, by omega, by omega⟩
    · obtain ⟨hne, hd, hn, rfl⟩ := map_magnitude_eq_ok_iff.mp h
      exact ⟨.plus hd hne, by simp, by simpa using hn⟩
    · obtain ⟨hne, hd, hn, rfl⟩ := map_magnitude_eq_ok_iff.mp h
      exact ⟨.plain hd hne, by simp, by simpa using hn⟩
  · rintro ⟨hnum, hlow, hhigh⟩
    cases hnum with
    | plain hd hne =>
      rw [readInt_of_digits hd hne]
      exact map_magnitude_eq_ok_iff.mpr ⟨hne, hd, by omega, rfl⟩
    | plus hd hne => exact map_magnitude_eq_ok_iff.mpr ⟨hne, hd, by omega, rfl⟩
    | minus _ hd hne => exact map_magnitude_eq_ok_iff.mpr ⟨hne, hd, by omega, rfl⟩

namespace Numeral

theorem nonneg {z : Int} (h : Numeral false cs z) : 0 ≤ z := by
  cases h with
  | plain | plus => exact Int.natCast_nonneg _
  | minus hs => cases hs

theorem of_unsigned {z : Int} (h : Numeral false cs z) : Numeral true cs z := by
  cases h with
  | plain hd hne => exact .plain hd hne
  | plus hd hne => exact .plus hd hne
  | minus hs => cases hs

/-- A text has one value at most: it is read within any bounds that are wide enough. -/
theorem unique {signed : Bool} {y z : Int} (hy : Numeral signed cs y) (hz : Numeral signed cs z) :
    y = z := by
  have hsigned : ∀ {x : Int}, Numeral signed cs x → Numeral true cs x := by
    cases signed with
    | false => exact of_unsigned
    | true => exact id
  have hreads : ∀ {x : Int}, x.natAbs ≤ y.natAbs + z.natAbs → Numeral signed cs x →
      readInt (y.natAbs + z.natAbs) (y.natAbs + z.natAbs) cs = .ok x := fun hx h =>
    readInt_eq_ok_iff.mpr ⟨hsigned h, by omega, by omega⟩
  have hread := hreads (Nat.le_add_right _ _) hy
  rw [hreads (Nat.le_add_left _ _) hz] at hread
  exact (Except.ok.inj hread).symm

end Numeral

section Bounded

variable {s : String}

/-- What a type holds is within its bounds, so that the numeral alone decides. -/
theorem readUInt64_eq_ok_iff {n : UInt64} :
    readUInt64 s = .ok n ↔ Numeral false s.toList n.toNat := by
  have hn : n.toNat ≤ 0xFFFFFFFFFFFFFFFF := Nat.le_of_lt_succ n.toNat_lt
  rw [readUInt64, map_eq_ok_iff]
  constructor
  · rintro ⟨m, hm, rfl⟩
    obtain ⟨hnum, hle⟩ := readNat_eq_ok_iff.mp hm
    rwa [UInt64.toNat_ofNat_of_lt' (Nat.lt_succ_of_le hle)]
  · intro h
    exact ⟨_, readNat_eq_ok_iff.mpr ⟨h, hn⟩, UInt64.ofNat_toNat⟩

theorem readInt32_eq_ok_iff {i : Int32} :
    readInt32 s = .ok i ↔ Numeral true s.toList i.toInt := by
  have hlow : -0x80000000 ≤ i.toInt := i.le_toInt
  have hhigh : i.toInt < 0x80000000 := i.toInt_lt
  rw [readInt32, map_eq_ok_iff]
  constructor
  · rintro ⟨z, hz, rfl⟩
    obtain ⟨hnum, hlow, hhigh⟩ := readInt_eq_ok_iff.mp hz
    rwa [Int32.toInt_ofInt_of_le (by simpa using hlow) (by omega)]
  · intro h
    exact ⟨_, readInt_eq_ok_iff.mpr ⟨h, by omega, by omega⟩, Int32.ofInt_toInt i⟩

theorem exists_readUInt64 {z : Int} (h : Numeral false s.toList z) (hz : z ≤ 18446744073709551615) :
    ∃ n, readUInt64 s = .ok n ∧ (n.toNat : Int) = z := by
  obtain ⟨m, rfl⟩ := Int.eq_ofNat_of_zero_le h.nonneg
  have hm : (UInt64.ofNat m).toNat = m := UInt64.toNat_ofNat_of_lt' (by simp [UInt64.size]; omega)
  exact ⟨.ofNat m, readUInt64_eq_ok_iff.mpr (by rwa [hm]), by rw [hm]⟩

theorem exists_readInt32 {z : Int} (h : Numeral true s.toList z) (hlow : -2147483648 ≤ z)
    (hhigh : z ≤ 2147483647) : ∃ i, readInt32 s = .ok i ∧ i.toInt = z := by
  have hi : (Int32.ofInt z).toInt = z := Int32.toInt_ofInt_of_le hlow (by omega)
  exact ⟨.ofInt z, readInt32_eq_ok_iff.mpr (by rwa [hi]), hi⟩

end Bounded

end Integer
end FeaturePipeline
