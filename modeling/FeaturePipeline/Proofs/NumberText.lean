import FeaturePipeline.Number.Shortest
import FeaturePipeline.Proofs.IntegerNumerals
import FeaturePipeline.Proofs.RoundingIntervals

/-! Numbers and their texts. Main statement: the text that is written for an integer or a double is
read as that number, bit for bit. -/
namespace FeaturePipeline

namespace Digits

theorem toDigits (n : Nat) : Digits (Nat.toDigits 10 n) :=
  fun _ hc => Nat.isDigit_of_mem_toDigits (by decide) (by decide) hc

theorem zeros (k : Nat) : Digits (List.replicate k '0') := by
  intro c hc
  rw [List.eq_of_mem_replicate hc]
  rfl

end Digits

namespace Literal

theorem digitsValue_toDigits (n : Nat) : digitsValue (Nat.toDigits 10 n) = n :=
  Nat.ofDigitChars_ten_toDigits

theorem digitsValue_zeros (k : Nat) : digitsValue (List.replicate k '0') = 0 := by
  have hzeros : digitsValue (List.replicate k '0') = 10 ^ k * 0 := Nat.ofDigitChars_replicate_zero
  rw [hzeros, Nat.mul_zero]

theorem digitsValue_append_zeros (cs : List Char) (k : Nat) :
    digitsValue (cs ++ List.replicate k '0') = digitsValue cs * Nat.pow 10 k := by
  rw [digitsValue_append, digitsValue_zeros, List.length_replicate, Nat.add_zero, Nat.mul_comm]

theorem digitsValue_zeros_append (k : Nat) (cs : List Char) :
    digitsValue (List.replicate k '0' ++ cs) = digitsValue cs := by
  rw [digitsValue_append, digitsValue_zeros, Nat.mul_zero, Nat.zero_add]

end Literal

namespace Integer

theorem toList_repr (n : Nat) : n.repr.toList = Nat.toDigits 10 n := by
  rw [Nat.repr_eq_ofList_toDigits, String.toList_ofList]

theorem numeral_repr (signed : Bool) (n : Nat) : Numeral signed n.repr.toList n := by
  have hnum : Numeral signed (Nat.toDigits 10 n) _ :=
    .plain (Digits.toDigits n) Nat.toDigits_ne_nil
  rwa [Literal.digitsValue_toDigits, ← toList_repr] at hnum

theorem numeral_minus_repr (n : Nat) : Numeral true ('-' :: n.repr.toList) (-(n : Int)) := by
  have hnum := Numeral.minus rfl (Digits.toDigits n) Nat.toDigits_ne_nil
  rwa [Literal.digitsValue_toDigits, ← toList_repr] at hnum

theorem readUInt64_repr (n : UInt64) : readUInt64 n.toNat.repr = .ok n :=
  readUInt64_eq_ok_iff.mpr (numeral_repr false n.toNat)

theorem readInt32_repr (i : Int32) : readInt32 i.toInt.repr = .ok i := by
  rw [readInt32_eq_ok_iff]
  cases i.toInt with
  | ofNat n => exact numeral_repr true n
  | negSucc n =>
    rw [Int.repr, String.toList_append]
    exact numeral_minus_repr (n + 1)

end Integer

namespace Binary64

open Literal

/-- Written out in full a decimal is a mantissa. Zeros at its end raise the coefficient, and each
digit behind the point lowers the exponent. -/
theorem mantissa_positional (c : Nat) (e : Int) : ∃ ds fs k,
    Mantissa (positional c e) ds fs ∧ ds ++ fs ≠ [] ∧
      digitsValue (ds ++ fs) = c * Nat.pow 10 k ∧ e = (k : Int) - fs.length := by
  have hd := Digits.toDigits c
  have hvalue := digitsValue_toDigits c
  cases e with
  | ofNat k =>
    rw [positional]
    refine ⟨_, [], k, .whole (hd.append (Digits.zeros k)), by simp, ?_, by simp⟩
    rw [List.append_nil, digitsValue_append_zeros, hvalue]
  | negSucc k =>
    have hpoint : ∀ {ds fs : List Char}, Digits ds → Digits fs → fs.length = k + 1 →
        digitsValue (ds ++ fs) = c → ∃ ds' fs' k', Mantissa (ds ++ '.' :: fs) ds' fs' ∧
          ds' ++ fs' ≠ [] ∧ digitsValue (ds' ++ fs') = c * Nat.pow 10 k' ∧
            Int.negSucc k = (k' : Int) - fs'.length := by
      intro ds fs hds hfs hlength hall
      have hne : ds ++ fs ≠ [] := List.append_ne_nil_of_right_ne_nil _ (by
        rintro rfl
        cases hlength)
      exact ⟨ds, fs, 0, .point hds hfs, hne, by rw [hall]; exact (Nat.mul_one c).symm, by omega⟩
    simp only [positional]
    generalize Nat.toDigits 10 c = ds at *
    split
    · rename_i hk
      refine hpoint (fun x hx => hd x (List.mem_of_mem_take hx))
        (fun x hx => hd x (List.mem_of_mem_drop hx)) ?_ ?_
      · rw [List.length_drop]
        omega
      · rw [List.take_append_drop, hvalue]
    · have hfraction : Digits (List.replicate (k + 1 - ds.length) '0' ++ ds) :=
        (Digits.zeros _).append hd
      have hlength : (List.replicate (k + 1 - ds.length) '0' ++ ds).length = k + 1 := by
        rw [List.length_append, List.length_replicate]
        omega
      refine hpoint (Digits.zeros 1) hfraction hlength ?_
      rw [← hvalue, ← digitsValue_zeros_append (k + 1 - ds.length) ds]
      exact digitsValue_zeros_append 1 _

theorem decimal_magnitudeText {rank : Nat} (hr : rank < infinityRank) :
    ∃ c e, Decimal (magnitudeText rank) c e ∧ nearestDecimal c e = rank := by
  by_cases h0 : rank = 0
  · subst h0
    exact ⟨0, 0, .mk (.whole (Digits.zeros 1)) (List.cons_ne_nil _ _) .absent, rfl⟩
  · obtain ⟨ds, fs, k, hm, hne, hvalue, he⟩ :=
      mantissa_positional (shortest rank).1 (shortest rank).2
    have hdecimal := Decimal.mk hm hne .absent
    rw [List.append_nil] at hdecimal
    rw [magnitudeText, if_neg h0]
    refine ⟨_, _, hdecimal, ?_⟩
    rw [← nearestDecimal_shortest (Nat.pos_of_ne_zero h0) hr]
    refine nearestDecimal_congr ?_
    rw [hvalue, he, zpow_sub₀ (by norm_num), zpow_sub₀ (by norm_num), Nat.cast_mul, cast_pow_ten,
      zpow_natCast, zpow_natCast, zpow_zero]
    ring

/-- The text of a double is read as that double; only a NaN has none of its own. -/
theorem read_text {x : Binary64} (hx : x.isNaN = false) : Binary64.read x.text.toList = .ok x := by
  have hrank : x.rank ≤ infinityRank := by simpa [isNaN] using hx
  have hsign : Sign (if x.isNegative then ['-'] else []) x.isNegative := by
    cases x.isNegative with
    | true => exact .minus
    | false => exact .absent
  rw [text, if_neg (by simp [hx]), String.toList_ofList, Binary64.read]
  by_cases hi : x.rank = infinityRank
  · have hinfinite : x.isInfinite = true := by simp [isInfinite, hi]
    rw [if_pos hinfinite, read_eq_ok_iff.mpr (.word hsign (.inf rfl)), Except.map, toBinary64,
      infinity, ← hi, ofRank_isNegative_rank]
  · have hinfinite : ¬x.isInfinite = true := by simp [isInfinite, hi]
    obtain ⟨c, e, hd, hread⟩ := decimal_magnitudeText (Nat.lt_of_le_of_ne hrank hi)
    rw [if_neg hinfinite, read_eq_ok_iff.mpr (.decimal hsign hd), Except.map, toBinary64, hread,
      ofRank_isNegative_rank]

end Binary64
end FeaturePipeline
