import Mathlib.Data.List.TakeWhile
import Mathlib.Tactic.Common
import FeaturePipeline.Number.Literal

/-! The grammar of number texts. A number is a word for infinity or NaN, or decimal digits with at
most one point and an optional exponent, each behind an optional sign. Main statement: the reader
takes exactly the texts of this grammar, and each as the literal that it spells. -/
namespace FeaturePipeline

/-- A run of decimal digits. -/
def Digits (cs : List Char) : Prop := ∀ c ∈ cs, c.isDigit = true

namespace Digits

theorem append {cs ds : List Char} (hc : Digits cs) (hd : Digits ds) : Digits (cs ++ ds) :=
  List.forall_mem_append.mpr ⟨hc, hd⟩

theorem ne_of_isDigit {c d : Char} (hc : c.isDigit = true) (hd : d.isDigit = false) : c ≠ d := by
  rintro rfl
  rw [hc] at hd
  cases hd

theorem isDigit_head {ds : List Char} (hd : Digits ds) : ∀ c ∈ ds.head?, c.isDigit = true :=
  fun c hc => hd c (List.mem_of_mem_head? hc)

end Digits

namespace Literal

theorem digitsValue_append (cs ds : List Char) :
    digitsValue (cs ++ ds) = Nat.pow 10 ds.length * digitsValue cs + digitsValue ds := by
  have happend : digitsValue (cs ++ ds) = Nat.ofDigitChars 10 ds (digitsValue cs) :=
    Nat.ofDigitChars_append 0
  rw [happend, Nat.ofDigitChars_eq_ofDigitChars_zero]
  rfl

/-- A sign, or none; true is minus. -/
inductive Sign : List Char → Bool → Prop where
  | absent : Sign [] false
  | plus : Sign ['+'] false
  | minus : Sign ['-'] true

/-- Digits with at most one point among or around them: the text, the digits in front of the point
and those behind it. -/
inductive Mantissa : List Char → List Char → List Char → Prop where
  | whole {ds : List Char} (hd : Digits ds) : Mantissa ds ds []
  | point {ds fs : List Char} (hd : Digits ds) (hf : Digits fs) : Mantissa (ds ++ '.' :: fs) ds fs

inductive Exponent : List Char → Int → Prop where
  | absent : Exponent [] 0
  | written {mark : Char} {sign ds : List Char} {negative : Bool} (hm : mark = 'e' ∨ mark = 'E')
    (hs : Sign sign negative) (hd : Digits ds) (hne : ds ≠ []) :
    Exponent (mark :: (sign ++ ds)) (if negative then -(digitsValue ds : Int) else digitsValue ds)

/-- A decimal without its sign, with the coefficient and the exponent of its value. Each digit
behind the point lowers the exponent by one. -/
inductive Decimal : List Char → Nat → Int → Prop where
  | mk {text ds fs behind : List Char} {e : Int} (hm : Mantissa text ds fs) (hne : ds ++ fs ≠ [])
    (he : Exponent behind e) :
    Decimal (text ++ behind) (digitsValue (ds ++ fs)) (e - fs.length)

/-- The words, with letters of either case, and what each stands for behind a sign. -/
inductive Word (cs : List Char) : (Bool → Literal) → Prop where
  | inf (h : cs.map Char.toLower = ['i', 'n', 'f']) : Word cs .infinity
  | infinity (h : cs.map Char.toLower = ['i', 'n', 'f', 'i', 'n', 'i', 't', 'y']) :
    Word cs .infinity
  | nan (h : cs.map Char.toLower = ['n', 'a', 'n']) : Word cs .nan

/-- The texts of numbers, each with the literal that it spells. -/
inductive Spells : List Char → Literal → Prop where
  | word {sign cs : List Char} {negative : Bool} {meaning : Bool → Literal}
    (hs : Sign sign negative) (hw : Word cs meaning) : Spells (sign ++ cs) (meaning negative)
  | decimal {sign cs : List Char} {negative : Bool} {coefficient : Nat} {exponent : Int}
    (hs : Sign sign negative) (hd : Decimal cs coefficient exponent) :
    Spells (sign ++ cs) (.decimal negative coefficient exponent)

section Parts

variable {sign cs ds rest : List Char} {negative : Bool}

theorem sign_splitSign (cs : List Char) :
    ∃ sign, Sign sign (splitSign cs).1 ∧ cs = sign ++ (splitSign cs).2 := by
  unfold splitSign
  split
  · exact ⟨['-'], .minus, rfl⟩
  · exact ⟨['+'], .plus, rfl⟩
  · exact ⟨[], .absent, rfl⟩

theorem splitSign_append (hs : Sign sign negative)
    (hc : ∀ c ∈ cs.head?, c ≠ '+' ∧ c ≠ '-') : splitSign (sign ++ cs) = (negative, cs) := by
  cases hs with
  | plus | minus => rfl
  | absent =>
    cases cs with
    | nil => rfl
    | cons c cs =>
      obtain ⟨hplus, hminus⟩ := hc c rfl
      simp [splitSign, hplus, hminus]

theorem digits_splitDigits (cs : List Char) :
    Digits (splitDigits cs).1 ∧ cs = (splitDigits cs).1 ++ (splitDigits cs).2 :=
  ⟨fun _ hc => List.mem_takeWhile_imp hc, List.takeWhile_append_dropWhile.symm⟩

theorem splitDigits_append (hd : Digits ds) (hr : ∀ c ∈ rest.head?, c.isDigit = false) :
    splitDigits (ds ++ rest) = (ds, rest) := by
  rw [splitDigits, List.takeWhile_append_of_pos hd, List.dropWhile_append_of_pos hd]
  cases rest with
  | nil => simp
  | cons c rest =>
    have hc : ¬c.isDigit = true := by simp [hr c rfl]
    rw [List.takeWhile_cons_of_neg hc, List.dropWhile_cons_of_neg hc, List.append_nil]

end Parts

theorem Sign.head_of_digits {ds : List Char} (hd : Digits ds) :
    ∀ c ∈ ds.head?, c ≠ '+' ∧ c ≠ '-' := fun c hc =>
  ⟨Digits.ne_of_isDigit (hd.isDigit_head c hc) rfl, Digits.ne_of_isDigit (hd.isDigit_head c hc) rfl⟩

theorem exponent?_eq_some_iff {cs : List Char} {e : Int} :
    exponent? cs = some e ↔ Exponent cs e := by
  constructor
  · intro h
    cases cs with
    | nil =>
      cases h
      exact .absent
    | cons c cs =>
      obtain ⟨sign, hs, hcs⟩ := sign_splitSign cs
      simp only [exponent?] at h
      generalize splitSign cs = split at *
      subst hcs
      split at h
      · rename_i hm
        split at h
        · rename_i hds
          cases h
          exact .written (by simpa using hm) hs (List.all_eq_true.mp hds.2) hds.1
        · cases h
      · cases h
  · intro h
    cases h with
    | absent => rfl
    | written hm hs hd hne =>
      have hsplit := splitSign_append hs (Sign.head_of_digits hd)
      have hall : (_ : List Char).all Char.isDigit = true := List.all_eq_true.mpr hd
      rw [exponent?, if_pos (by simpa using hm)]
      simp only [hsplit]
      rw [if_pos ⟨hne, hall⟩]

theorem Exponent.head {cs : List Char} {e : Int} (h : Exponent cs e) :
    ∀ c ∈ cs.head?, c.isDigit = false ∧ c ≠ '.' := by
  cases h with
  | absent => simp
  | written hm _ _ _ =>
    intro c hc
    cases hc
    obtain rfl | rfl := hm <;> decide

theorem splitFraction_of_ne {cs : List Char} (h : ∀ c ∈ cs.head?, c ≠ '.') :
    splitFraction cs = ([], cs) := by
  cases cs with
  | nil => rfl
  | cons c cs => simp [splitFraction, h c rfl]

/-- The two runs of digits are split off a mantissa, and the exponent is left. -/
theorem Mantissa.split {text ds fs behind : List Char} {e : Int} (hm : Mantissa text ds fs)
    (he : Exponent behind e) : (splitDigits (text ++ behind)).1 = ds ∧
      splitFraction (splitDigits (text ++ behind)).2 = (fs, behind) := by
  cases hm with
  | whole hd =>
    rw [splitDigits_append hd fun c hc => (he.head c hc).1]
    exact ⟨rfl, splitFraction_of_ne fun c hc => (he.head c hc).2⟩
  | point hd hf =>
    have hpoint : ∀ c ∈ ('.' :: (fs ++ behind)).head?, c.isDigit = false := by
      intro c hc
      cases hc
      rfl
    rw [List.append_assoc, List.cons_append, splitDigits_append hd hpoint]
    exact ⟨rfl, splitDigits_append hf fun c hc => (he.head c hc).1⟩

theorem exists_mantissa (cs : List Char) : ∃ text,
    Mantissa text (splitDigits cs).1 (splitFraction (splitDigits cs).2).1 ∧
      cs = text ++ (splitFraction (splitDigits cs).2).2 := by
  obtain ⟨hd, hcs⟩ := digits_splitDigits cs
  generalize splitDigits cs = whole at *
  obtain ⟨ds, rest⟩ := whole
  subst hcs
  simp only [splitFraction]
  split
  · rename_i cs
    obtain ⟨hf, hcs⟩ := digits_splitDigits cs
    refine ⟨_, .point hd hf, ?_⟩
    rw [List.append_assoc, List.cons_append, ← hcs]
  · exact ⟨ds, .whole hd, rfl⟩

theorem decimal?_eq_some_iff {negative : Bool} {cs : List Char} {l : Literal} :
    decimal? negative cs = some l ↔ ∃ c e, Decimal cs c e ∧ l = .decimal negative c e := by
  constructor
  · intro h
    obtain ⟨text, hm, hcs⟩ := exists_mantissa cs
    simp only [decimal?] at h
    split at h
    · cases h
    · rename_i hne
      obtain ⟨e, he, rfl⟩ := Option.map_eq_some_iff.mp h
      have hd := Decimal.mk hm (by simpa using hne) (exponent?_eq_some_iff.mp he)
      rw [← hcs] at hd
      exact ⟨_, _, hd, rfl⟩
  · rintro ⟨c, e, hd, rfl⟩
    cases hd with
    | mk hm hne he =>
      obtain ⟨hwhole, hfraction⟩ := hm.split he
      simp only [decimal?, hwhole, hfraction]
      rw [if_neg (by simpa using hne), exponent?_eq_some_iff.mpr he]
      rfl

theorem toLower_of_lt {c : Char} (h : c < 'A') : c.toLower = c := by
  unfold Char.toLower
  rw [dif_neg fun hc => ?_]
  exact absurd h (Char.not_lt.mpr hc.1)

theorem lt_of_isDigit {c : Char} (h : c.isDigit = true) : c < 'A' := by
  simp only [Char.isDigit, Bool.and_eq_true, decide_eq_true_eq] at h
  exact UInt32.lt_of_le_of_lt h.2 (by decide)

theorem Mantissa.eq_cons {text ds fs : List Char} (hm : Mantissa text ds fs)
    (hne : ds ++ fs ≠ []) : ∃ c cs, text = c :: cs ∧ (c.isDigit = true ∨ c = '.') := by
  cases ds with
  | nil =>
    cases hm with
    | whole _ => exact absurd rfl hne
    | point _ _ => exact ⟨'.', fs, rfl, .inr rfl⟩
  | cons d ds =>
    cases hm with
    | whole hd => exact ⟨d, ds, rfl, .inl (hd d List.mem_cons_self)⟩
    | point hd _ => exact ⟨d, ds ++ '.' :: fs, rfl, .inl (hd d List.mem_cons_self)⟩

theorem Decimal.eq_cons {cs : List Char} {k : Nat} {e : Int} (h : Decimal cs k e) :
    ∃ c rest, cs = c :: rest ∧ c < 'A' ∧ c ≠ '+' ∧ c ≠ '-' := by
  cases h with
  | mk hm hne he =>
    obtain ⟨c, rest, rfl, hc | rfl⟩ := hm.eq_cons hne
    · exact ⟨c, _, rfl, lt_of_isDigit hc, Digits.ne_of_isDigit hc rfl, Digits.ne_of_isDigit hc rfl⟩
    · exact ⟨'.', _, rfl, by decide⟩

theorem word?_eq_some_iff {negative : Bool} {cs : List Char} {l : Literal} :
    word? negative cs = some l ↔ ∃ meaning, Word cs meaning ∧ l = meaning negative := by
  constructor
  · intro h
    have hlower : ∀ {s : String}, String.ofList (cs.map Char.toLower) = s →
        cs.map Char.toLower = s.toList := by
      rintro s rfl
      exact (String.toList_ofList).symm
    unfold word? at h
    split at h
    · rename_i hw
      cases h
      exact ⟨_, .inf (hlower hw), rfl⟩
    · rename_i hw
      cases h
      exact ⟨_, .infinity (hlower hw), rfl⟩
    · rename_i hw
      cases h
      exact ⟨_, .nan (hlower hw), rfl⟩
    · cases h
  · rintro ⟨meaning, hw, rfl⟩
    cases hw with
    | inf h | infinity h | nan h =>
      rw [word?, h]
      rfl

/-- A word begins with a letter, so it is no decimal and has no sign in front. -/
theorem Word.eq_cons {cs : List Char} {meaning : Bool → Literal} (h : Word cs meaning) :
    ∃ c rest, cs = c :: rest ∧ ¬c < 'A' := by
  obtain ⟨d, letters, hmap, hd⟩ : ∃ d letters, cs.map Char.toLower = d :: letters ∧ ¬d < 'A' := by
    cases h with
    | inf h | infinity h | nan h => exact ⟨_, _, h, by decide⟩
  cases cs with
  | nil => cases hmap
  | cons c rest =>
    refine ⟨c, rest, rfl, fun hlt => ?_⟩
    rw [List.map_cons, List.cons.injEq, toLower_of_lt hlt] at hmap
    exact hd (hmap.1 ▸ hlt)

section Signed

variable {sign cs rest : List Char} {negative : Bool} {c : Char} {l : Literal}

theorem read_sign_append (hs : Sign sign negative) (hplus : c ≠ '+') (hminus : c ≠ '-')
    (h : (decimal? negative (c :: rest)).or (word? negative (c :: rest)) = some l) :
    read (sign ++ c :: rest) = .ok l := by
  have hhead : ∀ d ∈ (c :: rest).head?, d ≠ '+' ∧ d ≠ '-' := by
    intro d hd
    cases hd
    exact ⟨hplus, hminus⟩
  simp only [read]
  rw [if_neg (List.append_ne_nil_of_right_ne_nil _ (List.cons_ne_nil _ _)),
    splitSign_append hs hhead]
  simp only [h]

theorem read_sign_decimal (hs : Sign sign negative) {k : Nat} {e : Int} (hd : Decimal cs k e) :
    read (sign ++ cs) = .ok (.decimal negative k e) := by
  have hread : decimal? negative cs = some (.decimal negative k e) :=
    decimal?_eq_some_iff.mpr ⟨k, e, hd, rfl⟩
  obtain ⟨c, rest, rfl, -, hplus, hminus⟩ := hd.eq_cons
  exact read_sign_append hs hplus hminus (Option.or_eq_some_iff.mpr (.inl hread))

theorem read_sign_word (hs : Sign sign negative) {meaning : Bool → Literal}
    (hw : Word cs meaning) : read (sign ++ cs) = .ok (meaning negative) := by
  have hread : word? negative cs = some (meaning negative) :=
    word?_eq_some_iff.mpr ⟨meaning, hw, rfl⟩
  obtain ⟨c, rest, rfl, hletter⟩ := hw.eq_cons
  have hdecimal : decimal? negative (c :: rest) = none := by
    refine Option.eq_none_iff_forall_ne_some.mpr fun l hl => ?_
    obtain ⟨k, e, hd, -⟩ := decimal?_eq_some_iff.mp hl
    obtain ⟨d, ds, heq, hlt, -⟩ := hd.eq_cons
    cases heq
    exact hletter hlt
  have hne : ∀ {d : Char}, d < 'A' → c ≠ d := by
    rintro d hlt rfl
    exact hletter hlt
  exact read_sign_append hs (hne (by decide)) (hne (by decide))
    (Option.or_eq_some_iff.mpr (.inr ⟨hdecimal, hread⟩))

end Signed

/-- The reader takes the texts of the grammar and no others. -/
theorem read_eq_ok_iff {cs : List Char} {l : Literal} : read cs = .ok l ↔ Spells cs l := by
  constructor
  · intro h
    obtain ⟨sign, hs, hcs⟩ := sign_splitSign cs
    simp only [read] at h
    split at h
    · cases h
    · generalize splitSign cs = split at *
      subst hcs
      split at h
      · rename_i hl
        cases h
        obtain hl | ⟨-, hl⟩ := Option.or_eq_some_iff.mp hl
        · obtain ⟨k, e, hd, rfl⟩ := decimal?_eq_some_iff.mp hl
          exact .decimal hs hd
        · obtain ⟨meaning, hw, rfl⟩ := word?_eq_some_iff.mp hl
          exact .word hs hw
      · cases h
  · intro h
    cases h with
    | word hs hw => exact read_sign_word hs hw
    | decimal hs hd => exact read_sign_decimal hs hd

end Literal
end FeaturePipeline
