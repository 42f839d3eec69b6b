import Mathlib.Data.List.Forall2
import FeaturePipeline.Camera.Check
import FeaturePipeline.Proofs.NearestDouble

/-! Camera parameters as they are written. Main statements: a text without separators is read as the
one number that it spells, rounded to the nearest double; a model and its parameters pass the check
exactly when the name is that of the model and the numbers fit it. -/
namespace FeaturePipeline

namespace Camera

theorem mapM_eq_some_iff {α β : Type} {f : α → Option β} {xs : List α} {ys : List β} :
    xs.mapM f = some ys ↔ List.Forall₂ (fun x y => f x = some y) xs ys := by
  induction xs generalizing ys with
  | nil => simp [eq_comm]
  | cons x xs ih =>
    rw [List.mapM_cons, List.forall₂_cons_left_iff]
    simp only [Option.bind_eq_bind, Option.bind_eq_some_iff, Option.pure_def, Option.some.injEq, ih]
    constructor
    · rintro ⟨y, hy, zs, hzs, rfl⟩
      exact ⟨y, zs, hy, hzs, rfl⟩
    · rintro ⟨y, zs, hy, hzs, rfl⟩
      exact ⟨y, hy, zs, hzs, rfl⟩

theorem mapM_eq_none_iff {α β : Type} {f : α → Option β} {xs : List α} :
    xs.mapM f = none ↔ ∃ x ∈ xs, f x = none := by
  induction xs with
  | nil => simp
  | cons x xs ih =>
    simp only [List.mapM_cons, List.mem_cons, exists_eq_or_imp, ← ih]
    cases f x <;> cases xs.mapM f <;> simp

theorem readToken?_eq_some_iff {cs : List Char} {x : Binary64} :
    readToken? cs = some x ↔ ∃ l, Literal.Spells cs l ∧ l.Denotes x := by
  have hread : readToken? cs = some x ↔ ∃ l, Literal.read cs = .ok l ∧ x = l.toBinary64 := by
    rw [readToken?, Binary64.read]
    cases Literal.read cs with
    | error fault => simp [Except.map, Except.toOption]
    | ok l => simp [Except.map, Except.toOption, eq_comm]
  simp only [hread, Literal.read_eq_ok_iff, Literal.eq_toBinary64_iff]

theorem readParameters?_eq_some_iff {t : String} {values : List Binary64} :
    readParameters? t = some values ↔
      List.Forall₂ (fun cs x => readToken? cs = some x) (tokens t.toList) values :=
  mapM_eq_some_iff

theorem tokens_of_no_separator {cs : List Char} (h : ∀ c ∈ cs, isSeparator c = false) :
    tokens cs = if Text.trim cs = [] then [] else [Text.trim cs] := by
  rw [tokens, Text.pieces_of_none h, List.map_singleton]
  split
  · rename_i ht
    rw [ht]
    rfl
  · rename_i ht
    exact List.filter_cons_of_pos (by simpa using ht)

theorem not_spells_nil (l : Literal) : ¬Literal.Spells [] l := by
  rw [← Literal.read_eq_ok_iff]
  intro h
  cases h

/-- A text without separators is blank, or it is one number with blanks around it, or it is
nothing. A decimal gives the double nearest to its exact value, with its sign. -/
theorem readParameters?_of_no_separator {t : String} (h : ∀ c ∈ t.toList, isSeparator c = false) :
    (readParameters? t = some [] ↔ Text.trim t.toList = []) ∧
    (∀ x, readParameters? t = some [x] ↔
      ∃ l, Literal.Spells (Text.trim t.toList) l ∧ l.Denotes x) ∧
    (∀ l, Literal.Spells (Text.trim t.toList) l →
      ∃ x, l.Denotes x ∧ readParameters? t = some [x]) ∧
    (readParameters? t = none ↔
      Text.trim t.toList ≠ [] ∧ ∀ l, ¬Literal.Spells (Text.trim t.toList) l) ∧
    ∀ sign s mantissa ds fs exponent e, Literal.Sign sign s → Literal.Mantissa mantissa ds fs →
      ds ++ fs ≠ [] → Literal.Exponent exponent e →
      Text.trim t.toList = sign ++ (mantissa ++ exponent) →
      ∃ x, readParameters? t = some [x] ∧ x.isNegative = s ∧
        Binary64.Nearest (Binary64.signed s (Literal.decimalValue ds fs e)) x := by
  have htokens := tokens_of_no_separator h
  generalize Text.trim t.toList = u at *
  have hone : u ≠ [] → readParameters? t = (readToken? u).map fun x => [x] := by
    intro hu
    rw [readParameters?, htokens, if_neg hu]
    simp [Option.map_eq_bind]
  have hsome : ∀ l, Literal.Spells u l → ∃ x, l.Denotes x ∧ readParameters? t = some [x] := by
    intro l hl
    have hu : u ≠ [] := by
      rintro rfl
      exact not_spells_nil l hl
    have hx := Literal.denotes_toBinary64 l
    rw [hone hu, readToken?_eq_some_iff.mpr ⟨l, hl, hx⟩]
    exact ⟨_, hx, rfl⟩
  have hdecimal : ∀ sign s mantissa ds fs exponent e, Literal.Sign sign s →
      Literal.Mantissa mantissa ds fs → ds ++ fs ≠ [] → Literal.Exponent exponent e →
      u = sign ++ (mantissa ++ exponent) → ∃ x, readParameters? t = some [x] ∧
        x.isNegative = s ∧
        Binary64.Nearest (Binary64.signed s (Literal.decimalValue ds fs e)) x := by
    rintro sign s mantissa ds fs exponent e hs hm hne he rfl
    obtain ⟨x, hx, hread⟩ := hsome _ (.decimal hs (.mk hm hne he))
    refine ⟨x, hread, ?_⟩
    cases hx with
    | decimal hs hx => exact ⟨hs, Literal.decimalValue_eq ds fs e ▸ hx⟩
  by_cases hu : u = []
  · subst hu
    have hread : readParameters? t = some [] := by
      rw [readParameters?, htokens]
      rfl
    refine ⟨by simp [hread], ?_, hsome, ?_, hdecimal⟩ <;> simp [hread, not_spells_nil]
  · have hread := hone hu
    refine ⟨by simp [hread, hu], ?_, hsome, ?_, hdecimal⟩
    · intro x
      simp [hread, ← readToken?_eq_some_iff]
    · rw [hread, Option.map_eq_none_iff, Option.eq_none_iff_forall_ne_some]
      simp only [ne_eq, readToken?_eq_some_iff, hu, not_false_eq_true, true_and]
      constructor
      · intro hnone l hl
        exact hnone _ ⟨l, hl, Literal.denotes_toBinary64 l⟩
      · rintro hnone x ⟨l, hl, -⟩
        exact hnone l hl

/-- Half way between two doubles the even one is taken, here that below. -/
theorem readParameters?_half_way :
    readParameters? " -9007199254740993E+0\t" = some [⟨0xC340000000000000⟩] :=
  ((readParameters?_of_no_separator (t := " -9007199254740993E+0\t")
      (by simp [isSeparator])).2.1 _).mpr
    ⟨.decimal true 9007199254740993 0, Literal.read_eq_ok_iff.mp (by decide +kernel),
      Literal.eq_toBinary64_iff.mp (by decide +kernel)⟩

/-- One item for each parameter of the model, all of them bounded, the focal lengths positive. -/
structure Model.Fits {α : Type} (m : Model) (bounded positive : α → Prop) (items : List α) :
    Prop where
  length_eq : items.length = m.arity
  bounded : ∀ x ∈ items, bounded x
  focal : ∀ i ∈ m.focalIndices, ∃ x, items[i]? = some x ∧ positive x

section Fits

variable {α β : Type} {m : Model} {p p' q q' : α → Prop} {xs : List α}

theorem Model.Fits.imp (h : m.Fits p q xs) (hp : ∀ x, p x → p' x) (hq : ∀ x, p x → q x → q' x) :
    m.Fits p' q' xs where
  length_eq := h.length_eq
  bounded x hx := hp x (h.bounded x hx)
  focal i hi := by
    obtain ⟨x, hx, hpositive⟩ := h.focal i hi
    exact ⟨x, hx, hq x (h.bounded x (List.mem_of_getElem? hx)) hpositive⟩

theorem Model.fits_congr (hp : ∀ x, p x ↔ p' x) (hq : ∀ x, p x → (q x ↔ q' x)) :
    m.Fits p q xs ↔ m.Fits p' q' xs :=
  ⟨fun h => h.imp (fun x => (hp x).mp) fun x hx => (hq x hx).mp,
    fun h => h.imp (fun x => (hp x).mpr) fun x hx => (hq x ((hp x).mpr hx)).mpr⟩

theorem Model.fits_map_iff {f : β → α} {ys : List β} :
    m.Fits p q (ys.map f) ↔ m.Fits (fun y => p (f y)) (fun y => q (f y)) ys := by
  constructor
  · intro ⟨hlength, hbounded, hfocal⟩
    exact ⟨by simpa using hlength, by simpa using hbounded, by simpa using hfocal⟩
  · intro ⟨hlength, hbounded, hfocal⟩
    exact ⟨by simpa using hlength, by simpa using hbounded, by simpa using hfocal⟩

end Fits

/-- Finite numbers, one for each parameter, with focal lengths greater than zero. -/
def Model.FitsValues (m : Model) (values : List Binary64) : Prop :=
  m.Fits (fun v => v.isFinite = true) (fun v => 0 < v.value) values

/-- The same in terms of what is written, before any rounding: no literal is beyond the finite
doubles, and the focal lengths are too great to be rounded to zero. -/
def Model.FitsLiterals (m : Model) (literals : List Literal) : Prop :=
  m.Fits Literal.Bounded Literal.Positive literals

def Model.Takes (m : Model) (t : String) : Prop :=
  ∃ values, readParameters? t = some values ∧ (values = [] ∨ m.FitsValues values)

/-- The verdict on numbers as it is computed: all the focal lengths are looked up, and where one is
out of range there is no verdict. -/
def Model.verdict? (m : Model) (values : List Binary64) : Option Bool :=
  if values.isEmpty then some true
  else if values.length ≠ m.arity ∨ values.any (! ·.isFinite) then some false
  else (m.focalIndices.mapM fun i => values[i]?).map (·.all Binary64.isPositive)

theorem isPositive_iff_value_pos {x : Binary64} (hx : x.isFinite = true) :
    x.isPositive = true ↔ 0 < x.value := by
  have hrank : x.rank < Binary64.infinityRank := of_decide_eq_true hx
  rw [Binary64.isPositive_iff, Binary64.value_pos_iff]
  exact and_congr_right fun _ => and_iff_left hrank.le

theorem Model.accepts_iff {m : Model} {values : List Binary64} :
    m.accepts values = true ↔ values = [] ∨ m.FitsValues values := by
  have hfits : m.FitsValues values ↔
      m.Fits (fun v => v.isFinite = true) (fun v => v.isPositive = true) values :=
    fits_congr (fun _ => Iff.rfl) fun _ hx => (isPositive_iff_value_pos hx).symm
  simp only [hfits, Model.accepts, Bool.or_eq_true, List.isEmpty_iff, Bool.and_eq_true, beq_iff_eq,
    List.all_eq_true, Option.any_eq_true]
  exact or_congr_right ⟨fun ⟨⟨hl, hf⟩, hp⟩ => ⟨hl, hf, hp⟩, fun ⟨hl, hf, hp⟩ => ⟨⟨hl, hf⟩, hp⟩⟩

theorem Model.fitsValues_map_iff {m : Model} {literals : List Literal} :
    m.FitsValues (literals.map Literal.toBinary64) ↔ m.FitsLiterals literals := by
  rw [FitsValues, fits_map_iff]
  refine fits_congr (fun l => Literal.isFinite_toBinary64_iff) fun l hl => ?_
  rw [← isPositive_iff_value_pos hl, Literal.isPositive_toBinary64_iff]

theorem Model.acceptsText_iff {m : Model} {t : String} : m.acceptsText t = true ↔ m.Takes t := by
  rw [Model.acceptsText, Option.any_eq_true]
  exact exists_congr fun values => and_congr_right fun _ => Model.accepts_iff

theorem mapM_getElem?_all {values : List Binary64} {p : Binary64 → Bool} {is : List Nat}
    (h : ∀ i ∈ is, i < values.length) :
    (is.mapM fun i => values[i]?).map (·.all p) = some (is.all fun i => values[i]?.any p) := by
  induction is with
  | nil => rfl
  | cons i is ih =>
    obtain ⟨hi, his⟩ := List.forall_mem_cons.mp h
    obtain ⟨found, hfound, hall⟩ := Option.map_eq_some_iff.mp (ih his)
    rw [List.mapM_cons, hfound, List.getElem?_eq_getElem hi, List.all_cons, ← hall]
    simp [List.getElem?_eq_getElem hi]

/-- No lookup of a focal length is out of range. -/
theorem Model.verdict?_eq (m : Model) (values : List Binary64) :
    m.verdict? values = some (m.accepts values) := by
  unfold Model.verdict?
  split
  · rename_i hempty
    simp [Model.accepts, hempty]
  · rename_i hempty
    split
    · rename_i hunfit
      have hno : m.accepts values = false := by
        rw [Bool.eq_false_iff, ne_eq, Model.accepts_iff]
        rintro (rfl | hfits)
        · exact hempty rfl
        · obtain hlength | hinfinite := hunfit
          · exact hlength hfits.length_eq
          · obtain ⟨v, hv, hvf⟩ := List.any_eq_true.mp hinfinite
            simp [hfits.bounded v hv] at hvf
      rw [hno]
    · rename_i hfit
      obtain ⟨hlength, hfinite⟩ := not_or.mp hfit
      rw [ne_eq, not_not] at hlength
      have hall : values.all Binary64.isFinite = true := by
        simpa [List.any_eq_not_all_not] using hfinite
      rw [mapM_getElem?_all fun i hi => hlength ▸ Model.lt_arity_of_mem_focalIndices hi]
      simp [Model.accepts, hempty, hlength, hall]

theorem forall₂_exists_map_iff {α β γ : Type} {r : α → β → Prop} {f : β → γ} {xs : List α}
    {zs : List γ} : List.Forall₂ (fun x z => ∃ y, r x y ∧ z = f y) xs zs ↔
      ∃ ys, List.Forall₂ r xs ys ∧ zs = ys.map f := by
  constructor
  · intro h
    induction h with
    | nil => exact ⟨[], .nil, rfl⟩
    | cons hx _ ih =>
      obtain ⟨y, hy, rfl⟩ := hx
      obtain ⟨ys, hys, rfl⟩ := ih
      exact ⟨y :: ys, .cons hy hys, rfl⟩
  · rintro ⟨ys, hys, rfl⟩
    rw [List.forall₂_map_right_iff]
    exact hys.imp fun x y hy => ⟨y, hy, rfl⟩

theorem readParameters?_eq_some_iff_spells {t : String} {values : List Binary64} :
    readParameters? t = some values ↔ ∃ literals,
      List.Forall₂ Literal.Spells (tokens t.toList) literals ∧
        values = literals.map Literal.toBinary64 := by
  rw [readParameters?_eq_some_iff, ← forall₂_exists_map_iff]
  simp only [readToken?_eq_some_iff, Literal.eq_toBinary64_iff]

theorem Model.takes_iff_spells {m : Model} {t : String} : m.Takes t ↔ ∃ literals,
    List.Forall₂ Literal.Spells (tokens t.toList) literals ∧
      (literals = [] ∨ m.FitsLiterals literals) := by
  simp only [Model.Takes, readParameters?_eq_some_iff_spells]
  constructor
  · rintro ⟨-, ⟨literals, hspells, rfl⟩, hfits⟩
    exact ⟨literals, hspells, hfits.imp List.map_eq_nil_iff.mp Model.fitsValues_map_iff.mp⟩
  · rintro ⟨literals, hspells, hfits⟩
    exact ⟨_, ⟨literals, hspells, rfl⟩,
      hfits.imp List.map_eq_nil_iff.mpr Model.fitsValues_map_iff.mpr⟩

/-- A check passes for a model of just that name whose parameters fit, in numbers or as they are
written. It fails for want of a model whatever the parameters are, else for the parameters, and the
log says so once. On the way no focal length is looked up out of range. -/
theorem check_exact (name parameters : String) :
    (∀ m, check name parameters = .ok m ↔ m.name = name ∧ m.Takes parameters) ∧
    (∀ e, check name parameters = .error e ↔
      (∀ m : Model, m.name ≠ name) ∧ e = .unknownCameraModel name ∨
      ∃ m : Model, m.name = name ∧ ¬m.Takes parameters ∧
        e = .invalidCameraParameters m parameters) ∧
    (∀ m : Model, m.Takes parameters ↔ ∃ literals,
      List.Forall₂ Literal.Spells (tokens parameters.toList) literals ∧
        (literals = [] ∨ m.FitsLiterals literals)) ∧
    (∀ (m : Model) (values : List Binary64), m.verdict? values = some (m.accepts values)) ∧
    ∀ verdict records, verify name parameters = (verdict, records) ↔
      (∃ m, check name parameters = .ok m ∧ verdict = true ∧ records = []) ∨
      ∃ e, check name parameters = .error e ∧ verdict = false ∧
        records = [⟨.error, .camera, e.message⟩] := by
  have hok : ∀ m, check name parameters = .ok m ↔ m.name = name ∧ m.Takes parameters := by
    intro m
    rw [check_eq_ok_iff, Model.acceptsText_iff]
  have herror : ∀ e, check name parameters = .error e ↔
      (∀ m : Model, m.name ≠ name) ∧ e = .unknownCameraModel name ∨
      ∃ m : Model, m.name = name ∧ ¬m.Takes parameters ∧
        e = .invalidCameraParameters m parameters := by
    intro e
    simp only [check_eq_error_iff, ← Model.acceptsText_iff, Bool.not_eq_true]
  refine ⟨hok, herror, fun m => Model.takes_iff_spells, Model.verdict?_eq, ?_⟩
  intro verdict records
  rw [verify]
  cases check name parameters with
  | ok m => simp [eq_comm]
  | error e => simp [eq_comm]

/-- A focal length below half of the least positive double is none. -/
example : (check "SIMPLE_PINHOLE" "2.4e-324, 320, 240").isOk = false ∧
    check "SIMPLE_PINHOLE" "2.5e-324, 320, 240" = .ok .simplePinhole := by decide +kernel

end Camera
end FeaturePipeline
