import Mathlib.Data.List.Forall2
import FeaturePipeline.Strategy.Plan
import FeaturePipeline.Proofs.SeparatedParameters
import FeaturePipeline.Proofs.NumberText
import FeaturePipeline.Proofs.ReadRequests
import FeaturePipeline.Proofs.ShortestDecimal

/-! Doubles written and read back. Main statement: the text of a double stands in a plan, in the
arguments and between the separators of camera parameters for that double and no other, whatever
blanks there are around it. -/
namespace FeaturePipeline

namespace Binary64

def IsNumeral (c : Char) : Prop := c.isDigit = true ∨ c ∈ ['.', '-', 'i', 'n', 'f']

theorem isNumeral_of_digits {cs : List Char} (h : Digits cs) : ∀ c ∈ cs, IsNumeral c :=
  fun c hc => .inl (h c hc)

theorem isNumeral_positional (c : Nat) (e : Int) : ∀ d ∈ positional c e, IsNumeral d := by
  have hd := isNumeral_of_digits (Digits.toDigits c)
  cases e with
  | ofNat k =>
    exact List.forall_mem_append.mpr ⟨hd, isNumeral_of_digits (Digits.zeros k)⟩
  | negSucc k =>
    simp only [positional]
    split
    · refine List.forall_mem_append.mpr ⟨fun x hx => hd x (List.mem_of_mem_take hx), ?_⟩
      exact List.forall_mem_cons.mpr ⟨.inr (by decide), fun x hx => hd x (List.mem_of_mem_drop hx)⟩
    · refine List.forall_mem_cons.mpr ⟨.inl (by decide), ?_⟩
      refine List.forall_mem_cons.mpr ⟨.inr (by decide), ?_⟩
      exact List.forall_mem_append.mpr ⟨isNumeral_of_digits (Digits.zeros _), hd⟩

theorem isNumeral_text {x : Binary64} (hx : x.isNaN = false) :
    ∀ c ∈ x.text.toList, IsNumeral c := by
  rw [text, if_neg (by simp [hx]), String.toList_ofList]
  refine List.forall_mem_append.mpr ⟨?_, ?_⟩
  · cases x.isNegative <;> simp [IsNumeral]
  · split
    · simp [IsNumeral]
    · rw [magnitudeText]
      split
      · simp [IsNumeral]
      · exact isNumeral_positional _ _

theorem IsNumeral.apart {c : Char} (h : IsNumeral c) :
    Text.isBlank c = false ∧ Camera.isSeparator c = false ∧ c ≠ 'e' ∧ c ≠ 'E' := by
  obtain hd | hc := h
  · have hrange : 0x30 ≤ c.toNat ∧ c.toNat ≤ 0x39 := by
      simp only [Char.isDigit, Bool.and_eq_true, decide_eq_true_eq] at hd
      exact hd
    refine ⟨?_, ?_, Digits.ne_of_isDigit hd rfl, Digits.ne_of_isDigit hd rfl⟩
    · simp [Text.isBlank, Text.blankRanges]
      omega
    · have hcomma : c ≠ ',' := Digits.ne_of_isDigit hd rfl
      have hsemicolon : c ≠ ';' := Digits.ne_of_isDigit hd rfl
      simp [Camera.isSeparator, hcomma, hsemicolon]
  · simp only [List.mem_cons, List.not_mem_nil, or_false] at hc
    obtain rfl | rfl | rfl | rfl | rfl := hc <;> decide

/-- The sign of a double as it is printed; a plus is not. -/
def minus (x : Binary64) : List Char := if x.isNegative then ['-'] else []

/-- How a double is printed: infinity as a word, and a finite double without an exponent, in no
more digits than a decimal needs to be nearest to it. -/
inductive Printed (x : Binary64) : List Char → Prop where
  | infinity (hx : x.isInfinite = true) : Printed x (x.minus ++ ['i', 'n', 'f'])
  | zero (hx : x.rank = 0) : Printed x (x.minus ++ ['0'])
  | decimal {mantissa ds fs : List Char} {coefficient k : Nat} (h0 : 0 < x.rank)
    (hx : x.isFinite = true) (hm : Literal.Mantissa mantissa ds fs) (hne : ds ++ fs ≠ [])
    (hc : Literal.digitsValue (ds ++ fs) = coefficient * Nat.pow 10 k)
    (hmin : ∀ d f, (Literal.decimal x.isNegative d f).Denotes x →
      (Nat.toDigits 10 coefficient).length ≤ (Nat.toDigits 10 d).length) :
    Printed x (x.minus ++ mantissa)

theorem printed_text {x : Binary64} (hx : x.isNaN = false) : Printed x x.text.toList := by
  have htext : x.text.toList =
      x.minus ++ if x.isInfinite then ['i', 'n', 'f'] else magnitudeText x.rank := by
    rw [text, if_neg (by simp [hx]), String.toList_ofList]
    rfl
  rw [htext]
  by_cases hi : x.isInfinite = true
  · rw [if_pos hi]
    exact .infinity hi
  · have hr : x.rank < infinityRank := by
      have hnumber : ¬infinityRank < x.rank := by simpa [isNaN] using hx
      have hfinite : x.rank ≠ infinityRank := by simpa [isInfinite] using hi
      omega
    rw [if_neg hi, magnitudeText]
    split
    · rename_i h0
      exact .zero h0
    · rename_i h0
      have hpos : 0 < x.rank := Nat.pos_of_ne_zero h0
      obtain ⟨ds, fs, k, hm, hne, hc, -⟩ :=
        mantissa_positional (shortest x.rank).1 (shortest x.rank).2
      refine .decimal hpos (decide_eq_true hr) hm hne hc fun d f hdenotes => ?_
      have hrank := (eq_ofRank_iff (nearestDecimal_lt d f)).mp
        (Literal.eq_toBinary64_iff.mpr hdenotes)
      exact length_shortest_le hpos hr hrank.2.symm

theorem text_ne_nil {x : Binary64} (hx : x.isNaN = false) : x.text.toList ≠ [] := by
  intro h
  have hread := read_text hx
  rw [h] at hread
  cases hread

end Binary64

namespace Camera

/-- The texts of doubles in a row: a separator between two of them, and any blanks around each. -/
inductive Joined : List Binary64 → List Char → Prop where
  | nil {blanks : List Char} (hb : ∀ c ∈ blanks, Text.isBlank c = true) : Joined [] blanks
  | last {x : Binary64} {before after : List Char} (hb : ∀ c ∈ before, Text.isBlank c = true)
    (ha : ∀ c ∈ after, Text.isBlank c = true) :
    Joined [x] (before ++ (x.text.toList ++ after))
  | cons {x : Binary64} {xs : List Binary64} {before after rest : List Char} {separator : Char}
    (hb : ∀ c ∈ before, Text.isBlank c = true) (ha : ∀ c ∈ after, Text.isBlank c = true)
    (hs : isSeparator separator = true) (hr : Joined xs rest) :
    Joined (x :: xs) (before ++ (x.text.toList ++ after) ++ separator :: rest)

theorem tokens_text {x : Binary64} (hx : x.isNaN = false) {before after : List Char}
    (hb : ∀ c ∈ before, Text.isBlank c = true) (ha : ∀ c ∈ after, Text.isBlank c = true) :
    tokens (before ++ (x.text.toList ++ after)) = [x.text.toList] := by
  have hapart := fun c hc => (Binary64.isNumeral_text hx c hc).apart
  have htrim : Text.trim x.text.toList = x.text.toList :=
    Text.trim_of_ends (fun c hc => (hapart c (List.mem_of_mem_head? hc)).1)
      fun c hc => (hapart c (List.mem_of_getLast? hc)).1
  rw [tokens_fillers_append fun c hc => .inr (hb c hc),
    tokens_append_fillers fun c hc => .inr (ha c hc),
    tokens_of_no_separator fun c hc => (hapart c hc).2.1, htrim, if_neg (Binary64.text_ne_nil hx)]

theorem Joined.tokens_eq {values : List Binary64} {cs : List Char} (h : Joined values cs)
    (hv : ∀ v ∈ values, v.isNaN = false) : tokens cs = values.map fun v => v.text.toList := by
  induction h with
  | nil hb => exact tokens_append_fillers (fun c hc => .inr (hb c hc)) []
  | last hb ha => exact tokens_text (hv _ List.mem_cons_self) hb ha
  | cons hb ha hs _ ih =>
    obtain ⟨hx, hxs⟩ := List.forall_mem_cons.mp hv
    rw [tokens_append_sep _ _ hs, tokens_text hx hb ha, ih hxs]
    rfl

theorem Joined.readParameters? {values : List Binary64} {cs : List Char} (h : Joined values cs)
    (hv : ∀ v ∈ values, v.isNaN = false) :
    Camera.readParameters? (String.ofList cs) = some values := by
  rw [readParameters?_eq_some_iff, String.toList_ofList, h.tokens_eq hv, List.forall₂_map_left_iff,
    List.forall₂_same]
  intro v hv'
  rw [readToken?, Binary64.read_text (hv v hv')]
  rfl

end Camera

namespace CommandLine

theorem readSettings_maxDistance {x : Binary64} (hx : x.isNaN = false)
    {p : Progress (MatcherRequest SpatialOptions)} (hp : p.Open)
    (hnew : "--max-distance" ∉ p.given) (rest : List String) :
    readSettings spatialMatcherSettings p ("--max-distance" :: x.text :: rest) =
      readSettings spatialMatcherSettings
        { p with form := { p.form with options := { p.form.options with maxDistance := x } },
                 given := "--max-distance" :: p.given } rest := by
  have hs : spatialMatcherSettings[4] ∈ spatialMatcherSettings := List.getElem_mem (by decide)
  have hread := readSettings_value (EntryPoint.readable .spatialMatcher) hs rfl hp x.text rest
  have hfill : p.fill "--max-distance" x.text spatialMatcherSettings[4].field =
      .ok { p with form := { p.form with options := { p.form.options with maxDistance := x } },
                   given := "--max-distance" :: p.given } := by
    have hwrite : spatialMatcherSettings[4].field.write x.text p.form =
        .ok { p.form with options := { p.form.options with maxDistance := x } } :=
      map_eq_ok_iff.mpr ⟨x, mapError_eq_ok_iff.mpr (Binary64.read_text hx), rfl⟩
    rw [Progress.fill, if_neg hnew, hwrite]
  exact hread.trans (congrArg (· >>= fun p => readSettings spatialMatcherSettings p rest) hfill)

theorem read_maxDistance {x : Binary64} (hx : x.isNaN = false) (path : String) :
    read ["spatial_matcher", "--database-path", path, "--max-distance", x.text] =
      .ok (.spatialMatcher { databasePath := path, options := { maxDistance := x } }) := by
  have hlead : Leads ["spatial_matcher"] .spatialMatcher := ⟨_, .inl rfl, .inl rfl⟩
  have hname : read ["spatial_matcher", "--database-path", path, "--max-distance", x.text] =
      readCommand .spatialMatcher ["--database-path", path, "--max-distance", x.text] :=
    hlead.read ["--database-path", path, "--max-distance", x.text]
  have hpath : readSettings spatialMatcherSettings { form := { options := {} } }
      ["--database-path", path, "--max-distance", x.text] =
        readSettings spatialMatcherSettings
          { form := { databasePath := path, options := {} }, given := ["--database-path"] }
          ["--max-distance", x.text] := rfl
  have hnew : "--max-distance" ∉ ["--database-path"] := by decide
  have hdistance := readSettings_maxDistance hx
    (p := { form := { databasePath := path, options := {} }, given := ["--database-path"] })
    ⟨rfl, rfl⟩ hnew []
  have hread : readSettings (EntryPoint.settings .spatialMatcher)
      { form := EntryPoint.blank .spatialMatcher }
      ["--database-path", path, "--max-distance", x.text] = _ := hpath.trans hdistance
  rw [hname, readCommand, hread]
  rfl

end CommandLine

/-- A text stands for a double in the arguments of a command and among camera parameters, and it is
told apart from what is around it there. -/
structure StandsFor (t : String) (x : Binary64) : Prop where
  apart : ∀ c ∈ t.toList, Text.isBlank c = false ∧ Camera.isSeparator c = false ∧ c ≠ 'e' ∧ c ≠ 'E'
  argument : ∀ (p : CommandLine.Progress (MatcherRequest SpatialOptions)) rest, p.Open →
    "--max-distance" ∉ p.given →
    CommandLine.readSettings CommandLine.spatialMatcherSettings p ("--max-distance" :: t :: rest) =
      CommandLine.readSettings CommandLine.spatialMatcherSettings
        { p with form := { p.form with options := { p.form.options with maxDistance := x } },
                 given := "--max-distance" :: p.given } rest
  command : ∀ path,
    CommandLine.read ["spatial_matcher", "--database-path", path, "--max-distance", t] =
      .ok (.spatialMatcher { databasePath := path, options := { maxDistance := x } })
  parameter : Camera.readParameters? t = some [x]

theorem Binary64.standsFor_text {x : Binary64} (hx : x.isNaN = false) : StandsFor x.text x where
  apart c hc := (isNumeral_text hx c hc).apart
  argument _ rest hp hnew := CommandLine.readSettings_maxDistance hx hp hnew rest
  command path := CommandLine.read_maxDistance hx path
  parameter := by
    have hnone : ∀ c ∈ ([] : List Char), Text.isBlank c = true := fun c hc => nomatch hc
    have hjoined : Camera.Joined [x] ([] ++ (x.text.toList ++ [])) := .last hnone hnone
    have hread := hjoined.readParameters? (List.forall_mem_singleton.mpr hx)
    rwa [List.nil_append, List.append_nil, String.ofList_toList] at hread

/-- The distance that a plan writes stands for itself. So do texts joined with separators and
blanks: they are read as the doubles bit for bit, and a model that takes the doubles takes the
text. -/
theorem printed_reads_back {values : List Binary64} (hv : ∀ x ∈ values, x.isNaN = false) :
    (∀ x ∈ values, Binary64.Printed x x.text.toList ∧ StandsFor x.text x ∧
      ∀ databasePath matching o, o.maxDistance = x →
        (Strategy.matching databasePath matching (.spatial o)).plan =
          s!"spatial matching, {o.maxNumNeighbors.toNat} neighbors within {x.text} in {databasePath}") ∧
    ∀ cs, Camera.Joined values cs →
      Camera.readParameters? (String.ofList cs) = some values ∧
        ∀ m : Camera.Model, m.accepts values = true →
          Camera.check m.name (String.ofList cs) = .ok m := by
  constructor
  · intro x hx
    refine ⟨Binary64.printed_text (hv x hx), Binary64.standsFor_text (hv x hx), ?_⟩
    rintro databasePath matching o rfl
    rfl
  · intro cs hcs
    have hread := hcs.readParameters? hv
    refine ⟨hread, fun m hm => ?_⟩
    rw [Camera.check_eq_ok_iff, Camera.Model.acceptsText, hread]
    exact ⟨rfl, hm⟩

/-- A fraction, a negative zero and more digits than a double holds, with both separators. -/
theorem printed_reads_back_pinhole :
    Camera.check "SIMPLE_PINHOLE" "0.1; -0\t,100000000000000000000000" = .ok .simplePinhole := by
  have htenth : (⟨0x3FB999999999999A⟩ : Binary64).text = "0.1" := by decide +kernel
  have hzero : (⟨0x8000000000000000⟩ : Binary64).text = "-0" := by decide +kernel
  have hlarge : (⟨0x44B52D02C7E14AF6⟩ : Binary64).text = "100000000000000000000000" := by
    decide +kernel
  have hnone : ∀ c ∈ ([] : List Char), Text.isBlank c = true := fun c hc => nomatch hc
  have hspace : ∀ c ∈ [' '], Text.isBlank c = true := List.forall_mem_singleton.mpr rfl
  have htab : ∀ c ∈ ['\t'], Text.isBlank c = true := List.forall_mem_singleton.mpr rfl
  have hsemicolon : Camera.isSeparator ';' = true := rfl
  have hcomma : Camera.isSeparator ',' = true := rfl
  have hjoined := Camera.Joined.cons (x := ⟨0x3FB999999999999A⟩) hnone hnone hsemicolon
    (.cons (x := ⟨0x8000000000000000⟩) hspace htab hcomma
      (.last (x := ⟨0x44B52D02C7E14AF6⟩) hnone hnone))
  rw [htenth, hzero, hlarge] at hjoined
  exact ((printed_reads_back (by decide)).2 _ hjoined).2 .simplePinhole (by decide)

end FeaturePipeline
