import Mathlib.Data.List.Perm.Basic
import FeaturePipeline.Proofs.NumberText
import FeaturePipeline.Proofs.ReadRequests

/-! Requests written as arguments. Main statement: a request whose unreachable options have their
defaults is read back from its arguments, in whatever order the options stand, and whatever their
values look like. -/
namespace FeaturePipeline

namespace CommandLine.Entry

variable {en : Entry} {l : List Entry}

/-- How the option is given for what the request holds. An absent text and a switch that is off are
not given. -/
def given? (en : Entry) : Option Given :=
  match en.content with
  | .text s => some ⟨en.option, some s⟩
  | .optionalText s => s.map fun s => ⟨en.option, some s⟩
  | .flag b => some ⟨en.option, some (flagText b)⟩
  | .size n => some ⟨en.option, some n.toNat.repr⟩
  | .integer i => some ⟨en.option, some i.toInt.repr⟩
  | .number x => some ⟨en.option, some x.text⟩
  | .switch on => if on then some ⟨en.option, none⟩ else none

def arguments (en : Entry) : List String := en.given?.elim [] Given.arguments

/-- What is held is told by its text. Only a NaN is not. -/
def Legible (en : Entry) : Prop := ∀ x, en.content = .number x → x.isNaN = false

theorem given?_cases (hl : en.Legible) {g : Given} (hg : en.given? = some g) :
    (∃ value, g = ⟨en.option, some value⟩ ∧ en.content.SaidBy value ∧
      en.content.isSwitch = false) ∨
    g = ⟨en.option, none⟩ ∧ en.content = .switch true := by
  unfold given? at hg
  cases hc : en.content with
  | text s | flag b =>
    rw [hc] at hg
    exact .inl ⟨_, (Option.some.inj hg).symm, rfl, rfl⟩
  | optionalText s =>
    rw [hc] at hg
    obtain ⟨s, rfl, rfl⟩ := Option.map_eq_some_iff.mp hg
    exact .inl ⟨s, rfl, rfl, rfl⟩
  | size n =>
    rw [hc] at hg
    exact .inl ⟨_, (Option.some.inj hg).symm,
      Integer.readUInt64_eq_ok_iff.mp (Integer.readUInt64_repr n), rfl⟩
  | integer i =>
    rw [hc] at hg
    exact .inl ⟨_, (Option.some.inj hg).symm,
      Integer.readInt32_eq_ok_iff.mp (Integer.readInt32_repr i), rfl⟩
  | number x =>
    rw [hc] at hg
    obtain ⟨literal, hread, hdouble⟩ := map_eq_ok_iff.mp (Binary64.read_text (hl x hc))
    exact .inl ⟨_, (Option.some.inj hg).symm, ⟨literal, Literal.read_eq_ok_iff.mp hread,
      Literal.eq_toBinary64_iff.mp hdouble.symm⟩, rfl⟩
  | switch on =>
    rw [hc] at hg
    cases on with
    | true => exact .inr ⟨(Option.some.inj hg).symm, rfl⟩
    | false => cases hg

theorem shape_of_given? (hl : en.Legible) {g : Given} (hg : en.given? = some g) :
    g.shape = en.shape := by
  obtain ⟨value, rfl, -, hsw⟩ | ⟨rfl, hc⟩ := given?_cases hl hg
  · simp [Given.shape, shape, hsw]
  · simp [Given.shape, shape, hc, Content.isSwitch]

theorem flatMap_arguments (l : List Entry) :
    l.flatMap arguments = (l.filterMap given?).flatMap Given.arguments := by
  induction l with
  | nil => rfl
  | cons en l ih =>
    rw [List.flatMap_cons, ih, arguments]
    cases hg : en.given? with
    | none => simp [hg]
    | some g => simp [hg]

theorem withValue_sublist (hl : ∀ en ∈ l, en.Legible) :
    (Given.withValue (l.filterMap given?)).Sublist (l.map option) := by
  induction l with
  | nil => exact .slnil
  | cons en l ih =>
    obtain ⟨hen, hl⟩ := List.forall_mem_cons.mp hl
    cases hg : en.given? with
    | none =>
      rw [List.filterMap_cons_none hg]
      exact (ih hl).cons _
    | some g =>
      rw [List.filterMap_cons_some hg]
      obtain ⟨value, rfl, -, -⟩ | ⟨rfl, -⟩ := given?_cases hen hg
      · exact (ih hl).cons_cons _
      · exact (ih hl).cons _

end CommandLine.Entry

open CommandLine

namespace Request

theorem default_of_given?_eq_none (r : Request) :
    ∀ en ∈ r.entries, en.given? = none → en.default = some en.content := by
  cases r <;> simp +contextual [entries, ReaderOptions.cameraEntries, ExtractionOptions.entries,
    MatchingOptions.entries, Entry.given?]

/-- A request that arguments can express: what no option sets has its default, and the one
number among the options is no NaN. -/
def Expressible (r : Request) : Prop :=
  r.entryPoint.settable r.form = r.form ∧
    ∀ m, r = .spatialMatcher m → m.options.maxDistance.isNaN = false

theorem Expressible.legible {r : Request} (h : r.Expressible) : ∀ en ∈ r.entries, en.Legible := by
  cases r with
  | spatialMatcher m =>
    simp [entries, MatchingOptions.entries, Entry.Legible, h.2 m rfl]
  | _ =>
    simp [entries, ReaderOptions.cameraEntries, ExtractionOptions.entries,
      MatchingOptions.entries, Entry.Legible]

end Request

namespace CommandLine

/-- A request as arguments, with the chosen options in the chosen order. -/
def write (r : Request) (chosen : List Entry) : List String :=
  r.name :: chosen.flatMap Entry.arguments

section Written

variable {r : Request} {chosen omitted : List Entry} {en : Entry}

theorem exists_given? (hr : r.Expressible) (hall : (chosen ++ omitted).Perm r.entries)
    (hen : en ∈ r.entries) (hgiven : en.option ∈ (chosen.filterMap Entry.given?).map Given.option) :
    en ∈ chosen ∧ ∃ g, en.given? = some g := by
  obtain ⟨g, hg, hoption⟩ := List.mem_map.mp hgiven
  obtain ⟨en', hchosen, hg'⟩ := List.mem_filterMap.mp hg
  have hen' : en' ∈ r.entries := hall.subset (List.mem_append_left _ hchosen)
  have hshape := Entry.shape_of_given? (hr.legible en' hen') hg'
  obtain rfl : en' = en := List.inj_on_of_nodup_map r.options_nodup hen' hen
    ((congrArg Shape.option hshape).symm.trans hoption)
  exact ⟨hchosen, g, hg'⟩

/-- A request is taken from its own options, of which those with their default may be left out. -/
theorem takenFrom_given? (hr : r.Expressible) (hall : (chosen ++ omitted).Perm r.entries)
    (homitted : ∀ en ∈ omitted, en.default = some en.content) :
    TakenFrom (chosen.filterMap Entry.given?) r := by
  have hchosen : ∀ en ∈ chosen, en ∈ r.entries := fun en hen =>
    hall.subset (List.mem_append_left _ hen)
  have hmem : ∀ en ∈ chosen, ∀ g, en.given? = some g → g ∈ chosen.filterMap Entry.given? :=
    fun en hen g hg => List.mem_filterMap.mpr ⟨en, hen, hg⟩
  constructor
  case required =>
    intro en hen hd
    obtain hc | ho := List.mem_append.mp (hall.symm.subset hen)
    · obtain ⟨s, hs⟩ := r.text_of_required en hen hd
      exact Given.mem_withValue.mpr ⟨s, hmem en hc _ (by rw [Entry.given?, hs])⟩
    · cases hd.symm.trans (homitted en ho)
  case once =>
    have hsub := (Entry.withValue_sublist fun en hen => hr.legible en (hchosen en hen)).trans
      ((List.sublist_append_left chosen omitted).map Entry.option)
    exact hsub.nodup ((hall.map Entry.option).nodup_iff.mpr r.options_nodup)
  case settled =>
    intro en hen
    by_cases hgiven : en.option ∈ (chosen.filterMap Entry.given?).map Given.option
    · obtain ⟨hc, g, hg⟩ := exists_given? hr hall hen hgiven
      have hg' := hmem en hc g hg
      obtain ⟨value, rfl, hsaid, -⟩ | ⟨rfl, hon⟩ := Entry.given?_cases (hr.legible en hen) hg
      · exact .value hg' hsaid
      · exact .switch hon (iff_of_true rfl hg')
    · refine (settled_iff_of_not_given hen hgiven).mpr ?_
      obtain hc | ho := List.mem_append.mp (hall.symm.subset hen)
      · refine r.default_of_given?_eq_none en hen (Option.eq_none_iff_forall_ne_some.mpr ?_)
        intro g hg
        have hshape := Entry.shape_of_given? (hr.legible en hen) hg
        exact hgiven (List.mem_map.mpr ⟨g, hmem en hc g hg, congrArg Shape.option hshape⟩)
      · exact homitted en ho
  case settable => exact hr.1

end Written

/-- A request is read back from its arguments: its options stand in any order, and one that is not
required may be left out where it has its default. -/
theorem read_write (r : Request) (hr : r.Expressible) (chosen omitted : List Entry)
    (hall : (chosen ++ omitted).Perm r.entries)
    (homitted : ∀ en ∈ omitted, en.default = some en.content) :
    read (write r chosen) = .ok r := by
  have hshapes : ∀ g ∈ chosen.filterMap Entry.given?, g.shape ∈ r.shapes := by
    intro g hg
    obtain ⟨en, hchosen, hg⟩ := List.mem_filterMap.mp hg
    have hen : en ∈ r.entries := hall.subset (List.mem_append_left _ hchosen)
    exact List.mem_map.mpr ⟨en, hen, (Entry.shape_of_given? (hr.legible en hen) hg).symm⟩
  rw [write, Entry.flatMap_arguments]
  exact read_complete (.inl rfl) (.inl rfl) (madeOf_flatMap hshapes)
    (takenFrom_given? hr hall homitted)

/-- Values may look like help, like the end of the options or like another option. -/
theorem read_write_lookalikes :
    read ["sequential_matcher", "--vocab-tree-path", "--", "--loop-detection",
      "--quadratic-overlap", "false", "--overlap", "7", "--database-path", "--help"] =
    .ok (.sequentialMatcher
      { databasePath := "--help",
        options := { overlap := 7, quadraticOverlap := false, loopDetection := true,
                     vocabTreePath := some "--" } }) :=
  read_write
    (.sequentialMatcher
      { databasePath := "--help",
        options := { overlap := 7, quadraticOverlap := false, loopDetection := true,
                     vocabTreePath := some "--" } })
    ⟨rfl, fun _ h => nomatch h⟩
    [⟨"--vocab-tree-path", .optionalText (some "--"), some (.optionalText none)⟩,
     ⟨"--loop-detection", .switch true, some (.switch false)⟩,
     ⟨"--quadratic-overlap", .flag false, some (.flag true)⟩,
     ⟨"--overlap", .size 7, some (.size 10)⟩, ⟨"--database-path", .text "--help", none⟩]
    (MatchingOptions.entries {})
    ((List.reverse_perm [_, _, _, _, _]).append_right _)
    (List.forall_iff_forall_mem.mp ⟨rfl, rfl, rfl⟩)

end CommandLine
end FeaturePipeline
