import Mathlib.Data.List.Nodup

/-! Arguments as options, each alone or with its value behind it. Main statement: when the options are
told apart by their names, arguments are made of options in one way at most. -/
namespace FeaturePipeline.CommandLine

/-- An option, and whether it stands alone. -/
structure Shape where
  option : String
  alone : Bool
deriving DecidableEq

/-- An option as it is given: alone, or with its value. -/
structure Given where
  option : String
  value : Option String

namespace Given

def shape (g : Given) : Shape := ⟨g.option, g.value.isNone⟩

def arguments (g : Given) : List String := g.option :: g.value.toList

def withValue (given : List Given) : List String :=
  (given.filter (·.value.isSome)).map Given.option

theorem withValue_cons_some (option value : String) (given : List Given) :
    withValue (⟨option, some value⟩ :: given) = option :: withValue given := rfl

theorem mem_withValue {given : List Given} {option : String} :
    option ∈ withValue given ↔ ∃ value, ⟨option, some value⟩ ∈ given := by
  simp only [withValue, List.mem_map, List.mem_filter]
  constructor
  · rintro ⟨⟨o, v⟩, ⟨hmem, hsome⟩, rfl⟩
    obtain ⟨value, rfl⟩ := Option.isSome_iff_exists.mp hsome
    exact ⟨value, hmem⟩
  · rintro ⟨value, hmem⟩
    exact ⟨_, ⟨hmem, rfl⟩, rfl⟩

theorem value_unique {given : List Given} (honce : (withValue given).Nodup)
    {option value value' : String} (h : ⟨option, some value⟩ ∈ given)
    (h' : ⟨option, some value'⟩ ∈ given) : value = value' := by
  have hgiven : (⟨option, some value⟩ : Given) = ⟨option, some value'⟩ :=
    List.inj_on_of_nodup_map honce (List.mem_filter.mpr ⟨h, rfl⟩) (List.mem_filter.mpr ⟨h', rfl⟩)
      rfl
  exact Option.some.inj (congrArg Given.value hgiven)

end Given

/-- The arguments are options of these shapes and nothing else, apart from the mark that ends the
options. -/
def MadeOf (shapes : List Shape) (given : List Given) (arguments : List String) : Prop :=
  (∀ g ∈ given, g.shape ∈ shapes) ∧ ∃ ending, (ending = [] ∨ ending = ["--"]) ∧
    arguments = given.flatMap Given.arguments ++ ending

variable {shapes : List Shape} {g : Given} {given : List Given} {rest arguments : List String}

theorem madeOf_nil : MadeOf shapes [] [] := ⟨List.forall_mem_nil _, [], .inl rfl, rfl⟩

theorem madeOf_ended : MadeOf shapes [] ["--"] := ⟨List.forall_mem_nil _, _, .inr rfl, rfl⟩

theorem madeOf_flatMap (h : ∀ g ∈ given, g.shape ∈ shapes) :
    MadeOf shapes given (given.flatMap Given.arguments) :=
  ⟨h, [], .inl rfl, (List.append_nil _).symm⟩

theorem MadeOf.cons (h : MadeOf shapes given arguments) (hg : g.shape ∈ shapes) :
    MadeOf shapes (g :: given) (g.arguments ++ arguments) := by
  obtain ⟨hshapes, ending, hending, rfl⟩ := h
  exact ⟨List.forall_mem_cons.mpr ⟨hg, hshapes⟩, ending, hending, by simp⟩

theorem MadeOf.prepend (h : MadeOf shapes given arguments) {before : List Given}
    (hb : ∀ g ∈ before, g.shape ∈ shapes) :
    MadeOf shapes (before ++ given) (before.flatMap Given.arguments ++ arguments) := by
  obtain ⟨hshapes, ending, hending, rfl⟩ := h
  exact ⟨List.forall_mem_append.mpr ⟨hb, hshapes⟩, ending, hending, by simp⟩

/-- The options are told apart from each other and from the mark that ends them. -/
structure Apart (shapes : List Shape) : Prop where
  nodup : (shapes.map Shape.option).Nodup
  mark : "--" ∉ shapes.map Shape.option

section Apart

variable (ha : Apart shapes)
include ha

theorem Apart.shape_eq {s t : Shape} (hs : s ∈ shapes) (ht : t ∈ shapes)
    (h : s.option = t.option) : s = t :=
  List.inj_on_of_nodup_map ha.nodup hs ht h

/-- The name of an option tells whether the next argument is its value. -/
theorem Apart.cancel {g' : Given} {rest' : List String} (hg : g.shape ∈ shapes)
    (hg' : g'.shape ∈ shapes) (h : g.arguments ++ rest = g'.arguments ++ rest') :
    g = g' ∧ rest = rest' := by
  obtain ⟨option, value⟩ := g
  obtain ⟨option', value'⟩ := g'
  obtain ⟨rfl, htail⟩ := List.cons.inj h
  have halone : value.isNone = value'.isNone := congrArg Shape.alone (ha.shape_eq hg hg' rfl)
  cases value with
  | none =>
    cases value' with
    | none => exact ⟨rfl, htail⟩
    | some v' => cases halone
  | some v =>
    cases value' with
    | none => cases halone
    | some v' =>
      obtain ⟨rfl, hrest⟩ := List.cons.inj htail
      exact ⟨rfl, hrest⟩

theorem Apart.not_ending (hg : g.shape ∈ shapes) {ending : List String}
    (hending : ending = [] ∨ ending = ["--"]) : g.arguments ++ rest ≠ ending := by
  intro h
  obtain rfl | rfl := hending
  · cases h
  · exact ha.mark ((List.cons.inj h).1 ▸ List.mem_map_of_mem hg)

theorem MadeOf.uncons (h : MadeOf shapes given (g.arguments ++ rest)) (hg : g.shape ∈ shapes) :
    ∃ later, given = g :: later ∧ MadeOf shapes later rest := by
  obtain ⟨hshapes, ending, hending, heq⟩ := h
  cases given with
  | nil => exact absurd heq (ha.not_ending hg hending)
  | cons g' later =>
    obtain ⟨hg', hlater⟩ := List.forall_mem_cons.mp hshapes
    rw [List.flatMap_cons, List.append_assoc] at heq
    obtain ⟨rfl, rfl⟩ := ha.cancel hg hg' heq
    exact ⟨later, rfl, hlater, ending, hending, rfl⟩

theorem MadeOf.uncons_flatMap {before : List Given}
    (h : MadeOf shapes given (before.flatMap Given.arguments ++ rest))
    (hb : ∀ g ∈ before, g.shape ∈ shapes) :
    ∃ later, given = before ++ later ∧ MadeOf shapes later rest := by
  induction before generalizing given with
  | nil => exact ⟨given, rfl, h⟩
  | cons g before ih =>
    obtain ⟨hg, hbefore⟩ := List.forall_mem_cons.mp hb
    rw [List.flatMap_cons, List.append_assoc] at h
    obtain ⟨tail, rfl, htail⟩ := h.uncons ha hg
    obtain ⟨later, rfl, hlater⟩ := ih htail hbefore
    exact ⟨later, rfl, hlater⟩

/-- Arguments are made of options in one way at most. -/
theorem MadeOf.unique {given' : List Given} (h : MadeOf shapes given arguments)
    (h' : MadeOf shapes given' arguments) : given' = given := by
  obtain ⟨hshapes, ending, hending, rfl⟩ := h
  obtain ⟨later, rfl, hlater, ending', -, heq⟩ := h'.uncons_flatMap ha hshapes
  cases later with
  | nil => exact List.append_nil _
  | cons g later =>
    rw [List.flatMap_cons, List.append_assoc] at heq
    exact absurd heq.symm (ha.not_ending (List.forall_mem_cons.mp hlater).1 hending)

end Apart
end FeaturePipeline.CommandLine
