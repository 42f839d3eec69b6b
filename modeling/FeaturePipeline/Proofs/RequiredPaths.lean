import FeaturePipeline.Proofs.CarriedOptions
import FeaturePipeline.Proofs.ExitCode

/-! The paths that a strategy cannot do without. Main statement: whatever is built has all of them,
and none is empty, with one exception: loop detection is let through when its vocabulary tree is
given by an empty path. -/
namespace FeaturePipeline

/-- Loop detection needs a vocabulary tree, too. -/
def MatchingMethod.neededPaths : MatchingMethod → List (Option String)
  | sequential o => if o.loopDetection then [o.vocabTreePath] else []
  | vocabTree o => [some o.vocabTreePath]
  | _ => []

namespace Strategy

def neededPaths : Strategy → List (Option String)
  | extraction o _ => [some o.databasePath, some o.imagePath]
  | featureImport o _ => [some o.databasePath, some o.imagePath]
  | matching databasePath _ method => some databasePath :: method.neededPaths

/-- All paths that are needed are given; an empty one is not. -/
def PathsGiven (s : Strategy) : Prop := ∀ p ∈ s.neededPaths, givenPath p ≠ none

instance : DecidablePred PathsGiven := fun s =>
  inferInstanceAs (Decidable (∀ p ∈ s.neededPaths, givenPath p ≠ none))

end Strategy

/-- Loops are to be detected, with a vocabulary tree that has an empty path. -/
def MatchingMethod.LacksTree : MatchingMethod → Prop
  | sequential o => o.loopDetection = true ∧ o.vocabTreePath = some ""
  | _ => False

def Strategy.LacksTree : Strategy → Prop
  | matching _ _ method => method.LacksTree
  | _ => False

def Request.LacksTree : Request → Prop
  | sequentialMatcher r => (MatchingMethod.sequential r.options).LacksTree
  | _ => False

theorem givenPath_eq_none_iff {path : Option String} :
    givenPath path = none ↔ path = none ∨ path = some "" := by
  cases path <;> simp [givenPath]

@[simp] theorem givenPath_some_eq_none_iff {path : String} :
    givenPath (some path) = none ↔ path = "" := by
  simp [givenPath_eq_none_iff]

/-- A method that passes its check lacks a path only when it lacks the tree of its loop detection. -/
theorem MatchingMethod.not_given_iff {m : MatchingMethod} (h : m.check = .ok ())
    {p : Option String} (hp : p ∈ m.neededPaths) :
    givenPath p = none ↔ m.LacksTree ∧ p = some "" := by
  cases m with
  | sequential o =>
    cases hloop : o.loopDetection with
    | false => simp [neededPaths, hloop] at hp
    | true =>
      obtain rfl : p = o.vocabTreePath := by simpa [neededPaths, hloop] using hp
      obtain ⟨-, -, -, hpresent⟩ := o.check_eq_ok_iff.mp h
      obtain ⟨path, hpath⟩ := Option.isSome_iff_exists.mp (hpresent hloop)
      simp [LacksTree, hloop, hpath]
  | vocabTree o =>
    obtain rfl : p = some o.vocabTreePath := by simpa [neededPaths] using hp
    obtain ⟨-, -, -, hpath⟩ := o.check_eq_ok_iff.mp h
    simp [LacksTree, hpath]
  | _ => cases hp

theorem ReaderOptions.given_of_check {o : ReaderOptions} (h : ∀ c ∈ o.conditions, c.1)
    {p : Option String} (hp : p = some o.databasePath ∨ p = some o.imagePath) :
    givenPath p ≠ none := by
  obtain ⟨hdatabase, himages, -⟩ := o.check_eq_ok_iff.mp (o.judged_check.ok_iff.mpr h)
  obtain rfl | rfl := hp
  · simpa using hdatabase
  · simpa using himages

theorem Strategy.not_given_iff {s : Strategy} (h : s.check = .ok ()) {p : Option String}
    (hp : p ∈ s.neededPaths) : givenPath p = none ↔ s.LacksTree ∧ p = some "" := by
  have hall := s.judged_check.ok_iff.mp h
  cases s with
  | extraction o e =>
    have hgiven : givenPath p ≠ none :=
      ReaderOptions.given_of_check (List.forall_mem_append.mp hall).1 (by simpa [neededPaths] using hp)
    exact iff_of_false hgiven fun hlacks => hlacks.1
  | featureImport o path =>
    have hgiven : givenPath p ≠ none :=
      ReaderOptions.given_of_check hall (by simpa [neededPaths] using hp)
    exact iff_of_false hgiven fun hlacks => hlacks.1
  | matching path m method =>
    obtain ⟨hpath, hrest⟩ := List.forall_mem_cons.mp hall
    have hmethod := method.judged_check.ok_iff.mpr (List.forall_mem_append.mp hrest).2
    rcases List.mem_cons.mp hp with rfl | hp
    · exact iff_of_false (by simpa using hpath) fun hlacks => hpath (Option.some.inj hlacks.2)
    · exact MatchingMethod.not_given_iff hmethod hp

theorem Strategy.LacksTree.mem_neededPaths {s : Strategy} (h : s.LacksTree) :
    some "" ∈ s.neededPaths := by
  cases s with
  | matching path m method =>
    cases method with
    | sequential o =>
      obtain ⟨hloop, htree⟩ : o.loopDetection = true ∧ o.vocabTreePath = some "" := h
      simp [neededPaths, MatchingMethod.neededPaths, hloop, htree]
    | _ => cases h
  | _ => cases h

theorem Strategy.pathsGiven_iff {s : Strategy} (h : s.check = .ok ()) :
    s.PathsGiven ↔ ¬s.LacksTree := by
  constructor
  · intro hgiven hlacks
    exact hgiven _ hlacks.mem_neededPaths rfl
  · intro hlacks p hp hnone
    exact hlacks ((not_given_iff h hp).mp hnone).1

namespace Request

variable {files : FileSource} {r : Request} {s : Strategy}

theorem Prepared.lacksTree_iff (h : Prepared files r s) : s.LacksTree ↔ r.LacksTree := by
  cases h <;> rfl

theorem check_of_planned (h : r.planned files = some s) : s.check = .ok () := by
  have hfirst := firstCase_resolve files r
  rw [planned_eq_some_iff.mp h] at hfirst
  exact check_of_build hfirst

theorem Accepted.exists_planned (h : r.Accepted files) (hl : r.listFile? = none) :
    ∃ s, r.planned files = some s := by
  have hfirst := firstCase_resolve files r
  obtain ⟨planned, hr⟩ := accepted_iff.mp h
  rw [hr] at hfirst
  cases planned with
  | some s => exact ⟨s, planned_eq_some_iff.mpr hr⟩
  | none =>
    obtain ⟨n, ha, -⟩ := hfirst
    cases ha with
    | blankList hl' _ =>
      rw [hl] at hl'
      cases hl'

theorem LacksTree.listFile? (h : r.LacksTree) : r.listFile? = none := by
  cases r with
  | sequentialMatcher _ => rfl
  | _ => cases h

theorem pathsGiven_planned_iff :
    (∀ s, r.planned files = some s → s.PathsGiven) ↔ ¬(r.LacksTree ∧ r.Accepted files) := by
  constructor
  · rintro hgiven ⟨hlacks, haccepted⟩
    obtain ⟨s, hs⟩ := haccepted.exists_planned hlacks.listFile?
    have hlacks' : s.LacksTree := (prepared_of_planned hs).lacksTree_iff.mpr hlacks
    exact (Strategy.pathsGiven_iff (check_of_planned hs)).mp (hgiven s hs) hlacks'
  · intro h s hs
    rw [Strategy.pathsGiven_iff (check_of_planned hs), (prepared_of_planned hs).lacksTree_iff]
    exact fun hlacks => h ⟨hlacks, accepted_iff.mpr ⟨_, planned_eq_some_iff.mp hs⟩⟩

end Request

theorem Program.built_trace (files : FileSource) (env : Environment) (arguments : List String) :
    (trace files env arguments).built = match CommandLine.read arguments with
      | .ok r => (r.planned files).toList
      | .error _ => [] := by
  unfold trace
  cases CommandLine.read arguments with
  | ok r => rw [Dispatcher.built_run, Dispatcher.built_dispatch]
  | error _ => rfl

/-- Of the paths that a strategy needs, none is missing in what is built, and only one can be empty:
that of the vocabulary tree for loop detection. So all of them are given unless the request asks for
loop detection with an empty path and is accepted. The same holds of the requests that the program
reads from its arguments. -/
theorem Dispatcher.built_pathsGiven_iff (d : Dispatcher) (files : FileSource) (r : Request)
    (mode : Mode) :
    ((∀ s ∈ (d.answer files r mode).2.built, s.PathsGiven) ↔ ¬(r.LacksTree ∧ r.Accepted files)) ∧
    (∀ s ∈ (d.answer files r mode).2.built, ∀ p ∈ s.neededPaths,
      givenPath p = none ↔ r.LacksTree ∧ p = some "") ∧
    ∀ env arguments, (∀ s ∈ (Program.trace files env arguments).built, s.PathsGiven) ↔
      ¬∃ r, CommandLine.read arguments = .ok r ∧ r.LacksTree ∧ r.Accepted files := by
  refine ⟨?_, fun s hs p hp => ?_, fun env arguments => ?_⟩
  · simpa [built_answer] using Request.pathsGiven_planned_iff
  · have hplanned := planned_of_mem_built hs
    rw [Strategy.not_given_iff (Request.check_of_planned hplanned) hp,
      (Request.prepared_of_planned hplanned).lacksTree_iff]
  · rw [Program.built_trace]
    cases CommandLine.read arguments with
    | error _ => simp
    | ok r => simpa using Request.pathsGiven_planned_iff (r := r)

/-- Loop detection with an empty path is let through, from the arguments of the program on. -/
theorem Program.built_without_tree :
    let arguments := ["sequential_matcher", "--database-path", "db", "--loop-detection",
      "--vocab-tree-path", ""]
    let s : Strategy := .matching "db" {}
      (.sequential { loopDetection := true, vocabTreePath := some "" })
    (trace (fun _ => .error .notFound) [] arguments).built = [s] ∧ ¬s.PathsGiven := by
  decide +kernel

end FeaturePipeline
