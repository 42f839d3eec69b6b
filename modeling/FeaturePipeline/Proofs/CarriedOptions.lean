import FeaturePipeline.Proofs.FailedDispatch
import FeaturePipeline.Proofs.ListedImages

/-! What a strategy keeps of its request. The request can be read off the strategy again, apart
from the images, which a list file may have replaced, and from the path of that file. Main
statement: whatever is built carries the options of its request unchanged, and its kind tells the
name of the request. -/
namespace FeaturePipeline

/-- The request that a strategy stands for, with the path of a list file next to it. -/
def Strategy.request (listPath : Option String) : Strategy → Request
  | extraction o e => .featureExtractor { reader := o, extraction := e, imageListPath := listPath }
  | featureImport o importPath =>
    .featureImporter { reader := o, importPath := importPath, imageListPath := listPath }
  | matching db m method =>
    match method with
    | .exhaustive o => .exhaustiveMatcher { databasePath := db, matching := m, options := o }
    | .sequential o => .sequentialMatcher { databasePath := db, matching := m, options := o }
    | .spatial o => .spatialMatcher { databasePath := db, matching := m, options := o }
    | .transitive o => .transitiveMatcher { databasePath := db, matching := m, options := o }
    | .vocabTree o => .vocabTreeMatcher { databasePath := db, matching := m, options := o }
    | .imagePairs o =>
      .matchesImporter { databasePath := db, matching := m, matchListPath := o.matchListPath,
                         matchType := "pairs" }
    | .featurePairs o =>
      .matchesImporter { databasePath := db, matching := m, matchListPath := o.matchListPath,
                         matchType := if o.verifyMatches then "raw" else "inliers" }

def StrategyKind.entryPoint : StrategyKind → EntryPoint
  | featureExtraction => .featureExtractor
  | featureImport => .featureImporter
  | exhaustiveMatching => .exhaustiveMatcher
  | sequentialMatching => .sequentialMatcher
  | spatialMatching => .spatialMatcher
  | transitiveMatching => .transitiveMatcher
  | vocabTreeMatching => .vocabTreeMatcher
  | imagePairsMatching | featurePairsMatching => .matchesImporter

theorem StrategyKind.eq_of_entryPoint {k l : StrategyKind} (h : k.entryPoint = l.entryPoint)
    (hp : k = imagePairsMatching ↔ l = imagePairsMatching) : k = l := by
  revert h hp
  cases k <;> cases l <;> decide

namespace Request

def listPath? : Request → Option String
  | featureExtractor r => r.imageListPath
  | featureImporter r => r.imageListPath
  | _ => none

def matchType? : Request → Option String
  | matchesImporter r => some r.matchType
  | _ => none

theorem listFile?_eq (r : Request) : r.listFile? = givenPath r.listPath? := by
  cases r <;> rfl

theorem withImages_images? (r : Request) : r.withImages (r.images?.getD []) = r := by
  cases r <;> rfl

section Prepared

variable {files : FileSource} {r : Request} {s : Strategy}

/-- A request is read off its strategy, with the images that the strategy names. -/
theorem Prepared.request_eq (h : Prepared files r s) :
    s.request r.listPath? = r.withImages (s.images?.getD []) := by
  cases h with
  | pairs h | raw h | inliers h => simp [Strategy.request, withImages, ← h]
  | _ => rfl

theorem Prepared.kind_entryPoint (h : Prepared files r s) : s.kind.entryPoint = r.entryPoint := by
  cases h <;> rfl

theorem Prepared.kind_eq_imagePairs_iff (h : Prepared files r s) :
    s.kind = .imagePairsMatching ↔ r.matchType? = some "pairs" := by
  cases h with
  | pairs h | raw h | inliers h => simp [Strategy.kind, MatchingMethod.kind, matchType?, h]
  | _ => simp [Strategy.kind, MatchingMethod.kind, matchType?]

theorem request_of_planned (hs : r.planned files = some s) (hl : r.listFile? = none) :
    s.request r.listPath? = r := by
  rw [(prepared_of_planned hs).request_eq, images_of_unlisted hl hs, withImages_images?]

end Prepared

theorem kind_eq_iff {files files' : FileSource} {r r' : Request} {s s' : Strategy}
    (h : Prepared files r s) (h' : Prepared files' r' s') : s.kind = s'.kind ↔
      r.name = r'.name ∧ (r.matchType? = some "pairs" ↔ r'.matchType? = some "pairs") := by
  rw [← h.kind_eq_imagePairs_iff, ← h'.kind_eq_imagePairs_iff, Request.name, Request.name,
    ← h.kind_entryPoint, ← h'.kind_entryPoint]
  constructor
  · intro hk
    rw [hk]
    exact ⟨rfl, Iff.rfl⟩
  · intro ⟨hname, hpairs⟩
    exact StrategyKind.eq_of_entryPoint (EntryPoint.name_injective hname) hpairs

end Request

namespace Dispatcher

theorem planned_of_mem_built {d : Dispatcher} {files : FileSource} {r : Request} {mode : Mode}
    {s : Strategy} (hs : s ∈ (d.answer files r mode).2.built) : r.planned files = some s := by
  rw [built_answer] at hs
  exact Option.mem_toList.mp hs

/-- What is built is what the request describes, and the request can be read off it, apart from the
images of a list file. A completed dispatch tells the kind of what it has built, and the kind tells
the name of the request and whether matches are imported as image pairs. Requests without a list
file are the same as soon as one strategy is built for both. -/
theorem answer_carries_options (d d' : Dispatcher) (files files' : FileSource) (r r' : Request)
    (mode mode' : Mode) :
    (∀ s ∈ (d.answer files r mode).2.built, Request.Prepared files r s ∧
      s.request r.listPath? = r.withImages (s.images?.getD []) ∧
      (r.listFile? = none → s.request r.listPath? = r)) ∧
    (∀ k, (d.dispatch files r).1 = .returned (.ok (.completed k)) →
      ∃ s, (d.dispatch files r).2.built = [s] ∧ s.kind = k ∧ k.entryPoint.name = r.name) ∧
    ∀ s ∈ (d.answer files r mode).2.built, ∀ s' ∈ (d'.answer files' r' mode').2.built,
      (s.kind = s'.kind ↔
        r.name = r'.name ∧ (r.matchType? = some "pairs" ↔ r'.matchType? = some "pairs")) ∧
      (r.listPath? = none → r'.listPath? = none → s = s' → r = r') := by
  have hunlisted : ∀ r : Request, r.listPath? = none → r.listFile? = none := by
    intro r hr
    rw [r.listFile?_eq, hr]
    rfl
  refine ⟨fun s hs => ?_, fun k hk => ?_, fun s hs s' hs' => ?_⟩
  · have h := planned_of_mem_built hs
    exact ⟨Request.prepared_of_planned h, (Request.prepared_of_planned h).request_eq,
      Request.request_of_planned h⟩
  · obtain ⟨s, hbuilt, hkind, -⟩ := completed_dispatch hk
    have h : r.planned files = some s := by
      rw [built_dispatch] at hbuilt
      exact Option.mem_toList.mp (hbuilt ▸ List.mem_singleton_self s)
    refine ⟨s, hbuilt, hkind, ?_⟩
    rw [← hkind, (Request.prepared_of_planned h).kind_entryPoint, Request.name]
  · have h := planned_of_mem_built hs
    have h' := planned_of_mem_built hs'
    refine ⟨Request.kind_eq_iff (Request.prepared_of_planned h) (Request.prepared_of_planned h'),
      fun hl hl' heq => ?_⟩
    rw [← Request.request_of_planned h (hunlisted r hl), hl, heq,
      ← Request.request_of_planned h' (hunlisted r' hl'), hl']

/-- Raw matches with options of their own, and spatial matching at a distance of its own. -/
theorem answer_carries_options_of_matchers :
    let d : Dispatcher := { factory := fun _ => .idle none, provider := .quiet, gpu := true }
    let files : FileSource := fun _ => .error .notFound
    let m : MatchingOptions := { gpuIndex := "1,2", crossCheck := false, maxNumMatches := 7 }
    let raw : Request := .matchesImporter
      { databasePath := "db", matching := m, matchListPath := "matches.txt", matchType := "raw" }
    let spatial : Request := .spatialMatcher
      { databasePath := "db", matching := m,
        options := { isGps := false, maxDistance := .one } }
    ∃ s s', (d.answer files raw .run).2.built = [s] ∧
      (d.answer files spatial .dispatch).2.built = [s'] ∧ raw.listFile? = none ∧
      s.request none = raw ∧ s'.request none = spatial ∧ s.kind ≠ s'.kind := by
  intro d files m raw spatial
  let s : Strategy := .matching "db" m (.featurePairs { matchListPath := "matches.txt" })
  let s' : Strategy := .matching "db" m (.spatial { isGps := false, maxDistance := .one })
  have hs : (d.answer files raw .run).2.built = [s] := by decide +kernel
  have hs' : (d.answer files spatial .dispatch).2.built = [s'] := by decide +kernel
  have hmem : s ∈ (d.answer files raw .run).2.built := hs ▸ List.mem_singleton_self s
  have hmem' : s' ∈ (d.answer files spatial .dispatch).2.built :=
    hs' ▸ List.mem_singleton_self s'
  have h := answer_carries_options d d files files raw spatial .run .dispatch
  have h' := answer_carries_options d d files files spatial raw .dispatch .run
  refine ⟨s, s', hs, hs', rfl, (h.1 s hmem).2.2 rfl, (h'.1 s' hmem').2.2 rfl, fun hkind => ?_⟩
  have hname := ((h.2.2 s hmem s' hmem').1.mp hkind).1
  revert hname
  decide

end Dispatcher
end FeaturePipeline
