import FeaturePipeline.CommandLine.Command
import FeaturePipeline.Proofs.TakenOptions

/-! What a request holds, said option by option without regard to how arguments are read. Main
statement: the settings of a command put every option to the field that it stands for here, with the
same default. -/
namespace FeaturePipeline

namespace CommandLine

/-- An option with what a request holds for it. -/
structure Entry where
  option : String
  content : Content
  /-- What is held when the option is not given. A required option has none. -/
  default : Option Content

def Entry.shape (en : Entry) : Shape := ⟨en.option, en.content.isSwitch⟩

def Setting.entry {α : Type} (blank form : α) (s : Setting α) : Entry where
  option := s.option
  content := s.field.content form
  default := if s.required then none else some (s.field.content blank)

end CommandLine

open CommandLine

def ReaderOptions.cameraEntries (o : ReaderOptions) : List Entry :=
  [⟨"--camera-model", .text o.cameraModel, some (.text "SIMPLE_RADIAL")⟩,
   ⟨"--camera-params", .text o.cameraParameters, some (.text "")⟩,
   ⟨"--single-camera", .switch o.singleCamera, some (.switch false)⟩]

def ExtractionOptions.entries (o : ExtractionOptions) : List Entry :=
  [⟨"--use-gpu", .flag o.useGpu, some (.flag true)⟩,
   ⟨"--gpu-index", .text o.gpuIndex, some (.text "-1")⟩,
   ⟨"--num-threads", .integer o.numThreads, some (.integer (-1))⟩,
   ⟨"--max-num-features", .size o.maxNumFeatures, some (.size 8192)⟩]

def MatchingOptions.entries (o : MatchingOptions) : List Entry :=
  [⟨"--use-gpu", .flag o.useGpu, some (.flag true)⟩,
   ⟨"--gpu-index", .text o.gpuIndex, some (.text "-1")⟩,
   ⟨"--num-threads", .integer o.numThreads, some (.integer (-1))⟩]

namespace Request

/-- The options of a request, in the order in which the help lists them. -/
def entries : Request → List Entry
  | featureExtractor r =>
    [⟨"--database-path", .text r.reader.databasePath, none⟩,
     ⟨"--image-path", .text r.reader.imagePath, none⟩,
     ⟨"--image-list-path", .optionalText r.imageListPath, some (.optionalText none)⟩] ++
    r.reader.cameraEntries ++ r.extraction.entries
  | featureImporter r =>
    [⟨"--database-path", .text r.reader.databasePath, none⟩,
     ⟨"--image-path", .text r.reader.imagePath, none⟩,
     ⟨"--import-path", .text r.importPath, none⟩,
     ⟨"--image-list-path", .optionalText r.imageListPath, some (.optionalText none)⟩] ++
    r.reader.cameraEntries
  | exhaustiveMatcher r =>
    [⟨"--database-path", .text r.databasePath, none⟩,
     ⟨"--block-size", .size r.options.blockSize, some (.size 50)⟩] ++ r.matching.entries
  | matchesImporter r =>
    [⟨"--database-path", .text r.databasePath, none⟩,
     ⟨"--match-list-path", .text r.matchListPath, none⟩,
     ⟨"--match-type", .text r.matchType, some (.text "pairs")⟩] ++ r.matching.entries
  | sequentialMatcher r =>
    [⟨"--database-path", .text r.databasePath, none⟩,
     ⟨"--overlap", .size r.options.overlap, some (.size 10)⟩,
     ⟨"--quadratic-overlap", .flag r.options.quadraticOverlap, some (.flag true)⟩,
     ⟨"--loop-detection", .switch r.options.loopDetection, some (.switch false)⟩,
     ⟨"--vocab-tree-path", .optionalText r.options.vocabTreePath, some (.optionalText none)⟩] ++
    r.matching.entries
  | spatialMatcher r =>
    [⟨"--database-path", .text r.databasePath, none⟩,
     ⟨"--is-gps", .flag r.options.isGps, some (.flag true)⟩,
     ⟨"--ignore-z", .flag r.options.ignoreZ, some (.flag true)⟩,
     ⟨"--max-num-neighbors", .size r.options.maxNumNeighbors, some (.size 50)⟩,
     -- The double is 100.
     ⟨"--max-distance", .number r.options.maxDistance, some (.number ⟨0x4059000000000000⟩)⟩] ++
    r.matching.entries
  | transitiveMatcher r =>
    [⟨"--database-path", .text r.databasePath, none⟩,
     ⟨"--batch-size", .size r.options.batchSize, some (.size 1000)⟩,
     ⟨"--num-iterations", .size r.options.numIterations, some (.size 3)⟩] ++ r.matching.entries
  | vocabTreeMatcher r =>
    [⟨"--database-path", .text r.databasePath, none⟩,
     ⟨"--vocab-tree-path", .text r.options.vocabTreePath, none⟩,
     ⟨"--num-images", .size r.options.numImages, some (.size 100)⟩,
     ⟨"--match-list-path", .optionalText r.options.matchListPath, some (.optionalText none)⟩] ++
    r.matching.entries

def shapes (r : Request) : List Shape := r.entries.map Entry.shape

theorem default_of_isSwitch (r : Request) :
    ∀ en ∈ r.entries, en.content.isSwitch = true → en.default = some (.switch false) := by
  cases r <;> simp [entries, ReaderOptions.cameraEntries, ExtractionOptions.entries,
    MatchingOptions.entries, Content.isSwitch]

theorem text_of_required (r : Request) :
    ∀ en ∈ r.entries, en.default = none → ∃ s, en.content = .text s := by
  cases r <;> simp [entries, ReaderOptions.cameraEntries, ExtractionOptions.entries,
    MatchingOptions.entries]

theorem options_nodup (r : Request) : (r.entries.map Entry.option).Nodup := by
  cases r <;> simp [entries, ReaderOptions.cameraEntries, ExtractionOptions.entries,
    MatchingOptions.entries]

end Request

/-- The reader as far as arguments make it. -/
def ReaderOptions.settable (o : ReaderOptions) : ReaderOptions :=
  { databasePath := o.databasePath, imagePath := o.imagePath, cameraModel := o.cameraModel,
    cameraParameters := o.cameraParameters, singleCamera := o.singleCamera }

def ExtractionOptions.settable (o : ExtractionOptions) : ExtractionOptions :=
  { useGpu := o.useGpu, gpuIndex := o.gpuIndex, numThreads := o.numThreads,
    maxNumFeatures := o.maxNumFeatures }

def MatchingOptions.settable (o : MatchingOptions) : MatchingOptions :=
  { useGpu := o.useGpu, gpuIndex := o.gpuIndex, numThreads := o.numThreads }

def SequentialOptions.settable (o : SequentialOptions) : SequentialOptions :=
  { overlap := o.overlap, quadraticOverlap := o.quadraticOverlap,
    loopDetection := o.loopDetection, vocabTreePath := o.vocabTreePath }

def VocabTreeOptions.settable (o : VocabTreeOptions) : VocabTreeOptions :=
  { numImages := o.numImages, vocabTreePath := o.vocabTreePath, matchListPath := o.matchListPath }

namespace EntryPoint

/-- The form with the defaults in place of what no option of the command sets. -/
def settable : (e : EntryPoint) → e.Form → e.Form
  | featureExtractor, (r : ExtractorRequest) =>
    { r with reader := r.reader.settable, extraction := r.extraction.settable }
  | featureImporter, (r : ImporterRequest) => { r with reader := r.reader.settable }
  | exhaustiveMatcher, (r : MatcherRequest ExhaustiveOptions) =>
    { r with matching := r.matching.settable }
  | matchesImporter, (r : MatchesImporterRequest) => { r with matching := r.matching.settable }
  | sequentialMatcher, (r : MatcherRequest SequentialOptions) =>
    { r with matching := r.matching.settable, options := r.options.settable }
  | spatialMatcher, (r : MatcherRequest SpatialOptions) =>
    { r with matching := r.matching.settable }
  | transitiveMatcher, (r : MatcherRequest TransitiveOptions) =>
    { r with matching := r.matching.settable }
  | vocabTreeMatcher, (r : MatcherRequest VocabTreeOptions) =>
    { r with matching := r.matching.settable, options := r.options.settable }

/-- The form with what its required options say, and the defaults of the library in all else. -/
def bare : (e : EntryPoint) → e.Form → e.Form
  | featureExtractor, (r : ExtractorRequest) =>
    ({ reader := { databasePath := r.reader.databasePath, imagePath := r.reader.imagePath } } :
      ExtractorRequest)
  | featureImporter, (r : ImporterRequest) =>
    ({ reader := { databasePath := r.reader.databasePath, imagePath := r.reader.imagePath },
       importPath := r.importPath } : ImporterRequest)
  | exhaustiveMatcher, (r : MatcherRequest ExhaustiveOptions) =>
    ({ databasePath := r.databasePath, options := {} } : MatcherRequest ExhaustiveOptions)
  | matchesImporter, (r : MatchesImporterRequest) =>
    -- The library has no default for the match type.
    ({ databasePath := r.databasePath, matchListPath := r.matchListPath, matchType := "pairs" } :
      MatchesImporterRequest)
  | sequentialMatcher, (r : MatcherRequest SequentialOptions) =>
    ({ databasePath := r.databasePath, options := {} } : MatcherRequest SequentialOptions)
  | spatialMatcher, (r : MatcherRequest SpatialOptions) =>
    ({ databasePath := r.databasePath, options := {} } : MatcherRequest SpatialOptions)
  | transitiveMatcher, (r : MatcherRequest TransitiveOptions) =>
    ({ databasePath := r.databasePath, options := {} } : MatcherRequest TransitiveOptions)
  | vocabTreeMatcher, (r : MatcherRequest VocabTreeOptions) =>
    ({ databasePath := r.databasePath, options := { vocabTreePath := r.options.vocabTreePath } } :
      MatcherRequest VocabTreeOptions)

/-- The settings of a command are the options of its requests, each for the same field and with the
same default. -/
theorem entries_request (e : EntryPoint) (form : e.Form) :
    (e.request form).entries = e.settings.map (Setting.entry e.blank form) := by
  cases e <;> rfl

example : Binary64.read "100.0".toList = .ok ⟨0x4059000000000000⟩ := by decide +kernel

theorem mem_entries_request {e : EntryPoint} {form : e.Form} {en : Entry} :
    en ∈ (e.request form).entries ↔ ∃ s ∈ e.settings, s.entry e.blank form = en := by
  rw [entries_request, List.mem_map]

theorem entry_mem {e : EntryPoint} {s : Setting e.Form} (hs : s ∈ e.settings) (form : e.Form) :
    s.entry e.blank form ∈ (e.request form).entries :=
  mem_entries_request.mpr ⟨s, hs, rfl⟩

theorem shapes_request (e : EntryPoint) (form : e.Form) :
    (e.request form).shapes = e.settings.map Setting.shape := by
  rw [Request.shapes, entries_request, List.map_map]
  refine List.map_congr_left fun s _ => ?_
  simp [Setting.entry, Entry.shape, Setting.shape]

theorem fields_lawful (e : EntryPoint) : e.settings.Forall fun s => s.field.Lawful := by
  cases e <;> (repeat' apply And.intro) <;> exact fun _ _ => rfl

/-- Each field is a place of its own: it is the one that is copied, or it stays. It is said of all
pairs at once, so that each table is evaluated as a whole. -/
theorem copies_apart (e : EntryPoint) : e.settings.Forall fun s => e.settings.Forall fun t =>
    ∀ target form, t.field.content (s.field.copy target form) =
      t.field.content (if t.option = s.option then target else form) := by
  cases e <;> (repeat' apply And.intro) <;> exact fun _ _ => rfl

theorem readable (e : EntryPoint) : Readable e.settings where
  distinct := by cases e <;> decide
  spoken := by cases e <;> decide
  lawful := List.forall_iff_forall_mem.mp e.fields_lawful
  apart s hs t ht hne target form := by
    have hall := List.forall_iff_forall_mem.mp e.copies_apart s hs
    have hcontent := List.forall_iff_forall_mem.mp hall t ht target form
    rwa [if_neg hne] at hcontent

theorem settable_copies (e : EntryPoint) :
    e.settings.map (fun s => fun target form => e.settable (s.field.copy target form)) =
      e.settings.map fun s => fun target form => s.field.copy target (e.settable form) := by
  cases e <;> rfl

theorem settable_blank (e : EntryPoint) : e.settable e.blank = e.blank := by
  cases e <;> rfl

theorem settable_bare (e : EntryPoint) (form : e.Form) : e.settable (e.bare form) = e.bare form := by
  cases e <;> rfl

theorem content_bare (e : EntryPoint) : e.settings.Forall fun s => ∀ form,
    s.field.content (e.bare form) = s.field.content (if s.required then form else e.blank) := by
  cases e <;> (repeat' apply And.intro) <;> exact fun _ => rfl

/-- All fields together make a form, apart from what no option sets. -/
theorem settable_eq_foldl (e : EntryPoint) (target : e.Form) :
    e.settable target = e.settings.foldl (fun form s => s.field.copy target form) e.blank := by
  cases e <;> rfl

theorem settable_congr {e : EntryPoint} {form form' : e.Form}
    (h : ∀ s ∈ e.settings, s.field.content form = s.field.content form') :
    e.settable form = e.settable form' := by
  rw [settable_eq_foldl, settable_eq_foldl]
  exact List.foldl_ext _ _ _ fun a s hs => Field.copy_congr (h s hs) a

end EntryPoint
end FeaturePipeline
