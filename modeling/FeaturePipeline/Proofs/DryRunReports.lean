import FeaturePipeline.Proofs.ContextCalls
import FeaturePipeline.Proofs.ContextErasure
import FeaturePipeline.Proofs.ExitCode

/-! What a dry run reports. Main statement: the log of an accepted request is the plan with all its
images between the words of the dispatcher and of the context, in one order whatever the pace of the
worker, and nothing is left that could be logged later. -/
namespace FeaturePipeline

theorem Request.firstCase_build_iff (r : Request) {files : FileSource} {s : Strategy} :
    r.FirstCase files (.build s) ↔ r.planned files = some s := by
  have hfirst := firstCase_resolve files r
  rw [planned_eq_some_iff]
  constructor
  · intro h
    have hsame := h.unique hfirst
    cases hr : r.resolve files with
    | error e => simp [hr, Decision.ofResolution] at hsame
    | ok planned =>
      cases planned with
      | none => simp [hr, Decision.ofResolution] at hsame
      | some t => simpa [hr, Decision.ofResolution, eq_comm] using hsame
  · intro h
    rwa [h] at hfirst

theorem Request.planned_eq_none {r : Request} {files : FileSource}
    (h : ∀ s, ¬r.FirstCase files (.build s)) : r.planned files = none := by
  rw [Option.eq_none_iff_forall_ne_some]
  exact fun s hs => h s (r.firstCase_build_iff.mpr hs)

theorem Dispatcher.dispatch_of_planned (d : Dispatcher) {files : FileSource} {r : Request}
    {s : Strategy} (h : r.planned files = some s) : d.dispatch files r = d.perform s := by
  rw [dispatch, Request.planned_eq_some_iff.mp h]

/-- The path of a name under a root; an absolute name is its own path. -/
inductive Path.Joined (root name : String) : String → Prop where
  | absolute (h : name.toList.head? = some '/') : Joined root name name
  | behind (h : name.toList.head? ≠ some '/')
    (hr : root = "" ∨ root.toList.getLast? = some '/') : Joined root name (root ++ name)
  | separated (h : name.toList.head? ≠ some '/')
    (hr : ¬(root = "" ∨ root.toList.getLast? = some '/')) :
    Joined root name (root ++ "/" ++ name)

theorem Path.joined_join (root name : String) : Joined root name (join root name) := by
  by_cases h : name.toList.head? = some '/'
  · have habsolute : isAbsolute name = true := by simp [isAbsolute, h]
    rw [join, if_pos habsolute]
    exact .absolute h
  · have hrelative : ¬isAbsolute name = true := by simpa [isAbsolute] using h
    rw [join, if_neg hrelative]
    split
    · exact .behind h ‹_›
    · exact .separated h ‹_›

namespace DryRun

/-- What is logged of the images of a strategy, one record each. Only an extraction goes through
its images. -/
inductive ImagesLogged : Strategy → List Log.Record → Prop where
  | extraction {o : ReaderOptions} {paths : List String} (e : ExtractionOptions)
    (h : List.Forall₂ (Path.Joined o.imagePath) o.imageList paths) :
    ImagesLogged (.extraction o e) (paths.map fun path => ⟨.debug, .dryRun, "  " ++ path⟩)
  | featureImport (o : ReaderOptions) (importPath : String) :
    ImagesLogged (.featureImport o importPath) []
  | matching (databasePath : String) (m : MatchingOptions) (method : MatchingMethod) :
    ImagesLogged (.matching databasePath m method) []

/-- All that is logged when a strategy is dispatched to a dry run, in a context or without one. -/
inductive Reported (s : Strategy) (inContext : Bool) : List Log.Record → Prop where
  | records {images : List Log.Record} (hi : ImagesLogged s images) : Reported s inContext
    ([⟨.debug, .dispatch, s!"Dispatching {s.plan} (gpu: {inContext})"⟩] ++
      (if inContext then [⟨.debug, .gpu, "Acquired rendering context on ThreadId(_)"⟩] else []) ++
      [⟨.info, .dryRun, s!"Running {s.plan}"⟩] ++ images ++
      [⟨.info, .dryRun, s!"Finished {s.kind.name}"⟩] ++
      (if inContext then [⟨.debug, .gpu, "Released rendering context on ThreadId(_)"⟩] else []) ++
      [⟨.debug, .dispatch, s!"{s.kind.name} completed"⟩])

theorem exists_imagesLogged (s : Strategy) : ∃ images, ImagesLogged s images ∧
    records s = ⟨.info, .dryRun, s!"Running {s.plan}"⟩ :: images ++
      [⟨.info, .dryRun, s!"Finished {s.kind.name}"⟩] := by
  cases s with
  | extraction o e =>
    have hpaths : List.Forall₂ (Path.Joined o.imagePath) o.imageList
        (o.imageList.map (Path.join o.imagePath)) :=
      List.forall₂_map_right_iff.mpr (List.forall₂_same.mpr fun name _ =>
        Path.joined_join o.imagePath name)
    exact ⟨_, .extraction e hpaths, rfl⟩
  | featureImport o importPath => exact ⟨[], .featureImport o importPath, rfl⟩
  | matching databasePath m method => exact ⟨[], .matching databasePath m method, rfl⟩

section Task

variable (pace : Nat) (s : Strategy) (on : Thread)

/-- Up to the join the whole plan is logged, whatever the pace of the worker. -/
theorem records_run : ((factory pace s).run on).2.2.records = records s := by
  have hstart := ThreadTask.start_of_job (t := task s) rfl s.kind.nul_not_mem_name
  have heffects : ((records s).map Effect.logged).map Effect.observation =
      (records s).map Observation.logged := List.map_map
  have hlogged : (factory pace s).logged on = records s := by
    rw [factory, Task.logged_thread, hstart]
    simp [task, ThreadTask.new, ThreadTask.wait, Trace.ofEffects, heffects]
  rw [← hlogged, Task.logged, Task.drop_of_return on _ (run_factory pace s on), Trace.records_nil,
    List.append_nil]

/-- The worker is joined when the run is over, and it has nothing left to log. -/
theorem run_left : ((factory pace s).run on).2.1 =
    .thread { name := s.kind.name, job := none, state := .finished } pace := by
  have hstart := ThreadTask.start_of_job (t := task s) rfl s.kind.nul_not_mem_name
  have hreturn : (task s).start.1 = .returned () := by rw [hstart]
  rw [factory, (Task.run_thread_of_return pace on hreturn).2.1, hstart]
  rfl

end Task

def dispatcher (pace : Nat) (gpu : Bool) (runner : Nat) : Dispatcher where
  factory := factory pace
  provider := .headless
  gpu := gpu
  runner := runner

section Dispatcher

variable (pace : Nat) (gpu : Bool) (runner : Nat) (s : Strategy)

@[simp] theorem factory_dispatcher : (dispatcher pace gpu runner).factory = factory pace := rfl
@[simp] theorem provider_dispatcher : (dispatcher pace gpu runner).provider = .headless := rfl
@[simp] theorem runner_dispatcher : (dispatcher pace gpu runner).runner = runner := rfl
@[simp] theorem usesGpu_dispatcher :
    (dispatcher pace gpu runner).usesGpu s = (s.usesGpu && gpu) := rfl

theorem runTask_dispatcher :
    ((dispatcher pace gpu runner).runTask s).1 = .returned (.ok ()) ∧
      ((dispatcher pace gpu runner).runTask s).2.1 =
        .thread { name := s.kind.name, job := none, state := .finished } pace := by
  cases hu : (dispatcher pace gpu runner).usesGpu s with
  | false =>
    rw [Dispatcher.runTask_plain _ s hu]
    simp [run_factory, run_left]
  | true =>
    rw [Dispatcher.runTask_inContext _ s hu rfl]
    simp [run_factory, run_left]

theorem reported_perform : Reported s (s.usesGpu && gpu)
    ((dispatcher pace gpu runner).perform s).2.records := by
  obtain ⟨images, hi, hrecords⟩ := exists_imagesLogged s
  obtain ⟨hreturn, hleft⟩ := runTask_dispatcher pace gpu runner s
  have hdrop : ((dispatcher pace gpu runner).runTask s).2.1.drop = [] := by rw [hleft]; rfl
  rw [Dispatcher.records_perform, Dispatcher.logged, hreturn, hdrop,
    ← usesGpu_dispatcher pace gpu runner]
  cases hu : (dispatcher pace gpu runner).usesGpu s with
  | false =>
    have hreported : Reported s false _ := .records hi
    rw [Dispatcher.runTask_plain _ s hu]
    simpa [records_run, hrecords, Log.dispatching, Dispatcher.completion] using hreported
  | true =>
    have hreported : Reported s true _ := .records hi
    rw [Dispatcher.runTask_inContext _ s hu rfl]
    simpa [records_run, hrecords, Log.dispatching, Dispatcher.completion,
      ContextProvider.headless] using hreported

end Dispatcher

end DryRun

namespace Dispatcher

variable (d : Dispatcher) {files : FileSource} {r : Request}

theorem source_report (ended : Ended (Except PipelineError Outcome)) :
    ∀ record ∈ report r ended, record.source = .dispatch := by
  unfold report
  split <;> simp

theorem source_dispatch (h : r.planned files = none) :
    ∀ record ∈ (d.dispatch files r).2.records, record.source = .dispatch := by
  cases hr : r.resolve files with
  | error e => simp [dispatch, hr]
  | ok planned =>
    obtain rfl : planned = none := by simpa [Request.planned, hr] using h
    simp [dispatch, hr, record]

theorem source_run (h : r.planned files = none) :
    ∀ record ∈ (d.run files r).2.records, record.source = .dispatch := by
  rw [run_eq, Trace.records_append, Trace.records_map_logged]
  intro record hrecord
  rcases List.mem_append.mp hrecord with hdispatch | hreport
  · exact d.source_dispatch h record hdispatch
  · exact source_report _ record hreport

theorem source_answer (h : r.planned files = none) (mode : Mode) :
    ∀ record ∈ (d.answer files r mode).2.records, record.source = .dispatch := by
  cases mode with
  | dispatch => exact d.source_dispatch h
  | run => exact d.source_run h
  | entry =>
    simp only [answer, enter, Request.request_form]
    exact d.source_run h

end Dispatcher

/-- The log of an accepted request is its plan with all the images, between the words of the
dispatcher and of the context; after the return there is nothing left to log. It is the same at
every pace of the worker. About any other request no dry run says anything, whatever way it is
entered. -/
theorem DryRun.dispatch_reported (pace : Nat) (gpu : Bool) (runner : Nat) (files : FileSource)
    (r : Request) :
    (∀ s, r.FirstCase files (.build s) →
      r.Prepared files s ∧
      ((dispatcher pace gpu runner).dispatch files r).1 = .returned (.ok (.completed s.kind)) ∧
      ((dispatcher pace gpu runner).dispatch files r).2.built = [s] ∧
      Reported s (s.usesGpu && gpu) ((dispatcher pace gpu runner).dispatch files r).2.records ∧
      ((dispatcher pace gpu runner).runTask s).2.1.drop = []) ∧
    ((∀ s, ¬r.FirstCase files (.build s)) →
      ∀ mode, ∀ record ∈ ((dispatcher pace gpu runner).answer files r mode).2.records,
        record.source ≠ .dryRun) := by
  constructor
  · intro s hs
    have hplanned := r.firstCase_build_iff.mp hs
    obtain ⟨hreturn, hleft⟩ := runTask_dispatcher pace gpu runner s
    rw [Dispatcher.dispatch_of_planned _ hplanned]
    refine ⟨Request.prepared_of_planned hplanned, ?_, Dispatcher.built_perform _ s,
      reported_perform pace gpu runner s, ?_⟩
    · rw [Dispatcher.perform, hreturn]
      rfl
    · rw [hleft]
      rfl
  · intro h mode record hrecord
    rw [Dispatcher.source_answer _ (Request.planned_eq_none h) mode record hrecord]
    decide

/-- An image that is listed twice is logged twice, and one that has a path of its own keeps it.
Nothing is logged of a request whose list is blank. -/
theorem DryRun.dispatch_reported_listed :
    let files : FileSource := fun path =>
      if path = "list.txt" then .ok (Text.encodeUtf8 "b.png\n\n/srv/a.png\r\nb.png") else .ok []
    let request (list : String) : Request := .featureExtractor
      { reader := { databasePath := "db", imagePath := "img" }, imageListPath := some list }
    let s : Strategy := .extraction
      { databasePath := "db", imagePath := "img", imageList := ["b.png", "/srv/a.png", "b.png"] } {}
    let d := dispatcher 2 true 0
    (request "list.txt").FirstCase files (.build s) ∧
      Reported s true (d.dispatch files (request "list.txt")).2.records ∧
      ((d.dispatch files (request "list.txt")).2.records.drop 3).take 3 =
        [⟨.debug, .dryRun, "  img/b.png"⟩, ⟨.debug, .dryRun, "  /srv/a.png"⟩,
          ⟨.debug, .dryRun, "  img/b.png"⟩] ∧
      (∀ t, ¬(request "blank.txt").FirstCase files (.build t)) ∧
      ∀ record ∈ (d.answer files (request "blank.txt") .run).2.records,
        record.source ≠ .dryRun := by
  intro files request s d
  have hbuild : (request "list.txt").FirstCase files (.build s) :=
    (Request.firstCase_build_iff _).mpr (by decide +kernel)
  have hblank : ∀ t, ¬(request "blank.txt").FirstCase files (.build t) := by
    intro t ht
    have hplanned : (request "blank.txt").planned files = none := by decide +kernel
    rw [(request "blank.txt").firstCase_build_iff, hplanned] at ht
    cases ht
  obtain ⟨-, -, -, hreported, -⟩ :=
    (dispatch_reported 2 true 0 files (request "list.txt")).1 s hbuild
  refine ⟨hbuild, hreported, ?_, hblank,
    (dispatch_reported 2 true 0 files (request "blank.txt")).2 hblank .run⟩
  decide +kernel

end FeaturePipeline
