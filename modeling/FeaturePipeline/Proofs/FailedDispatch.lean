import FeaturePipeline.Proofs.TaskRun

/-! Dispatches that fail. Main statement: a dispatch that ends with an error has run nothing. Either
the request was turned down and nothing was built, or the context could not be acquired, and then
the error is that of the acquisition and the task is given up as it was built. A completed dispatch
has built one strategy, and started and waited for its task once. -/
namespace FeaturePipeline

namespace Task

/-- No worker has anything to do for the task. -/
def isUnstarted : Task → Bool
  | idle _ => true
  | thread t _ => t.worker.isNone

theorem drop_of_unstarted {t : Task} (h : t.isUnstarted = true) : t.drop = [] := by
  cases t with
  | idle _ => rfl
  | thread t pace =>
    have hworker : t.worker = none := by simpa [isUnstarted] using h
    simp [drop, ThreadTask.drop, ThreadTask.wait_of_no_worker hworker]

end Task

namespace ContextProvider

variable {p : ContextProvider} {on : Thread} {t : Task}

/-- Only a context that cannot be acquired makes an error, and then the task is not touched. -/
theorem run_eq_error_iff {e : PipelineError} :
    (p.run on t).1 = .returned (.error e) ↔ p.acquire = .returned (.error e) := by
  cases h : p.acquire with
  | panicked q => simp [run, h]
  | returned result =>
    cases result with
    | error fault => simp [run, h]
    | ok u => cases hr : (t.run on).1 <;> simp [run, h, hr]

theorem run_of_error {e : PipelineError} (h : p.acquire = .returned (.error e)) :
    p.run on t = (.returned (.error e), t, [.called .acquire on]) := by
  simp [run, h]

theorem run_eq_ok_iff : (p.run on t).1 = .returned (.ok ()) ↔
    p.acquire = .returned (.ok ()) ∧ (t.run on).1 = .returned () := by
  cases h : p.acquire with
  | panicked q => simp [run, h]
  | returned result =>
    cases result with
    | error fault => simp [run, h]
    | ok u => cases hr : (t.run on).1 <;> simp [run, h, hr]

end ContextProvider

theorem Task.starts_of_run {t : Task} {on : Thread} (h : (t.run on).1 = .returned ()) :
    t.starts = true := by
  rw [t.starts_eq_true_iff on]
  cases hs : (t.start on).1 with
  | returned u => rfl
  | panicked p =>
    rw [t.run_of_panic on hs] at h
    cases h

namespace Dispatcher

variable {d : Dispatcher} {files : FileSource} {r : Request} {s : Strategy} {e : PipelineError}

theorem runTask_eq_error_iff : (d.runTask s).1 = .returned (.error e) ↔
    d.usesGpu s = true ∧ d.provider.acquire = .returned (.error e) := by
  cases hu : d.usesGpu s with
  | true => simp [runTask, build, hu, ContextProvider.run_eq_error_iff]
  | false => cases hr : ((d.factory s).run .caller).1 <;> simp [runTask, build, hu, hr]

theorem runTask_of_error (hu : d.usesGpu s = true)
    (ha : d.provider.acquire = .returned (.error e)) :
    d.runTask s = (.returned (.error e), d.factory s,
      [.built s, .called .acquire (.runner d.runner)]) := by
  simp [runTask, build, hu, ContextProvider.run_of_error ha]

/-- A task that is run without a fault is started once and then waited for once, by the caller or
inside a context. -/
theorem calls_of_runTask_ok (h : (d.runTask s).1 = .returned (.ok ())) :
    (d.runTask s).2.2.calls = [(.start, .caller), (.wait, .caller)] ∨
      ∃ x, (d.runTask s).2.2.calls = [(.acquire, x), (.start, x), (.wait, x), (.release, x)] := by
  rw [calls_runTask]
  cases hu : d.usesGpu s with
  | true =>
    have hrun : (d.provider.run (.runner d.runner) (d.factory s)).1 = .returned (.ok ()) := by
      simpa [runTask, build, hu] using h
    obtain ⟨ha, hr⟩ := ContextProvider.run_eq_ok_iff.mp hrun
    have hacquires := d.provider.acquires_eq_true_iff.mpr ha
    refine .inr ⟨.runner d.runner, ?_⟩
    simp [ContextProvider.calls_run, hacquires, Task.calls_run, Task.starts_of_run hr]
  | false =>
    have hr : ((d.factory s).run .caller).1 = .returned () := by
      cases hr : ((d.factory s).run .caller).1 with
      | returned u => rfl
      | panicked q => simp [runTask, build, hu, hr] at h
    exact .inl (by simp [Task.calls_run, Task.starts_of_run hr])

theorem perform_eq_error_iff :
    (d.perform s).1 = .returned (.error e) ↔ (d.runTask s).1 = .returned (.error e) := by
  cases h : (d.runTask s).1 with
  | panicked q => simp [perform, h]
  | returned result => cases result <;> simp [perform, h, Except.map]

theorem perform_eq_completed_iff {k : StrategyKind} :
    (d.perform s).1 = .returned (.ok (.completed k)) ↔
      (d.runTask s).1 = .returned (.ok ()) ∧ s.kind = k := by
  cases h : (d.runTask s).1 with
  | panicked q => simp [perform, h]
  | returned result => cases result <;> simp [perform, h, Except.map]

/-- All that a dispatch shows that ends with an error. -/
inductive Failed (d : Dispatcher) (files : FileSource) (r : Request) (e : PipelineError) :
    Trace → Prop where
  /-- The request was turned down. -/
  | turnedDown (hr : r.resolve files = .error e) : Failed d files r e []
  /-- There was no context. The task was built, and it is given up as it was built. -/
  | noContext {s : Strategy} (hs : r.planned files = some s) (hu : d.usesGpu s = true)
    (ha : d.provider.acquire = .returned (.error e)) (hleft : (d.runTask s).2.1 = d.factory s) :
    Failed d files r e
      ([record .debug s!"Dispatching {s.plan} (gpu: {true})", .built s,
        .called .acquire (.runner d.runner)] ++ (d.factory s).drop)

theorem failed_perform (hs : r.planned files = some s)
    (h : (d.perform s).1 = .returned (.error e)) : d.Failed files r e (d.perform s).2 := by
  obtain ⟨hu, ha⟩ := runTask_eq_error_iff.mp (perform_eq_error_iff.mp h)
  have hrun := runTask_of_error hu ha
  have hshown : (d.perform s).2 = [record .debug s!"Dispatching {s.plan} (gpu: {true})", .built s,
      .called .acquire (.runner d.runner)] ++ (d.factory s).drop := by
    simp [perform, hrun, hu]
  rw [hshown]
  exact .noContext hs hu ha (by rw [hrun])

theorem failed_dispatch (h : (d.dispatch files r).1 = .returned (.error e)) :
    d.Failed files r e (d.dispatch files r).2 := by
  unfold dispatch at h ⊢
  cases hr : r.resolve files with
  | error fault =>
    simp only [hr, Ended.returned.injEq, Except.error.injEq] at h
    rw [← h]
    exact .turnedDown hr
  | ok planned =>
    cases planned with
    | none => simp [hr] at h
    | some s =>
      simp only [hr] at h ⊢
      exact failed_perform (Request.planned_eq_some_iff.mpr hr) h

theorem Failed.calls {t : Trace} (h : d.Failed files r e t) : ∀ c ∈ t.calls, c.1 = .acquire := by
  cases h with
  | turnedDown _ => simp
  | noContext _ _ _ _ => simp [record]

theorem Failed.built {t : Trace} (h : d.Failed files r e t) :
    ∀ s ∈ t.built, d.provider.acquire = .returned (.error e) ∧
      (d.runTask s).2.1 = d.factory s ∧
        ((d.factory s).isUnstarted = true → (d.factory s).drop = []) := by
  cases h with
  | turnedDown _ => simp
  | noContext hs hu ha hleft =>
    intro s hmem
    obtain rfl : s = _ := by simpa [record] using hmem
    exact ⟨ha, hleft, Task.drop_of_unstarted⟩

theorem completed_dispatch {k : StrategyKind}
    (h : (d.dispatch files r).1 = .returned (.ok (.completed k))) :
    ∃ s, (d.dispatch files r).2.built = [s] ∧ s.kind = k ∧
      ((d.dispatch files r).2.calls = [(.start, .caller), (.wait, .caller)] ∨
        ∃ x, (d.dispatch files r).2.calls =
          [(.acquire, x), (.start, x), (.wait, x), (.release, x)]) := by
  cases hr : r.resolve files with
  | error fault => simp [dispatch, hr] at h
  | ok planned =>
    cases planned with
    | none => simp [dispatch, hr] at h
    | some s =>
      have hperform : d.dispatch files r = d.perform s := by simp only [dispatch, hr]
      rw [hperform] at h ⊢
      obtain ⟨hrun, hkind⟩ := perform_eq_completed_iff.mp h
      rw [calls_perform]
      exact ⟨s, built_perform d s, hkind, calls_of_runTask_ok hrun⟩

theorem run_eq_failure_iff : (d.run files r).1 = .returned .failure ↔
    ∃ e, (d.dispatch files r).1 = .returned (.error e) := by
  rw [run_eq]
  cases (d.dispatch files r).1 with
  | panicked q => simp [status]
  | returned result => cases result <;> simp [status]

/-- A dispatch that ends with an error has run nothing: at most an acquisition was called, and only
if it was that acquisition that gave the error has anything been built. Then the task is given up
as it was built, and if nobody else had started it, its job shows nothing. A completed dispatch has
built one strategy, of that kind, and its task was started once and then waited for once. -/
theorem failure_runs_nothing (d : Dispatcher) (files : FileSource) (r : Request) :
    ((d.run files r).1 = .returned .failure ↔
      ∃ e, (d.dispatch files r).1 = .returned (.error e)) ∧
    (d.run files r).2.built = (d.dispatch files r).2.built ∧
    (d.run files r).2.calls = (d.dispatch files r).2.calls ∧
    (∀ e, (d.dispatch files r).1 = .returned (.error e) →
      d.Failed files r e (d.dispatch files r).2 ∧
      (∀ c ∈ (d.dispatch files r).2.calls, c.1 = .acquire) ∧
      ∀ s ∈ (d.dispatch files r).2.built, d.provider.acquire = .returned (.error e) ∧
        (d.runTask s).2.1 = d.factory s ∧
          ((d.factory s).isUnstarted = true → (d.factory s).drop = [])) ∧
    ∀ k, (d.dispatch files r).1 = .returned (.ok (.completed k)) →
      ∃ s, (d.dispatch files r).2.built = [s] ∧ s.kind = k ∧
        ((d.dispatch files r).2.calls = [(.start, .caller), (.wait, .caller)] ∨
          ∃ x, (d.dispatch files r).2.calls =
            [(.acquire, x), (.start, x), (.wait, x), (.release, x)]) := by
  refine ⟨run_eq_failure_iff, built_run d files r, calls_run d files r, fun e h => ?_,
    fun k h => completed_dispatch h⟩
  have hfailed := failed_dispatch h
  exact ⟨hfailed, hfailed.calls, hfailed.built⟩

/-- A task that would count is built and given up, as there is no context for it; with a context it
is started and waited for. -/
theorem failure_runs_nothing_without_display :
    let files : FileSource := fun _ => .error .notFound
    let r : Request := .exhaustiveMatcher { databasePath := "db", options := {} }
    let e : PipelineError := .renderContext "no display"
    let job : ThreadTask := .new "job" { effects := [.counted] }
    let d : Dispatcher := { factory := fun _ => .thread job 1, provider := .failing e, gpu := true }
    let d' : Dispatcher := { d with provider := .quiet }
    (d.dispatch files r).1 = .returned (.error e) ∧
      d.Failed files r e (d.dispatch files r).2 ∧ (d.dispatch files r).2.count = 0 ∧
      (d'.dispatch files r).1 = .returned (.ok (.completed .exhaustiveMatching)) ∧
      (∃ s, (d'.dispatch files r).2.built = [s] ∧ s.kind = .exhaustiveMatching) ∧
      (d'.dispatch files r).2.count = 1 := by
  intro files r e job d d'
  have hfails : (d.dispatch files r).1 = .returned (.error e) := by decide +kernel
  have hdone : (d'.dispatch files r).1 = .returned (.ok (.completed .exhaustiveMatching)) := by
    decide +kernel
  obtain ⟨s, hbuilt, hkind, -⟩ := (failure_runs_nothing d' files r).2.2.2.2 _ hdone
  refine ⟨hfails, ((failure_runs_nothing d files r).2.2.2.1 e hfails).1, ?_, hdone,
    ⟨s, hbuilt, hkind⟩, ?_⟩
  · decide +kernel
  · decide +kernel

end Dispatcher
end FeaturePipeline
