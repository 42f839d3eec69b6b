import Mathlib.Tactic.Common
import FeaturePipeline.Session

/-! What a task shows, from one call of it up to one turn of a session: the strategies that are
handed over, and the calls that are made. A job itself hands over nothing and makes no call, so
both are known without a look at the jobs. -/
namespace FeaturePipeline

namespace ThreadTask

@[simp] theorem built_advance (n : Nat) (t : ThreadTask) : (t.advance n).2.built = [] := by
  cases h : t.worker with
  | none => simp [advance, h]
  | some job => simp [advance, h]

@[simp] theorem calls_advance (n : Nat) (t : ThreadTask) : (t.advance n).2.calls = [] := by
  cases h : t.worker with
  | none => simp [advance, h]
  | some job => simp [advance, h]

@[simp] theorem built_wait (t : ThreadTask) : t.wait.2.built = [] := by
  cases h : t.worker with
  | none => simp [wait, h]
  | some job => cases hp : job.panics <;> simp [wait, h, hp]

@[simp] theorem calls_wait (t : ThreadTask) : t.wait.2.calls = [] := by
  cases h : t.worker with
  | none => simp [wait, h]
  | some job => cases hp : job.panics <;> simp [wait, h, hp]

end ThreadTask

namespace Task

variable (on x : Thread) (t : Task)

@[simp] theorem built_start : (t.start on).2.2.built = [] := by
  cases t <;> simp [start]

@[simp] theorem calls_start : (t.start on).2.2.calls = [(.start, on)] := by
  cases t <;> simp [start]

@[simp] theorem built_wait : (t.wait on).2.2.built = [] := by
  cases t <;> simp [wait]

@[simp] theorem calls_wait : (t.wait on).2.2.calls = [(.wait, on)] := by
  cases t <;> simp [wait]

@[simp] theorem built_drop : t.drop.built = [] := by
  cases t <;> simp [drop, ThreadTask.drop]

@[simp] theorem calls_drop : t.drop.calls = [] := by
  cases t <;> simp [drop, ThreadTask.drop]

/-- Whether the task returns from its start; the thread makes no difference. -/
def starts : Bool := (t.start .caller).1 == .returned ()

theorem start_fst_eq : (t.start on).1 = (t.start x).1 := by
  cases t <;> rfl

theorem starts_eq_true_iff : t.starts = true ↔ (t.start on).1 = .returned () := by
  rw [starts, beq_iff_eq, start_fst_eq on .caller]

theorem starts_eq_false_iff : t.starts = false ↔ ∃ p, (t.start on).1 = .panicked p := by
  rw [← Bool.not_eq_true, starts_eq_true_iff on]
  cases (t.start on).1 <;> simp

theorem run_of_panic {p : Panic} (h : (t.start on).1 = .panicked p) :
    t.run on = (.panicked p, (t.start on).2) := by
  simp only [run, h]

theorem run_of_return (h : (t.start on).1 = .returned ()) :
    t.run on = (((t.start on).2.1.wait on).1, ((t.start on).2.1.wait on).2.1,
      (t.start on).2.2 ++ ((t.start on).2.1.wait on).2.2) := by
  simp only [run, h]

@[simp] theorem built_run : (t.run on).2.2.built = [] := by
  cases h : (t.start on).1 with
  | panicked p => simp [run_of_panic on t h]
  | returned u => simp [run_of_return on t h]

theorem calls_run : (t.run on).2.2.calls =
    if t.starts then [(.start, on), (.wait, on)] else [(.start, on)] := by
  cases h : (t.start on).1 with
  | panicked p =>
    have hs : t.starts = false := (t.starts_eq_false_iff on).mpr ⟨p, h⟩
    simp [run_of_panic on t h, hs]
  | returned u =>
    have hs : t.starts = true := (t.starts_eq_true_iff on).mpr h
    simp [run_of_return on t h, hs]

end Task

namespace ContextProvider

variable (p : ContextProvider) (on : Thread) (t : Task)

def acquires : Bool :=
  match p.acquire with
  | .returned (.ok ()) => true
  | _ => false

theorem acquires_eq_true_iff : p.acquires = true ↔ p.acquire = .returned (.ok ()) := by
  cases h : p.acquire with
  | panicked q => simp [acquires, h]
  | returned e => cases e <;> simp [acquires, h]

@[simp] theorem built_run : (p.run on t).2.2.built = [] := by
  cases h : p.acquire with
  | panicked q => simp [run, h]
  | returned e => cases e <;> simp [run, h]

theorem calls_run : (p.run on t).2.2.calls =
    if p.acquires then (.acquire, on) :: (t.run on).2.2.calls ++ [(.release, on)]
    else [(.acquire, on)] := by
  cases h : p.acquire with
  | panicked q => simp [run, acquires, h]
  | returned e => cases e <;> simp [run, acquires, h]

end ContextProvider

def Request.planned (files : FileSource) (r : Request) : Option Strategy :=
  match r.resolve files with
  | .ok planned => planned
  | .error _ => none

theorem Request.planned_eq_some_iff {files : FileSource} {r : Request} {s : Strategy} :
    r.planned files = some s ↔ r.resolve files = .ok (some s) := by
  cases h : r.resolve files <;> simp [planned, h]

namespace Dispatcher

variable (d : Dispatcher) (files : FileSource) (r : Request) (s : Strategy)

@[simp] theorem built_runTask : (d.runTask s).2.2.built = [s] := by
  by_cases h : d.usesGpu s = true <;> simp [runTask, build, h]

theorem calls_runTask : (d.runTask s).2.2.calls =
    if d.usesGpu s then (d.provider.run (.runner d.runner) (d.factory s)).2.2.calls
    else ((d.factory s).run .caller).2.2.calls := by
  by_cases h : d.usesGpu s = true <;> simp [runTask, build, h]

theorem built_perform : (d.perform s).2.built = [s] := by
  simp only [perform]
  split <;> simp [record]

theorem calls_perform : (d.perform s).2.calls = (d.runTask s).2.2.calls := by
  simp only [perform]
  split <;> simp [record]

theorem built_dispatch : (d.dispatch files r).2.built = (r.planned files).toList := by
  cases h : r.resolve files with
  | error e => simp [dispatch, Request.planned, h]
  | ok planned => cases planned <;> simp [dispatch, Request.planned, h, record, built_perform]

theorem calls_dispatch : (d.dispatch files r).2.calls =
    (r.planned files).elim [] fun s => (d.runTask s).2.2.calls := by
  cases h : r.resolve files with
  | error e => simp [dispatch, Request.planned, h]
  | ok planned => cases planned <;> simp [dispatch, Request.planned, h, record, calls_perform]

def status : Ended (Except PipelineError Outcome) → Ended ExitStatus
  | .panicked p => .panicked p
  | .returned (.ok _) => .returned .success
  | .returned (.error _) => .returned .failure

def report : Ended (Except PipelineError Outcome) → List Log.Record
  | .returned (.error e) => [⟨.error, .dispatch, s!"{r.name}: {e.message}"⟩]
  | _ => []

theorem run_eq : d.run files r = (status (d.dispatch files r).1,
    (d.dispatch files r).2 ++ (report r (d.dispatch files r).1).map .logged) := by
  cases h : d.dispatch files r with
  | mk e t =>
    cases e with
    | panicked p => simp [run, h, status, report]
    | returned e => cases e <;> simp [run, h, status, report, record]

@[simp] theorem built_run : (d.run files r).2.built = (d.dispatch files r).2.built := by
  simp [run_eq]

@[simp] theorem calls_run : (d.run files r).2.calls = (d.dispatch files r).2.calls := by
  simp [run_eq]

variable (mode : Mode)

theorem built_answer : (d.answer files r mode).2.built = (r.planned files).toList := by
  cases mode <;> simp [answer, enter, built_dispatch]

theorem calls_answer : (d.answer files r mode).2.calls = (d.dispatch files r).2.calls := by
  cases mode <;> simp [answer, enter]

end Dispatcher
end FeaturePipeline
