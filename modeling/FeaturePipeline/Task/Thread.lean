import FeaturePipeline.Text.Quoted
import FeaturePipeline.Trace

/-! Tasks that run a job on a worker thread of their own. The first start hands the job to the
worker, which shows the effects of the job at moments of its own; a wait joins the worker, and
what it has not shown by then it shows at the join. Main statement: up to the join the pace of
the worker makes no difference. -/
namespace FeaturePipeline

/-- What a job shows before it ends, and whether it ends with a panic. -/
structure Job where
  effects : List Effect := []
  panics : Bool := false
deriving DecidableEq

inductive TaskState where
  | constructed
  | running
  | finished
deriving DecidableEq

def TaskState.name : TaskState → String
  | constructed => "Constructed"
  | running => "Running"
  | finished => "Finished"

structure ThreadTask where
  name : String
  job : Option Job
  /-- What the worker has still to do, as long as it is not joined. -/
  worker : Option Job := none
  state : TaskState := .constructed
deriving DecidableEq

namespace ThreadTask

def new (name : String) (job : Job) : ThreadTask := { name := name, job := some job }

def nul : Char := '\x00'

def refusalRecord (name reason : String) : Log.Record :=
  ⟨.error, .task, s!"Failed to spawn the worker thread of `{name}`: {reason}"⟩

/-- Hand the job to a worker, with the answer of the system to the request for a thread. The job is
taken out first, so a task with a name that no thread can have loses it and keeps its state. A
refusal is logged and goes no further; the job is given up and the task is over. Without a job
nothing happens. -/
def tryStart (answer : Except String Unit) (t : ThreadTask) : Ended Unit × ThreadTask × Trace :=
  match t.job with
  | none => (.returned (), t, [])
  | some job =>
    if nul ∈ t.name.toList then (.panicked .threadName, { t with job := none }, [])
    else match answer with
      | .ok () =>
        (.returned (), { t with job := none, worker := some job, state := .running }, [])
      | .error reason =>
        (.returned (), { t with job := none, state := .finished },
          [.logged (refusalRecord t.name reason)])

/-- A start for which the system has a thread. -/
def start (t : ThreadTask) : Ended Unit × ThreadTask × Trace := t.tryStart (.ok ())

def advance (n : Nat) (t : ThreadTask) : ThreadTask × Trace :=
  match t.worker with
  | none => (t, [])
  | some job =>
    ({ t with worker := some { job with effects := job.effects.drop n } },
      Trace.ofEffects (job.effects.take n))

def panicRecord (name : String) : Log.Record := ⟨.error, .task, s!"Task `{name}` panicked"⟩

/-- Join the worker. A panic of the job is reported here and goes no further. Without a worker
nothing happens. -/
def wait (t : ThreadTask) : ThreadTask × Trace :=
  match t.worker with
  | none => (t, [])
  | some job =>
    ({ t with worker := none, state := .finished },
      Trace.ofEffects job.effects ++ if job.panics then [.logged (panicRecord t.name)] else [])

/-- Giving a task up joins its worker. -/
def drop (t : ThreadTask) : Trace := t.wait.2

def describe (t : ThreadTask) : String :=
  "ThreadTask \x7b name: " ++ Text.quote t.name ++ ", state: " ++ t.state.name ++ " \x7d"

def describeLines (t : ThreadTask) : String :=
  "ThreadTask \x7b\n    name: " ++ Text.quote t.name ++ ",\n    state: " ++ t.state.name ++ ",\n\x7d"

theorem tryStart_of_no_job {t : ThreadTask} (answer : Except String Unit) (h : t.job = none) :
    t.tryStart answer = (.returned (), t, []) := by
  simp [tryStart, h]

theorem start_of_no_job {t : ThreadTask} (h : t.job = none) : t.start = (.returned (), t, []) :=
  tryStart_of_no_job (.ok ()) h

theorem start_of_job {t : ThreadTask} {job : Job} (h : t.job = some job)
    (hn : nul ∉ t.name.toList) : t.start =
      (.returned (), { t with job := none, worker := some job, state := .running }, []) := by
  simp [start, tryStart, h, hn]

@[simp] theorem start_trace (t : ThreadTask) : t.start.2.2 = [] := by
  cases h : t.job with
  | none => rw [start_of_no_job h]
  | some job => by_cases hn : nul ∈ t.name.toList <;> simp [start, tryStart, h, hn]

theorem wait_of_no_worker {t : ThreadTask} (h : t.worker = none) : t.wait = (t, []) := by
  simp [wait, h]

theorem advance_of_no_worker {t : ThreadTask} (n : Nat) (h : t.worker = none) :
    t.advance n = (t, []) := by
  simp [advance, h]

@[simp] theorem name_start (t : ThreadTask) : t.start.2.1.name = t.name := by
  cases h : t.job with
  | none => rw [start_of_no_job h]
  | some job => by_cases hn : nul ∈ t.name.toList <;> simp [start, tryStart, h, hn]

@[simp] theorem name_advance (n : Nat) (t : ThreadTask) : (t.advance n).1.name = t.name := by
  cases h : t.worker <;> simp [advance, h]

@[simp] theorem name_wait (t : ThreadTask) : t.wait.1.name = t.name := by
  cases h : t.worker <;> simp [wait, h]

@[simp] theorem wait_wait (t : ThreadTask) : t.wait.1.wait = (t.wait.1, []) := by
  apply wait_of_no_worker
  cases h : t.worker with
  | none => rw [wait_of_no_worker h, h]
  | some job => simp [wait, h]

@[simp] theorem wait_advance_fst (n : Nat) (t : ThreadTask) :
    (t.advance n).1.wait.1 = t.wait.1 := by
  cases h : t.worker with
  | none => rw [advance_of_no_worker n h]
  | some job => simp [advance, wait, h]

/-- What the worker shows early and what it shows at the join are together what it shows at a
join that comes at once. -/
theorem advance_append_wait (n : Nat) (t : ThreadTask) :
    (t.advance n).2 ++ (t.advance n).1.wait.2 = t.wait.2 := by
  cases h : t.worker with
  | none =>
    rw [advance_of_no_worker n h]
    rfl
  | some job =>
    have hshown : Trace.ofEffects (job.effects.take n) ++ Trace.ofEffects (job.effects.drop n) =
        Trace.ofEffects job.effects := by
      rw [← Trace.ofEffects_append, List.take_append_drop]
    simp only [advance, wait, h]
    rw [← List.append_assoc, hshown]

end ThreadTask
end FeaturePipeline
