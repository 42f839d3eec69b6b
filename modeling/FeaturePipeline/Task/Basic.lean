import FeaturePipeline.Task.Thread

/-! The contract of a task: it is started and then waited for. -/
namespace FeaturePipeline

inductive PanicPoint where
  | start
  | wait
deriving DecidableEq

inductive Task where
  /-- Does nothing, or panics in one of its calls. -/
  | idle (panics : Option PanicPoint)
  /-- A thread task whose worker shows `pace` effects between a start and the next call. -/
  | thread (task : ThreadTask) (pace : Nat)
deriving DecidableEq

namespace Task

def start (on : Thread) : Task → Ended Unit × Task × Trace
  | idle p => (if p = some .start then .panicked .start else .returned (), idle p,
      [.called .start on])
  | thread t pace =>
    let started := t.start
    let advanced := started.2.1.advance pace
    (started.1, thread advanced.1 pace, .called .start on :: (started.2.2 ++ advanced.2))

def wait (on : Thread) : Task → Ended Unit × Task × Trace
  | idle p => (if p = some .wait then .panicked .wait else .returned (), idle p,
      [.called .wait on])
  | thread t pace => (.returned (), thread t.wait.1 pace, .called .wait on :: t.wait.2)

def run (on : Thread) (t : Task) : Ended Unit × Task × Trace :=
  let started := t.start on
  match started.1 with
  | .panicked p => (.panicked p, started.2)
  | .returned () =>
    let waited := started.2.1.wait on
    (waited.1, waited.2.1, started.2.2 ++ waited.2.2)

/-- Giving a task up; no call of it is made. -/
def drop : Task → Trace
  | idle _ => []
  | thread t _ => t.drop

theorem run_thread_eq (on on' : Thread) (t : Task) :
    (t.run on).1 = (t.run on').1 ∧ (t.run on).2.1 = (t.run on').2.1 := by
  cases t with
  | idle p => rcases p with _ | (_ | _) <;> exact ⟨rfl, rfl⟩
  | thread t pace =>
    simp only [run, start, wait]
    cases t.start.1 <;> exact ⟨rfl, rfl⟩

end Task
end FeaturePipeline
