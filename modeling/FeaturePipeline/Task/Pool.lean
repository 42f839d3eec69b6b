import FeaturePipeline.Task.Thread

/-! A pool of thread tasks under handles. Making a task under a handle in use gives up the task
that held it. Between the steps the workers go on at moments of their own. -/
namespace FeaturePipeline

/-- The tasks in a pool, each under its handle; a handle occurs once. -/
abbrev Pool := List (String × ThreadTask)

namespace Pool

inductive Step where
  | make (handle name : String) (job : Job)
  | start (handle : String)
  | wait (handle : String)
  | drop (handle : String)
deriving DecidableEq

def task? (p : Pool) (handle : String) : Option ThreadTask := p.lookup handle

def erase (p : Pool) (handle : String) : Pool := p.filter fun e => e.1 != handle

def put (p : Pool) (handle : String) (t : ThreadTask) : Pool := (handle, t) :: p.erase handle

def dropShown (p : Pool) (handle : String) : Trace :=
  match p.task? handle with
  | some t => t.drop
  | none => []

/-- One step. Under a handle that holds no task only making one has an effect. -/
def step (p : Pool) : Step → Ended Unit × Pool × Trace
  | .make h name job => (.returned (), p.put h (.new name job), p.dropShown h)
  | .start h =>
    match p.task? h with
    | some t => (t.start.1, p.put h t.start.2.1, t.start.2.2)
    | none => (.returned (), p, [])
  | .wait h =>
    match p.task? h with
    | some t => (.returned (), p.put h t.wait.1, t.wait.2)
    | none => (.returned (), p, [])
  | .drop h => (.returned (), p.erase h, p.dropShown h)

def advance (p : Pool) (handle : String) (n : Nat) : Pool × Trace :=
  match p.task? handle with
  | some t => (p.put handle (t.advance n).1, (t.advance n).2)
  | none => (p, [])

/-- What happens next in a pool: a step, or something that a worker does. -/
inductive Moment where
  | step (s : Step)
  | advance (handle : String) (n : Nat)
deriving DecidableEq

def moment (p : Pool) : Moment → Ended Unit × Pool × Trace
  | .step s => p.step s
  | .advance h n => (.returned (), p.advance h n)

/-- All moments of a schedule, each with how it ends and what it shows; panics are caught
between them. -/
def play (p : Pool) : List Moment → Pool × List (Ended Unit × Trace)
  | [] => (p, [])
  | m :: rest =>
    let now := p.moment m
    let later := play now.2.1 rest
    (later.1, (now.1, now.2.2) :: later.2)

/-- Whether some task is running, so that its job may or may not be done. -/
def isBusy (p : Pool) : Bool := p.any fun e => e.2.state == .running

@[simp] theorem task?_put_self (p : Pool) (h : String) (t : ThreadTask) :
    (p.put h t).task? h = some t := by
  simp [put, task?]

theorem task?_erase_of_ne (p : Pool) {h k : String} (hk : k ≠ h) :
    (p.erase h).task? k = p.task? k := by
  have hb : (k == h) = false := by simpa using hk
  simp only [erase, task?]
  induction p with
  | nil => rfl
  | cons e p ih =>
    obtain ⟨a, u⟩ := e
    by_cases ha : a = h
    · subst ha
      simp [List.lookup_cons, hb, ih]
    · simp [ha, List.lookup_cons, ih]

theorem task?_put_of_ne (p : Pool) {h k : String} (t : ThreadTask) (hk : k ≠ h) :
    (p.put h t).task? k = p.task? k := by
  have hb : (k == h) = false := by simpa using hk
  rw [put, task?, List.lookup_cons, hb]
  exact p.task?_erase_of_ne hk

end Pool
end FeaturePipeline
